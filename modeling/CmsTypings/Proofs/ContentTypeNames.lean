import CmsTypings.Proofs.AskedNames
import CmsTypings.Proofs.Turns

/-!
The names of content types.

Content types have their turns before any component, and a content type asks for its plain name
only. If that is free it is granted, if not it was taken already: after the turn of a content type
its plain name is taken in either case. So at each turn the names taken are the reserved ones and
the plain names of all content types before, refused ones included, and the entries of content
types can be told from their registry alone.
-/

namespace CmsTypings

open Naming

/-- The name of a candidate before any suffix. -/
def Candidate.plainName (c : Candidate) : String := Text.pascalCase c.sourceName

/-- The entry of a candidate that gets its plain name. -/
def Candidate.plain (c : Candidate) : Entry :=
  ⟨c.uid, c.sourceName, c.plainName, c.origin, false, c.schema⟩

lemma Candidate.baseName_request (c : Candidate) : c.request.baseName = c.plainName := rfl

lemma Candidate.enrolled_plainName (c : Candidate) : c.enrolled ⟨c.plainName, false⟩ = c.plain :=
  rfl

/-! ### What content types take -/

namespace Naming.Pool

variable {pool : Pool} {r : Request} {rs : List Request} {n : String}

lemma choice_of_contentType (h : r.origin = .contentType) : pool.choice r = ⟨r.baseName, false⟩ := by
  rcases choice_cases pool r with ⟨-, ho, -⟩ | ⟨hc, -⟩
  · simp [h] at ho
  · exact hc

/-- A content type gets its plain name unless that is taken. -/
lemma claim?_of_contentType (h : r.origin = .contentType) :
    pool.claim? r = if r.baseName ∈ pool.taken then none else some ⟨r.baseName, false⟩ := by
  split
  · next ht => rwa [claim?_eq_none_iff, choice_of_contentType h]
  · next ht => exact claim?_eq_some_iff.2 (by rw [choice_of_contentType h]; exact ⟨rfl, ht⟩)

/-- The plain name of a content type is taken afterwards, granted or refused. -/
lemma mem_taken_next_of_contentType (h : r.origin = .contentType) :
    n ∈ (pool.next r).taken ↔ n ∈ pool.taken ∨ n = r.baseName := by
  rw [mem_taken_next, claim?_of_contentType h]
  split
  · next ht =>
    have hn : n = r.baseName → n ∈ pool.taken := fun hn => hn ▸ ht
    simpa using hn
  · simp

lemma mem_taken_after_of_contentTypes (h : ∀ r ∈ rs, r.origin = .contentType) :
    n ∈ (pool.after rs).taken ↔ n ∈ pool.taken ∨ n ∈ rs.map (·.baseName) := by
  induction rs generalizing pool with
  | nil => simp
  | cons r rs ih =>
    rw [after_cons, ih fun s hs => h s (List.mem_cons_of_mem _ hs),
      mem_taken_next_of_contentType (h r List.mem_cons_self)]
    simp [or_assoc]

end Naming.Pool

/-! ### The content types of a roster -/

/-- The candidates of the registry of content types. -/
def Dump.contentTypeCandidates (d : Dump) : List Candidate :=
  d.contentTypes.entries.map fun e => ⟨.contentType, e.1, e.2⟩

def Dump.componentCandidates (d : Dump) : List Candidate :=
  d.components.entries.map fun e => ⟨.component, e.1, e.2⟩

lemma Dump.candidates_eq (d : Dump) :
    d.candidates = d.contentTypeCandidates ++ d.componentCandidates := rfl

lemma Dump.origin_of_mem_contentTypeCandidates {d : Dump} {c : Candidate}
    (h : c ∈ d.contentTypeCandidates) : c.origin = .contentType := by
  obtain ⟨e, -, rfl⟩ := List.mem_map.1 h
  rfl

lemma Dump.origin_of_mem_componentCandidates {d : Dump} {c : Candidate}
    (h : c ∈ d.componentCandidates) : c.origin = .component := by
  obtain ⟨e, -, rfl⟩ := List.mem_map.1 h
  rfl

namespace Roster

variable {ignored : String → Bool} {pool : Pool} {cs : List Candidate} {c : Candidate}
  {e : Entry} {turn : List Candidate × Candidate}

/-- The entries that are content types. -/
def contentTypes (r : Roster) : List Entry := r.entries.filter fun e => e.origin = .contentType

/-- The components are judged after the content types and leave their entries as they are. -/
lemma contentTypes_ofDump (filter : IgnoreFilter) (alwaysSuffix : Bool) (dump : Dump) :
    (ofDump filter alwaysSuffix dump).contentTypes =
      (⟨judge filter.skips (.fresh alwaysSuffix) dump.contentTypeCandidates⟩ : Roster).entries := by
  rw [contentTypes, ofDump, Dump.candidates_eq, judge_append, entries_append, List.filter_append]
  have hcontentTypes : ∀ e ∈ (⟨judge filter.skips (.fresh alwaysSuffix)
      dump.contentTypeCandidates⟩ : Roster).entries, e.origin = .contentType := by
    intro e he
    obtain ⟨c, hc, -, claim, rfl⟩ := exists_candidate_of_mem he
    exact Dump.origin_of_mem_contentTypeCandidates hc
  have hcomponents : ∀ e ∈ (⟨judge filter.skips
      (poolAfter filter.skips (.fresh alwaysSuffix) dump.contentTypeCandidates)
      dump.componentCandidates⟩ : Roster).entries, ¬ e.origin = .contentType := by
    intro e he ho
    obtain ⟨c, hc, -, claim, rfl⟩ := exists_candidate_of_mem he
    exact absurd (ho.symm.trans (Dump.origin_of_mem_componentCandidates hc)) (by decide)
  rw [List.filter_eq_self.2 (by simpa using hcontentTypes),
    List.filter_eq_nil_iff.2 (by simpa using hcomponents), List.append_nil]

/-- Whether a candidate is the first to ask for its plain name, and that name is not reserved. -/
def FirstOfName (turn : List Candidate × Candidate) : Prop :=
  turn.2.plainName ∉ reservedNames ∧ turn.2.plainName ∉ turn.1.map (·.plainName)

instance : DecidablePred FirstOfName := fun _ => inferInstanceAs (Decidable (_ ∧ _))

/-- A content type is enrolled exactly if it is the first of its name. -/
lemma enrolment_verdict_of_contentTypes {alwaysSuffix : Bool}
    (hbefore : ∀ c ∈ turn.1, c.origin = .contentType ∧ ignored c.uid = false)
    (ho : turn.2.origin = .contentType) (hi : ignored turn.2.uid = false) :
    (verdict ignored (.fresh alwaysSuffix) turn).enrolment =
      if FirstOfName turn then some turn.2.plain else none := by
  have hasking : asking ignored turn.1 = turn.1 :=
    List.filter_eq_self.2 fun c hc => by simp [(hbefore c hc).2]
  have htaken : turn.2.plainName ∈ (poolAfter ignored (.fresh alwaysSuffix) turn.1).taken ↔
      ¬ FirstOfName turn := by
    have hrequests : ∀ r ∈ turn.1.map Candidate.request, r.origin = .contentType := by
      intro r hr
      obtain ⟨c, hc, rfl⟩ := List.mem_map.1 hr
      exact (hbefore c hc).1
    rw [poolAfter, hasking, Pool.mem_taken_after_of_contentTypes hrequests, List.map_map,
      FirstOfName, not_and_or, not_not, not_not]
    rfl
  have hrequest : turn.2.request.origin = .contentType := ho
  rw [verdict, if_neg (by simp [hi]), Verdict.enrolment_ofAnswer,
    Pool.claim?_of_contentType hrequest, Candidate.baseName_request]
  by_cases hfirst : FirstOfName turn
  · rw [if_neg (by simpa [htaken] using hfirst), if_pos hfirst, Option.map_some,
      Candidate.enrolled_plainName]
  · rw [if_pos (htaken.2 hfirst), if_neg hfirst, Option.map_none]

/-- The entries of content types that are not ignored: the first of each name that is not
reserved, under that name. -/
lemma entries_judge_contentTypes (alwaysSuffix : Bool) (hcs : ∀ c ∈ cs, c.origin = .contentType) :
    (⟨judge ignored (.fresh alwaysSuffix) cs⟩ : Roster).entries =
      ((turns (asking ignored cs)).filter FirstOfName).map (·.2.plain) := by
  rw [← entries_filter_asking, ← asking, entries_eq_filterMap_turns, ← List.filterMap_eq_map,
    List.filterMap_filter]
  refine List.filterMap_congr fun t ht => ?_
  obtain ⟨after, hsplit⟩ := mem_turns_iff.1 (show (t.1, t.2) ∈ _ from ht)
  have hasking : ∀ c ∈ asking ignored cs, c.origin = .contentType ∧ ignored c.uid = false := by
    intro c hc
    obtain ⟨hc, hi⟩ := mem_asking_iff.1 hc
    exact ⟨hcs c hc, hi⟩
  rw [hsplit] at hasking
  obtain ⟨ho, hi⟩ := hasking t.2 (by simp)
  rw [enrolment_verdict_of_contentTypes (fun c hc => hasking c (by simp [hc])) ho hi]
  simp

end Roster

namespace Conversion

/-- **The names of content types come from the content types alone.** In the order of their
registry, the entries of content types are those of the content types that are not ignored, ask for
a name that is not reserved, and are the first to ask for it; each has that name and no suffix.
Other components, or suffixes forced on them or not, do not change these entries. -/
theorem contentTypes_eq_first (dump : Dump) (settings : Settings) :
    (ofDump dump settings).roster.contentTypes =
        ((turns (Roster.asking (IgnoreFilter.ofRules settings.idsToIgnore).skips
          dump.contentTypeCandidates)).filter Roster.FirstOfName).map (·.2.plain) ∧
      ∀ (components : Registry) (alwaysSuffix : Bool),
        (ofDump { dump with components := components }
            { settings with alwaysSuffixComponentNames := alwaysSuffix }).roster.contentTypes =
          (ofDump dump settings).roster.contentTypes := by
  have hfirst : ∀ (components : Registry) (alwaysSuffix : Bool),
      (ofDump { dump with components := components }
          { settings with alwaysSuffixComponentNames := alwaysSuffix }).roster.contentTypes =
        ((turns (Roster.asking (IgnoreFilter.ofRules settings.idsToIgnore).skips
          dump.contentTypeCandidates)).filter Roster.FirstOfName).map (·.2.plain) := by
    intro components alwaysSuffix
    refine (Roster.contentTypes_ofDump _ _ _).trans (Roster.entries_judge_contentTypes _ ?_)
    exact fun c hc => Dump.origin_of_mem_contentTypeCandidates hc
  have hown := hfirst dump.components settings.alwaysSuffixComponentNames
  exact ⟨hown, fun components alwaysSuffix => (hfirst components alwaysSuffix).trans hown.symm⟩

end Conversion

end CmsTypings
