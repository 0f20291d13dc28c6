import CmsTypings.Proofs.PascalName
import CmsTypings.Proofs.Turns

/-!
The names of the roster.

Judging candidates is a run of the pool of names on those that are not ignored, and an entry is
made of each claim that is granted. So the names of the entries are distinct and not reserved,
and each is the name its schema has a right to.
-/

namespace CmsTypings

open Naming Text

namespace Roster

variable {ignored : String → Bool} {pool : Pool}

/-! ### Judging as a run of the pool -/

/-- Every granted claim makes an entry of the candidate that made it. -/
lemma entries_judge (ignored : String → Bool) (pool : Pool) (cs : List Candidate) :
    (⟨judge ignored pool cs⟩ : Roster).entries =
      ((asking ignored cs).zip
        (pool.claimAll ((asking ignored cs).map Candidate.request))).filterMap
          fun p => p.2.map p.1.enrolled := by
  induction cs generalizing pool with
  | nil => rfl
  | cons c cs ih =>
    cases hi : ignored c.uid with
    | true => rw [judge_cons_of_ignored hi, entries_cons_ignored, ih, asking_cons_of_ignored hi]
    | false =>
      rw [judge_cons_of_asking hi, entries_cons_ofAnswer, ih, asking_cons_of_asking hi,
        List.map_cons, Pool.claimAll, List.zip_cons_cons, List.filterMap_cons]
      cases pool.claim? c.request <;> rfl

lemma map_name_enrolled (cs : List Candidate) (answers : List (Option Claim))
    (h : cs.length = answers.length) :
    ((cs.zip answers).filterMap fun p => p.2.map p.1.enrolled).map (·.name) =
      granted answers := by
  induction cs generalizing answers with
  | nil =>
    have : answers = [] := List.length_eq_zero_iff.1 h.symm
    simp [this]
  | cons c cs ih =>
    cases answers with
    | nil => simp at h
    | cons a as =>
      have := ih as (by simpa using h)
      cases a <;> simp [this, Candidate.enrolled]

/-- The names of the entries are the names that the pool grants. -/
lemma names_judge (ignored : String → Bool) (pool : Pool) (cs : List Candidate) :
    (⟨judge ignored pool cs⟩ : Roster).entries.map (·.name) =
      granted (pool.claimAll ((asking ignored cs).map Candidate.request)) := by
  rw [entries_judge, map_name_enrolled]
  simp

/-! ### The roster of a dump -/

variable {filter : IgnoreFilter} {alwaysSuffix : Bool} {dump : Dump} {e f : Entry}

lemma not_skipped (h : e ∈ (ofDump filter alwaysSuffix dump).entries) :
    filter.skips e.uid = false := by
  obtain ⟨c, -, hi, claim, rfl⟩ := exists_candidate_of_mem h
  exact hi

/-- The name of an entry is its plain name, or that of a component with its suffix. -/
lemma name_cases (h : e ∈ (ofDump filter alwaysSuffix dump).entries) :
    (e.suffixed = false ∧ e.name = pascalCase e.sourceName) ∨
      (e.suffixed = true ∧ e.origin = .component ∧
        e.name = pascalCase e.sourceName ++ componentSuffix) := by
  obtain ⟨before, c, after, -, -, claim, hclaim, rfl⟩ := mem_entries_judge_iff.1 h
  rcases Pool.claim_cases hclaim with rfl | ⟨ho, rfl⟩
  · exact Or.inl ⟨rfl, rfl⟩
  · exact Or.inr ⟨rfl, ho, rfl⟩

lemma nodup_names (filter : IgnoreFilter) (alwaysSuffix : Bool) (dump : Dump) :
    ((ofDump filter alwaysSuffix dump).entries.map (·.name)).Nodup := by
  unfold ofDump
  rw [names_judge]
  exact (Pool.granted_claimAll _ _).1

/-- No two entries bear one name. -/
lemma eq_of_name_eq (he : e ∈ (ofDump filter alwaysSuffix dump).entries)
    (hf : f ∈ (ofDump filter alwaysSuffix dump).entries) (h : e.name = f.name) : e = f :=
  List.inj_on_of_nodup_map (nodup_names filter alwaysSuffix dump) he hf h

lemma nameChar_of_mem_name (h : e ∈ (ofDump filter alwaysSuffix dump).entries) {c : Char}
    (hc : c ∈ e.name.toList) : isNameChar c = true := by
  have hplain : c ∈ (pascalCase e.sourceName).toList → isNameChar c = true := by
    rw [toList_pascalCase]
    exact nameChar_of_mem_pascal
  rcases name_cases h with ⟨-, hn⟩ | ⟨-, -, hn⟩
  · exact hplain (hn ▸ hc)
  · rw [hn, String.toList_append, List.mem_append] at hc
    rcases hc with hc | hc
    · exact hplain hc
    · have hsuffix : ∀ d ∈ componentSuffix.toList, isNameChar d = true := by
        simp [componentSuffix, isNameChar]
      exact hsuffix c hc

lemma numbered_name (h : e ∈ (ofDump filter alwaysSuffix dump).entries) :
    Numbered e.name.toList := by
  have hplain : Numbered (pascalCase e.sourceName).toList := by
    rw [toList_pascalCase]
    exact numbered_pascal _
  rcases name_cases h with ⟨-, hn⟩ | ⟨-, -, hn⟩
  · rwa [hn]
  · rw [hn, String.toList_append]
    exact hplain.append (numbered_of_not_mem (by decide))

end Roster

end CmsTypings
