import CmsTypings.Conversion
import CmsTypings.Proofs.RosterNames

/-!
Dumps with entries deleted.

Two conversions are compared: that of a dump and that of the dump without some of its entries. The
roster is where they could part, for every verdict depends on the names taken before it. A verdict
looks at nothing but the pool, and an ignored candidate leaves the pool as it was: without the
ignored entries all the others are judged as before, so nothing of the module changes.
-/

namespace CmsTypings

open Naming

/-- The dump without the entries that `keep` rejects. -/
def Dump.filter (d : Dump) (keep : String → Option Schema → Bool) : Dump :=
  ⟨d.contentTypes.filter keep, d.components.filter keep⟩

lemma Dump.candidates_filter (d : Dump) (keep : String → Option Schema → Bool) :
    (d.filter keep).candidates = d.candidates.filter fun c => keep c.uid c.schema := by
  simp [candidates, filter, List.filter_map, Function.comp_def]

/-! ### The roster without ignored candidates -/

namespace Roster

/-- Without the ignored candidates all the others are judged as before. -/
lemma judge_filter_asking (ignored : String → Bool) (pool : Pool) (cs : List Candidate) :
    judge ignored pool (cs.filter fun c => !ignored c.uid) =
      (judge ignored pool cs).filter fun j => !ignored j.1.uid := by
  induction cs generalizing pool with
  | nil => rfl
  | cons c cs ih =>
    cases h : ignored c.uid with
    | true => simp [judge_cons_of_ignored h, h, ih]
    | false => simp [judge_cons_of_asking h, h, ih]

/-- The entries of a roster are made of candidates that ask for a name. -/
lemma entries_filter_asking (ignored : String → Bool) (pool : Pool) (cs : List Candidate) :
    (⟨judge ignored pool (cs.filter fun c => !ignored c.uid)⟩ : Roster).entries =
      (⟨judge ignored pool cs⟩ : Roster).entries := by
  rw [entries_judge, entries_judge]
  simp [asking]

end Roster

/-! ### Two conversions -/

namespace Conversion

/-- Two conversions whose modules are the same. -/
structure SameModule (c c' : Conversion) : Prop where
  interfaces : c.interfaces = c'.interfaces
  code : c.code = c'.code
  count : ∀ origin, c.count origin = c'.count origin

/-- The module is made of nothing but the interfaces. -/
lemma sameModule_iff {c c' : Conversion} : SameModule c c' ↔ c.interfaces = c'.interfaces := by
  refine ⟨fun h => h.interfaces, fun h => ⟨h, ?_, fun origin => ?_⟩⟩
  · rw [code, code, h]
  · rw [count, count, h]

/-- **Ignored entries leave no trace.** Without the entries that the ignore rules skip, the same
schemas are enrolled under the same names, the module is the same, and of the uids left out only
the deleted ones are missing. -/
theorem ignored_traceless (dump : Dump) (settings : Settings) :
    let ignored := (IgnoreFilter.ofRules settings.idsToIgnore).skips
    let whole := ofDump dump settings
    let rest := ofDump (dump.filter fun uid _ => !ignored uid) settings
    rest.roster.entries = whole.roster.entries ∧ SameModule rest whole ∧
      rest.skipped = whole.skipped.filter fun uid => !ignored uid := by
  intro ignored whole rest
  have hjudged : rest.roster.judged = whole.roster.judged.filter fun j => !ignored j.1.uid := by
    simp only [rest, whole, ofDump, Roster.ofDump, Dump.candidates_filter]
    exact Roster.judge_filter_asking _ _ _
  have hentries : rest.roster.entries = whole.roster.entries := by
    simp only [rest, whole, ofDump, Roster.ofDump, Dump.candidates_filter]
    exact Roster.entries_filter_asking _ _ _
  refine ⟨hentries, ?_, ?_⟩
  · rw [sameModule_iff, interfaces, interfaces, assembled, assembled, context, context, hentries]
    rfl
  · have hkept : ∀ uid ∈ (whole.roster.entries.filter fun e => e.schema.isNone).map (·.uid),
        (!ignored uid) = true := by
      intro uid h
      obtain ⟨e, he, rfl⟩ := List.mem_map.1 h
      simpa using Roster.not_skipped (List.mem_filter.1 he).1
    rw [skipped, skipped, List.filter_append, List.filter_eq_self.2 hkept, hentries,
      Roster.skipped_eq, Roster.skipped_eq, hjudged]
    simp [List.filter_map, List.filter_filter, Function.comp_def, Bool.and_comm]

end Conversion

end CmsTypings
