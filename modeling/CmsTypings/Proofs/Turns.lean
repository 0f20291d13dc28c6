import CmsTypings.Proofs.NamePool
import CmsTypings.Roster
import Mathlib.Data.List.Infix

/-!
The turns of the candidates.

Candidates are judged one after the other, and those before a candidate matter to its verdict only
through the names they have taken. So a judgement can be read off without following the judging:
each candidate is paired with the ones before it, the ones that are not ignored are put to the
pool, and the pool they leave behind gives the verdict. A candidate is refused in its turn if the
ignore rules skip it or if the pool has no name left for it; all others are enrolled.
-/

namespace CmsTypings

open Naming

universe u

section Turns

variable {α : Type u} {before l l' : List α} {a : α}

/-- The elements of a list in their order, each with the ones before it. -/
def turns (l : List α) : List (List α × α) := l.inits.zip l

@[simp] lemma turns_nil : turns ([] : List α) = [] := rfl

lemma turns_cons (a : α) (l : List α) :
    turns (a :: l) = ([], a) :: (turns l).map fun t => (a :: t.1, t.2) := by
  rw [turns, List.inits_cons, List.zip_cons_cons, turns, List.zip_map_left]
  rfl

lemma turns_concat (l : List α) (a : α) : turns (l ++ [a]) = turns l ++ [(l, a)] := by
  induction l with
  | nil => rfl
  | cons b l ih => simp [turns_cons, ih]

@[simp] lemma map_snd_turns (l : List α) : (turns l).map Prod.snd = l := by
  induction l with
  | nil => rfl
  | cons a l ih =>
    rw [turns_cons, List.map_cons, List.map_map]
    exact congrArg (a :: ·) ih

lemma mem_turns_iff : (before, a) ∈ turns l ↔ ∃ after, l = before ++ a :: after := by
  induction l generalizing before with
  | nil => simp
  | cons b l ih =>
    rw [turns_cons, List.mem_cons, List.mem_map]
    constructor
    · rintro (h | ⟨⟨before', c⟩, ht, h⟩)
      · obtain ⟨rfl, rfl⟩ := Prod.mk.inj h
        exact ⟨l, rfl⟩
      · obtain ⟨rfl, rfl⟩ := Prod.mk.inj h
        obtain ⟨after, rfl⟩ := ih.1 ht
        exact ⟨after, rfl⟩
    · rintro ⟨after, h⟩
      cases before with
      | nil =>
        obtain ⟨rfl, rfl⟩ := List.cons.inj h
        exact Or.inl rfl
      | cons c before =>
        obtain ⟨rfl, rfl⟩ := List.cons.inj h
        exact Or.inr ⟨(before, a), ih.2 ⟨after, rfl⟩, rfl⟩

end Turns

/-! ### Verdicts -/

/-- The verdict on a candidate that the pool has answered. -/
def Verdict.ofAnswer (c : Candidate) : Option Claim → Verdict
  | none => .nameless
  | some claim => .enrolled (c.enrolled claim)

/-- The entry that a verdict makes. -/
def Verdict.enrolment : Verdict → Option Entry
  | .enrolled entry => some entry
  | .ignored | .nameless => none

@[simp] lemma Verdict.enrolment_ofAnswer (c : Candidate) (answer : Option Claim) :
    (Verdict.ofAnswer c answer).enrolment = answer.map c.enrolled := by
  cases answer <;> rfl

namespace Roster

variable {ignored : String → Bool} {pool : Pool} {c : Candidate} {cs : List Candidate}

lemma judge_cons_of_ignored (h : ignored c.uid = true) :
    judge ignored pool (c :: cs) = (c, .ignored) :: judge ignored pool cs := by
  simp [judge, h]

lemma judge_cons_of_asking (h : ignored c.uid = false) :
    judge ignored pool (c :: cs) =
      (c, .ofAnswer c (pool.claim? c.request)) :: judge ignored (pool.next c.request) cs := by
  cases hc : pool.claim? c.request with
  | none => simp [judge, h, hc, Verdict.ofAnswer, Pool.next_of_refused hc]
  | some claim => simp [judge, h, hc, Verdict.ofAnswer, Pool.next_of_granted hc]

lemma entries_eq (r : Roster) : r.entries = r.judged.filterMap fun j => j.2.enrolment := by
  unfold entries
  congr 1
  funext j
  cases j.2 <;> rfl

@[simp] lemma entries_cons_ignored {js : List (Candidate × Verdict)} :
    (⟨(c, .ignored) :: js⟩ : Roster).entries = (⟨js⟩ : Roster).entries := rfl

@[simp] lemma entries_cons_ofAnswer {js : List (Candidate × Verdict)} {answer : Option Claim} :
    (⟨(c, .ofAnswer c answer) :: js⟩ : Roster).entries =
      (answer.map c.enrolled).toList ++ (⟨js⟩ : Roster).entries := by
  cases answer <;> rfl

lemma skipped_eq (r : Roster) :
    r.skipped = (r.judged.filter fun j => j.2.enrolment.isNone).map fun j => j.1.uid := by
  unfold skipped
  induction r.judged with
  | nil => rfl
  | cons j js ih => cases hj : j.2 <;> simp [hj, Verdict.enrolment, ih]

/-! ### The verdict of a turn -/

/-- The candidates that ask for a name. -/
def asking (ignored : String → Bool) (cs : List Candidate) : List Candidate :=
  cs.filter fun c => !ignored c.uid

lemma asking_cons_of_ignored (h : ignored c.uid = true) :
    asking ignored (c :: cs) = asking ignored cs := by
  simp [asking, h]

lemma asking_cons_of_asking (h : ignored c.uid = false) :
    asking ignored (c :: cs) = c :: asking ignored cs := by
  simp [asking, h]

lemma mem_asking_iff : c ∈ asking ignored cs ↔ c ∈ cs ∧ ignored c.uid = false := by
  simp [asking]

/-- The pool once some candidates have had their turn. -/
def poolAfter (ignored : String → Bool) (pool : Pool) (before : List Candidate) : Pool :=
  pool.after ((asking ignored before).map Candidate.request)

lemma poolAfter_cons_of_ignored (h : ignored c.uid = true) :
    poolAfter ignored pool (c :: cs) = poolAfter ignored pool cs := by
  rw [poolAfter, asking_cons_of_ignored h, ← poolAfter]

lemma poolAfter_cons_of_asking (h : ignored c.uid = false) :
    poolAfter ignored pool (c :: cs) = poolAfter ignored (pool.next c.request) cs := by
  rw [poolAfter, asking_cons_of_asking h, List.map_cons, Pool.after_cons, ← poolAfter]

/-- The verdict on a candidate in its turn. -/
def verdict (ignored : String → Bool) (pool : Pool) (turn : List Candidate × Candidate) : Verdict :=
  if ignored turn.2.uid then .ignored
  else .ofAnswer turn.2 ((poolAfter ignored pool turn.1).claim? turn.2.request)

/-- Judging is giving each candidate the verdict of its turn. -/
lemma judge_eq_map_turns (ignored : String → Bool) (pool : Pool) (cs : List Candidate) :
    judge ignored pool cs = (turns cs).map fun t => (t.2, verdict ignored pool t) := by
  induction cs generalizing pool with
  | nil => rfl
  | cons c cs ih =>
    rw [turns_cons, List.map_cons, List.map_map]
    cases h : ignored c.uid with
    | true =>
      rw [judge_cons_of_ignored h, ih]
      simp [verdict, h, poolAfter_cons_of_ignored h]
    | false =>
      rw [judge_cons_of_asking h, ih]
      have hfirst : poolAfter ignored pool [] = pool := rfl
      simp [verdict, h, hfirst, poolAfter_cons_of_asking h]

/-- Every candidate is judged, in its place. -/
lemma map_fst_judge (ignored : String → Bool) (pool : Pool) (cs : List Candidate) :
    (judge ignored pool cs).map Prod.fst = cs := by
  rw [judge_eq_map_turns, List.map_map]
  exact map_snd_turns cs

/-- The candidates of a row are judged as without the ones that follow. -/
lemma judge_append (ignored : String → Bool) (pool : Pool) (cs ds : List Candidate) :
    judge ignored pool (cs ++ ds) =
      judge ignored pool cs ++ judge ignored (poolAfter ignored pool cs) ds := by
  induction cs generalizing pool with
  | nil => rfl
  | cons c cs ih =>
    rw [List.cons_append]
    cases h : ignored c.uid with
    | true => rw [judge_cons_of_ignored h, judge_cons_of_ignored h, ih,
        poolAfter_cons_of_ignored h, List.cons_append]
    | false => rw [judge_cons_of_asking h, judge_cons_of_asking h, ih,
        poolAfter_cons_of_asking h, List.cons_append]

lemma entries_append (js ks : List (Candidate × Verdict)) :
    (⟨js ++ ks⟩ : Roster).entries = (⟨js⟩ : Roster).entries ++ (⟨ks⟩ : Roster).entries :=
  List.filterMap_append

lemma entries_eq_filterMap_turns (ignored : String → Bool) (pool : Pool) (cs : List Candidate) :
    (⟨judge ignored pool cs⟩ : Roster).entries =
      (turns cs).filterMap fun t => (verdict ignored pool t).enrolment := by
  rw [entries_eq, judge_eq_map_turns, List.filterMap_map]
  rfl

/-- An entry is made of a candidate that is not ignored, of the claim granted to it in its turn. -/
lemma mem_entries_judge_iff {e : Entry} :
    e ∈ (⟨judge ignored pool cs⟩ : Roster).entries ↔
      ∃ before c after, cs = before ++ c :: after ∧ ignored c.uid = false ∧
        ∃ claim, (poolAfter ignored pool before).claim? c.request = some claim ∧
          e = c.enrolled claim := by
  rw [entries_eq_filterMap_turns, List.mem_filterMap]
  constructor
  · rintro ⟨⟨before, c⟩, hturn, he⟩
    obtain ⟨after, hcs⟩ := mem_turns_iff.1 hturn
    cases hi : ignored c.uid with
    | true => simp [verdict, hi, Verdict.enrolment] at he
    | false =>
      obtain ⟨claim, hclaim, rfl⟩ := by simpa [verdict, hi] using he
      exact ⟨before, c, after, hcs, hi, claim, hclaim, rfl⟩
  · rintro ⟨before, c, after, hcs, hi, claim, hclaim, rfl⟩
    exact ⟨(before, c), mem_turns_iff.2 ⟨after, hcs⟩, by simp [verdict, hi, hclaim]⟩

lemma exists_candidate_of_mem {e : Entry} (h : e ∈ (⟨judge ignored pool cs⟩ : Roster).entries) :
    ∃ c ∈ cs, ignored c.uid = false ∧ ∃ claim, e = c.enrolled claim := by
  obtain ⟨before, c, after, rfl, hi, claim, -, he⟩ := mem_entries_judge_iff.1 h
  exact ⟨c, by simp, hi, claim, he⟩

/-- The last candidate of a row adds its own entry at the end, if any. -/
lemma entries_judge_concat (ignored : String → Bool) (pool : Pool) (cs : List Candidate)
    (c : Candidate) :
    (⟨judge ignored pool (cs ++ [c])⟩ : Roster).entries =
      (⟨judge ignored pool cs⟩ : Roster).entries ++
        (verdict ignored pool (cs, c)).enrolment.toList := by
  rw [entries_eq_filterMap_turns, entries_eq_filterMap_turns, turns_concat, List.filterMap_append]
  cases he : (verdict ignored pool (cs, c)).enrolment <;> simp [he]

/-! ### Refusal -/

/-- Whether a candidate is refused in its turn: it is ignored, or no name is left for it. -/
def refuses (ignored : String → Bool) (pool : Pool) (turn : List Candidate × Candidate) : Bool :=
  ignored turn.2.uid || ((poolAfter ignored pool turn.1).claim? turn.2.request).isNone

variable {turn : List Candidate × Candidate}

lemma isNone_enrolment_verdict :
    (verdict ignored pool turn).enrolment.isNone = refuses ignored pool turn := by
  unfold verdict refuses
  split
  · next h => simp [h, Verdict.enrolment]
  · next h => simp [h]

/-- An entry takes its origin, its uid and its schema from the candidate whose turn it is. -/
lemma exists_claim {e : Entry} (h : (verdict ignored pool turn).enrolment = some e) :
    ∃ claim, e = turn.2.enrolled claim := by
  unfold verdict at h
  split at h
  · cases h
  · rw [Verdict.enrolment_ofAnswer] at h
    obtain ⟨claim, -, rfl⟩ := Option.map_eq_some_iff.1 h
    exact ⟨claim, rfl⟩

/-- Who is not refused is enrolled. -/
lemma exists_enrolment (h : refuses ignored pool turn = false) :
    ∃ claim, (verdict ignored pool turn).enrolment = some (turn.2.enrolled claim) := by
  rw [← isNone_enrolment_verdict, Option.isNone_eq_false_iff, Option.isSome_iff_exists] at h
  obtain ⟨e, he⟩ := h
  obtain ⟨claim, rfl⟩ := exists_claim he
  exact ⟨claim, he⟩

lemma skipped_eq_map_turns (ignored : String → Bool) (pool : Pool) (cs : List Candidate) :
    (⟨judge ignored pool cs⟩ : Roster).skipped =
      ((turns cs).filter (refuses ignored pool)).map (·.2.uid) := by
  rw [skipped_eq, judge_eq_map_turns, List.filter_map, List.map_map]
  congr 1
  exact List.filter_congr fun t _ => isNone_enrolment_verdict

/-- The entries whose schema is as asked, told by what their candidates bring along. -/
lemma map_entries_filter {β : Type} (ignored : String → Bool) (pool : Pool) (cs : List Candidate)
    (p : Option Schema → Bool) (f : Origin → String → β) :
    ((⟨judge ignored pool cs⟩ : Roster).entries.filter fun e => p e.schema).map
        (fun e => f e.origin e.uid) =
      ((turns cs).filter fun t => !refuses ignored pool t && p t.2.schema).map
        fun t => f t.2.origin t.2.uid := by
  rw [entries_eq_filterMap_turns, List.filter_filterMap, List.map_filterMap,
    ← List.filterMap_eq_map, List.filterMap_filter]
  refine List.filterMap_congr fun t _ => ?_
  cases h : refuses ignored pool t with
  | true =>
    rw [← isNone_enrolment_verdict, Option.isNone_iff_eq_none] at h
    simp [h]
  | false =>
    obtain ⟨claim, hclaim⟩ := exists_enrolment h
    rw [hclaim]
    cases hp : p t.2.schema <;> simp [hp, Candidate.enrolled, Option.filter]

end Roster

end CmsTypings
