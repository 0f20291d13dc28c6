import CmsTypings.Proofs.Deletion

/-!
The names that requests ask for.

A pool answers a request by looking up at most two names: the plain name, unless the suffix is
forced, and the name that it chooses. A second pool in which some more names are taken gives the
same answer exactly when none of these is one that was looked up. So candidates that take names
for nothing are noticed by the others exactly when they hold a name that another one asks for; this
goes through a whole row of candidates, for a name that was asked for is taken from then on.
-/

namespace CmsTypings

open Naming

namespace Naming.Pool

variable {pool larger : Pool} {extra : List String} {r : Request} {c : Claim} {n : String}

/-- Whether a request is for a component whose suffix does not depend on what is taken. -/
def Forces (pool : Pool) (r : Request) : Prop := r.origin = .component ∧ pool.alwaysSuffix = true

instance (pool : Pool) (r : Request) : Decidable (pool.Forces r) :=
  inferInstanceAs (Decidable (_ ∧ _))

/-- The names that a pool looks up for a request. -/
def asks (pool : Pool) (r : Request) : List String :=
  if pool.Forces r then [(pool.choice r).name] else [r.baseName, (pool.choice r).name]

/-- The names that are looked up for a row of requests. -/
def asked (pool : Pool) : List Request → List String
  | [] => []
  | r :: rest => pool.asks r ++ (pool.next r).asked rest

lemma mem_asks_iff :
    n ∈ pool.asks r ↔ n = (pool.choice r).name ∨ (n = r.baseName ∧ ¬ pool.Forces r) := by
  unfold asks
  split <;> simp [*, or_comm]

/-- The plain name is asked for unless the suffix is forced. -/
lemma baseName_mem_asked {rs : List Request} (hr : r ∈ rs) (hf : ¬ pool.Forces r) :
    r.baseName ∈ pool.asked rs := by
  induction rs generalizing pool with
  | nil => cases hr
  | cons s rs ih =>
    rw [asked, List.mem_append]
    rcases List.mem_cons.1 hr with rfl | hr
    · exact Or.inl (mem_asks_iff.2 (Or.inr ⟨rfl, hf⟩))
    · exact Or.inr (ih hr (by rwa [Forces, alwaysSuffix_next]))

/-- How a pool chooses: with the suffix if it is forced or the plain name is taken. -/
lemma choice_cases (pool : Pool) (r : Request) :
    (pool.choice r = ⟨r.baseName ++ componentSuffix, true⟩ ∧ r.origin = .component ∧
        (pool.Forces r ∨ r.baseName ∈ pool.taken)) ∨
      (pool.choice r = ⟨r.baseName, false⟩ ∧ ¬ pool.Forces r ∧
        (r.origin = .component → r.baseName ∉ pool.taken)) := by
  unfold choice Forces
  cases hs : pool.suffixes r with
  | true =>
    simp only [suffixes, Bool.and_eq_true, Bool.or_eq_true, decide_eq_true_eq,
      List.contains_eq_mem] at hs
    exact Or.inl ⟨rfl, hs.1, hs.2.imp_left fun h => ⟨hs.1, h⟩⟩
  | false =>
    simp only [suffixes, Bool.and_eq_false_iff, Bool.or_eq_false_iff, decide_eq_false_iff_not,
      List.contains_eq_mem] at hs
    refine Or.inr ⟨rfl, fun h => ?_, fun h => ?_⟩
    · simp [h.1, h.2] at hs
    · simp only [h, not_true, false_or] at hs
      exact hs.2

/-- What was asked for is taken afterwards. -/
lemma mem_taken_next_of_mem_asks (h : n ∈ pool.asks r) : n ∈ (pool.next r).taken := by
  have hchoice : (pool.choice r).name ∈ (pool.next r).taken := by
    rw [mem_taken_next]
    cases hc : pool.claim? r with
    | none => exact Or.inl (claim?_eq_none_iff.1 hc)
    | some c =>
      obtain ⟨rfl, -⟩ := claim?_eq_some_iff.1 hc
      simp
  rcases mem_asks_iff.1 h with rfl | ⟨rfl, hf⟩
  · exact hchoice
  · rcases choice_cases pool r with ⟨-, -, hb⟩ | ⟨hb, -⟩
    · exact mem_taken_next.2 (Or.inl (hb.resolve_left hf))
    · rwa [hb] at hchoice

lemma not_mem_taken_of_granted (h : n ∈ granted [pool.claim? r]) : n ∉ pool.taken :=
  (granted_claimAll pool [r]).2 n h

/-! ### A pool with more names taken -/

/-- The larger pool holds the names of the other one, and some more. -/
structure Extends (pool larger : Pool) (extra : List String) : Prop where
  alwaysSuffix : larger.alwaysSuffix = pool.alwaysSuffix
  taken : ∀ n, n ∈ larger.taken ↔ n ∈ pool.taken ∨ n ∈ extra
  free : ∀ n ∈ extra, n ∉ pool.taken

lemma extends_refl (pool : Pool) : Extends pool pool [] := ⟨rfl, by simp, by simp⟩

/-- A choice changes only if the plain name is one of the further names. -/
lemma Extends.choice_eq (h : Extends pool larger extra)
    (hb : r.baseName ∉ extra ∨ pool.Forces r) : larger.choice r = pool.choice r := by
  have hsuffixes : larger.suffixes r = pool.suffixes r := by
    simp only [suffixes, h.alwaysSuffix, List.contains_eq_mem, h.taken]
    rcases hb with hb | hb
    · simp [hb]
    · simp [hb.1, hb.2]
  rw [choice, choice, hsuffixes]

/-- The plain name is free in one pool only, so only there it is granted. -/
lemma Extends.claim?_ne (h : Extends pool larger extra) (hx : r.baseName ∈ extra)
    (hf : ¬ pool.Forces r) : larger.claim? r ≠ pool.claim? r := by
  have hplain : pool.claim? r = some ⟨r.baseName, false⟩ := by
    rcases choice_cases pool r with ⟨-, -, hc⟩ | ⟨hc, -⟩
    · exact absurd (hc.resolve_left hf) (h.free _ hx)
    · rw [claim?_eq_some_iff, hc]
      exact ⟨rfl, h.free _ hx⟩
  rw [hplain]
  intro hl
  obtain ⟨hc, hn⟩ := claim?_eq_some_iff.1 hl
  rw [← hc] at hn
  exact hn ((h.taken _).2 (Or.inr hx))

lemma forall_asks_not_mem_iff (hb : r.baseName ∉ extra ∨ pool.Forces r) :
    (∀ n ∈ pool.asks r, n ∉ extra) ↔ (pool.choice r).name ∉ extra := by
  simp only [mem_asks_iff]
  constructor
  · exact fun ha => ha _ (Or.inl rfl)
  · rintro ha n (rfl | ⟨rfl, hf⟩)
    · exact ha
    · exact hb.resolve_right hf

/-- The larger pool answers alike exactly when no further name is asked for. -/
lemma Extends.claim?_eq_iff (h : Extends pool larger extra) :
    larger.claim? r = pool.claim? r ↔ ∀ n ∈ pool.asks r, n ∉ extra := by
  by_cases hb : r.baseName ∉ extra ∨ pool.Forces r
  · -- the choice is the same, so all depends on whether it is free
    rw [forall_asks_not_mem_iff hb, claim?, claim?, h.choice_eq hb]
    by_cases hx : (pool.choice r).name ∈ extra
    · simp [h.taken, hx, h.free _ hx]
    · simp [h.taken, hx]
  · simp only [not_or, not_not] at hb
    obtain ⟨hx, hf⟩ := hb
    exact ⟨fun heq => absurd heq (h.claim?_ne hx hf),
      fun ha => absurd hx (ha _ (mem_asks_iff.2 (Or.inr ⟨rfl, hf⟩)))⟩

/-- Both pools answer a request, and alike. -/
lemma Extends.next (h : Extends pool larger extra) (heq : larger.claim? r = pool.claim? r) :
    Extends (pool.next r) (larger.next r) extra := by
  refine ⟨by simp [h.alwaysSuffix], fun n => ?_, fun n hn ht => ?_⟩
  · rw [mem_taken_next, mem_taken_next, h.taken, heq, or_right_comm]
  · rcases mem_taken_next.1 ht with ht | hg
    · exact h.free n hn ht
    · rw [← heq] at hg
      exact not_mem_taken_of_granted hg ((h.taken n).2 (Or.inr hn))

/-- Only the larger pool answers a request. -/
lemma Extends.next_larger (h : Extends pool larger extra) :
    Extends pool (larger.next r) (granted [larger.claim? r] ++ extra) := by
  refine ⟨by simp [h.alwaysSuffix], fun n => ?_, fun n hn ht => ?_⟩
  · rw [mem_taken_next, h.taken, List.mem_append, or_assoc, or_comm (a := n ∈ extra)]
  · rcases List.mem_append.1 hn with hg | hn
    · exact not_mem_taken_of_granted hg ((h.taken n).2 (Or.inl ht))
    · exact h.free n hn ht

end Naming.Pool

/-! ### Candidates with and without a schema -/

namespace Roster

variable {ignored : String → Bool} {pool larger : Pool} {extra : List String} {c : Candidate}
  {js : List (Candidate × Verdict)}

/-- The names that candidates without a schema are enrolled under. -/
def emptyNames (judged : List (Candidate × Verdict)) : List String :=
  ((⟨judged⟩ : Roster).entries.filter fun e => e.schema.isNone).map (·.name)

lemma emptyNames_cons_ignored : emptyNames ((c, .ignored) :: js) = emptyNames js := rfl

lemma emptyNames_cons_declared {answer : Option Claim} (h : c.schema.isSome = true) :
    emptyNames ((c, .ofAnswer c answer) :: js) = emptyNames js := by
  cases answer with
  | none => rfl
  | some claim =>
    have hs : (c.enrolled claim).schema.isNone = false := by simpa [Candidate.enrolled] using h
    simp [emptyNames, hs]

lemma emptyNames_cons_empty {answer : Option Claim} (h : c.schema.isSome = false) :
    emptyNames ((c, .ofAnswer c answer) :: js) = granted [answer] ++ emptyNames js := by
  cases answer with
  | none => rfl
  | some claim =>
    have hs : (c.enrolled claim).schema.isNone = true := by simpa [Candidate.enrolled] using h
    have hn : (c.enrolled claim).name = claim.name := rfl
    simp [emptyNames, hs, hn]

/-- The candidates whose schema is there. -/
def declared (cs : List Candidate) : List Candidate := cs.filter fun c => c.schema.isSome

/-- The names that are looked up for the candidates of a row that are not ignored. -/
def askedNames (ignored : String → Bool) (pool : Pool) (cs : List Candidate) : List String :=
  pool.asked ((asking ignored cs).map Candidate.request)

/-- An entry's name was free. -/
lemma name_not_mem_taken {cs : List Candidate} {e : Entry}
    (h : e ∈ (⟨judge ignored pool cs⟩ : Roster).entries) :
    e.name ∉ pool.taken := by
  have hn : e.name ∈ (⟨judge ignored pool cs⟩ : Roster).entries.map (·.name) :=
    List.mem_map_of_mem h
  rw [names_judge] at hn
  exact (Pool.granted_claimAll _ _).2 _ hn

lemma not_mem_taken_of_mem_emptyNames {cs : List Candidate} {n : String}
    (h : n ∈ emptyNames (judge ignored pool cs)) : n ∉ pool.taken := by
  obtain ⟨e, he, rfl⟩ := List.mem_map.1 h
  exact name_not_mem_taken (List.mem_filter.1 he).1

lemma ofAnswer_inj {a b : Option Claim} (h : Verdict.ofAnswer c a = .ofAnswer c b) : a = b := by
  rcases a with _ | ⟨n, s⟩ <;> rcases b with _ | ⟨n', s'⟩ <;>
    simp_all [Verdict.ofAnswer, Candidate.enrolled]

/-- One candidate with a schema: it is noticed exactly if it asks for a further name, and later ones
take no name that it has asked for. -/
lemma forall_not_mem_asked_cons {cs : List Candidate} (hi : ignored c.uid = false)
    (h : Pool.Extends pool larger extra) :
    (∀ n, n ∈ extra ∨ n ∈ emptyNames (judge ignored (larger.next c.request) cs) →
        n ∉ askedNames ignored pool (c :: declared cs)) ↔
      larger.claim? c.request = pool.claim? c.request ∧
        ∀ n, n ∈ extra ∨ n ∈ emptyNames (judge ignored (larger.next c.request) cs) →
          n ∉ askedNames ignored (pool.next c.request) (declared cs) := by
  have hasked : askedNames ignored pool (c :: declared cs) =
      pool.asks c.request ++ askedNames ignored (pool.next c.request) (declared cs) := by
    rw [askedNames, asking_cons_of_asking hi, List.map_cons, Pool.asked, ← askedNames]
  simp only [hasked, List.mem_append, not_or]
  constructor
  · intro hall
    exact ⟨h.claim?_eq_iff.2 fun n hn hx => (hall n (Or.inl hx)).1 hn, fun n hn => (hall n hn).2⟩
  · rintro ⟨heq, hall⟩ n hn
    refine ⟨fun ha => ?_, hall n hn⟩
    rcases hn with hx | he
    · exact h.claim?_eq_iff.1 heq n ha hx
    · have ht := Pool.mem_taken_next_of_mem_asks ha
      exact not_mem_taken_of_mem_emptyNames he (((h.next heq).taken n).2 (Or.inl ht))

/-- **When empty candidates go unnoticed.** The verdicts on the candidates with a schema are what
they would be without the others exactly when the others hold no name that one of them asks for. -/
lemma judge_declared_iff (cs : List Candidate) (h : Pool.Extends pool larger extra) :
    (judge ignored larger cs).filter (fun j => j.1.schema.isSome) =
        judge ignored pool (declared cs) ↔
      ∀ n, n ∈ extra ∨ n ∈ emptyNames (judge ignored larger cs) →
        n ∉ askedNames ignored pool (declared cs) := by
  induction cs generalizing pool larger extra with
  | nil => simp [declared, judge, askedNames, asking, Pool.asked]
  | cons c cs ih =>
    cases hi : ignored c.uid with
    | true =>
      rw [judge_cons_of_ignored hi, emptyNames_cons_ignored]
      cases hs : c.schema.isSome with
      | true =>
        have hd : declared (c :: cs) = c :: declared cs := by simp [declared, hs]
        rw [hd, judge_cons_of_ignored hi, List.filter_cons_of_pos (by simpa using hs),
          List.cons_inj_right, ih h]
        simp only [askedNames, asking_cons_of_ignored hi]
      | false =>
        have hd : declared (c :: cs) = declared cs := by simp [declared, hs]
        rw [hd, List.filter_cons_of_neg (by simp [hs]), ih h]
    | false =>
      rw [judge_cons_of_asking hi]
      cases hs : c.schema.isSome with
      | true =>
        have hd : declared (c :: cs) = c :: declared cs := by simp [declared, hs]
        rw [hd, judge_cons_of_asking hi, List.filter_cons_of_pos (by simpa using hs),
          emptyNames_cons_declared hs, forall_not_mem_asked_cons hi h, List.cons.injEq,
          Prod.mk.injEq]
        constructor
        · rintro ⟨⟨-, hv⟩, hrest⟩
          have heq := ofAnswer_inj hv
          exact ⟨heq, (ih (h.next heq)).1 hrest⟩
        · rintro ⟨heq, hall⟩
          exact ⟨⟨rfl, by rw [heq]⟩, (ih (h.next heq)).2 hall⟩
      | false =>
        have hd : declared (c :: cs) = declared cs := by simp [declared, hs]
        rw [hd, List.filter_cons_of_neg (by simp [hs]), emptyNames_cons_empty hs,
          ih h.next_larger]
        simp only [List.mem_append, or_assoc, or_left_comm]

end Roster

end CmsTypings
