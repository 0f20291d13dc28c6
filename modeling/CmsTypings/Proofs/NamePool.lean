import CmsTypings.Naming.Pool
import Mathlib.Data.List.Nodup

/-!
Runs of the pool of names.

A pool answers a claim from the names taken so far, and after a row of claims these are the names
taken at the start and the names granted in the row. This one invariant turns the rule for a
single claim into the rules for a whole run: which names are granted, which claims are refused,
and that a refused claim might as well not have been made.
-/

namespace CmsTypings.Naming

/-- The names granted in a row of answers. -/
def granted (answers : List (Option Claim)) : List String :=
  answers.filterMap fun a => a.map (·.name)

@[simp] lemma granted_nil : granted [] = [] := rfl
@[simp] lemma granted_cons_none (as : List (Option Claim)) : granted (none :: as) = granted as :=
  rfl
@[simp] lemma granted_cons_some (c : Claim) (as : List (Option Claim)) :
    granted (some c :: as) = c.name :: granted as := rfl

/-- The requests that were granted, in their order. -/
def accepted (requests : List Request) (answers : List (Option Claim)) : List Request :=
  ((requests.zip answers).filter fun p => p.2.isSome).map Prod.fst

/-- The names that stand against a claim once the answers `earlier` have been given. -/
def Held (earlier : List (Option Claim)) (name : String) : Prop :=
  name ∈ reservedNames ∨ name ∈ granted earlier

instance (earlier : List (Option Claim)) (name : String) : Decidable (Held earlier name) :=
  inferInstanceAs (Decidable (_ ∨ _))

/-- Whether a request is for a component that has to be suffixed. -/
def SuffixDue (alwaysSuffix : Bool) (earlier : List (Option Claim)) (r : Request) : Prop :=
  r.origin = .component ∧ (alwaysSuffix = true ∨ Held earlier (Text.pascalCase r.sourceName))

instance (alwaysSuffix : Bool) (earlier : List (Option Claim)) (r : Request) :
    Decidable (SuffixDue alwaysSuffix earlier r) :=
  inferInstanceAs (Decidable (_ ∧ _))

/-- The name that a request has a right to, if it is still free. -/
def dueName (alwaysSuffix : Bool) (earlier : List (Option Claim)) (r : Request) : String :=
  if SuffixDue alwaysSuffix earlier r then Text.pascalCase r.sourceName ++ componentSuffix
  else Text.pascalCase r.sourceName

namespace Pool

variable {pool : Pool} {r : Request} {c : Claim}

/-! ### One claim -/

lemma claim?_eq_none_iff : pool.claim? r = none ↔ (pool.choice r).name ∈ pool.taken := by
  unfold claim?
  split <;> simp_all

lemma claim?_eq_some_iff :
    pool.claim? r = some c ↔ c = pool.choice r ∧ (pool.choice r).name ∉ pool.taken := by
  unfold claim?
  split <;> simp_all [eq_comm]

lemma next_of_granted (h : pool.claim? r = some c) : pool.next r = pool.take c.name := by
  simp [next, h]

@[simp] lemma alwaysSuffix_next (pool : Pool) (r : Request) :
    (pool.next r).alwaysSuffix = pool.alwaysSuffix := by
  unfold next
  split <;> rfl

lemma mem_taken_next {n : String} :
    n ∈ (pool.next r).taken ↔ n ∈ pool.taken ∨ n ∈ granted [pool.claim? r] := by
  cases h : pool.claim? r with
  | none => simp [next_of_refused h]
  | some c => simp [next_of_granted h, take, or_comm]

/-- A granted name is the plain name, or that of a component with its suffix. -/
lemma claim_cases (h : pool.claim? r = some c) :
    c = ⟨r.baseName, false⟩ ∨
      (r.origin = .component ∧ c = ⟨r.baseName ++ componentSuffix, true⟩) := by
  obtain ⟨rfl, -⟩ := claim?_eq_some_iff.1 h
  unfold choice
  split
  · next hs =>
    have ho : r.origin = .component := by
      simp only [suffixes, Bool.and_eq_true, decide_eq_true_eq] at hs
      exact hs.1
    exact Or.inr ⟨ho, rfl⟩
  · exact Or.inl rfl

/-! ### A row of claims -/

/-- The pool after a row of requests. -/
def after (pool : Pool) (requests : List Request) : Pool := requests.foldl next pool

@[simp] lemma after_nil (pool : Pool) : pool.after [] = pool := rfl
@[simp] lemma after_cons (pool : Pool) (r : Request) (rs : List Request) :
    pool.after (r :: rs) = (pool.next r).after rs := rfl

@[simp] lemma alwaysSuffix_after (pool : Pool) (rs : List Request) :
    (pool.after rs).alwaysSuffix = pool.alwaysSuffix := by
  induction rs generalizing pool with
  | nil => rfl
  | cons r rs ih => rw [after_cons, ih, alwaysSuffix_next]

@[simp] lemma length_claimAll (pool : Pool) (rs : List Request) :
    (pool.claimAll rs).length = rs.length := by
  induction rs generalizing pool with
  | nil => rfl
  | cons r rs ih => simp [claimAll, ih]

lemma take_claimAll (pool : Pool) (rs : List Request) (k : ℕ) :
    (pool.claimAll rs).take k = pool.claimAll (rs.take k) := by
  induction rs generalizing pool k with
  | nil => simp [claimAll]
  | cons r rs ih =>
    cases k with
    | zero => simp [claimAll]
    | succ k => simp [claimAll, ih]

lemma getElem?_claimAll (pool : Pool) (rs : List Request) (k : ℕ) :
    (pool.claimAll rs)[k]? = rs[k]?.map (pool.after (rs.take k)).claim? := by
  induction rs generalizing pool k with
  | nil => simp [claimAll]
  | cons r rs ih =>
    cases k with
    | zero => simp [claimAll]
    | succ k => simp [claimAll, ih]

/-- The invariant of a run: what is taken was taken at the start or has been granted since. -/
lemma mem_taken_after {rs : List Request} {n : String} :
    n ∈ (pool.after rs).taken ↔ n ∈ pool.taken ∨ n ∈ granted (pool.claimAll rs) := by
  induction rs generalizing pool with
  | nil => simp [claimAll]
  | cons r rs ih =>
    rw [after_cons, ih, mem_taken_next, claimAll]
    cases pool.claim? r <;> simp [or_assoc]

/-- No name is granted twice, and none that was taken at the start. -/
lemma granted_claimAll (pool : Pool) (rs : List Request) :
    (granted (pool.claimAll rs)).Nodup ∧ ∀ n ∈ granted (pool.claimAll rs), n ∉ pool.taken := by
  induction rs generalizing pool with
  | nil => simp [claimAll]
  | cons r rs ih =>
    obtain ⟨hd, hf⟩ := ih (pool.next r)
    cases h : pool.claim? r with
    | none =>
      rw [next_of_refused h] at hd hf
      simpa [claimAll, h, next_of_refused h] using ⟨hd, hf⟩
    | some c =>
      obtain ⟨rfl, hfree⟩ := claim?_eq_some_iff.1 h
      have hnew : ∀ n ∈ granted ((pool.next r).claimAll rs),
          n ≠ (pool.choice r).name ∧ n ∉ pool.taken := by
        intro n hn
        have := hf n hn
        rw [next_of_granted h] at this
        simpa [take] using this
      simp only [claimAll, h, granted_cons_some, List.nodup_cons, List.mem_cons]
      refine ⟨⟨fun hm => (hnew _ hm).1 rfl, hd⟩, ?_⟩
      rintro n (rfl | hn)
      · exact hfree
      · exact (hnew n hn).2

/-- Without its refused requests a row is answered as before. -/
lemma claimAll_accepted (pool : Pool) (rs : List Request) :
    pool.claimAll (accepted rs (pool.claimAll rs)) = (pool.claimAll rs).filter (·.isSome) := by
  induction rs generalizing pool with
  | nil => rfl
  | cons r rs ih =>
    cases h : pool.claim? r with
    | none =>
      have := ih pool
      simpa [claimAll, h, next_of_refused h, accepted] using this
    | some c =>
      have := ih (pool.next r)
      simpa [claimAll, h, accepted] using this

/-! ### Runs of a fresh pool -/

lemma held_iff {alwaysSuffix : Bool} {rs : List Request} {k : ℕ} {n : String} :
    Held (((fresh alwaysSuffix).claimAll rs).take k) n ↔
      n ∈ ((fresh alwaysSuffix).after (rs.take k)).taken := by
  rw [take_claimAll, mem_taken_after, Held]
  rfl

lemma suffixes_iff {alwaysSuffix : Bool} {rs : List Request} {k : ℕ} :
    ((fresh alwaysSuffix).after (rs.take k)).suffixes r = true ↔
      SuffixDue alwaysSuffix (((fresh alwaysSuffix).claimAll rs).take k) r := by
  rw [SuffixDue, held_iff]
  simp [suffixes, fresh, Request.baseName]

lemma choice_eq (alwaysSuffix : Bool) (rs : List Request) (k : ℕ) (r : Request) :
    ((fresh alwaysSuffix).after (rs.take k)).choice r =
      ⟨dueName alwaysSuffix (((fresh alwaysSuffix).claimAll rs).take k) r,
       decide (SuffixDue alwaysSuffix (((fresh alwaysSuffix).claimAll rs).take k) r)⟩ := by
  unfold choice dueName
  by_cases h : SuffixDue alwaysSuffix (((fresh alwaysSuffix).claimAll rs).take k) r
  · simp [suffixes_iff.2 h, h, Request.baseName]
  · have hs := mt suffixes_iff.1 h
    simp [hs, h, Request.baseName]

/-- What a run owes to its requests: each answer is settled by the request, the flag and the
answers before it. -/
structure Lawful (alwaysSuffix : Bool) (requests : List Request)
    (answers : List (Option Claim)) : Prop where
  answered : answers.length = requests.length
  distinct : (granted answers).Nodup
  unreserved : ∀ n ∈ granted answers, n ∉ reservedNames
  contentType : ∀ (k : ℕ) (r : Request) (c : Claim), requests[k]? = some r →
    answers[k]? = some (some c) → r.origin = .contentType →
      c = ⟨Text.pascalCase r.sourceName, false⟩
  component : ∀ (k : ℕ) (r : Request) (c : Claim), requests[k]? = some r →
    answers[k]? = some (some c) → r.origin = .component →
      c.name = (if c.suffixed then Text.pascalCase r.sourceName ++ "Component"
        else Text.pascalCase r.sourceName) ∧
      (c.suffixed = true ↔
        alwaysSuffix = true ∨ Held (answers.take k) (Text.pascalCase r.sourceName))
  refused : ∀ (k : ℕ) (r : Request), requests[k]? = some r →
    (answers[k]? = some none ↔
      Held (answers.take k) (dueName alwaysSuffix (answers.take k) r))
  traceless : (fresh alwaysSuffix).claimAll (accepted requests answers) =
    answers.filter (·.isSome)

/-- **Every run of a fresh pool is lawful**, whatever is asked of it and in whatever order. -/
theorem lawful_claimAll (alwaysSuffix : Bool) (requests : List Request) :
    Lawful alwaysSuffix requests ((fresh alwaysSuffix).claimAll requests) := by
  have answer : ∀ k r, requests[k]? = some r →
      ((fresh alwaysSuffix).claimAll requests)[k]? =
        some (((fresh alwaysSuffix).after (requests.take k)).claim? r) := by
    intro k r hr
    rw [getElem?_claimAll, hr, Option.map_some]
  obtain ⟨hd, hf⟩ := granted_claimAll (fresh alwaysSuffix) requests
  refine ⟨length_claimAll _ _, hd, hf, ?_, ?_, ?_, claimAll_accepted _ _⟩
  · intro k r c hr hc ho
    rw [answer k r hr, Option.some_inj, claim?_eq_some_iff, choice_eq] at hc
    simp [hc.1, dueName, SuffixDue, ho]
  · intro k r c hr hc ho
    rw [answer k r hr, Option.some_inj, claim?_eq_some_iff, choice_eq] at hc
    obtain ⟨rfl, -⟩ := hc
    constructor
    · simp [dueName, componentSuffix]
    · simp [SuffixDue, ho]
  · intro k r hr
    rw [answer k r hr, Option.some_inj, claim?_eq_none_iff, choice_eq, held_iff]

/-- Two components of one name share it out; nothing is left for a third. -/
example : (fresh false).claimAll
    [⟨"Address", .component⟩, ⟨"address", .component⟩, ⟨"Address", .component⟩] =
      [some ⟨"Address", false⟩, some ⟨"AddressComponent", true⟩, none] := by decide

end Pool

end CmsTypings.Naming
