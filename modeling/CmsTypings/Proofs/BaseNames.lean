import CmsTypings.Naming.Resolver
import CmsTypings.Proofs.AskedNames

/-!
Components of one plain name.

Of the components enrolled under one plain name the first bears that name itself, unless suffixes
are forced, and only one more can follow it, with the suffix. So a search by the plain name sees an
unsuffixed component before a suffixed one, and finds each by its plain name whether it is suffixed
or not.
-/

namespace CmsTypings

open Naming Text

namespace Roster

variable {ignored : String → Bool} {pool : Pool} {c : Candidate} {cs : List Candidate}
  {e f : Entry}

/-- An entry was enrolled by a pool in which no name of the first pool had been given back. -/
lemma exists_pool (h : e ∈ (⟨judge ignored pool cs⟩ : Roster).entries) :
    ∃ c ∈ asking ignored cs, ∃ pool' : Pool, pool'.alwaysSuffix = pool.alwaysSuffix ∧
      (∀ n ∈ pool.taken, n ∈ pool'.taken) ∧
        ∃ claim, pool'.claim? c.request = some claim ∧ e = c.enrolled claim := by
  obtain ⟨before, c, after, rfl, hi, claim, hclaim, he⟩ := mem_entries_judge_iff.1 h
  have hc : c ∈ asking ignored (before ++ c :: after) := mem_asking_iff.2 ⟨by simp, hi⟩
  exact ⟨c, hc, poolAfter ignored pool before, Pool.alwaysSuffix_after _ _,
    fun n hn => Pool.mem_taken_after.2 (Or.inl hn), claim, hclaim, he⟩

/-- A component is suffixed if that is forced or its plain name was taken. -/
lemma suffixed_of_held (h : e ∈ (⟨judge ignored pool cs⟩ : Roster).entries)
    (ho : e.origin = .component)
    (hheld : pool.alwaysSuffix = true ∨ pascalCase e.sourceName ∈ pool.taken) :
    e.suffixed = true := by
  obtain ⟨c, -, pool', hflag, htaken, claim, hclaim, rfl⟩ := exists_pool h
  obtain ⟨rfl, -⟩ := Pool.claim?_eq_some_iff.1 hclaim
  rcases Pool.choice_cases pool' c.request with ⟨hc, -⟩ | ⟨-, hf, hfree⟩
  · simp [Candidate.enrolled, hc]
  · rcases hheld with hs | hs
    · exact absurd ⟨ho, hflag.trans hs⟩ hf
    · exact absurd (htaken _ hs) (hfree ho)

lemma name_of_suffixed (h : e ∈ (⟨judge ignored pool cs⟩ : Roster).entries)
    (hs : e.suffixed = true) : e.name = pascalCase e.sourceName ++ componentSuffix := by
  obtain ⟨c, -, pool', -, -, claim, hclaim, rfl⟩ := exists_pool h
  rcases Pool.claim_cases hclaim with rfl | ⟨-, rfl⟩
  · cases hs
  · rfl

/-- Two components of one plain name are an unsuffixed one and, later, a suffixed one. -/
lemma pairwise_baseName (ignored : String → Bool) (pool : Pool) (cs : List Candidate) :
    (⟨judge ignored pool cs⟩ : Roster).entries.Pairwise fun e f =>
      e.origin = .component → f.origin = .component →
        pascalCase e.sourceName = pascalCase f.sourceName →
          e.suffixed = false ∧ f.suffixed = true := by
  induction cs generalizing pool with
  | nil => exact List.Pairwise.nil
  | cons c cs ih =>
    cases hi : ignored c.uid with
    | true =>
      rw [judge_cons_of_ignored hi, entries_cons_ignored]
      exact ih pool
    | false =>
      rw [judge_cons_of_asking hi, entries_cons_ofAnswer]
      cases hclaim : pool.claim? c.request with
      | none =>
        rw [Pool.next_of_refused hclaim]
        exact ih pool
      | some claim =>
        refine List.pairwise_cons.2 ⟨fun f hf _ ho hb => ?_, ih _⟩
        have hnext : claim.name ∈ (pool.next c.request).taken := by
          rw [Pool.mem_taken_next, hclaim]
          simp
        obtain ⟨rfl, -⟩ := Pool.claim?_eq_some_iff.1 hclaim
        rcases Pool.choice_cases pool c.request with ⟨hc, -, hheld⟩ | ⟨hc, -⟩
        · -- what made the first one suffixed makes the second one suffixed, under one name
          have hsuffixed : f.suffixed = true := by
            refine suffixed_of_held hf ho (hheld.imp (fun hforced => ?_) fun hb' => ?_)
            · rw [Pool.alwaysSuffix_next, hforced.2]
            · rw [← hb]
              exact Pool.mem_taken_next.2 (Or.inl hb')
          have hn := name_of_suffixed hf hsuffixed
          rw [← hb] at hn
          rw [hc] at hnext
          exact absurd (hn ▸ hnext) (name_not_mem_taken hf)
        · rw [hc] at hnext
          refine ⟨by simp [Candidate.enrolled, hc], suffixed_of_held hf ho (Or.inr ?_)⟩
          rw [← hb]
          exact hnext

/-! ### Searching by the plain name -/

section Search

variable {filter : IgnoreFilter} {alwaysSuffix : Bool} {dump : Dump} {name : String}

/-- A component answers to its plain name. -/
lemma bearsName_iff (h : e ∈ (ofDump filter alwaysSuffix dump).entries) :
    bearsName name e = true ↔ e.origin = .component ∧ pascalCase e.sourceName = name := by
  unfold bearsName
  rcases name_cases h with ⟨hs, hn⟩ | ⟨hs, ho, hn⟩
  · simp [hs, hn]
  · simp [hs, hn, ho, String.append_left_inj]

lemma alwaysSuffix_eq_false (h : e ∈ (ofDump filter alwaysSuffix dump).entries)
    (ho : e.origin = .component) (hs : e.suffixed = false) : alwaysSuffix = false := by
  by_contra ha
  have := suffixed_of_held h ho (Or.inl (by simpa [Pool.fresh] using ha))
  simp [hs] at this

/-- Where a search finds one of two components, it finds the one that is not suffixed. -/
lemma suffixed_of_componentNamed?
    (hfind : componentNamed? (ofDump filter alwaysSuffix dump).entries name = some e)
    (hf : f ∈ (ofDump filter alwaysSuffix dump).entries) (hb : bearsName name f = true)
    (hne : f ≠ e) : e.suffixed = false ∧ f.suffixed = true := by
  obtain ⟨heo, hebase⟩ := (bearsName_iff (List.mem_of_find?_eq_some hfind)).1
    (List.find?_some hfind)
  obtain ⟨hfo, hfbase⟩ := (bearsName_iff hf).1 hb
  have hpair : (ofDump filter alwaysSuffix dump).entries.Pairwise _ :=
    pairwise_baseName filter.skips (.fresh alwaysSuffix) dump.candidates
  obtain ⟨-, before, after, hsplit, hbefore⟩ := List.find?_eq_some_iff_append.1 hfind
  rw [hsplit, List.mem_append, List.mem_cons] at hf
  rw [hsplit, List.pairwise_append, List.pairwise_cons] at hpair
  rcases hf with hf | hf | hf
  · exact absurd hb (by simpa using hbefore f hf)
  · exact absurd hf hne
  · exact hpair.2.1.1 f hf heo hfo (hebase.trans hfbase.symm)

end Search

end Roster

end CmsTypings
