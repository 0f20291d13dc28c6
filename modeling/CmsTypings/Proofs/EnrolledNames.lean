import CmsTypings.Proofs.Deletion

/-!
Verdicts told from the names of the entries.

A verdict on a candidate that is not ignored is settled by the name that it gives, for the plain
name and the name with the suffix differ. An entry tells which candidate it was made of, since an
origin and a uid occur once in a dump. So two judgements of the same candidates which give the
same names to the same uids of the same origins agree on every candidate.
-/

namespace CmsTypings

open Naming

/-- What a module tells of an entry: its origin, its uid and its name. -/
def Entry.key (e : Entry) : Origin × String × String := (e.origin, e.uid, e.name)

lemma Dump.nodup_candidates (d : Dump) :
    (d.candidates.map fun c => (c.origin, c.uid)).Nodup := by
  have hnodup : ∀ (o : Origin) (m : OrderedMap (Option Schema)),
      (m.entries.map fun e => (o, e.1)).Nodup := by
    intro o m
    have := m.nodup_keys.map (Prod.mk_right_injective o)
    simpa [Function.comp_def] using this
  simp only [candidates, List.map_append, List.map_map]
  refine List.nodup_append.2 ⟨hnodup _ _, hnodup _ _, ?_⟩
  rintro p hp q hq rfl
  obtain ⟨a, -, rfl⟩ := List.mem_map.1 hp
  obtain ⟨b, -, hb⟩ := List.mem_map.1 hq
  cases congrArg Prod.fst hb

/-- The name tells whether the suffix was granted. -/
lemma Naming.Pool.claim_eq_of_name_eq {pool pool' : Pool} {r : Request} {c c' : Claim}
    (h : pool.claim? r = some c) (h' : pool'.claim? r = some c') (hn : c.name = c'.name) :
    c = c' := by
  have hsuffix : r.baseName ++ componentSuffix ≠ r.baseName := by
    intro heq
    have := congrArg String.length heq
    simp [componentSuffix] at this
  rcases claim_cases h with rfl | ⟨-, rfl⟩ <;> rcases claim_cases h' with rfl | ⟨-, rfl⟩
  · rfl
  · exact absurd hn.symm hsuffix
  · exact absurd hn hsuffix
  · rfl

namespace Roster

variable {ignored : String → Bool} {pool pool' : Pool} {cs cs' : List Candidate} {c : Candidate}
  {v v' : Verdict} {js js' : List (Candidate × Verdict)} {n : String}

/-- A candidate is ignored, or it gets the answer of a pool. -/
lemma verdict_cases (h : (c, v) ∈ judge ignored pool cs) :
    (ignored c.uid = true ∧ v = .ignored) ∨
      (ignored c.uid = false ∧ ∃ pool' : Pool, v = .ofAnswer c (pool'.claim? c.request)) := by
  rw [judge_eq_map_turns, List.mem_map] at h
  obtain ⟨⟨before, d⟩, -, hturn⟩ := h
  obtain ⟨rfl, rfl⟩ := Prod.mk.inj hturn
  cases hi : ignored d.uid with
  | true => exact Or.inl ⟨rfl, by simp [verdict, hi]⟩
  | false => exact Or.inr ⟨rfl, poolAfter ignored pool before, by simp [verdict, hi]⟩

/-- An entry takes its origin, its uid and its schema from its candidate. -/
lemma exists_enrolled {e : Entry} (h : (c, v) ∈ judge ignored pool cs) (he : v.enrolment = some e) :
    ∃ claim, e = c.enrolled claim := by
  rw [judge_eq_map_turns, List.mem_map] at h
  obtain ⟨turn, -, hturn⟩ := h
  obtain ⟨rfl, rfl⟩ := Prod.mk.inj hturn
  exact exists_claim he

lemma verdict_eq_of_name_eq (h : (c, v) ∈ judge ignored pool cs)
    (h' : (c, v') ∈ judge ignored pool' cs')
    (hn : v.enrolment.map (·.name) = v'.enrolment.map (·.name)) : v = v' := by
  rcases verdict_cases h with ⟨hi, rfl⟩ | ⟨hi, p, rfl⟩ <;>
    rcases verdict_cases h' with ⟨hi', rfl⟩ | ⟨hi', p', rfl⟩
  · rfl
  · simp [hi] at hi'
  · simp [hi] at hi'
  · have hname : ∀ answer : Option Claim,
        (answer.map c.enrolled).map (·.name) = answer.map (·.name) := fun answer => by
      rw [Option.map_map]
      rfl
    simp only [Verdict.enrolment_ofAnswer, hname] at hn
    cases hp : p.claim? c.request with
    | none =>
      rw [hp, Option.map_none, eq_comm, Option.map_eq_none_iff] at hn
      rw [hn]
    | some claim =>
      rw [hp, Option.map_some, eq_comm, Option.map_eq_some_iff] at hn
      obtain ⟨claim', hp', hn⟩ := hn
      rw [hp', Pool.claim_eq_of_name_eq hp hp' hn.symm]

/-- The name that a candidate has got is found with its uid among the entries. -/
lemma name_eq_some_iff (hjs : ∀ j ∈ js, j ∈ judge ignored pool cs)
    (hnodup : ((js.map Prod.fst).map fun c => (c.origin, c.uid)).Nodup) (h : (c, v) ∈ js) :
    v.enrolment.map (·.name) = some n ↔
      (c.origin, c.uid, n) ∈ (⟨js⟩ : Roster).entries.map Entry.key := by
  rw [entries_eq, List.mem_map, Option.map_eq_some_iff]
  constructor
  · rintro ⟨e, he, rfl⟩
    obtain ⟨claim, rfl⟩ := exists_enrolled (hjs _ h) he
    exact ⟨_, List.mem_filterMap.2 ⟨_, h, he⟩, rfl⟩
  · rintro ⟨e, he, hkey⟩
    obtain ⟨⟨d, w⟩, hd, he⟩ := List.mem_filterMap.1 he
    obtain ⟨claim, rfl⟩ := exists_enrolled (hjs _ hd) he
    obtain ⟨ho, hu, hn⟩ : d.origin = c.origin ∧ d.uid = c.uid ∧ (d.enrolled claim).name = n := by
      simpa [Entry.key, Candidate.enrolled] using hkey
    rw [List.map_map] at hnodup
    have heq : (d, w) = (c, v) :=
      List.inj_on_of_nodup_map hnodup hd h (by simp [ho, hu])
    obtain ⟨rfl, rfl⟩ := Prod.mk.inj heq
    exact ⟨_, he, hn⟩

/-- Judgements of the same candidates are the same if the entries agree on their names. -/
lemma judged_eq_of_key_eq (hjs : ∀ j ∈ js, j ∈ judge ignored pool cs)
    (hjs' : ∀ j ∈ js', j ∈ judge ignored pool' cs') (hfst : js.map Prod.fst = js'.map Prod.fst)
    (hnodup : ((js.map Prod.fst).map fun c => (c.origin, c.uid)).Nodup)
    (hkey : (⟨js⟩ : Roster).entries.map Entry.key = (⟨js'⟩ : Roster).entries.map Entry.key) :
    js = js' := by
  have hverdict : ∀ c v v', (c, v) ∈ js → (c, v') ∈ js' → v = v' := by
    intro c v v' h h'
    refine verdict_eq_of_name_eq (hjs _ h) (hjs' _ h') (Option.ext fun n => ?_)
    rw [name_eq_some_iff hjs hnodup h, name_eq_some_iff hjs' (hfst ▸ hnodup) h', hkey]
  refine List.ext_getElem (by simpa using congrArg List.length hfst) fun i hi hi' => ?_
  have hc : js[i].1 = js'[i].1 := by
    have := congrArg (fun cs => cs[i]?) hfst
    simpa [hi, hi'] using this
  refine Prod.ext hc (hverdict js[i].1 _ _ (List.getElem_mem hi) ?_)
  rw [hc]
  exact List.getElem_mem hi'

end Roster

end CmsTypings
