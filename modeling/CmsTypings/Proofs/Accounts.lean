import CmsTypings.Proofs.EmptyEntries
import CmsTypings.Proofs.Turns

/-!
What becomes of every entry of the registries.

There are three ways out of a conversion without an interface: an entry is ignored, no name is left
for it, or it is empty. The first two are settled in its turn, the third only when interfaces are
made. Every entry of the two registries takes exactly one of these ways or is assembled, so the
uids of the interfaces and the uids that are left out make up the keys of the registries, each as
often as it is a key.
-/

namespace CmsTypings

open Naming

/-- The keys of both registries, content types first. -/
def Dump.keys (d : Dump) : List String := d.contentTypes.keys ++ d.components.keys

lemma Dump.map_uid_candidates (d : Dump) : d.candidates.map (·.uid) = d.keys := by
  simp [candidates, keys, OrderedMap.keys, Function.comp_def]

/-- A list is made up of three parts: what satisfies `p`, and the rest parted by `q`. -/
lemma filter_three_perm {α : Type} (p q : α → Bool) (l : List α) :
    (l.filter (fun a => !p a && q a) ++ (l.filter p ++ l.filter fun a => !p a && !q a)).Perm l := by
  have hrest : (l.filter (fun a => !p a && q a) ++ l.filter fun a => !p a && !q a).Perm
      (l.filter fun a => !p a) := by
    have h := List.filter_append_perm q (l.filter fun a => !p a)
    simpa [List.filter_filter, Bool.and_comm] using h
  calc
    _ = (l.filter (fun a => !p a && q a) ++ l.filter p) ++ l.filter fun a => !p a && !q a := by
      rw [List.append_assoc]
    List.Perm _ ((l.filter p ++ l.filter fun a => !p a && q a) ++
        l.filter fun a => !p a && !q a) := List.perm_append_comm.append_right _
    List.Perm _ (l.filter p ++ l.filter fun a => !p a) := by
      rw [List.append_assoc]
      exact hrest.append_left _
    List.Perm _ l := List.filter_append_perm p l

namespace Conversion

section Fates

variable (dump : Dump) (settings : Settings)

/-- Whether a candidate is ignored or left without a name in its turn. -/
def refuses (turn : List Candidate × Candidate) : Bool :=
  Roster.refuses (IgnoreFilter.ofRules settings.idsToIgnore).skips
    (.fresh settings.alwaysSuffixComponentNames) turn

/-- The candidates that are ignored or left without a name, in their order. -/
def refused : List Candidate := ((turns dump.candidates).filter (refuses settings)).map Prod.snd

/-- The enrolled candidates without a schema, in their order. -/
def enrolledEmpty : List Candidate :=
  ((turns dump.candidates).filter fun t => !refuses settings t && t.2.schema.isNone).map Prod.snd

/-- The enrolled candidates with a schema, in their order. -/
def enrolledDeclared : List Candidate :=
  ((turns dump.candidates).filter fun t => !refuses settings t && t.2.schema.isSome).map Prod.snd

end Fates

/-- The books of a conversion balance: what each entry of the registries came to is told by its
turn and its schema, and every entry came to one thing. -/
structure Balanced (dump : Dump) (settings : Settings) (c : Conversion) : Prop where
  assembled : c.interfaces.map (fun i => (i.origin, i.uid)) =
    (enrolledDeclared dump settings).map fun k => (k.origin, k.uid)
  skipped : c.skipped =
    (refused dump settings).map (·.uid) ++ (enrolledEmpty dump settings).map (·.uid)
  partition : (c.interfaces.map (·.uid) ++ c.skipped).Perm dump.keys
  inOrder : (c.interfaces.map (·.uid)).Sublist dump.keys
  counted : ∀ origin,
    c.count origin = ((enrolledDeclared dump settings).filter fun k => k.origin = origin).length
  assembledCount : c.count .contentType + c.count .component = c.interfaces.length
  total : c.count .contentType + c.count .component + c.skipped.length =
    dump.contentTypes.entries.length + dump.components.entries.length

/-- An interface comes from a candidate that is enrolled and has a schema. -/
lemma map_origin_uid_interfaces (dump : Dump) (settings : Settings) :
    (ofDump dump settings).interfaces.map (fun i => (i.origin, i.uid)) =
      (enrolledDeclared dump settings).map fun k => (k.origin, k.uid) := by
  have hkey := congrArg (List.map fun k => (k.1, k.2.1)) (map_key_interfaces (ofDump dump settings))
  simp only [List.map_map, Function.comp_def, Entry.key] at hkey
  rw [hkey, enrolledDeclared, List.map_map]
  exact Roster.map_entries_filter _ _ dump.candidates (·.isSome) Prod.mk

lemma map_uid_interfaces (dump : Dump) (settings : Settings) :
    (ofDump dump settings).interfaces.map (·.uid) =
      (enrolledDeclared dump settings).map (·.uid) := by
  simpa [Function.comp_def] using
    congrArg (List.map Prod.snd) (map_origin_uid_interfaces dump settings)

lemma skipped_eq_refused_append (dump : Dump) (settings : Settings) :
    (ofDump dump settings).skipped =
      (refused dump settings).map (·.uid) ++ (enrolledEmpty dump settings).map (·.uid) := by
  have hrefused : (ofDump dump settings).roster.skipped = (refused dump settings).map (·.uid) := by
    rw [refused, List.map_map]
    exact Roster.skipped_eq_map_turns _ _ dump.candidates
  have hempty : ((ofDump dump settings).roster.entries.filter fun e => e.schema.isNone).map
      (·.uid) = (enrolledEmpty dump settings).map (·.uid) := by
    rw [enrolledEmpty, List.map_map]
    exact Roster.map_entries_filter _ _ dump.candidates (·.isNone) fun _ uid => uid
  rw [skipped, hrefused, hempty]

/-- Every candidate is refused, or enrolled without a schema, or enrolled with one. -/
lemma fates_perm (dump : Dump) (settings : Settings) :
    (enrolledDeclared dump settings ++
      (refused dump settings ++ enrolledEmpty dump settings)).Perm dump.candidates := by
  have hparts := (filter_three_perm (refuses settings) (·.2.schema.isSome)
    (turns dump.candidates)).map Prod.snd
  rw [map_snd_turns, List.map_append, List.map_append] at hparts
  simpa [enrolledDeclared, refused, enrolledEmpty] using hparts

lemma enrolledDeclared_sublist (dump : Dump) (settings : Settings) :
    (enrolledDeclared dump settings).Sublist dump.candidates := by
  conv_rhs => rw [← map_snd_turns dump.candidates]
  exact List.filter_sublist.map _

lemma length_interfaces (c : Conversion) :
    c.count .contentType + c.count .component = c.interfaces.length := by
  unfold count
  induction c.interfaces with
  | nil => rfl
  | cons i is ih =>
    cases ho : i.origin <;> simp [ho] at ih ⊢ <;> omega

lemma uids_perm_keys (dump : Dump) (settings : Settings) :
    ((ofDump dump settings).interfaces.map (·.uid) ++ (ofDump dump settings).skipped).Perm
      dump.keys := by
  rw [map_uid_interfaces, skipped_eq_refused_append, ← List.map_append, ← List.map_append,
    ← dump.map_uid_candidates]
  exact (fates_perm dump settings).map _

/-- **Nothing is lost and nothing is counted twice**: the uids of the interfaces and the uids that
are left out are the keys of the registries, and each list tells them in their order. -/
theorem balanced (dump : Dump) (settings : Settings) :
    Balanced dump settings (ofDump dump settings) := by
  have hassembled := map_origin_uid_interfaces dump settings
  refine ⟨hassembled, skipped_eq_refused_append dump settings, uids_perm_keys dump settings, ?_,
    fun origin => ?_, length_interfaces _, ?_⟩
  · rw [map_uid_interfaces, ← dump.map_uid_candidates]
    exact (enrolledDeclared_sublist dump settings).map _
  · have h := congrArg (fun l => (l.filter fun k => k.1 = origin).length) hassembled
    simpa [List.filter_map, Function.comp_def, count] using h
  · have h := (uids_perm_keys dump settings).length_eq
    rw [length_interfaces]
    simpa [Dump.keys, OrderedMap.keys] using h

end Conversion

end CmsTypings
