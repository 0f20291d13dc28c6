import CmsTypings.Conversion
import CmsTypings.Proofs.BaseNames

/-!
Components found by their plain name.

The search for a component compares final names: that of an unsuffixed component with the name it
looks for, that of a suffixed one with the name and the suffix behind it. On a roster this comes to
asking for the plain name, whether or not a plain name ends like the suffix itself, for an entry
knows if it was suffixed. The components of one plain name are few: an unsuffixed one, and one more
with the suffix.
-/

namespace CmsTypings

open Naming Text

/-- Whether an entry is a component of the given plain name. -/
def Entry.isOfPlainName (name : String) (e : Entry) : Bool :=
  e.origin = .component && pascalCase e.sourceName == name

lemma Entry.isOfPlainName_iff {name : String} {e : Entry} :
    e.isOfPlainName name = true ↔ e.origin = .component ∧ pascalCase e.sourceName = name := by
  simp [isOfPlainName]

section Pairwise

variable {α : Type} {l : List α} {p : α → Bool}

lemma length_le_one_of_pairwise (h : l.Pairwise fun _ _ => False) : l.length ≤ 1 := by
  match l, h with
  | [], _ | [_], _ => simp
  | a :: b :: _, h =>
    rw [List.pairwise_cons] at h
    exact (h.1 b List.mem_cons_self).elim

/-- Where of any two elements the first fails a test and the second passes it, there are no three:
the one in the middle would do both. -/
lemma length_le_two_of_pairwise (h : l.Pairwise fun a b => p a = false ∧ p b = true) :
    l.length ≤ 2 := by
  match l, h with
  | [], _ | [_], _ | [_, _], _ => simp
  | a :: b :: c :: _, h =>
    rw [List.pairwise_cons, List.pairwise_cons] at h
    have hpasses : p b = true := (h.1 b (by simp)).2
    have hfails : p b = false := (h.2.1 c (by simp)).1
    simp [hpasses] at hfails

end Pairwise

namespace Roster

variable {filter : IgnoreFilter} {alwaysSuffix : Bool} {dump : Dump}

/-- The components of one plain name, in the order of the roster. -/
def ofPlainName (entries : List Entry) (name : String) : List Entry :=
  entries.filter (Entry.isOfPlainName name)

lemma bearsName_eq_isOfPlainName {e : Entry} (name : String)
    (h : e ∈ (ofDump filter alwaysSuffix dump).entries) :
    bearsName name e = e.isOfPlainName name := by
  rw [Bool.eq_iff_iff, bearsName_iff h, Entry.isOfPlainName_iff]

/-- Two components of one plain name are an unsuffixed one and a suffixed one after it. -/
lemma pairwise_ofPlainName (filter : IgnoreFilter) (alwaysSuffix : Bool) (dump : Dump)
    (name : String) :
    (ofPlainName (ofDump filter alwaysSuffix dump).entries name).Pairwise fun e f =>
      e.suffixed = false ∧ f.suffixed = true := by
  have hpair := pairwise_baseName filter.skips (.fresh alwaysSuffix) dump.candidates
  refine (hpair.filter _).imp_of_mem fun he hf h => ?_
  obtain ⟨heo, hebase⟩ := Entry.isOfPlainName_iff.1 (List.mem_filter.1 he).2
  obtain ⟨hfo, hfbase⟩ := Entry.isOfPlainName_iff.1 (List.mem_filter.1 hf).2
  exact h heo hfo (hebase.trans hfbase.symm)

end Roster

/-- The search for a component goes by the plain name, and few components have one plain name. -/
structure SearchedByPlainName (entries : List Entry) (alwaysSuffix : Bool) (name : String) :
    Prop where
  found : componentNamed? entries name = entries.find? (Entry.isOfPlainName name)
  atMostTwo : (Roster.ofPlainName entries name).length ≤ 2
  unsuffixed : ((Roster.ofPlainName entries name).filter fun e => !e.suffixed).length ≤ 1
  forced : alwaysSuffix = true → (Roster.ofPlainName entries name).length ≤ 1

/-- **A component is found by its plain name.** Whatever name is looked for, the first component of
that plain name is found, and nothing if there is none. There are two of them at most, not more
than one without the suffix, and only one if suffixes are forced. -/
theorem Conversion.searchedByPlainName (dump : Dump) (settings : Settings) (name : String) :
    SearchedByPlainName (ofDump dump settings).roster.entries
      settings.alwaysSuffixComponentNames name := by
  have hpair := Roster.pairwise_ofPlainName (IgnoreFilter.ofRules settings.idsToIgnore)
    settings.alwaysSuffixComponentNames dump name
  refine ⟨?_, length_le_two_of_pairwise hpair, ?_, fun hforced => ?_⟩
  · exact List.find?_congr fun e he => Roster.bearsName_eq_isOfPlainName name he
  · refine length_le_one_of_pairwise ((hpair.filter _).imp_of_mem fun _ hf h => ?_)
    have hunsuffixed := (List.mem_filter.1 hf).2
    simp [h.2] at hunsuffixed
  · refine length_le_one_of_pairwise (hpair.imp_of_mem fun he _ h => ?_)
    obtain ⟨he, hplain⟩ := List.mem_filter.1 he
    have hsuffixed := Roster.suffixed_of_held he (Entry.isOfPlainName_iff.1 hplain).1
      (Or.inl hforced)
    simp [h.1] at hsuffixed

/-- Components of which two have one plain name, and one a plain name that ends like the suffix. -/
def heroes : Dump where
  components := .ofList
    [("shared.hero", some { displayName := some "Hero" }),
     ("blog.hero", some { displayName := some "hero" }),
     ("shared.hero-component", some { displayName := some "Hero Component" })]

/-- The name of the second component is not what it is found by. -/
example : (Conversion.ofDump heroes {}).roster.entries.map (fun e => (e.uid, e.name)) =
      [("shared.hero", "Hero"), ("blog.hero", "HeroComponent"),
        ("shared.hero-component", "HeroComponentComponent")] ∧
    (componentNamed? (Conversion.ofDump heroes {}).roster.entries "HeroComponent").map (·.uid) =
      some "shared.hero-component" := by
  decide +kernel

end CmsTypings
