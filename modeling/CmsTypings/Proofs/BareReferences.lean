import CmsTypings.Conversion
import CmsTypings.Proofs.BaseNames

/-!
References by a bare name.

A bare name is looked up among all components, and only the one that is found first is asked
whether it is declared. Of two components of one plain name the unsuffixed one is found first. So a
declared component is missed exactly if an empty one bears its plain name unsuffixed.
-/

namespace CmsTypings

open Naming Text

namespace Naming

variable {entries : List Entry} {reference name : String}

/-- A declared component of the name that a reference gives. -/
structure Answers (reference : String) (e : Entry) : Prop where
  component : e.origin = .component
  declared : e.schema.isSome = true
  baseName : pascalCase e.sourceName = pascalCase reference

/-- An empty component that bears the name of a reference itself. -/
structure Masks (reference : String) (e : Entry) : Prop where
  component : e.origin = .component
  empty : e.schema.isSome = false
  unsuffixed : e.suffixed = false
  baseName : pascalCase e.sourceName = pascalCase reference

/-- A reference has a name to give exactly if a declared component answers to it, and the name is
that of such a component. -/
structure FindsDeclared (entries : List Entry) (reference : String) : Prop where
  found : (∃ name, componentName? entries reference = some name) ↔
    ∃ e ∈ entries, Answers reference e
  named : ∀ name, componentName? entries reference = some name →
    ∃ e ∈ entries, Answers reference e ∧ e.name = name

lemma componentName?_eq_some_iff_of_bare (h : isUid reference = false) :
    componentName? entries reference = some name ↔
      ∃ e, componentNamed? entries (pascalCase reference) = some e ∧ e.schema.isSome = true ∧
        e.name = name := by
  simp [componentName?, component?, h, and_assoc]

end Naming

namespace Roster

variable {filter : IgnoreFilter} {alwaysSuffix : Bool} {dump : Dump} {e : Entry}
  {reference : String}

lemma bearsName_of_answers (he : e ∈ (ofDump filter alwaysSuffix dump).entries)
    (h : Answers reference e) : bearsName (pascalCase reference) e = true :=
  (bearsName_iff he).2 ⟨h.component, h.baseName⟩

/-- Of an empty component and a declared one the search finds the empty one, if that is the
unsuffixed one. -/
lemma not_answers_of_masks {found : Entry}
    (hfind : componentNamed? (ofDump filter alwaysSuffix dump).entries (pascalCase reference) =
      some found)
    (hfound : found.schema.isSome = true) (he : e ∈ (ofDump filter alwaysSuffix dump).entries) :
    ¬ Masks reference e := by
  intro hmasks
  have hbears : bearsName (pascalCase reference) e = true :=
    (bearsName_iff he).2 ⟨hmasks.component, hmasks.baseName⟩
  have hne : e ≠ found := by
    rintro rfl
    simp [hmasks.empty] at hfound
  have hsuffixed := (suffixed_of_componentNamed? hfind he hbears hne).2
  simp [hmasks.unsuffixed] at hsuffixed

/-- What is found first answers to the reference, or else it masks those that do. -/
lemma answers_or_masks {found : Entry}
    (hfind : componentNamed? (ofDump filter alwaysSuffix dump).entries (pascalCase reference) =
      some found)
    (he : e ∈ (ofDump filter alwaysSuffix dump).entries) (hanswers : Answers reference e) :
    Answers reference found ∨ Masks reference found := by
  obtain ⟨horigin, hbase⟩ :=
    (bearsName_iff (List.mem_of_find?_eq_some hfind)).1 (List.find?_some hfind)
  cases hschema : found.schema.isSome with
  | true => exact Or.inl ⟨horigin, hschema, hbase⟩
  | false =>
    have hne : e ≠ found := by
      rintro rfl
      simp [hanswers.declared] at hschema
    have hbears := bearsName_of_answers he hanswers
    exact Or.inr ⟨horigin, hschema, (suffixed_of_componentNamed? hfind he hbears hne).1, hbase⟩

end Roster

namespace Conversion

/-- **When a bare reference finds every declared component of its name.** -/
theorem findsDeclared_iff (dump : Dump) (settings : Settings) {reference : String}
    (h : isUid reference = false) :
    FindsDeclared (ofDump dump settings).roster.entries reference ↔
      ¬ ∃ e ∈ (ofDump dump settings).roster.entries,
        ∃ f ∈ (ofDump dump settings).roster.entries, Masks reference e ∧ Answers reference f := by
  constructor
  · rintro hfinds ⟨e, he, f, hf, hmasks, hanswers⟩
    obtain ⟨name, hname⟩ := hfinds.found.2 ⟨f, hf, hanswers⟩
    obtain ⟨found, hfind, hdeclared, -⟩ := (componentName?_eq_some_iff_of_bare h).1 hname
    exact Roster.not_answers_of_masks hfind hdeclared he hmasks
  · intro hunmasked
    have hnamed : ∀ name,
        componentName? (ofDump dump settings).roster.entries reference = some name →
          ∃ e ∈ (ofDump dump settings).roster.entries, Answers reference e ∧ e.name = name := by
      intro name hname
      obtain ⟨found, hfind, hdeclared, rfl⟩ := (componentName?_eq_some_iff_of_bare h).1 hname
      have hmem := List.mem_of_find?_eq_some hfind
      obtain ⟨horigin, hbase⟩ := (Roster.bearsName_iff hmem).1 (List.find?_some hfind)
      exact ⟨found, hmem, ⟨horigin, hdeclared, hbase⟩, rfl⟩
    refine ⟨⟨?_, ?_⟩, hnamed⟩
    · rintro ⟨name, hname⟩
      obtain ⟨e, he, hanswers, -⟩ := hnamed name hname
      exact ⟨e, he, hanswers⟩
    · rintro ⟨e, he, hanswers⟩
      have hsome : (componentNamed? (ofDump dump settings).roster.entries
          (pascalCase reference)).isSome = true :=
        List.find?_isSome.2 ⟨e, he, Roster.bearsName_of_answers he hanswers⟩
      obtain ⟨found, hfind⟩ := Option.isSome_iff_exists.1 hsome
      rcases Roster.answers_or_masks hfind he hanswers with hfound | hfound
      · exact ⟨found.name, (componentName?_eq_some_iff_of_bare h).2
          ⟨found, hfind, hfound.declared, rfl⟩⟩
      · exact absurd ⟨found, List.mem_of_find?_eq_some hfind, e, he, hfound, hanswers⟩ hunmasked

/-- A page with an address, and components of that name. -/
def addressedPage (components : List (String × Option Schema)) : Dump where
  contentTypes := .ofList
    [("api::page.page",
      some { singularName := some "page"
             attributes := .ofList [("address", ⟨.component "address" false none, false⟩)] })]
  components := .ofList components

def sharedAddress : String × Option Schema :=
  ("shared.address", some { displayName := some "Address" })

def emptyAddress : String × Option Schema := ("billing.address", none)

/-- An empty component that comes later is suffixed and hides nothing. -/
theorem addressedPage_finds :
    FindsDeclared (ofDump (addressedPage [sharedAddress, emptyAddress]) {}).roster.entries
      "address" := by
  have hsuffixed : ∀ e ∈ (ofDump (addressedPage [sharedAddress, emptyAddress]) {}).roster.entries,
      e.schema.isSome = false → e.suffixed = true := by decide +kernel
  refine (findsDeclared_iff _ _ (by decide)).2 ?_
  rintro ⟨e, he, -, -, hmasks, -⟩
  have hunsuffixed := hmasks.unsuffixed
  simp [hsuffixed e he hmasks.empty] at hunsuffixed

/-- An empty component that comes first hides the declared one. -/
theorem addressedPage_misses :
    ¬ FindsDeclared (ofDump (addressedPage [emptyAddress, sharedAddress]) {}).roster.entries
      "address" := by
  intro h
  have hnothing :
      componentName? (ofDump (addressedPage [emptyAddress, sharedAddress]) {}).roster.entries
        "address" = none := by decide +kernel
  have hshared : ∃ e ∈ (ofDump (addressedPage [emptyAddress, sharedAddress]) {}).roster.entries,
      e.origin = .component ∧ e.schema.isSome = true ∧
        pascalCase e.sourceName = pascalCase "address" := by decide +kernel
  obtain ⟨e, he, horigin, hdeclared, hbase⟩ := hshared
  obtain ⟨name, hname⟩ := h.found.2 ⟨e, he, horigin, hdeclared, hbase⟩
  simp [hnothing] at hname

end Conversion

end CmsTypings
