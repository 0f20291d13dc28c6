import CmsTypings.Proofs.Recasing
import CmsTypings.Proofs.References

/-!
Names where the type parameter is in scope.

The interface of a schema binds a type parameter, and so do the two that list the schemas. Inside of
them the name of the parameter means the parameter, whatever the module declares. A declaration
takes this name if no suffix keeps it apart and it is made of a single letter, for the parameter is
not among the reserved names.
-/

namespace CmsTypings

open Naming Text

/-- The name that an interface binds in its header. -/
def typeParameter : String := "P"

/-! ### Names of one character -/

lemma Text.capitalizeNext_ne_nil {w : List Char} (h : w ≠ []) : capitalizeNext w ≠ [] := by
  cases w with
  | nil => exact absurd rfl h
  | cons c cs =>
    unfold capitalizeNext
    split <;> simp [capitalize]

/-- A name in Pascal case is one character long if its text has but one letter or digit. -/
lemma Text.pascal_eq_singleton_iff {text : List Char} {c : Char} :
    pascal text = [c] ↔ (text.filter Char.isAlphanum).map Char.toUpper = [c] := by
  have hne : ∀ w ∈ words text, w ≠ [] := fun w hw => ne_nil_of_mem_words hw
  rw [← flatten_words, pascal]
  generalize words text = ws at hne
  match ws with
  | [] => simp [joinWords]
  | [] :: ws => exact absurd rfl (hne [] (by simp))
  | [d :: ds] => simp [joinWords, capitalize]
  | (d :: ds) :: v :: vs =>
    have hv : v ≠ [] := hne v (by simp)
    simp [joinWords, capitalize, hv, capitalizeNext_ne_nil hv]

/-- The plain name of an entry is that of the type parameter, and no suffix keeps it apart. -/
def Entry.SpellsParameter (e : Entry) : Prop :=
  e.suffixed = false ∧
    (e.sourceName.toList.filter Char.isAlphanum).map Char.toUpper = typeParameter.toList

lemma Roster.name_eq_typeParameter_iff {filter : IgnoreFilter} {alwaysSuffix : Bool} {dump : Dump}
    {e : Entry} (h : e ∈ (ofDump filter alwaysSuffix dump).entries) :
    e.name = typeParameter ↔ e.SpellsParameter := by
  rcases name_cases h with ⟨hs, hn⟩ | ⟨hs, -, hn⟩
  · have hname : e.name = typeParameter ↔ pascal e.sourceName.toList = typeParameter.toList := by
      rw [hn, ← String.toList_inj, toList_pascalCase]
    have hletter : typeParameter.toList = ['P'] := rfl
    rw [hname, Entry.SpellsParameter, hletter, pascal_eq_singleton_iff]
    simp [hs]
  · have hlong : e.name ≠ typeParameter := by
      intro heq
      have hlength := congrArg String.length (hn.symm.trans heq)
      have hsuffix : componentSuffix.length = 9 := rfl
      have hletter : typeParameter.length = 1 := rfl
      rw [String.length_append] at hlength
      omega
    simp [hlong, Entry.SpellsParameter, hs]

/-! ### References in scope -/

namespace Conversion

variable {dump : Dump} {settings : Settings} {c : Conversion} {name : String}

/-- A name of a schema that is referred to where the type parameter is in scope. -/
inductive RefersInScope (c : Conversion) : String → Prop
  /-- What the properties of an interface depend on. -/
  | dependency {i : Interface} {target : String} (hi : i ∈ c.interfaces)
      (ht : target ∈ i.dependencies) : RefersInScope c target
  /-- The localizations of a schema have its own type. -/
  | localizations {i : Interface} (hi : i ∈ c.interfaces)
      (hp : ⟨"localizations", true, i.name ++ "[]"⟩ ∈ i.properties) : RefersInScope c i.name
  /-- The interfaces that list the schemas have one member for each. -/
  | member {origin : Origin} {name : String}
      (hm : name ∈ DeclarationModule.memberNames (c.interfaces.map Interface.block) origin) :
      RefersInScope c name

/-- Where the type parameter is in scope, a name means what the module declares under it. -/
structure MeansDeclared (c : Conversion) (name : String) : Prop where
  not_captured : name ≠ typeParameter
  declared : c.Declares name

lemma mem_memberNames_iff {origin : Origin} :
    name ∈ DeclarationModule.memberNames (c.interfaces.map Interface.block) origin ↔
      ∃ i ∈ c.interfaces, i.origin = origin ∧ i.name = name := by
  simp [DeclarationModule.memberNames, Interface.block, and_assoc]

lemma names_of_declares (h : c.Declares name) : Names c.roster.entries name := by
  obtain ⟨e, he, rfl, -, ⟨i, -, hi, -⟩, -⟩ := h
  obtain ⟨s, hs, -⟩ := ofEntry_eq_some_iff.1 hi
  exact ⟨e, he, by simp [hs], rfl⟩

lemma names_of_mem_interfaces {i : Interface} (h : i ∈ c.interfaces) :
    Names c.roster.entries i.name := by
  obtain ⟨e, he, s, hs, rfl⟩ := mem_interfaces_iff.1 h
  exact ⟨e, he, by simp [hs], rfl⟩

/-- What is referred to is declared. -/
lemma names_of_refersInScope (h : (ofDump dump settings).RefersInScope name) :
    Names (ofDump dump settings).roster.entries name := by
  cases h with
  | dependency hi ht =>
    obtain ⟨e, -, s, -, rfl⟩ := mem_interfaces_iff.1 hi
    exact names_of_declares (dependency_declared ht)
  | localizations hi hp => exact names_of_mem_interfaces hi
  | member hm =>
    obtain ⟨i, hi, -, rfl⟩ := mem_memberNames_iff.1 hm
    exact names_of_mem_interfaces hi

/-- Each schema that is declared is referred to, if only where the schemas are listed. -/
lemma refersInScope_of_declared {e : Entry} (he : e ∈ c.roster.entries)
    (hs : e.schema.isSome = true) : c.RefersInScope e.name := by
  obtain ⟨s, hs⟩ := Option.isSome_iff_exists.1 hs
  exact .member (mem_memberNames_iff.2 ⟨_, ofSchema_mem he hs, rfl, rfl⟩)

/-- **When no reference is captured by the type parameter.** -/
theorem refersInScope_meansDeclared_iff (dump : Dump) (settings : Settings) :
    (∀ name, (ofDump dump settings).RefersInScope name →
      (ofDump dump settings).MeansDeclared name) ↔
        ∀ e ∈ (ofDump dump settings).roster.entries, e.schema.isSome = true →
          ¬ e.SpellsParameter := by
  constructor
  · intro h e he hs hspells
    have hname : e.name = typeParameter := (Roster.name_eq_typeParameter_iff he).2 hspells
    exact (h e.name (refersInScope_of_declared he hs)).not_captured hname
  · intro h name hrefers
    have hnames := names_of_refersInScope hrefers
    refine ⟨?_, declares_of_names hnames⟩
    obtain ⟨e, he, hs, rfl⟩ := hnames
    intro hname
    exact h e he hs ((Roster.name_eq_typeParameter_iff he).1 hname)

/-- An article with a part, which is a component of the name of the type parameter. -/
def articlePart : Dump where
  contentTypes := .ofList
    [("api::article.article",
      some { singularName := some "article"
             attributes := .ofList [("part", ⟨.component "shared.p" false none, false⟩)] })]
  components := .ofList [("shared.p", some { displayName := some "P" })]

/-- The part of the article has the type parameter for its type. -/
theorem articlePart_captured :
    ¬ ∀ name, (ofDump articlePart {}).RefersInScope name →
      (ofDump articlePart {}).MeansDeclared name := by
  intro h
  have hpart : ∃ i ∈ (ofDump articlePart {}).interfaces, typeParameter ∈ i.dependencies := by
    decide +kernel
  obtain ⟨i, hi, ht⟩ := hpart
  exact (h typeParameter (.dependency hi ht)).not_captured rfl

end Conversion

end CmsTypings
