import CmsTypings.Interface.Basic
import CmsTypings.Proofs.Outcome
import CmsTypings.Proofs.Resolution

/-!
What attributes become.

An attribute that is not omitted becomes one of four things: the fixed property of the media
type, a property that refers to a declaration, a property with an enumeration of its own, or a
plain property. Everything said below about members is read off these four cases.
-/

namespace CmsTypings

open Naming

lemma map_filterMap_sublist {α β γ : Type} {f : α → Option β} {g : β → γ} {k : α → γ}
    (h : ∀ a b, f a = some b → g b = k a) (l : List α) :
    ((l.filterMap f).map g).Sublist (l.map k) := by
  induction l with
  | nil => exact .slnil
  | cons a l ih =>
    cases hf : f a with
    | none =>
      rw [List.filterMap_cons_none hf, List.map_cons]
      exact ih.cons _
    | some b =>
      rw [List.filterMap_cons_some hf, List.map_cons, List.map_cons, h a b hf]
      exact ih.cons_cons _

namespace Attribute

/-- Whether the property of an attribute refers to another schema. -/
def isReference (a : Attribute) : Bool :=
  match a.content with
  | .relation _ _ | .component _ _ _ | .media _ => true
  | _ => false

/-- The values of an enumeration. -/
def enumValues (a : Attribute) : Option (List String) :=
  match a.content with
  | .enumeration values _ => some values
  | _ => none

end Attribute

namespace Member

variable {ctx : Context} {entry : Entry} {name : String} {a : Attribute} {m : Member}

/-- The forms in which the type of a property refers to a declaration. -/
inductive RefersTo (target : String) : String → Prop
  | switched (array : Bool) : RefersTo target (populated target array)
  | one : RefersTo target target
  | many : RefersTo target (target ++ "[]")

/-- The members that an attribute can become. -/
inductive Becomes (ctx : Context) (entry : Entry) (name : String) (a : Attribute) : Member → Prop
  | formats (hf : isMediaFormats entry name = true) :
      Becomes ctx entry name a { property := mediaFormats }
  | reference {type target : String} (optional : Bool) (hf : isMediaFormats entry name = false)
      (ha : a.isReference = true) (hn : Names ctx.entries target) (ht : RefersTo target type) :
      Becomes ctx entry name a
        { property := ⟨name, optional, type⟩, dependency := some target }
  | enumeration {values : List String} (hf : isMediaFormats entry name = false)
      (ha : a.enumValues = some values) :
      Becomes ctx entry name a
        { property := ⟨name, a.isOptional, enumName entry.name name⟩
          enum := some ⟨enumName entry.name name, values⟩ }
  | plain {type : String} (optional : Bool) (hf : isMediaFormats entry name = false)
      (hr : a.isReference = false) (he : a.enumValues = none) :
      Becomes ctx entry name a { property := ⟨name, optional, type⟩ }

lemma target_eq_ok_iff {uid type : String} {name? : Option String} :
    target ctx uid name? = .ok type ↔ ctx.filter.skips uid = false ∧ name? = some type := by
  unfold target
  cases hs : ctx.filter.skips uid
  · cases name? <;> simp
  · simp

lemma names_of_componentTarget {reference type : String} {user : Option String}
    (h : componentTarget ctx reference user = .ok type) : Names ctx.entries type := by
  unfold componentTarget at h
  split at h
  · exact names_of_relationName? (target_eq_ok_iff.1 h).2
  · exact names_of_componentName? (target_eq_ok_iff.1 h).2

/-- Every member that an attribute becomes is one of the four. -/
lemma becomes_of_ofAttribute (h : ofAttribute ctx entry name a = .ok m) :
    Becomes ctx entry name a m := by
  obtain ⟨content, required⟩ := a
  unfold ofAttribute at h
  split at h
  · next hf =>
    cases h
    exact .formats hf
  · next hf =>
    have hf : isMediaFormats entry name = false := by simpa using hf
    cases content with
    | relation arity target =>
      cases target with
      | none => cases h
      | some uid =>
        obtain ⟨type, ht, h⟩ := bind_eq_ok.1 h
        cases h
        exact .reference _ hf rfl (names_of_relationName? (target_eq_ok_iff.1 ht).2) (.switched _)
    | component reference repeatable user =>
      obtain ⟨type, ht, h⟩ := bind_eq_ok.1 h
      cases h
      have hn := names_of_componentTarget ht
      cases repeatable
      · exact .reference _ hf rfl hn .one
      · exact .reference _ hf rfl hn .many
    | media multiple =>
      cases hm : mediaTypeName? ctx.entries with
      | none => simp [hm] at h
      | some type =>
        simp only [hm, Except.ok.injEq] at h
        subst h
        exact .reference _ hf rfl (names_of_mediaTypeName? hm) (.switched _)
    | enumeration values default =>
      cases h
      exact .enumeration hf rfl
    | password => cases h
    | dynamicZone | text | json | number | date | boolean | unknown =>
      cases h
      exact .plain _ hf rfl rfl

/-- A property bears the name of its attribute. -/
lemma name_of_ofAttribute (h : ofAttribute ctx entry name a = .ok m) : m.property.name = name := by
  cases becomes_of_ofAttribute h with
  | formats hf =>
    simp only [isMediaFormats, Bool.and_eq_true, beq_iff_eq] at hf
    exact hf.2.symm
  | reference | enumeration | plain => rfl

/-- An enumeration is never omitted. -/
lemma ofAttribute_enumeration {values : List String} (hf : isMediaFormats entry name = false)
    (ha : a.enumValues = some values) :
    ofAttribute ctx entry name a =
      .ok { property := ⟨name, a.isOptional, enumName entry.name name⟩
            enum := some ⟨enumName entry.name name, values⟩ } := by
  obtain ⟨content, required⟩ := a
  cases content <;> simp only [Attribute.enumValues, Option.some.injEq, reduceCtorEq] at ha
  subst ha
  simp [ofAttribute, hf]

end Member

namespace Interface

variable {ctx : Context} {entry : Entry} {schema : Schema} {m : Member}

lemma mem_members_iff :
    m ∈ members ctx entry schema ↔
      ∃ n a, (n, a) ∈ schema.attributes.entries ∧ Member.ofAttribute ctx entry n a = .ok m := by
  unfold members
  rw [List.mem_filterMap]
  constructor
  · rintro ⟨⟨n, a⟩, hm, h⟩
    cases ho : Member.ofAttribute ctx entry n a with
    | error => simp [ho, Except.toOption] at h
    | ok m' =>
      simp only [ho, Except.toOption, Option.some.injEq] at h
      exact ⟨n, a, hm, h ▸ ho⟩
  · rintro ⟨n, a, hm, h⟩
    exact ⟨(n, a), hm, by simp [h, Except.toOption]⟩

lemma property_mem (h : m ∈ members ctx entry schema) :
    m.property ∈ (ofSchema ctx entry schema).properties := by
  have hp : m.property ∈ (members ctx entry schema).map (·.property) := List.mem_map_of_mem h
  simp [ofSchema, hp]

/-- The blocks of an interface are those of its schema's enumerations. -/
lemma mem_enums_iff {b : EnumBlock} :
    b ∈ (ofSchema ctx entry schema).enums ↔
      ∃ n a, (n, a) ∈ schema.attributes.entries ∧ Member.isMediaFormats entry n = false ∧
        a.enumValues = some b.values ∧ b.name = enumName entry.name n := by
  simp only [ofSchema, List.mem_eraseDups, List.mem_filterMap]
  constructor
  · rintro ⟨m, hm, hb⟩
    obtain ⟨n, a, ha, ho⟩ := mem_members_iff.1 hm
    cases Member.becomes_of_ofAttribute ho with
    | enumeration hf hv =>
      obtain rfl := Option.some.inj hb
      exact ⟨n, a, ha, hf, hv, rfl⟩
    | formats | reference | plain => cases hb
  · rintro ⟨n, a, ha, hf, hv, hn⟩
    obtain ⟨name, values⟩ := b
    subst hn
    exact ⟨_, mem_members_iff.2 ⟨n, a, ha, Member.ofAttribute_enumeration hf hv⟩, rfl⟩

end Interface

end CmsTypings
