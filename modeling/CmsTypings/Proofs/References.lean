import CmsTypings.Conversion
import CmsTypings.Proofs.Members
import CmsTypings.Proofs.RosterNames

/-!
References inside a module.

A property that refers to another schema has a type written around one name. That name can be
read back off the line of the property, it is what the property depends on, and the module declares
it: each of the routes of resolution ends at an entry that has a schema, and such an entry is
assembled. The line of an enumeration's property likewise gives it the name of a block of the same
interface for its type.
-/

namespace CmsTypings

open Naming Text

/-! ### The type in a line -/

lemma dropPrefix?_append (p rest : List Char) : (p ++ rest).dropPrefix? p = some rest :=
  List.dropPrefix?_append_of_beq rest (beq_self_eq_true p)

/-- A text without the marker that it may begin with. -/
def withoutMarker (text : List Char) : List Char := (text.dropPrefix? ['?']).getD text

/-- The type that the line of a property gives it. It stands behind the name of the property, the
marker, if the line bears one, and a colon, and goes up to the end of the line. -/
def lineType? (name line : String) : Option String := do
  let text ← line.toList.dropPrefix? ("  " ++ name).toList
  let text ← (withoutMarker text).dropPrefix? ": ".toList
  let type ← text.dropSuffix? ";\n".toList
  return String.ofList type

lemma withoutMarker_append (marked : Bool) (rest : List Char) :
    withoutMarker ((if marked then "?" else "").toList ++ (": ".toList ++ rest)) =
      ": ".toList ++ rest := by
  cases marked <;> simp [withoutMarker, List.dropPrefix?]

/-- The line of a property is read as the type that was written. -/
lemma lineType?_line (p : Property) : lineType? p.name p.line = some p.type := by
  have hline : p.line.toList = ("  " ++ p.name).toList ++ ((if p.optional then "?" else "").toList ++
      (": ".toList ++ (p.type.toList ++ ";\n".toList))) := by
    simp [Property.line]
  have hend : (p.type.toList ++ ";\n".toList).dropSuffix? ";\n".toList = some p.type.toList :=
    List.dropSuffix?_eq_some_iff.2 ⟨_, rfl, beq_self_eq_true _⟩
  rw [lineType?, hline]
  simp only [Option.bind_eq_bind, Option.bind_some, dropPrefix?_append, withoutMarker_append, hend,
    String.ofList_toList]
  rfl

/-! ### The name in a type -/

/-- What stands before the populated form of a switched type. -/
def switchText : String := "P extends true ? "

/-- The name that a reference's type is written around. -/
def writtenName (type : String) : String :=
  let cs := type.toList
  String.ofList
    ((if switchText.toList.isPrefixOf cs then cs.drop switchText.toList.length else cs).takeWhile
      isNameChar)

lemma takeWhile_name {name rest : List Char} (h : ∀ c ∈ name, isNameChar c = true)
    (hr : rest.takeWhile isNameChar = []) : (name ++ rest).takeWhile isNameChar = name := by
  rw [List.takeWhile_append_of_pos h, hr, List.append_nil]

/-- No switch is read where none is written: it holds a blank. -/
lemma switchText_not_prefix {cs : List Char} (h : ' ' ∉ cs) :
    switchText.toList.isPrefixOf cs = false := by
  rw [Bool.eq_false_iff]
  intro hp
  have hsub := (List.isPrefixOf_iff_prefix.1 hp).subset
  exact h (hsub (by decide))

lemma populated_eq (name : String) (array : Bool) :
    ∃ rest : String, rest.toList.takeWhile isNameChar = [] ∧
      Member.populated name array = switchText ++ (name ++ rest) := by
  cases array
  · refine ⟨"<P> | null : number | null", ?_, String.append_assoc⟩
    simp [isNameChar]
  · refine ⟨"<P>[] : number[]", ?_, String.append_assoc⟩
    simp [isNameChar]

lemma writtenName_populated {name : String} (h : ∀ c ∈ name.toList, isNameChar c = true)
    (array : Bool) : writtenName (Member.populated name array) = name := by
  obtain ⟨rest, hrest, htype⟩ := populated_eq name array
  have hp : switchText.toList.isPrefixOf (switchText.toList ++ (name.toList ++ rest.toList)) =
      true := List.isPrefixOf_iff_prefix.2 (List.prefix_append _ _)
  unfold writtenName
  rw [htype, String.toList_append, String.toList_append]
  simp only [hp, if_true, List.drop_left]
  rw [takeWhile_name h hrest, String.ofList_toList]

lemma writtenName_of_refersTo {name type : String} (h : ∀ c ∈ name.toList, isNameChar c = true)
    (ht : Member.RefersTo name type) : writtenName type = name := by
  have hblank : ' ' ∉ name.toList := fun hm => absurd (h _ hm) (by decide)
  cases ht with
  | switched array => exact writtenName_populated h array
  | one =>
    have hall := List.takeWhile_eq_self_iff.2 h
    simp [writtenName, switchText_not_prefix hblank, hall]
  | many =>
    have hmany : (name ++ "[]").toList = name.toList ++ "[]".toList := String.toList_append
    have hb : ' ' ∉ name.toList ++ "[]".toList := by simp [hblank]
    simp only [writtenName, hmany, switchText_not_prefix hb]
    rw [if_neg (by simp), takeWhile_name h (by decide), String.ofList_toList]

/-- The name that the line of a property refers to. -/
def lineReference? (name line : String) : Option String := (lineType? name line).map writtenName

lemma lineReference?_line {p : Property} {name : String}
    (h : ∀ c ∈ name.toList, isNameChar c = true) (ht : Member.RefersTo name p.type) :
    lineReference? p.name p.line = some name := by
  rw [lineReference?, lineType?_line, Option.map_some, writtenName_of_refersTo h ht]

/-! ### What is assembled -/

/-- The one attribute of the media type whose property has a fixed form. -/
def Entry.FixesForm (e : Entry) (n : String) : Prop :=
  e.origin = .contentType ∧ e.sourceName = "media" ∧ n = "formats"

instance (e : Entry) (n : String) : Decidable (e.FixesForm n) :=
  inferInstanceAs (Decidable (_ ∧ _ ∧ _))

lemma Member.isMediaFormats_eq_false_iff {e : Entry} {n : String} :
    isMediaFormats e n = false ↔ ¬ e.FixesForm n := by
  simp [isMediaFormats, Entry.FixesForm, mediaName]

/-- The line of each property is in the text of its interface. -/
lemma Interface.exists_body_eq {i : Interface} {p : Property} (h : p ∈ i.properties) :
    ∃ before behind, i.body = before ++ p.line ++ behind := by
  obtain ⟨front, rest, hp⟩ := List.append_of_mem h
  refine ⟨header i.name ++ String.join (front.map Property.line),
    String.join (rest.map Property.line) ++ "\x7d\n", ?_⟩
  simp [body, hp, String.append_assoc]

namespace Conversion

variable {dump : Dump} {settings : Settings} {c : Conversion} {e : Entry} {i : Interface}

lemma ofEntry_eq_some_iff :
    Interface.ofEntry c.context e = some i ↔
      ∃ s, e.schema = some s ∧ i = Interface.ofSchema c.context e s := by
  simp only [Interface.ofEntry, Option.map_eq_some_iff, @eq_comm _ i]

lemma mem_interfaces_iff :
    i ∈ c.interfaces ↔ ∃ e ∈ c.roster.entries, ∃ s, e.schema = some s ∧
      i = Interface.ofSchema c.context e s := by
  simp [interfaces, assembled, ofEntry_eq_some_iff]

lemma ofSchema_mem {s : Schema} (he : e ∈ c.roster.entries) (hs : e.schema = some s) :
    Interface.ofSchema c.context e s ∈ c.interfaces :=
  mem_interfaces_iff.2 ⟨e, he, s, hs, rfl⟩

/-- A name that the module declares: it is borne by one entry, which was enrolled under it and
not ignored, and whose schema is assembled. -/
def Declares (c : Conversion) (name : String) : Prop :=
  ∃ e ∈ c.roster.entries, e.name = name ∧ c.filter.skips e.uid = false ∧
    (∃ i ∈ c.interfaces, Interface.ofEntry c.context e = some i ∧ i.name = name) ∧
    ∀ f ∈ c.roster.entries, f.name = name → f = e

lemma declares_of_names {name : String}
    (h : Names (ofDump dump settings).context.entries name) :
    (ofDump dump settings).Declares name := by
  obtain ⟨e, he, hs, rfl⟩ := h
  obtain ⟨s, hs⟩ := Option.isSome_iff_exists.1 hs
  have hi : Interface.ofEntry (ofDump dump settings).context e = some _ :=
    ofEntry_eq_some_iff.2 ⟨s, hs, rfl⟩
  exact ⟨e, he, rfl, Roster.not_skipped he, ⟨_, ofSchema_mem he hs, hi, rfl⟩,
    fun f hf hn => Roster.eq_of_name_eq hf he hn⟩

lemma nameChar_of_names {name : String}
    (h : Names (ofDump dump settings).context.entries name) :
    ∀ d ∈ name.toList, isNameChar d = true := by
  obtain ⟨e, he, -, rfl⟩ := h
  exact fun d hd => Roster.nameChar_of_mem_name he hd

/-- The line of a property stands in its interface, and what it refers to is where it says. -/
structure PropertyIntact (i : Interface) (n : String) (a : Attribute) (m : Member) : Prop where
  emitted : m.property ∈ i.properties
  written : ∃ before behind, i.body = before ++ m.property.line ++ behind
  reference : a.isReference = true →
    ∃ target ∈ i.dependencies, m.dependency = some target ∧
      lineReference? n m.property.line = some target
  enumeration : a.enumValues.isSome = true →
    ∃ b ∈ i.enums, lineType? n m.property.line = some b.name

/-- The references of a module hold: every dependency is declared, every property of a reference
or an enumeration refers to what is recorded, and no enumeration is without a property. The names
that are compared are those in the texts of interfaces and enumerations. -/
structure Intact (c : Conversion) : Prop where
  declared : ∀ i ∈ c.interfaces, ∀ d ∈ i.dependencies, c.Declares d
  properties : ∀ e ∈ c.roster.entries, ∀ s, e.schema = some s →
    ∀ n a m, (n, a) ∈ s.attributes.entries → ¬ e.FixesForm n →
      Member.ofAttribute c.context e n a = .ok m →
        PropertyIntact (Interface.ofSchema c.context e s) n a m
  enums : ∀ i ∈ c.interfaces, ∀ b ∈ i.enums,
    ∃ p ∈ i.properties, lineType? p.name p.line = some b.name
  interfaceTexts : ∀ i ∈ c.interfaces, ∃ lines,
    i.body = "export interface " ++ i.name ++ "<P extends boolean = true> \x7b\n" ++ lines
  enumTexts : ∀ i ∈ c.interfaces, ∀ b ∈ i.enums, ∃ members,
    b.render = "export enum " ++ b.name ++ " \x7b\n" ++ members

lemma dependency_declared {s : Schema} {d : String}
    (hd : d ∈ (Interface.ofSchema (ofDump dump settings).context e s).dependencies) :
    (ofDump dump settings).Declares d := by
  obtain ⟨m, hm, hd⟩ := List.mem_filterMap.1 (List.mem_eraseDups.1 hd)
  obtain ⟨n, a, -, ho⟩ := Interface.mem_members_iff.1 hm
  cases Member.becomes_of_ofAttribute ho with
  | reference optional hf ha hn ht =>
    obtain rfl := Option.some.inj hd
    exact declares_of_names hn
  | formats | enumeration | plain => cases hd

lemma property_intact {s : Schema} {n : String} {a : Attribute} {m : Member}
    (ha : (n, a) ∈ s.attributes.entries) (hf : Member.isMediaFormats e n = false)
    (ho : Member.ofAttribute (ofDump dump settings).context e n a = .ok m) :
    PropertyIntact (Interface.ofSchema (ofDump dump settings).context e s) n a m := by
  have hm : m ∈ Interface.members (ofDump dump settings).context e s :=
    Interface.mem_members_iff.2 ⟨n, a, ha, ho⟩
  have hp := Interface.property_mem hm
  refine ⟨hp, Interface.exists_body_eq hp, ?_, ?_⟩
  · intro hr
    cases Member.becomes_of_ofAttribute ho with
    | @reference type target optional hf' ha' hn ht =>
      refine ⟨target, ?_, rfl, lineReference?_line (nameChar_of_names hn) ht⟩
      exact List.mem_eraseDups.2 (List.mem_filterMap.2 ⟨_, hm, rfl⟩)
    | formats hf' => simp [hf] at hf'
    | enumeration hf' he =>
      obtain ⟨content, required⟩ := a
      cases content <;> simp [Attribute.isReference, Attribute.enumValues] at hr he
    | plain optional hf' hr' => simp [hr] at hr'
  · intro he
    obtain ⟨values, hv⟩ := Option.isSome_iff_exists.1 he
    rw [Member.ofAttribute_enumeration hf hv] at ho
    cases ho
    have hb : (⟨enumName e.name n, values⟩ : EnumBlock) ∈
        (Interface.ofSchema (ofDump dump settings).context e s).enums :=
      Interface.mem_enums_iff.2 ⟨n, a, ha, hf, hv, rfl⟩
    exact ⟨_, hb, lineType?_line _⟩

lemma enum_has_property {ctx : Context} {s : Schema} {b : EnumBlock}
    (hb : b ∈ (Interface.ofSchema ctx e s).enums) :
    ∃ p ∈ (Interface.ofSchema ctx e s).properties, lineType? p.name p.line = some b.name := by
  obtain ⟨n, a, ha, hf, hv, hn⟩ := Interface.mem_enums_iff.1 hb
  have hm : _ ∈ Interface.members ctx e s :=
    Interface.mem_members_iff.2 ⟨n, a, ha, Member.ofAttribute_enumeration hf hv⟩
  refine ⟨_, Interface.property_mem hm, ?_⟩
  rw [lineType?_line, hn]

/-- **References are intact** in the module of every dump. -/
theorem references_intact (dump : Dump) (settings : Settings) :
    (ofDump dump settings).Intact where
  declared i hi d hd := by
    obtain ⟨e, -, s, -, rfl⟩ := mem_interfaces_iff.1 hi
    exact dependency_declared hd
  properties e _ s _ n a m ha hf ho :=
    property_intact ha (Member.isMediaFormats_eq_false_iff.2 hf) ho
  enums i hi b hb := by
    obtain ⟨e, -, s, -, rfl⟩ := mem_interfaces_iff.1 hi
    exact enum_has_property hb
  interfaceTexts i _ := ⟨_, String.append_assoc⟩
  enumTexts _ _ b _ := ⟨_, String.append_assoc⟩

end Conversion

end CmsTypings
