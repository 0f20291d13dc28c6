import CmsTypings.Proofs.DraftRoot
import CmsTypings.Proofs.RecordFields
import CmsTypings.Roster
import CmsTypings.Schema.Reader

/-!
The two ways to read a dump.

A dump comes as text or as a value. A text is turned away by its first character, a value by its
shape; both are then read by one description of their types. Here the two ways are shown to agree
on every text that can be kept as a value without losing a member, and a default that is written for
a type that holds one is shown to be there, whatever it is.
-/

namespace CmsTypings

open Json Json.Reader

/-! ### The descriptions agree -/

namespace Schema

lemma agrees_attributeReader : Agrees attributeReader := by
  refine agrees_map _ (agrees_record _ _ ?_)
  simp only [List.forall_mem_cons, List.not_mem_nil, false_implies, implies_true, and_true]
  have hstring := agrees_string
  have hoption := agrees_option agrees_string
  have hlist := agrees_list agrees_string
  exact ⟨agrees_field hstring, agrees_field hoption, agrees_field hoption, agrees_field hoption,
    agrees_field hlist, agrees_field agrees_bool, agrees_field agrees_bool, agrees_field agrees_bool,
    agrees_field agrees_value, agrees_field hlist⟩

lemma agrees_infoReader : Agrees infoReader := by
  refine agrees_record _ _ ?_
  simp only [List.forall_mem_cons, List.not_mem_nil, false_implies, implies_true, and_true]
  exact ⟨agrees_field (agrees_option agrees_string), agrees_field (agrees_option agrees_string)⟩

lemma agrees_optionsReader : Agrees optionsReader := by
  have hlocalized : Agrees localizedReader := by
    refine agrees_record _ _ ?_
    simp only [List.forall_mem_singleton]
    exact agrees_field agrees_bool
  refine agrees_record _ _ ?_
  simp only [List.forall_mem_singleton]
  exact agrees_field (agrees_option hlocalized)

lemma agrees_reader : Agrees reader := by
  refine agrees_record _ _ ?_
  simp only [List.forall_mem_cons, List.not_mem_nil, false_implies, implies_true, and_true]
  exact ⟨agrees_field (agrees_option agrees_string), agrees_field agrees_infoReader,
    agrees_field (agrees_orderedMap agrees_attributeReader), agrees_field agrees_optionsReader⟩

end Schema

namespace Dump

lemma agrees_reader : Agrees reader := by
  have hregistry : Agrees registryReader := agrees_orderedMap (agrees_option Schema.agrees_reader)
  refine agrees_record _ _ ?_
  simp only [List.forall_mem_cons, List.not_mem_nil, false_implies, implies_true, and_true]
  exact ⟨agrees_field hregistry, agrees_field hregistry⟩

end Dump

/-! ### Defaults are kept -/

/-- The types of attributes that hold a default, as they are written. Texts are not among them: what
is written under `default` for a text is read and let go. -/
def Attribute.typesWithDefault : List String :=
  ["enumeration", "integer", "biginteger", "decimal", "float", "date", "datetime", "time",
    "timestamp", "boolean"]

lemma AttributeFields.default?_toAttribute {f : AttributeFields}
    (h : f.type ∈ Attribute.typesWithDefault) : f.toAttribute.default? = f.default := by
  obtain ⟨type⟩ := f
  simp only [Attribute.typesWithDefault, List.mem_cons, List.not_mem_nil, or_false] at h
  rcases h with rfl | rfl | rfl | rfl | rfl | rfl | rfl | rfl | rfl | rfl <;> rfl

namespace Schema

/-- The names of an attribute's fields, in the order in which a list writes them. -/
def attributeFields : List String :=
  ["type", "relation", "target", "component", "components", "repeatable", "multiple", "required",
    "default", "enum"]

def fields : List String := ["uid", "info", "attributes", "pluginOptions"]

lemma default_of_attributeReader {v x : Json} {a : Attribute} {type : String}
    (hd : v.DistinctNames) (h : attributeReader .value (Draft.ofJson v) = .ok a)
    (hx : v.fieldValue? attributeFields "default" = some x)
    (ht : v.fieldValue? attributeFields "type" = some (.string type))
    (hmem : type ∈ Attribute.typesWithDefault) : a.default? = some x := by
  obtain ⟨f, hf, rfl⟩ := map_eq_ok.1 h
  have htype : Shows string AttributeFields.type id (.string type) f := by
    refine record_shows ?_ hf ht
    refine .here (fun _ _ => rfl) ?_
    -- the type stands first, so all other fields come behind it
    repeat refine List.forall_mem_cons.2 ⟨⟨by decide, field_keeps fun _ _ => rfl⟩, ?_⟩
    exact List.forall_mem_nil _
  have hdefault : Shows value AttributeFields.default some x f := by
    refine record_shows ?_ hf hx
    repeat refine .there (by decide) (field_keeps fun _ _ => rfl) ?_
    exact .here (fun _ _ => rfl)
      (List.forall_mem_singleton.2 ⟨by decide, field_keeps fun _ _ => rfl⟩)
  obtain ⟨type', htype', htype⟩ := htype
  obtain rfl : type = type' := Except.ok.inj htype'
  obtain ⟨x', hx', hdefault⟩ := hdefault
  rw [value_ofJson (hd.fieldValue hx)] at hx'
  rw [AttributeFields.default?_toAttribute (by rwa [htype]), hdefault, Except.ok.inj hx']

lemma attributes_of_reader {v x : Json} {s : Schema} (h : reader .value (Draft.ofJson v) = .ok s)
    (hx : v.fieldValue? fields "attributes" = some x) :
    orderedMap attributeReader .value (Draft.ofJson x) = .ok s.attributes := by
  have hshows : Shows (orderedMap attributeReader) Schema.attributes id x s := by
    refine record_shows ?_ h hx
    repeat refine .there (by decide) (field_keeps fun _ _ => rfl) ?_
    exact .here (fun _ _ => rfl)
      (List.forall_mem_singleton.2 ⟨by decide, field_keeps fun _ _ => rfl⟩)
  obtain ⟨m, hm, rfl⟩ := hshows
  exact hm

end Schema

namespace Dump

/-- The field of a dump that holds the registry of one origin. -/
def registryField : Origin → String
  | .contentType => "contentTypes"
  | .component => "components"

/-- An attribute as a dump writes it. -/
def attributeValue? (json : Json) (origin : Origin) (uid name : String) : Option Json := do
  let registry ← json.fieldValue? ["contentTypes", "components"] (registryField origin)
  let schema ← registry.member? uid
  let attributes ← schema.fieldValue? Schema.fields "attributes"
  attributes.member? name

/-- Each attribute for which a default is written is there, and if its type is one that holds a
default, it has the one that is written, a null as well. -/
def KeepsDefaults (json : Json) (d : Dump) : Prop :=
  ∀ origin uid name v x, attributeValue? json origin uid name = some v →
    v.fieldValue? Schema.attributeFields "default" = some x →
    ∃ s a, (d.registry origin).get? uid = some (some s) ∧ s.attributes.get? name = some a ∧
      ∀ type ∈ Attribute.typesWithDefault,
        v.fieldValue? Schema.attributeFields "type" = some (.string type) → a.default? = some x

lemma registry_of_reader {v x : Json} {d : Dump} {origin : Origin}
    (h : reader .value (Draft.ofJson v) = .ok d)
    (hx : v.fieldValue? ["contentTypes", "components"] (registryField origin) = some x) :
    registryReader .value (Draft.ofJson x) = .ok (d.registry origin) := by
  have hshows : Shows registryReader (fun d : Dump => d.registry origin) id x d := by
    refine record_shows ?_ h hx
    cases origin with
    | contentType =>
      exact .here (fun _ _ => rfl)
        (List.forall_mem_singleton.2 ⟨by decide, field_keeps fun _ _ => rfl⟩)
    | component =>
      refine .there (by decide) (field_keeps fun _ _ => rfl) ?_
      exact .here (fun _ _ => rfl) fun _ hf => absurd hf List.not_mem_nil
  obtain ⟨m, hm, hget⟩ := hshows
  exact hm.trans (congrArg Except.ok hget.symm)

lemma keepsDefaults_of_reader {json : Json} {d : Dump} (hd : json.DistinctNames)
    (h : reader .value (Draft.ofJson json) = .ok d) : KeepsDefaults json d := by
  intro origin uid name v x hv hx
  obtain ⟨registry, hregistry, hv⟩ := Option.bind_eq_some_iff.1 hv
  obtain ⟨schema, hschema, hv⟩ := Option.bind_eq_some_iff.1 hv
  obtain ⟨attributes, hattributes, hv⟩ := Option.bind_eq_some_iff.1 hv
  have hdregistry := hd.fieldValue hregistry
  have hdschema := hdregistry.member hschema
  have hdattributes := hdschema.fieldValue hattributes
  obtain ⟨s?, hs?, hget⟩ := orderedMap_get? hdregistry (registry_of_reader h hregistry) hschema
  obtain ⟨s, hs, rfl⟩ : ∃ s, Schema.reader .value (Draft.ofJson schema) = .ok s ∧ s? = some s := by
    cases schema with
    | object | array =>
      obtain ⟨s, hs, rfl⟩ := map_eq_ok.1 hs?
      exact ⟨s, hs, rfl⟩
    | null | bool | number | string => cases hattributes
  obtain ⟨a, ha, hname⟩ :=
    orderedMap_get? hdattributes (Schema.attributes_of_reader hs hattributes) hv
  exact ⟨s, a, hget, hname, fun type hmem ht =>
    Schema.default_of_attributeReader (hdattributes.member hv) ha hx ht hmem⟩

/-! ### Reading text and reading a value -/

lemma readText_eq {α : Type} {text : String} (h : (Draft.Document.ofText text).overrun = false)
    (r : Reader α) : readText r text = r .freshText (Draft.Document.ofText text).root := by
  unfold readText
  simp only [h]
  cases r .freshText (Draft.Document.ofText text).root <;> rfl

/-- What the two ways to read a dump may answer. -/
inductive ReadAlike (json : Json) : Except Failure Dump → Except Failure Dump → Prop where
  | dump (object : json.isObject = true) (d : Dump) (defaults : KeepsDefaults json d) :
      ReadAlike json (.ok d) (.ok d)
  | shape (object : json.isObject = false) : ReadAlike json (.error .notADump) (.error .notADump)
  | json (object : json.isObject = true) (e e' : Json.Error) :
      ReadAlike json (.error (.json e)) (.error (.json e'))

lemma ReadAlike.exists_dump {json : Json} {ofText ofValue : Except Failure Dump}
    (h : ReadAlike json ofText ofValue) (hread : ofValue.isOk = true) :
    ∃ d, ofText = .ok d ∧ ofValue = .ok d ∧ KeepsDefaults json d := by
  cases h with
  | dump object d defaults => exact ⟨d, rfl, rfl, defaults⟩
  | shape | json => cases hread

/-- **Text and value are read alike.** A text that is kept as a value, and in which no object repeats
a member name, is read as the dump that the value is read as, with every default that is written for
a type that holds one; or both are refused, as no dump when the value is no object, and for what they
hold when it is one. -/
theorem ofText_alike_ofValue {text : String} {json : Json} (hvalid : readText value text = .ok json)
    (hdistinct : (Draft.Document.ofText text).root.DistinctNames) :
    ReadAlike json (ofText text) (ofValue json) := by
  obtain ⟨v, hv, hend⟩ := bind_eq_ok.1 hvalid
  have hoverrun : (Draft.Document.ofText text).overrun = false := by
    cases h : (Draft.Document.ofText text).overrun with
    | false => rfl
    | true =>
      simp only [h] at hend
      cases hend
  have hread : value .freshText (Draft.Document.ofText text).root = .ok json :=
    (readText_eq hoverrun value).symm.trans hvalid
  obtain rfl : v = json := Except.ok.inj (hv.symm.trans hread)
  have hguard := head?_trimStart_eq_iff hv
  cases hobject : v.isObject with
  | false =>
    rw [ofText, ofValue, if_neg (by simp [hguard, hobject]), if_neg (by simp [hobject])]
    exact .shape hobject
  | true =>
    have hagree := agrees_reader hv hdistinct
    rw [ofText, if_pos (hguard.2 hobject), readText_eq hoverrun, ofValue, if_pos hobject, readValue]
    cases hd : reader .value (Draft.ofJson v) with
    | ok d =>
      rw [hd] at hagree
      rw [toOption_eq_some.1 hagree]
      exact .dump hobject d (keepsDefaults_of_reader (distinctNames_ofJson hv hdistinct) hd)
    | error e' =>
      cases hd' : reader .freshText (Draft.Document.ofText text).root with
      | ok d => simp [hd, hd', Except.toOption] at hagree
      | error e => exact .json hobject e e'

/-- A dump with one switch, whose default is written as null. -/
def switchText : String :=
  "\x7b\"contentTypes\": \x7b\"on\": \x7b\"attributes\": " ++
    "\x7b\"off\": \x7b\"type\": \"boolean\", \"default\": null\x7d\x7d\x7d\x7d\x7d"

def switchJson : Json :=
  .object [("contentTypes", .object [("on", .object [("attributes", .object
    [("off", .object [("type", .string "boolean"), ("default", .null)])])])])]

lemma document_switchText :
    Draft.Document.ofText switchText = ⟨Draft.ofJson switchJson, false⟩ := by
  rfl

lemma distinctNames_switchJson : switchJson.DistinctNames := by
  have hmember : ∀ {name : String} {v : Json}, v.DistinctNames →
      (Json.object [(name, v)]).DistinctNames :=
    fun h => .object (List.nodup_singleton _) (List.forall_mem_singleton.2 h)
  refine hmember (hmember (hmember (hmember (.object ?_ ?_))))
  · simp [Draft.ofMembers]
  · exact List.forall_mem_cons.2 ⟨.string _, List.forall_mem_singleton.2 .null⟩

/-- Read either way, the switch has null for its default. -/
theorem switchText_alike :
    readText value switchText = .ok switchJson ∧
      (Draft.Document.ofText switchText).root.DistinctNames ∧
      ReadAlike switchJson (ofText switchText) (ofValue switchJson) ∧
      ∃ d s a, ofText switchText = .ok d ∧ ofValue switchJson = .ok d ∧
        d.contentTypes.get? "on" = some (some s) ∧ s.attributes.get? "off" = some a ∧
        a.default? = some .null := by
  have hend : (Draft.Document.ofText switchText).overrun = false := by rw [document_switchText]
  have hroot : (Draft.Document.ofText switchText).root = Draft.ofJson switchJson := by
    rw [document_switchText]
  have hdistinct : (Draft.Document.ofText switchText).root.DistinctNames := by
    rw [hroot]
    exact distinctNames_switchJson
  have hvalid : readText value switchText = .ok switchJson := by
    have hread := readText_eq hend value
    rw [hroot] at hread
    exact hread
  have halike := ofText_alike_ofValue hvalid hdistinct
  have hread : (ofValue switchJson).isOk = true := by decide +kernel
  obtain ⟨d, htext, hvalue, hdefaults⟩ := halike.exists_dump hread
  obtain ⟨s, a, hs, ha, hdefault⟩ := hdefaults .contentType "on" "off" _ _ rfl rfl
  exact ⟨hvalid, hdistinct, halike, d, s, a, htext, hvalue, hs, ha,
    hdefault "boolean" (by decide) rfl⟩

end Dump

end CmsTypings
