import CmsTypings.Conversion
import CmsTypings.Proofs.Members

/-!
The names of the properties of an interface.

The attributes of a schema have distinct names, and a property keeps the name of its attribute.
An interface has other properties of its own accord: those of its identity in front and those of
localization behind. So a property is declared twice exactly when an attribute that is not
omitted bears one of these names.
-/

namespace CmsTypings.Interface

variable {ctx : Context} {entry : Entry} {schema : Schema}

/-- The names that an interface gives to properties whatever the attributes are. -/
def ownNames (origin : Origin) (localized : Bool) : List String :=
  (match origin with
    | .contentType => ["id", "documentId"]
    | .component => []) ++
  if localized then ["locale", "localizations"] else []

/-- Whether an attribute of the given name becomes a property. -/
def Emits (ctx : Context) (entry : Entry) (schema : Schema) (name : String) : Prop :=
  ∃ a m, (name, a) ∈ schema.attributes.entries ∧ Member.ofAttribute ctx entry name a = .ok m

/-- The names of the properties that attributes become. -/
def attributeNames (ctx : Context) (entry : Entry) (schema : Schema) : List String :=
  (members ctx entry schema).map (·.property.name)

lemma mem_attributeNames_iff {n : String} :
    n ∈ attributeNames ctx entry schema ↔ Emits ctx entry schema n := by
  unfold attributeNames
  rw [List.mem_map]
  constructor
  · rintro ⟨m, hm, rfl⟩
    obtain ⟨n, a, ha, ho⟩ := mem_members_iff.1 hm
    rw [Member.name_of_ofAttribute ho]
    exact ⟨a, m, ha, ho⟩
  · rintro ⟨a, m, ha, ho⟩
    exact ⟨m, mem_members_iff.2 ⟨n, a, ha, ho⟩, Member.name_of_ofAttribute ho⟩

/-- Attributes become properties of distinct names, for their own names are distinct. -/
lemma nodup_attributeNames (ctx : Context) (entry : Entry) (schema : Schema) :
    (attributeNames ctx entry schema).Nodup := by
  refine schema.attributes.nodup_keys.sublist (map_filterMap_sublist ?_ _)
  intro a m h
  cases ho : Member.ofAttribute ctx entry a.1 a.2 with
  | error => simp [ho, Except.toOption] at h
  | ok m' =>
    simp only [ho, Except.toOption, Option.some.injEq] at h
    exact h ▸ Member.name_of_ofAttribute ho

lemma nodup_ownNames (origin : Origin) (localized : Bool) : (ownNames origin localized).Nodup := by
  cases origin <;> cases localized <;> decide

/-- Up to their order the names are the interface's own and those of attributes. -/
lemma names_perm (ctx : Context) (entry : Entry) (schema : Schema) :
    ((ofSchema ctx entry schema).properties.map (·.name)).Perm
      (ownNames entry.origin schema.localized ++ attributeNames ctx entry schema) := by
  have hid : (identityProperties entry.origin).map (·.name) = ownNames entry.origin false := by
    cases entry.origin <;> rfl
  have hlocale : (localeProperties entry.name schema.localized).map (·.name) =
      ownNames .component schema.localized := by
    cases schema.localized <;> rfl
  have hown : ownNames entry.origin schema.localized =
      ownNames entry.origin false ++ ownNames .component schema.localized := by
    simp [ownNames]
  simp only [ofSchema, List.map_append, List.map_map, hid, hlocale, hown, List.append_assoc]
  exact List.Perm.append_left _ List.perm_append_comm

/-- **When no property is declared twice.** The names of an assembled interface are distinct
exactly when no attribute under one of the interface's own names becomes a property. -/
theorem nodup_names_iff (dump : Dump) (settings : Settings) (entry : Entry) (schema : Schema) :
    ((ofSchema (Conversion.ofDump dump settings).context entry schema).properties.map
        (·.name)).Nodup ↔
      ∀ n ∈ ownNames entry.origin schema.localized,
        ¬ Emits (Conversion.ofDump dump settings).context entry schema n := by
  rw [(names_perm _ entry schema).nodup_iff, List.nodup_append]
  constructor
  · rintro ⟨-, -, hdisj⟩ n hn he
    exact hdisj n hn n (mem_attributeNames_iff.2 he) rfl
  · intro h
    refine ⟨nodup_ownNames _ _, nodup_attributeNames _ _ _, ?_⟩
    rintro n hn _ hm rfl
    exact h n hn (mem_attributeNames_iff.1 hm)

/-- A localized content type whose host lists the two attributes that localization adds. -/
def localizedPage : Dump where
  contentTypes := .ofList [("api::page.page",
    some { singularName := some "page"
           localized := true
           attributes := .ofList
             [("title", ⟨.text .string, false⟩),
              ("locale", ⟨.text .string, false⟩),
              ("localizations", ⟨.relation .toMany (some "api::page.page"), false⟩)] })]

/-- Such a content type declares properties twice. -/
theorem localizedPage_declares_twice :
    ¬ ∀ i ∈ (Conversion.ofDump localizedPage {}).interfaces,
      (i.properties.map (·.name)).Nodup := by
  decide +kernel

end CmsTypings.Interface
