import CmsTypings.Proofs.Members

/-!
The marker of optional properties.

An attribute that is neither required nor a list is optional, and its property bears the marker for
this. There are exceptions: what is embedded in a schema is always there, so a component and a
dynamic zone never bear the marker; neither does the fixed property of the media type, whatever
its attribute says.
-/

namespace CmsTypings

open Naming

/-- Whether an attribute holds a component, or components of several kinds. -/
def Attribute.isEmbedded (a : Attribute) : Bool :=
  match a.content with
  | .component _ _ _ | .dynamicZone _ => true
  | _ => false

namespace Member

variable {ctx : Context} {entry : Entry} {name line : String} {a : Attribute} {m : Member}
  {marked marked' : Bool}

/-- Whether the property of an attribute bears the marker. -/
def isMarked (entry : Entry) (name : String) (a : Attribute) : Bool :=
  a.isOptional && !a.isEmbedded && !isMediaFormats entry name

lemma isMarked_of_formats (h : isMediaFormats entry name = true) :
    isMarked entry name a = false := by
  simp [isMarked, h]

lemma isMarked_of_embedded (h : a.isEmbedded = true) : isMarked entry name a = false := by
  simp [isMarked, h]

lemma isMarked_of_not_embedded (hf : isMediaFormats entry name = false)
    (h : a.isEmbedded = false) : isMarked entry name a = a.isOptional := by
  simp [isMarked, hf, h]

/-- Every kind of attribute decides on the marker for itself. -/
lemma optional_of_ofAttribute (h : ofAttribute ctx entry name a = .ok m) :
    m.property.optional = isMarked entry name a := by
  obtain ⟨content, required⟩ := a
  unfold ofAttribute at h
  split at h
  · next hf =>
    cases h
    exact (isMarked_of_formats hf).symm
  · next hf =>
    rw [Bool.not_eq_true] at hf
    have hplain : Attribute.isEmbedded ⟨content, required⟩ = false →
        Attribute.isOptional ⟨content, required⟩ = isMarked entry name ⟨content, required⟩ :=
      fun he => (isMarked_of_not_embedded hf he).symm
    cases content with
    | relation arity target =>
      cases target with
      | none => cases h
      | some uid =>
        obtain ⟨type, -, h⟩ := bind_eq_ok.1 h
        cases h
        exact hplain rfl
    | component reference repeatable user =>
      obtain ⟨type, -, h⟩ := bind_eq_ok.1 h
      cases h
      exact (isMarked_of_embedded rfl).symm
    | dynamicZone components =>
      cases h
      exact (isMarked_of_embedded rfl).symm
    | media multiple =>
      cases hm : mediaTypeName? ctx.entries with
      | none => simp [hm] at h
      | some type =>
        simp only [hm, Except.ok.injEq] at h
        subst h
        exact hplain rfl
    | password => cases h
    | enumeration | text | json | number | date | boolean | unknown =>
      cases h
      exact hplain rfl

/-! ### The beginning of a line -/

/-- A line begins with two blanks, the name, the marker if there is to be one, and a colon. -/
def LineBegins (name : String) (marked : Bool) (line : String) : Prop :=
  ∃ type, line = "  " ++ name ++ (if marked then "?" else "") ++ ": " ++ type

lemma lineBegins_line (p : Property) : LineBegins p.name p.optional p.line :=
  ⟨p.type ++ ";\n", by simp [Property.line, String.append_assoc]⟩

/-- A line tells whether it bears the marker. -/
lemma LineBegins.unique (h : LineBegins name marked line) (h' : LineBegins name marked' line) :
    marked = marked' := by
  obtain ⟨type, rfl⟩ := h
  obtain ⟨type', h'⟩ := h'
  have hrest := congrArg String.toList h'
  simp only [String.toList_append, List.append_assoc, List.append_cancel_left_eq] at hrest
  cases marked <;> cases marked' <;> simp at hrest ⊢

/-- **When a property bears the marker.** Its line consists of two blanks, the name of the
attribute, the marker exactly if the attribute is optional, not embedded and not the one of fixed
form, and then the colon and the type. -/
theorem lineBegins_iff_isMarked (h : ofAttribute ctx entry name a = .ok m) (marked : Bool) :
    LineBegins name marked m.property.line ↔ marked = isMarked entry name a := by
  have hline : LineBegins name (isMarked entry name a) m.property.line := by
    rw [← optional_of_ofAttribute h, ← name_of_ofAttribute h]
    exact lineBegins_line m.property
  constructor
  · exact fun hmarked => hmarked.unique hline
  · rintro rfl
    exact hline

/-- An upload type and a component. -/
def mediaLibrary : Context where
  entries :=
    [⟨"plugin::upload.file", "media", "Media", .contentType, false, some {}⟩,
     ⟨"shared.hero", "Hero", "Hero", .component, false, some {}⟩]
  filter := ⟨[]⟩

/-- The entry of the upload type. -/
def uploadEntry : Entry := mediaLibrary.entries.head?.getD default

/-- A preview that is not required bears the marker. -/
theorem preview_marked :
    ∃ m, ofAttribute mediaLibrary uploadEntry "preview" ⟨.media false, false⟩ = .ok m ∧
      LineBegins "preview" true m.property.line := by
  have hm : ofAttribute mediaLibrary uploadEntry "preview" ⟨.media false, false⟩ =
        .ok { property := ⟨"preview", true, populated "Media" false⟩
              dependency := some "Media" } := by
    decide +kernel
  exact ⟨_, hm, (lineBegins_iff_isMarked hm true).2 (by decide +kernel)⟩

/-- The marker is there exactly if the attribute is optional. -/
def MarksOptional (ctx : Context) (entry : Entry) (name : String) (a : Attribute) : Prop :=
  ∀ m, ofAttribute ctx entry name a = .ok m → LineBegins name a.isOptional m.property.line

lemma not_marksOptional (h : ofAttribute ctx entry name a = .ok m)
    (ho : a.isOptional = true) (hm : isMarked entry name a = false) :
    ¬ MarksOptional ctx entry name a := by
  intro hmarks
  have hline := lineBegins_line m.property
  rw [optional_of_ofAttribute h, name_of_ofAttribute h, hm] at hline
  have hfalse := hline.unique (hmarks m h)
  simp [ho] at hfalse

/-- A component, a dynamic zone and the formats of the upload type do without the marker, though
none of them is required. -/
theorem embedded_not_marksOptional :
    ¬ MarksOptional mediaLibrary uploadEntry "hero" ⟨.component "shared.hero" false none, false⟩ ∧
      ¬ MarksOptional mediaLibrary uploadEntry "blocks" ⟨.dynamicZone ["shared.hero"], false⟩ ∧
      ¬ MarksOptional mediaLibrary uploadEntry "formats" ⟨.json, false⟩ := by
  have hhero : ofAttribute mediaLibrary uploadEntry "hero"
      ⟨.component "shared.hero" false none, false⟩ =
        .ok { property := ⟨"hero", false, "Hero"⟩, dependency := some "Hero" } := by
    decide +kernel
  have hblocks : ofAttribute mediaLibrary uploadEntry "blocks"
      ⟨.dynamicZone ["shared.hero"], false⟩ = .ok { property := ⟨"blocks", false, anyType⟩ } := by
    decide +kernel
  have hformats : ofAttribute mediaLibrary uploadEntry "formats" ⟨.json, false⟩ =
      .ok { property := mediaFormats } := by
    decide +kernel
  exact ⟨not_marksOptional hhero rfl (by decide +kernel),
    not_marksOptional hblocks rfl (by decide +kernel),
    not_marksOptional hformats rfl (by decide +kernel)⟩

end Member

end CmsTypings
