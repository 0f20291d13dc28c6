import CmsTypings.Proofs.PropertyNames
import CmsTypings.Proofs.References

/-!
References by uid.

A relation refers to its target by uid, a component may do so, and a component may stand for the
user type. Such a reference means the latest entry of the complete roster that bears the uid, and
the attribute becomes a property exactly when this entry has a schema and, for a component, is a
component itself. The line of the property then names this entry. The ignore rules have no say in
this any more: an entry of the roster is none that they skip, and a uid without an entry has no name
to give.
-/

namespace CmsTypings

namespace Naming

/-- An entry is the latest of those that bear a uid. -/
def IsLatest (entries : List Entry) (uid : String) (e : Entry) : Prop :=
  ∃ earlier later, entries = earlier ++ e :: later ∧ e.uid = uid ∧ ∀ f ∈ later, f.uid ≠ uid

variable {entries : List Entry} {e f : Entry} {uid name reference : String}

lemma latest?_eq_some_iff : latest? entries uid = some e ↔ IsLatest entries uid e := by
  simp only [latest?, List.getLast?_eq_some_iff, List.filter_eq_append_iff]
  constructor
  · rintro ⟨_, l₁, l₂, rfl, -, h⟩
    obtain ⟨earlier, later, rfl, -, hu, hlater⟩ := List.filter_eq_cons_iff.1 h
    rw [List.filter_eq_nil_iff] at hlater
    exact ⟨l₁ ++ earlier, later, by simp, by simpa using hu, fun f hf => by simpa using hlater f hf⟩
  · rintro ⟨earlier, later, rfl, hu, hlater⟩
    refine ⟨_, earlier, e :: later, rfl, rfl, ?_⟩
    rw [List.filter_cons_of_pos (by simpa using hu), List.filter_eq_nil_iff.2]
    simpa using hlater

lemma IsLatest.mem (h : IsLatest entries uid e) : e ∈ entries := by
  obtain ⟨earlier, later, rfl, -⟩ := h
  simp

lemma IsLatest.uid_eq (h : IsLatest entries uid e) : e.uid = uid := by
  obtain ⟨-, -, -, hu, -⟩ := h
  exact hu

lemma IsLatest.unique (he : IsLatest entries uid e) (hf : IsLatest entries uid f) : e = f := by
  rw [← latest?_eq_some_iff] at he hf
  exact Option.some.inj (he.symm.trans hf)

lemma exists_isLatest (he : e ∈ entries) : ∃ f, IsLatest entries e.uid f := by
  simp only [← latest?_eq_some_iff, ← Option.isSome_iff_exists, latest?, List.getLast?_isSome]
  exact List.ne_nil_of_mem (List.mem_filter.2 ⟨he, by simp⟩)

lemma relationName?_eq_some_iff :
    relationName? entries uid = some name ↔
      ∃ e, IsLatest entries uid e ∧ e.schema.isSome = true ∧ e.name = name := by
  simp [relationName?, declared?, latest?_eq_some_iff, and_assoc]

lemma componentName?_eq_some_iff (h : isUid reference = true) :
    componentName? entries reference = some name ↔
      ∃ e, IsLatest entries reference e ∧ e.schema.isSome = true ∧ e.origin = .component ∧
        e.name = name := by
  simp [componentName?, component?, h, declared?, latest?_eq_some_iff, and_assoc]

end Naming

open Naming

/-- The ways in which an attribute refers to a schema by uid. -/
inductive UidReference where
  | relation (arity : Arity) (uid : String)
  | user (repeatable : Bool)
  | component (uid : String) (repeatable : Bool)
deriving DecidableEq, Repr

namespace UidReference

def uid : UidReference → String
  | .relation _ uid => uid
  | .user _ => "plugin::users-permissions.user"
  | .component uid _ => uid

/-- Only a component can be what a component's uid refers to. -/
def Admits : UidReference → Entry → Prop
  | .component _ _, e => e.origin = .component
  | .relation _ _, _ | .user _, _ => True

/-- What a reference means: the latest entry of its uid, if that entry is declared and will do. -/
def Means (ref : UidReference) (entries : List Entry) (e : Entry) : Prop :=
  IsLatest entries ref.uid e ∧ e.schema.isSome = true ∧ ref.Admits e

/-- The type in which a reference names its target: that of a relation is switched by the type
parameter, and a component that is repeated has a list. -/
def typeText (ref : UidReference) (target : String) : String :=
  match ref with
  | .relation .toOne _ => "P extends true ? " ++ target ++ "<P> | null : number | null"
  | .relation .toMany _ => "P extends true ? " ++ target ++ "<P>[] : number[]"
  | .user repeatable | .component _ repeatable => if repeatable then target ++ "[]" else target

/-- The member that a reference to a declaration becomes. -/
def member (ref : UidReference) (name : String) (optional : Bool) (target : String) : Member :=
  match ref with
  | .relation _ _ =>
    { property := ⟨name, optional, ref.typeText target⟩, dependency := some target }
  | .user _ | .component _ _ =>
    { property := ⟨name, false, ref.typeText target⟩, dependency := some target }

lemma refersTo_typeText (ref : UidReference) (target : String) :
    Member.RefersTo target (ref.typeText target) := by
  match ref with
  | .relation .toOne _ => exact .switched false
  | .relation .toMany _ => exact .switched true
  | .user false | .component _ false => exact .one
  | .user true | .component _ true => exact .many

/-- The line of such a member names the target. -/
lemma lineReference?_member (ref : UidReference) (name : String) (optional : Bool) {target : String}
    (h : ∀ c ∈ target.toList, Text.isNameChar c = true) :
    lineReference? name (ref.member name optional target).property.line = some target := by
  have htype := ref.refersTo_typeText target
  cases ref <;> exact lineReference?_line h htype

end UidReference

/-- The uid reference of an attribute. A relation may lack its target, and a component may be
referred to by its bare name. -/
def Attribute.uidReference? (a : Attribute) : Option UidReference :=
  match a.content with
  | .relation arity (some uid) => some (.relation arity uid)
  | .component reference repeatable user =>
    if user = some "plugin::users-permissions.user" then some (.user repeatable)
    else if reference.toList.contains '.' then some (.component reference repeatable)
    else none
  | _ => none

/-- No entry is one that the ignore rules skip. -/
def Context.Sifted (ctx : Context) : Prop := ∀ e ∈ ctx.entries, ctx.filter.skips e.uid = false

namespace Member

variable {ctx : Context} {r : Entry} {n : String} {a : Attribute} {ref : UidReference} {m : Member}

/-- The ignore rules do not stop a reference that has a name to give. -/
lemma target_eq_ok_iff_of_sifted {uid type : String} {name? : Option String} (hs : ctx.Sifted)
    (hn : name? = some type → ∃ e ∈ ctx.entries, e.uid = uid) :
    target ctx uid name? = .ok type ↔ name? = some type := by
  rw [target_eq_ok_iff]
  constructor
  · exact fun h => h.2
  · intro h
    obtain ⟨e, he, rfl⟩ := hn h
    exact ⟨hs e he, h⟩

lemma target_relationName?_eq_ok_iff (ref : UidReference) {type : String} (hs : ctx.Sifted)
    (ha : ∀ e, ref.Admits e) :
    target ctx ref.uid (relationName? ctx.entries ref.uid) = .ok type ↔
      ∃ e, ref.Means ctx.entries e ∧ e.name = type := by
  rw [target_eq_ok_iff_of_sifted hs, relationName?_eq_some_iff]
  · simp [UidReference.Means, ha, and_assoc]
  · intro h
    obtain ⟨e, he, -⟩ := relationName?_eq_some_iff.1 h
    exact ⟨e, he.mem, he.uid_eq⟩

lemma target_componentName?_eq_ok_iff {uid type : String} (repeatable : Bool) (hs : ctx.Sifted)
    (hu : isUid uid = true) :
    target ctx uid (componentName? ctx.entries uid) = .ok type ↔
      ∃ e, (UidReference.component uid repeatable).Means ctx.entries e ∧ e.name = type := by
  rw [target_eq_ok_iff_of_sifted hs, componentName?_eq_some_iff hu]
  · simp [UidReference.Means, UidReference.Admits, UidReference.uid, and_assoc]
  · intro h
    obtain ⟨e, he, -⟩ := (componentName?_eq_some_iff hu).1 h
    exact ⟨e, he.mem, he.uid_eq⟩

/-- A member made of the name of a target, where the targets are known. -/
lemma bind_target_eq_ok_iff {x : Except Omission String} {g : String → Member} {P : Entry → Prop}
    (hx : ∀ type, x = .ok type ↔ ∃ e, P e ∧ e.name = type) :
    (x >>= fun type => pure (g type)) = .ok m ↔ ∃ e, P e ∧ m = g e.name := by
  simp only [bind_eq_ok, hx]
  constructor
  · rintro ⟨_, ⟨e, he, rfl⟩, hm⟩
    exact ⟨e, he, (Except.ok.inj hm).symm⟩
  · rintro ⟨e, he, rfl⟩
    exact ⟨_, ⟨e, he, rfl⟩, rfl⟩

/-- What an attribute that refers by uid becomes. -/
lemma ofAttribute_eq_ok_iff_means (hs : ctx.Sifted) (hf : isMediaFormats r n = false)
    (href : a.uidReference? = some ref) :
    ofAttribute ctx r n a = .ok m ↔
      ∃ e, ref.Means ctx.entries e ∧ m = ref.member n a.isOptional e.name := by
  obtain ⟨content, required⟩ := a
  unfold ofAttribute
  rw [if_neg (by simp [hf])]
  cases content with
  | relation arity target =>
    cases target with
    | none => cases href
    | some uid =>
      obtain rfl := Option.some.inj href
      cases arity <;> exact bind_target_eq_ok_iff fun _ =>
        target_relationName?_eq_ok_iff (.relation _ uid) hs fun _ => trivial
  | component reference repeatable user =>
    simp only [Attribute.uidReference?] at href
    simp only [componentTarget]
    split at href
    · next hu =>
      have hu : user = some userUid := hu
      obtain rfl := Option.some.inj href
      simp only [if_pos hu]
      exact bind_target_eq_ok_iff fun _ =>
        target_relationName?_eq_ok_iff (.user repeatable) hs fun _ => trivial
    · next hu =>
      have hu : user ≠ some userUid := hu
      split at href
      · next hr =>
        obtain rfl := Option.some.inj href
        simp only [if_neg hu]
        exact bind_target_eq_ok_iff fun _ => target_componentName?_eq_ok_iff repeatable hs hr
      · cases href
  | media | enumeration | password | dynamicZone | text | json | number | date | boolean
  | unknown => cases href

end Member

/-- Whether an attribute that refers by uid is among the properties. -/
lemma Interface.mem_attributeNames_iff_means {ctx : Context} {r : Entry} {s : Schema} {n : String}
    {a : Attribute} {ref : UidReference} (hs : ctx.Sifted) (hf : Member.isMediaFormats r n = false)
    (href : a.uidReference? = some ref) (ha : (n, a) ∈ s.attributes.entries) :
    n ∈ attributeNames ctx r s ↔ ∃ e, ref.Means ctx.entries e := by
  rw [mem_attributeNames_iff]
  constructor
  · rintro ⟨a', m, ha', ho⟩
    -- the names of attributes are distinct, so the emitted one is `a` itself
    have hinj := List.inj_on_of_nodup_map s.attributes.nodup_keys ha' ha rfl
    obtain rfl := (Prod.mk.inj hinj).2
    obtain ⟨e, he, -⟩ := (Member.ofAttribute_eq_ok_iff_means hs hf href).1 ho
    exact ⟨e, he⟩
  · rintro ⟨e, he⟩
    exact ⟨a, _, ha, (Member.ofAttribute_eq_ok_iff_means hs hf href).2 ⟨e, he, rfl⟩⟩

namespace Conversion

lemma sifted_context (dump : Dump) (settings : Settings) :
    (ofDump dump settings).context.Sifted := fun _ he => Roster.not_skipped he

/-- **References by uid are exact.** In the interface of whatever entry, an attribute that refers by
uid becomes a property exactly when the latest entry of the uid is declared and will do. The type of
the property is then written around the name of that entry, which is the name read off its line.
Other ignore rules, as long as they skip no entry of the roster, would not change this. -/
theorem uid_reference_exact (dump : Dump) (settings : Settings) (r : Entry) {n : String}
    {a : Attribute} {ref : UidReference} (hf : ¬ r.FixesForm n)
    (href : a.uidReference? = some ref) :
    (∀ m, Member.ofAttribute (ofDump dump settings).context r n a = .ok m ↔
      ∃ e, ref.Means (ofDump dump settings).roster.entries e ∧
        m = ref.member n a.isOptional e.name) ∧
    (∀ m, Member.ofAttribute (ofDump dump settings).context r n a = .ok m →
      ∃ e, ref.Means (ofDump dump settings).roster.entries e ∧
        lineReference? n m.property.line = some e.name) ∧
    (∀ s : Schema, (n, a) ∈ s.attributes.entries →
      (n ∈ Interface.attributeNames (ofDump dump settings).context r s ↔
        ∃ e, ref.Means (ofDump dump settings).roster.entries e)) ∧
    ∀ filter : IgnoreFilter,
      (∀ e ∈ (ofDump dump settings).roster.entries, filter.skips e.uid = false) →
        ∀ m, Member.ofAttribute ⟨(ofDump dump settings).roster.entries, filter⟩ r n a = .ok m ↔
          Member.ofAttribute (ofDump dump settings).context r n a = .ok m := by
  have hform : Member.isMediaFormats r n = false := Member.isMediaFormats_eq_false_iff.2 hf
  have hmember : ∀ m, Member.ofAttribute (ofDump dump settings).context r n a = .ok m ↔
      ∃ e, ref.Means (ofDump dump settings).roster.entries e ∧
        m = ref.member n a.isOptional e.name := fun m =>
    Member.ofAttribute_eq_ok_iff_means (sifted_context dump settings) hform href
  refine ⟨hmember, fun m hm => ?_, fun s ha => ?_, ?_⟩
  · obtain ⟨e, he, rfl⟩ := (hmember m).1 hm
    have hname : ∀ c ∈ e.name.toList, Text.isNameChar c = true := fun c hc =>
      Roster.nameChar_of_mem_name he.1.mem hc
    exact ⟨e, he, ref.lineReference?_member n a.isOptional hname⟩
  · exact Interface.mem_attributeNames_iff_means (sifted_context dump settings) hform href ha
  · intro filter hfilter m
    rw [hmember]
    exact Member.ofAttribute_eq_ok_iff_means hfilter hform href

/-- A page that refers to a uid under which both registries have an entry. -/
def sharedUid : Dump where
  contentTypes := .ofList
    [("api::page.page",
      some { singularName := some "page"
             attributes := .ofList [("seo", ⟨.relation .toOne (some "shared.seo"), false⟩)] }),
     ("shared.seo", some { singularName := some "seo" })]
  components := .ofList [("shared.seo", some { displayName := some "Seo" })]

/-- Its relation means the component, which is enrolled after the content type of that uid. -/
theorem sharedUid_means_component :
    let page := (ofDump sharedUid {}).roster.entries.head?.getD default
    let seo : Attribute := ⟨.relation .toOne (some "shared.seo"), false⟩
    page.name = "Page" ∧ ¬ page.FixesForm "seo" ∧
      seo.uidReference? = some (.relation .toOne "shared.seo") ∧
      ∃ e, (UidReference.relation .toOne "shared.seo").Means
        (ofDump sharedUid {}).roster.entries e ∧ e.name = "SeoComponent" := by
  intro page seo
  have hname : page.name = "Page" := by decide +kernel
  have hf : ¬ page.FixesForm "seo" := by decide +kernel
  have href : seo.uidReference? = some (.relation .toOne "shared.seo") := by decide
  have hm : Member.ofAttribute (ofDump sharedUid {}).context page "seo" seo =
      .ok ((UidReference.relation .toOne "shared.seo").member "seo" true "SeoComponent") := by
    decide +kernel
  obtain ⟨e, he, heq⟩ := ((uid_reference_exact sharedUid {} page hf href).1 _).1 hm
  have hdependency := congrArg Member.dependency heq
  exact ⟨hname, hf, href, e, he, (Option.some.inj hdependency).symm⟩

end Conversion

end CmsTypings
