import CmsTypings.Proofs.DeclarationOrder
import CmsTypings.Proofs.Deletion
import CmsTypings.Proofs.EnrolledNames
import CmsTypings.Proofs.PropertyNames

/-!
Dumps without the attributes that are dropped.

An attribute that becomes no property might still matter elsewhere, for every reference is resolved
against the entries of all schemas. But an entry is enrolled by what its schema is called, and a
search looks at no more than whether the entry has a schema. So two dumps whose schemas differ in
their attributes alone have the same roster, up to the attributes, and resolve every reference
alike; and an interface is made of the members that the attributes become, whatever stands between
them.
-/

namespace CmsTypings

open Naming

/-- A change of schemas, for each origin and uid. -/
abbrev Revision := Origin → String → Schema → Schema

/-- A revision leaves everything as it is but the attributes. -/
structure Revision.OfAttributes (f : Revision) : Prop where
  singularName : ∀ origin uid s, (f origin uid s).singularName = s.singularName
  displayName : ∀ origin uid s, (f origin uid s).displayName = s.displayName
  localized : ∀ origin uid s, (f origin uid s).localized = s.localized

section Revise

variable (f : Revision)

def Dump.revise (d : Dump) : Dump :=
  ⟨d.contentTypes.mapValues fun uid s => s.map (f .contentType uid),
   d.components.mapValues fun uid s => s.map (f .component uid)⟩

def Candidate.revise (c : Candidate) : Candidate := { c with schema := c.schema.map (f c.origin c.uid) }

def Entry.revise (e : Entry) : Entry := { e with schema := e.schema.map (f e.origin e.uid) }

def Verdict.revise : Verdict → Verdict
  | .enrolled e => .enrolled (e.revise f)
  | .ignored => .ignored
  | .nameless => .nameless

end Revise

variable {f : Revision} {entries : List Entry} {uid reference name : String}

lemma Dump.candidates_revise (d : Dump) :
    (d.revise f).candidates = d.candidates.map (Candidate.revise f) := by
  simp [candidates, revise, OrderedMap.mapValues, Candidate.revise, Function.comp_def]

/-! ### The revised roster -/

lemma Candidate.sourceName_revise (hf : f.OfAttributes) (c : Candidate) :
    (c.revise f).sourceName = c.sourceName := by
  have hstated : (c.revise f).statedName = c.statedName := by
    obtain ⟨origin, uid, schema⟩ := c
    cases origin <;> cases schema <;> simp [revise, statedName, hf.singularName, hf.displayName]
  rw [sourceName, hstated]
  rfl

lemma Candidate.request_revise (hf : f.OfAttributes) (c : Candidate) :
    (c.revise f).request = c.request := by
  rw [request, sourceName_revise hf]
  rfl

lemma Candidate.enrolled_revise (hf : f.OfAttributes) (c : Candidate) (claim : Claim) :
    (c.revise f).enrolled claim = (c.enrolled claim).revise f := by
  rw [enrolled, sourceName_revise hf]
  rfl

namespace Roster

/-- A revision changes no verdict. -/
lemma judge_revise (hf : f.OfAttributes) (ignored : String → Bool) (pool : Pool)
    (cs : List Candidate) :
    judge ignored pool (cs.map (Candidate.revise f)) =
      (judge ignored pool cs).map fun j => (j.1.revise f, j.2.revise f) := by
  induction cs generalizing pool with
  | nil => rfl
  | cons c cs ih =>
    cases hi : ignored c.uid with
    | true =>
      have hi' : ignored (c.revise f).uid = true := hi
      rw [List.map_cons, judge_cons_of_ignored hi, judge_cons_of_ignored hi', ih]
      rfl
    | false =>
      have hi' : ignored (c.revise f).uid = false := hi
      have hverdict : Verdict.ofAnswer (c.revise f) (pool.claim? c.request) =
          (Verdict.ofAnswer c (pool.claim? c.request)).revise f := by
        cases pool.claim? c.request with
        | none => rfl
        | some claim => simp [Verdict.ofAnswer, Verdict.revise, Candidate.enrolled_revise hf]
      rw [List.map_cons, judge_cons_of_asking hi, judge_cons_of_asking hi',
        Candidate.request_revise hf, ih, hverdict]
      rfl

variable {filter : IgnoreFilter} {alwaysSuffix : Bool} {dump : Dump}

lemma judged_revise (hf : f.OfAttributes) :
    (ofDump filter alwaysSuffix (dump.revise f)).judged =
      (ofDump filter alwaysSuffix dump).judged.map fun j => (j.1.revise f, j.2.revise f) := by
  rw [ofDump, Dump.candidates_revise, judge_revise hf]
  rfl

lemma enrolment_revise (v : Verdict) : (v.revise f).enrolment = v.enrolment.map (Entry.revise f) := by
  cases v <;> rfl

lemma entries_revise (hf : f.OfAttributes) :
    (ofDump filter alwaysSuffix (dump.revise f)).entries =
      (ofDump filter alwaysSuffix dump).entries.map (Entry.revise f) := by
  rw [entries_eq, entries_eq, judged_revise hf, List.filterMap_map, List.map_filterMap]
  exact List.filterMap_congr fun j _ => enrolment_revise j.2

lemma skipped_revise (hf : f.OfAttributes) :
    (ofDump filter alwaysSuffix (dump.revise f)).skipped =
      (ofDump filter alwaysSuffix dump).skipped := by
  rw [skipped_eq, skipped_eq, judged_revise hf, List.filter_map, List.map_map]
  simp only [Function.comp_def, enrolment_revise, Option.isNone_map]
  rfl

end Roster

/-! ### Searches in the revised entries -/

namespace Naming

lemma isSome_schema_revise (e : Entry) : (e.revise f).schema.isSome = e.schema.isSome := by
  simp [Entry.revise]

lemma declared?_revise (entries : List Entry) (uid : String) :
    declared? (entries.map (Entry.revise f)) uid = (declared? entries uid).map (Entry.revise f) := by
  have hlatest : latest? (entries.map (Entry.revise f)) uid =
      (latest? entries uid).map (Entry.revise f) := by
    rw [latest?, latest?, List.filter_map, List.getLast?_map]
    rfl
  rw [declared?, declared?, hlatest, Option.filter_map]
  simp only [Function.comp_def, isSome_schema_revise]

lemma component?_revise (entries : List Entry) (reference : String) :
    component? (entries.map (Entry.revise f)) reference =
      (component? entries reference).map (Entry.revise f) := by
  have hnamed : ∀ name, componentNamed? (entries.map (Entry.revise f)) name =
      (componentNamed? entries name).map (Entry.revise f) := by
    intro name
    rw [componentNamed?, componentNamed?, List.find?_map]
    rfl
  unfold component?
  split
  · rw [declared?_revise, Option.filter_map]
    rfl
  · rw [hnamed, Option.filter_map]
    simp only [Function.comp_def, isSome_schema_revise]

lemma mediaTypeName?_revise (entries : List Entry) :
    mediaTypeName? (entries.map (Entry.revise f)) = mediaTypeName? entries := by
  have hmedia : isMedia ∘ Entry.revise f = isMedia := by
    funext e
    simp only [Function.comp_def, isMedia, isSome_schema_revise]
    rfl
  rw [mediaTypeName?, mediaTypeName?, List.find?_map, hmedia, Option.map_map]
  rfl

end Naming

lemma Context.agrees_revise (entries : List Entry) (filter : IgnoreFilter) :
    Agrees ⟨entries, filter⟩ ⟨entries.map (Entry.revise f), filter⟩ := by
  refine ⟨rfl, fun uid => ?_, fun reference => ?_, mediaTypeName?_revise entries⟩
  · rw [relationName?, relationName?, declared?_revise, Option.map_map]
    rfl
  · rw [componentName?, componentName?, component?_revise, Option.map_map]
    rfl

namespace Conversion

variable {dump : Dump} {settings : Settings}

lemma context_agrees_revise (hf : f.OfAttributes) :
    (ofDump dump settings).context.Agrees (ofDump (dump.revise f) settings).context := by
  have hentries : (ofDump (dump.revise f) settings).roster.entries =
      (ofDump dump settings).roster.entries.map (Entry.revise f) := Roster.entries_revise hf
  rw [context, context, hentries]
  exact Context.agrees_revise _ _

/-! ### The attributes that are dropped -/

/-- Whether an attribute of the schema that is enrolled under an origin and a uid becomes no
property. -/
def drops (c : Conversion) (origin : Origin) (uid name : String) (a : Attribute) : Bool :=
  c.roster.entries.any fun e =>
    e.origin = origin && e.uid == uid && (Member.ofAttribute c.context e name a).toOption.isNone

/-- The attributes of a schema that are not dropped. -/
def keptAttributes (c : Conversion) : Revision := fun origin uid s =>
  { s with attributes := s.attributes.filter fun name a => !c.drops origin uid name a }

end Conversion

/-- A dump without the attributes that its conversion drops. -/
def Dump.withoutDropped (d : Dump) (settings : Settings) : Dump :=
  d.revise (Conversion.ofDump d settings).keptAttributes

namespace Conversion

variable {dump : Dump} {settings : Settings} {e : Entry}

lemma ofAttributes_keptAttributes (c : Conversion) :
    Revision.OfAttributes c.keptAttributes :=
  ⟨fun _ _ _ => rfl, fun _ _ _ => rfl, fun _ _ _ => rfl⟩

/-- An origin and a uid belong to one entry. -/
lemma eq_of_origin_uid_eq {f : Entry} (he : e ∈ (ofDump dump settings).roster.entries)
    (hf : f ∈ (ofDump dump settings).roster.entries) (ho : f.origin = e.origin)
    (hu : f.uid = e.uid) : f = e := by
  have hkeys := Roster.map_entries_filter (IgnoreFilter.ofRules settings.idsToIgnore).skips
    (.fresh settings.alwaysSuffixComponentNames) dump.candidates (fun _ => true) Prod.mk
  have hsub : ((ofDump dump settings).roster.entries.map fun e => (e.origin, e.uid)).Sublist
      (dump.candidates.map fun c => (c.origin, c.uid)) := by
    rw [List.filter_true] at hkeys
    rw [ofDump, Roster.ofDump, hkeys]
    conv_rhs => rw [← map_snd_turns dump.candidates, List.map_map]
    exact List.filter_sublist.map _
  exact List.inj_on_of_nodup_map (dump.nodup_candidates.sublist hsub) hf he (by simp [ho, hu])

lemma drops_eq (he : e ∈ (ofDump dump settings).roster.entries) (n : String) (a : Attribute) :
    (ofDump dump settings).drops e.origin e.uid n a =
      (Member.ofAttribute (ofDump dump settings).context e n a).toOption.isNone := by
  rw [Bool.eq_iff_iff, drops, List.any_eq_true]
  constructor
  · rintro ⟨f, hf, h⟩
    simp only [Bool.and_eq_true, decide_eq_true_eq, beq_iff_eq] at h
    obtain rfl := eq_of_origin_uid_eq he hf h.1.1 h.1.2
    exact h.2
  · exact fun h => ⟨e, he, by simp [h]⟩

/-- The members of a schema are made of the attributes that it keeps. -/
lemma members_keptAttributes (he : e ∈ (ofDump dump settings).roster.entries) (s : Schema) :
    Interface.members (ofDump dump settings).context e
        ((ofDump dump settings).keptAttributes e.origin e.uid s) =
      Interface.members (ofDump dump settings).context e s := by
  rw [Interface.members, keptAttributes, OrderedMap.entries_filter, List.filterMap_filter]
  refine List.filterMap_congr fun p _ => ?_
  rw [drops_eq he]
  cases hm : (Member.ofAttribute (ofDump dump settings).context e p.1 p.2).toOption <;> simp

/-- A schema without the attributes that it drops becomes the same interface. -/
lemma ofEntry_revise (he : e ∈ (ofDump dump settings).roster.entries) :
    Interface.ofEntry (ofDump (dump.withoutDropped settings) settings).context
        (e.revise (ofDump dump settings).keptAttributes) =
      Interface.ofEntry (ofDump dump settings).context e := by
  have hagrees : (ofDump dump settings).context.Agrees
      (ofDump (dump.withoutDropped settings) settings).context :=
    context_agrees_revise (ofAttributes_keptAttributes _)
  -- an attribute is judged by the names and the origin of its entry, which a revision keeps
  have hmembers : ∀ s, Interface.members (ofDump dump settings).context
      (e.revise (ofDump dump settings).keptAttributes)
        ((ofDump dump settings).keptAttributes e.origin e.uid s) =
      Interface.members (ofDump dump settings).context e s := by
    intro s
    rw [← members_keptAttributes he s]
    rfl
  have hschema : (e.revise (ofDump dump settings).keptAttributes).schema =
      e.schema.map ((ofDump dump settings).keptAttributes e.origin e.uid) := rfl
  rw [hagrees.ofEntry_eq, Interface.ofEntry, Interface.ofEntry, hschema, Option.map_map]
  congr 1
  funext s
  simp only [Function.comp_def, Interface.ofSchema, hmembers]
  rfl

/-- **Dropped attributes leave no trace.** A dump without the attributes that become no property
gives the same module text, the same numbers of interfaces and the same skipped schemas; and every
attribute that is left in an enrolled schema becomes a property of its interface. -/
theorem dropped_traceless (dump : Dump) (settings : Settings) :
    let whole := ofDump dump settings
    let rest := ofDump (dump.withoutDropped settings) settings
    SameModule rest whole ∧ rest.skipped = whole.skipped ∧
      ∀ e ∈ rest.roster.entries, ∀ s, e.schema = some s →
        ∀ n a, (n, a) ∈ s.attributes.entries →
          ∃ m, Member.ofAttribute rest.context e n a = .ok m := by
  intro whole rest
  have hkept := ofAttributes_keptAttributes whole
  have hentries : rest.roster.entries = whole.roster.entries.map (Entry.revise whole.keptAttributes) :=
    Roster.entries_revise hkept
  refine ⟨sameModule_iff.2 ?_, ?_, ?_⟩
  · rw [interfaces, interfaces, assembled, assembled, hentries, List.map_map]
    congr 1
    exact List.map_congr_left fun e he => ofEntry_revise he
  · have hskipped : rest.roster.skipped = whole.roster.skipped := Roster.skipped_revise hkept
    rw [skipped, skipped, hskipped, hentries, List.filter_map, List.map_map]
    simp only [Function.comp_def, Entry.revise, Option.isNone_map]
  · intro e he s hs n a ha
    rw [hentries, List.mem_map] at he
    obtain ⟨e, he, rfl⟩ := he
    obtain ⟨s, hs', rfl⟩ := Option.map_eq_some_iff.1 hs
    obtain ⟨-, hnot⟩ := List.mem_filter.1 ha
    rw [Bool.not_eq_true', drops_eq he] at hnot
    have hagrees : whole.context.Agrees rest.context := context_agrees_revise hkept
    have hmember : (Member.ofAttribute whole.context (e.revise whole.keptAttributes) n a).toOption.isNone
        = false := hnot
    rw [hagrees.ofAttribute_eq]
    cases hm : Member.ofAttribute whole.context (e.revise whole.keptAttributes) n a with
    | error => simp [hm, Except.toOption] at hmember
    | ok m => exact ⟨m, rfl⟩

end Conversion

end CmsTypings
