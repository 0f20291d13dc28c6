import CmsTypings.Proofs.BaseNames
import CmsTypings.Proofs.EnrolledNames
import CmsTypings.Proofs.UidReferences

/-!
References and rosters without the empty entries.

An entry without a schema declares nothing, so a reference never resolves to it. It can still stand
in the way of a reference, in two places. It may be the latest of a uid, where an earlier entry of
that uid is declared; and it may be the component that a search by a plain name finds first. The
second can happen only where the empty component holds the name which the component it hides has
asked for.
-/

namespace CmsTypings

open Naming Text

/-- The dump without its empty entries. -/
def Dump.declared (d : Dump) : Dump := d.filter fun _ schema => schema.isSome

/-- The uids of the empty entries. -/
def Dump.emptyUids (d : Dump) : List String :=
  (d.candidates.filter fun c => c.schema.isNone).map (·.uid)

lemma Dump.candidates_declared (d : Dump) : d.declared.candidates = Roster.declared d.candidates :=
  d.candidates_filter _

/-! ### References without the empty entries -/

/-- The entries that have a schema. -/
def Naming.declaredEntries (entries : List Entry) : List Entry :=
  entries.filter fun e => e.schema.isSome

/-- An empty entry stands between a reference and the entry that it would mean. -/
def UidReference.Hidden (ref : UidReference) (entries : List Entry) : Prop :=
  (∃ e, IsLatest entries ref.uid e ∧ e.schema = none) ∧ ∃ e, ref.Means (declaredEntries entries) e

/-- Whether an empty component comes before a declared one in the search by a plain name. -/
def Naming.Obscured (entries : List Entry) (name : String) : Prop :=
  ∃ e, componentNamed? entries name = some e ∧ e.schema = none ∧
    ∃ f ∈ entries, bearsName name f = true ∧ f.schema.isSome = true

def Context.declared (ctx : Context) : Context := ⟨declaredEntries ctx.entries, ctx.filter⟩

section Resolution

variable {entries : List Entry} {e : Entry} {uid reference : String} {ref : UidReference}

lemma mem_declaredEntries : e ∈ declaredEntries entries ↔ e ∈ entries ∧ e.schema.isSome = true :=
  List.mem_filter

lemma Naming.IsLatest.declared (h : IsLatest entries uid e) (hs : e.schema.isSome = true) :
    IsLatest (declaredEntries entries) uid e := by
  obtain ⟨earlier, later, rfl, hu, hlater⟩ := h
  refine ⟨declaredEntries earlier, declaredEntries later, ?_, hu, fun f hf => ?_⟩
  · rw [declaredEntries, List.filter_append, List.filter_cons_of_pos (by simpa using hs)]
    rfl
  · exact hlater f (mem_declaredEntries.1 hf).1

lemma UidReference.means_declaredEntries_iff (h : ¬ ref.Hidden entries) :
    ref.Means (declaredEntries entries) e ↔ ref.Means entries e := by
  constructor
  · intro hm
    have hmem := (mem_declaredEntries.1 hm.1.mem).1
    obtain ⟨f, hf⟩ := exists_isLatest hmem
    rw [hm.1.uid_eq] at hf
    cases hs : f.schema with
    | none => exact absurd ⟨⟨f, hf, hs⟩, e, hm⟩ h
    | some s =>
      obtain rfl := (hf.declared (by simp [hs])).unique hm.1
      exact ⟨hf, hm.2⟩
  · rintro ⟨hl, hs, ha⟩
    exact ⟨hl.declared hs, hs, ha⟩

lemma mediaTypeName?_declaredEntries (entries : List Entry) :
    mediaTypeName? (declaredEntries entries) = mediaTypeName? entries := by
  unfold mediaTypeName? declaredEntries
  rw [List.find?_filter]
  congr 2
  funext e
  rw [Bool.eq_iff_iff, decide_eq_true_iff]
  refine ⟨fun h => h.2, fun h => ⟨?_, h⟩⟩
  simp only [isMedia, Bool.and_eq_true] at h
  exact h.2

lemma componentNamed?_declaredEntries {name : String} (h : ¬ Obscured entries name) :
    (componentNamed? (declaredEntries entries) name).filter (fun e => e.schema.isSome) =
      (componentNamed? entries name).filter fun e => e.schema.isSome := by
  cases hf : componentNamed? entries name with
  | none =>
    have hnone : componentNamed? (declaredEntries entries) name = none := by
      refine List.find?_eq_none.2 fun e he => ?_
      exact List.find?_eq_none.1 hf e (mem_declaredEntries.1 he).1
    rw [hnone]
  | some e =>
    cases hs : e.schema with
    | none =>
      have hnone : componentNamed? (declaredEntries entries) name = none := by
        refine List.find?_eq_none.2 fun f hm hb => ?_
        obtain ⟨hm, hd⟩ := mem_declaredEntries.1 hm
        exact h ⟨e, hf, hs, f, hm, hb, hd⟩
      simp [hnone, Option.filter, hs]
    | some s =>
      obtain ⟨hb, before, after, rfl, hbefore⟩ := List.find?_eq_some_iff_append.1 hf
      have hsome : componentNamed? (declaredEntries (before ++ e :: after)) name = some e := by
        refine List.find?_eq_some_iff_append.2
          ⟨hb, declaredEntries before, declaredEntries after, ?_, fun f hm => ?_⟩
        · rw [declaredEntries, List.filter_append, List.filter_cons_of_pos (by simp [hs])]
          rfl
        · exact hbefore f (mem_declaredEntries.1 hm).1
      rw [hsome]

lemma componentName?_declaredEntries (hu : isUid reference = false)
    (h : ¬ Obscured entries (pascalCase reference)) :
    componentName? (declaredEntries entries) reference = componentName? entries reference := by
  simp only [componentName?, component?, hu, Bool.false_eq_true, if_false,
    componentNamed?_declaredEntries h]

end Resolution

namespace Member

variable {ctx : Context} {r : Entry} {n : String} {a : Attribute} {m : Member}

/-- What an attribute becomes does not depend on the empty entries that hide nothing from it. -/
lemma ofAttribute_declared (hs : ctx.Sifted) (ho : ∀ name, ¬ Obscured ctx.entries name)
    (hh : isMediaFormats r n = false → ∀ ref, a.uidReference? = some ref →
      ¬ ref.Hidden ctx.entries) :
    ofAttribute ctx.declared r n a = .ok m ↔ ofAttribute ctx r n a = .ok m := by
  cases hf : isMediaFormats r n with
  | true => simp [ofAttribute, hf]
  | false =>
    cases href : a.uidReference? with
    | some ref =>
      have hs' : ctx.declared.Sifted := fun e he => hs e (mem_declaredEntries.1 he).1
      have hmeans := fun e => UidReference.means_declaredEntries_iff (e := e) (hh hf ref href)
      rw [ofAttribute_eq_ok_iff_means hs hf href, ofAttribute_eq_ok_iff_means hs' hf href]
      simp only [Context.declared, hmeans]
    | none =>
      obtain ⟨content, required⟩ := a
      cases content with
      | relation arity target =>
        cases target with
        | none => simp [ofAttribute, hf]
        | some uid => cases href
      | component reference repeatable user =>
        simp only [Attribute.uidReference?] at href
        split at href
        · cases href
        · next hu =>
          have hu : user ≠ some userUid := hu
          split at href
          · cases href
          · next hr =>
            have hr : isUid reference = false := Bool.eq_false_iff.2 hr
            simp [ofAttribute, hf, componentTarget, hu, target, Context.declared,
              componentName?_declaredEntries hr (ho _)]
      | media multiple =>
        simp [ofAttribute, hf, Context.declared, mediaTypeName?_declaredEntries]
      | enumeration | password | dynamicZone | text | json | number | date | boolean | unknown =>
        simp [ofAttribute, hf]

end Member

/-! ### The roster without the empty entries -/

namespace Roster

/-- The entries of the candidates that have a schema. -/
lemma entries_filter_declared (ignored : String → Bool) (pool : Pool) (cs : List Candidate) :
    (⟨(judge ignored pool cs).filter fun j => j.1.schema.isSome⟩ : Roster).entries =
      declaredEntries (⟨judge ignored pool cs⟩ : Roster).entries := by
  rw [entries_eq, entries_eq, declaredEntries, List.filter_filterMap, List.filterMap_filter]
  refine List.filterMap_congr fun j hj => ?_
  cases he : j.2.enrolment with
  | none => simp
  | some e =>
    obtain ⟨claim, rfl⟩ := exists_enrolled (c := j.1) hj he
    have hs : (j.1.enrolled claim).schema = j.1.schema := rfl
    cases hd : j.1.schema.isSome <;> simp [Option.filter, hs, hd]

/-- A row in which no empty candidate holds a name that another candidate asks for has no empty
component in the way of a search by a plain name. -/
lemma not_obscured {filter : IgnoreFilter} {alwaysSuffix : Bool} {dump : Dump}
    (h : ∀ n ∈ emptyNames (ofDump filter alwaysSuffix dump).judged,
      n ∉ askedNames filter.skips (.fresh alwaysSuffix) (declared dump.candidates)) (name : String) :
    ¬ Obscured (ofDump filter alwaysSuffix dump).entries name := by
  rintro ⟨e, hfind, hempty, f, hf, hfb, hfs⟩
  have he := List.mem_of_find?_eq_some hfind
  obtain ⟨heo, hebase⟩ := (bearsName_iff he).1 (List.find?_some hfind)
  obtain ⟨-, hfbase⟩ := (bearsName_iff hf).1 hfb
  have hne : f ≠ e := by
    rintro rfl
    simp [hempty] at hfs
  -- the empty one bears the plain name itself, for it is found before the declared one
  obtain ⟨hes, -⟩ := suffixed_of_componentNamed? hfind hf hfb hne
  have hename : e.name = name := by
    rcases name_cases he with ⟨-, hn⟩ | ⟨hs, -⟩
    · rw [hn, hebase]
    · simp [hes] at hs
  -- and the declared one has asked for it, since suffixes are not forced
  have hunforced := alwaysSuffix_eq_false he heo hes
  obtain ⟨c, hc, -, -, -, claim, -, rfl⟩ := exists_pool hf
  have hasking : c ∈ asking filter.skips (declared dump.candidates) := by
    obtain ⟨hc, hi⟩ := mem_asking_iff.1 hc
    exact mem_asking_iff.2 ⟨List.mem_filter.2 ⟨hc, hfs⟩, hi⟩
  have hasked : c.request.baseName ∈
      askedNames filter.skips (.fresh alwaysSuffix) (declared dump.candidates) :=
    Pool.baseName_mem_asked (List.mem_map_of_mem hasking) fun hforced => by
      simp [Pool.Forces, Pool.fresh, hunforced] at hforced
  have hbase : c.request.baseName = e.name := hfbase.trans hename.symm
  refine h e.name (List.mem_map_of_mem (List.mem_filter.2 ⟨he, by simp [hempty]⟩)) ?_
  rwa [← hbase]

end Roster

/-! ### Interfaces -/

namespace Interface

variable {ctx ctx' : Context} {r : Entry} {s : Schema}

/-- The interface of a schema is settled by what its attributes become. -/
lemma ofSchema_congr
    (h : ∀ n a, (n, a) ∈ s.attributes.entries → ∀ m,
      (Member.ofAttribute ctx' r n a = .ok m ↔ Member.ofAttribute ctx r n a = .ok m)) :
    ofSchema ctx' r s = ofSchema ctx r s := by
  have toOption_eq_some : ∀ (x : Except Omission Member) m, x.toOption = some m ↔ x = .ok m := by
    intro x m
    cases x <;> simp [Except.toOption]
  have hmembers : members ctx' r s = members ctx r s := by
    refine List.filterMap_congr fun p hp => Option.ext fun m => ?_
    rw [toOption_eq_some, toOption_eq_some]
    exact h p.1 p.2 hp m
  simp only [ofSchema, hmembers]

/-- And it tells the names of the attributes that become properties. -/
lemma attributeNames_eq_of_ofSchema_eq (h : ofSchema ctx' r s = ofSchema ctx r s) :
    attributeNames ctx' r s = attributeNames ctx r s := by
  have hp := congrArg properties h
  simp only [ofSchema, List.append_left_inj, List.append_right_inj] at hp
  have hn := congrArg (List.map (·.name)) hp
  simpa [attributeNames, Function.comp_def] using hn

end Interface

end CmsTypings
