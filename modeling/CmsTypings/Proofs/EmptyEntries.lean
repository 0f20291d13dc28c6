import CmsTypings.Proofs.DeclaredEntries
import CmsTypings.Proofs.References

/-!
Empty entries of the registries.

An entry without a schema declares nothing, but it is enrolled under a name like any other. The
module can notice this in two ways. The name may be one that a declared schema asks for, which is
then suffixed or left out; and the entry may be the latest of a uid that a reference means, so that
the reference is lost although an earlier entry of the uid is declared. These are the only ways.
-/

namespace CmsTypings

open Naming

namespace Conversion

variable {dump : Dump} {settings : Settings} {c : Conversion}

/-- An empty entry bears a name that a declared schema asks for where there are no empty ones. -/
def EmptyNameAsked (dump : Dump) (settings : Settings) : Prop :=
  ∃ n ∈ Roster.emptyNames (ofDump dump settings).roster.judged,
    n ∈ Roster.askedNames (ofDump dump settings).filter.skips
      (.fresh settings.alwaysSuffixComponentNames) dump.declared.candidates

/-- An empty entry hides what an attribute of an assembled schema refers to. -/
def HidesReference (c : Conversion) : Prop :=
  ∃ r ∈ c.roster.entries, ∃ s n a ref, r.schema = some s ∧ (n, a) ∈ s.attributes.entries ∧
    Member.isMediaFormats r n = false ∧ a.uidReference? = some ref ∧ ref.Hidden c.roster.entries

lemma judged_declared_iff :
    (ofDump dump.declared settings).roster.judged =
        (ofDump dump settings).roster.judged.filter (fun j => j.1.schema.isSome) ↔
      ¬ EmptyNameAsked dump settings := by
  have h : (ofDump dump settings).roster.judged.filter (fun j => j.1.schema.isSome) =
      judge _ _ (Roster.declared dump.candidates) ↔ _ :=
    Roster.judge_declared_iff dump.candidates
      (Pool.extends_refl (.fresh settings.alwaysSuffixComponentNames))
  rw [eq_comm]
  simpa [EmptyNameAsked, ofDump, Roster.ofDump, Dump.candidates_declared] using h

lemma entries_declared (h : ¬ EmptyNameAsked dump settings) :
    (ofDump dump.declared settings).roster.entries =
      declaredEntries (ofDump dump settings).roster.entries := by
  have hj := judged_declared_iff.2 h
  rw [Roster.entries_eq, hj, ← Roster.entries_eq ⟨_⟩]
  exact Roster.entries_filter_declared _ _ _

lemma context_declared (h : ¬ EmptyNameAsked dump settings) :
    (ofDump dump.declared settings).context = (ofDump dump settings).context.declared := by
  rw [context, entries_declared h]
  rfl

/-- Only entries with a schema are assembled. -/
lemma interfaces_eq (c : Conversion) :
    c.interfaces = (declaredEntries c.roster.entries).filterMap (Interface.ofEntry c.context) := by
  rw [interfaces, assembled, List.filterMap_map, declaredEntries, List.filterMap_filter]
  refine List.filterMap_congr fun e _ => ?_
  cases hs : e.schema <;> simp [Interface.ofEntry, hs]

/-- Empty entries leave no trace where they hold no name that is asked for and hide nothing. -/
lemma interfaces_declared (h : ¬ EmptyNameAsked dump settings)
    (hh : ¬ HidesReference (ofDump dump settings)) :
    (ofDump dump.declared settings).interfaces = (ofDump dump settings).interfaces := by
  have hfilter : declaredEntries (declaredEntries (ofDump dump settings).roster.entries) =
      declaredEntries (ofDump dump settings).roster.entries := by
    simp [declaredEntries, List.filter_filter]
  have hobscured : ∀ name, ¬ Obscured (ofDump dump settings).context.entries name := by
    refine Roster.not_obscured fun n hn ha => h ⟨n, hn, ?_⟩
    rw [Dump.candidates_declared]
    exact ha
  rw [interfaces_eq, interfaces_eq, entries_declared h, context_declared h, hfilter]
  refine List.filterMap_congr fun r hr => ?_
  obtain ⟨hr, hs⟩ := mem_declaredEntries.1 hr
  obtain ⟨s, hs⟩ := Option.isSome_iff_exists.1 hs
  simp only [Interface.ofEntry, hs, Option.map_some, Option.some.injEq]
  refine Interface.ofSchema_congr fun n a ha m => ?_
  refine Member.ofAttribute_declared (sifted_context dump settings) hobscured ?_
  intro hf ref href hhidden
  exact hh ⟨r, hr, s, n, a, ref, hs, ha, hf, href, hhidden⟩

/-! ### What an empty entry can change -/

lemma declaredEntries_of_declared (dump : Dump) (settings : Settings) :
    declaredEntries (ofDump dump.declared settings).roster.entries =
      (ofDump dump.declared settings).roster.entries := by
  refine List.filter_eq_self.2 fun e he => ?_
  obtain ⟨c, hc, -, claim, rfl⟩ := Roster.exists_candidate_of_mem he
  rw [Dump.candidates_declared] at hc
  exact (List.mem_filter.1 hc).2

/-- The interfaces tell the keys of the declared entries. -/
lemma map_key_interfaces (c : Conversion) :
    c.interfaces.map (fun i => (i.origin, i.uid, i.name)) =
      (declaredEntries c.roster.entries).map Entry.key := by
  rw [interfaces_eq, List.map_filterMap, ← List.filterMap_eq_map]
  refine List.filterMap_congr fun e he => ?_
  obtain ⟨s, hs⟩ := Option.isSome_iff_exists.1 (mem_declaredEntries.1 he).2
  simp only [Interface.ofEntry, hs]
  rfl

/-- If the interfaces are the same without the empty entries, then so are the names. -/
lemma not_emptyNameAsked
    (h : (ofDump dump.declared settings).interfaces = (ofDump dump settings).interfaces) :
    ¬ EmptyNameAsked dump settings := by
  rw [← judged_declared_iff]
  have hfst : (ofDump dump.declared settings).roster.judged.map Prod.fst =
      Roster.declared dump.candidates := by
    rw [← Dump.candidates_declared]
    exact Roster.map_fst_judge _ _ _
  have hwhole : (ofDump dump settings).roster.judged.map Prod.fst = dump.candidates :=
    Roster.map_fst_judge _ _ _
  have hkey := congrArg (List.map fun i => (i.origin, i.uid, i.name)) h
  rw [map_key_interfaces, map_key_interfaces, declaredEntries_of_declared] at hkey
  refine Roster.judged_eq_of_key_eq (fun j hj => hj) (fun j hj => (List.mem_filter.1 hj).1)
    ?_ ?_ ?_
  · rw [hfst, ← hwhole, Roster.declared, List.filter_map]
    rfl
  · rw [hfst, ← Dump.candidates_declared]
    exact Dump.nodup_candidates _
  · exact hkey.trans (congrArg _ (Roster.entries_filter_declared _ _ _).symm)

/-- And then no reference has been hidden. -/
lemma not_hidesReference (hnames : ¬ EmptyNameAsked dump settings)
    (h : (ofDump dump.declared settings).interfaces = (ofDump dump settings).interfaces) :
    ¬ HidesReference (ofDump dump settings) := by
  rintro ⟨r, hr, s, n, a, ref, hs, ha, hf, href, ⟨e, hlatest, hempty⟩, hmeans⟩
  have hr' : r ∈ (ofDump dump.declared settings).roster.entries := by
    rw [entries_declared hnames]
    exact mem_declaredEntries.2 ⟨hr, by simp [hs]⟩
  -- the interface of the same entry is the same in both modules
  have hi := ofSchema_mem hr' hs
  rw [h] at hi
  obtain ⟨f, hfe, s', hs', heq⟩ := mem_interfaces_iff.1 hi
  obtain rfl : f = r := Roster.eq_of_name_eq hfe hr (congrArg Interface.name heq).symm
  obtain rfl : s' = s := Option.some.inj (hs'.symm.trans hs)
  have hsame := Interface.attributeNames_eq_of_ofSchema_eq heq
  -- but only one of them has a property for the reference
  have hthere : n ∈ Interface.attributeNames (ofDump dump.declared settings).context f s' := by
    refine (Interface.mem_attributeNames_iff_means (sifted_context _ _) hf href ha).2 ?_
    rw [context_declared hnames]
    exact hmeans
  rw [hsame, Interface.mem_attributeNames_iff_means (sifted_context _ _) hf href ha] at hthere
  obtain ⟨g, hg, hgs, -⟩ := hthere
  obtain rfl := hg.unique hlatest
  simp [hempty] at hgs

/-! ### The uids that are left out -/

/-- The uids of the empty entries that were enrolled. -/
lemma emptyUids_enrolled (dump : Dump) (settings : Settings) :
    ((ofDump dump settings).roster.entries.filter fun e => e.schema.isNone).map (·.uid) =
      (((ofDump dump settings).roster.judged.filter fun j => !j.1.schema.isSome).filter
        fun j => !j.2.enrolment.isNone).map (·.1.uid) := by
  rw [Roster.entries_eq, List.filter_filterMap, List.map_filterMap, List.filter_filter,
    ← List.filterMap_eq_map, List.filterMap_filter]
  refine List.filterMap_congr fun j hj => ?_
  cases he : j.2.enrolment with
  | none => simp
  | some e =>
    obtain ⟨claim, rfl⟩ := Roster.exists_enrolled (c := j.1) hj he
    have hs : (j.1.enrolled claim).schema = j.1.schema := rfl
    have hu : (j.1.enrolled claim).uid = j.1.uid := rfl
    cases hd : j.1.schema <;> simp [Option.filter, hs, hd, hu]

lemma skipped_declared (h : ¬ EmptyNameAsked dump settings) :
    (ofDump dump.declared settings).skipped =
      (((ofDump dump settings).roster.judged.filter fun j => j.2.enrolment.isNone).filter
        fun j => j.1.schema.isSome).map (·.1.uid) := by
  have hnone : (ofDump dump.declared settings).roster.entries.filter (fun e => e.schema.isNone) =
      [] := by
    rw [← declaredEntries_of_declared, List.filter_eq_nil_iff]
    intro e he
    simp [Option.isSome_iff_ne_none.1 (mem_declaredEntries.1 he).2]
  rw [skipped, hnone, Roster.skipped_eq, judged_declared_iff.2 h, List.filter_comm]
  simp

lemma skipped_sublist (h : ¬ EmptyNameAsked dump settings) :
    (ofDump dump.declared settings).skipped.Sublist (ofDump dump settings).skipped := by
  rw [skipped_declared h, skipped, Roster.skipped_eq]
  exact (List.filter_sublist.map _).trans (List.sublist_append_left _ _)

/-- An empty entry is left out whether it was enrolled or not, and the others as without it. -/
lemma skipped_perm (h : ¬ EmptyNameAsked dump settings) :
    (ofDump dump settings).skipped.Perm
      ((ofDump dump.declared settings).skipped ++ dump.emptyUids) := by
  have hempty : dump.emptyUids =
      ((ofDump dump settings).roster.judged.filter fun j => !j.1.schema.isSome).map (·.1.uid) := by
    have hwhole : dump.candidates = (ofDump dump settings).roster.judged.map Prod.fst :=
      (Roster.map_fst_judge _ _ _).symm
    simp [Dump.emptyUids, hwhole, List.filter_map, Function.comp_def]
  rw [skipped, emptyUids_enrolled, skipped_declared h, hempty, Roster.skipped_eq]
  generalize (ofDump dump settings).roster.judged = js
  have hleft := List.filter_append_perm (fun j => j.1.schema.isSome)
    (js.filter fun j => j.2.enrolment.isNone)
  have hempties := List.filter_append_perm (fun j => j.2.enrolment.isNone)
    (js.filter fun j => !j.1.schema.isSome)
  rw [List.filter_comm] at hempties
  refine ((hleft.symm.map _).append_right _).trans ?_
  rw [List.map_append, List.append_assoc, ← List.map_append]
  exact (hempties.map _).append_left _

/-- **When empty entries leave no trace.** Without the empty entries of both registries the module
is the same exactly when none of them holds a name that a declared schema asks for, and none hides
what a reference by uid means. Of the uids left out only theirs are missing then. -/
theorem empty_traceless_iff (dump : Dump) (settings : Settings) :
    let whole := ofDump dump settings
    let rest := ofDump dump.declared settings
    (SameModule rest whole ↔ ¬ EmptyNameAsked dump settings ∧ ¬ HidesReference whole) ∧
      (¬ EmptyNameAsked dump settings →
        rest.skipped.Sublist whole.skipped ∧
          whole.skipped.Perm (rest.skipped ++ dump.emptyUids)) := by
  intro whole rest
  refine ⟨?_, fun h => ⟨skipped_sublist h, skipped_perm h⟩⟩
  rw [sameModule_iff]
  constructor
  · intro h
    have hnames := not_emptyNameAsked h
    exact ⟨hnames, not_hidesReference hnames h⟩
  · rintro ⟨hnames, hreferences⟩
    exact interfaces_declared hnames hreferences

/-- An article, and a content type and a component without a schema whose names nobody asks for. -/
def quietEntries : Dump where
  contentTypes := .ofList
    [("api::ghost.ghost", none),
     ("api::article.article", some { singularName := some "article" })]
  components := .ofList [("shared.article", none)]

theorem quietEntries_traceless :
    ¬ EmptyNameAsked quietEntries {} ∧ ¬ HidesReference (ofDump quietEntries {}) ∧
      (ofDump quietEntries {}).skipped.Perm
        ((ofDump quietEntries.declared {}).skipped ++ ["api::ghost.ghost", "shared.article"]) := by
  have hsame : SameModule (ofDump quietEntries.declared {}) (ofDump quietEntries {}) :=
    sameModule_iff.2 (by decide +kernel)
  obtain ⟨hiff, hskipped⟩ := empty_traceless_iff quietEntries {}
  obtain ⟨hnames, hreferences⟩ := hiff.1 hsame
  exact ⟨hnames, hreferences, (hskipped hnames).2⟩

/-- An article, and an empty entry that takes its name. -/
def ghostArticle : Dump where
  contentTypes := .ofList
    [("api::ghost.article", none),
     ("api::article.article", some { singularName := some "article" })]
  components := .empty

/-- The article is declared only if the empty entry is not there. -/
theorem ghostArticle_takes_name :
    (ofDump ghostArticle.declared {}).count .contentType = 1 ∧
      (ofDump ghostArticle {}).count .contentType = 0 := by
  decide +kernel

/-- A page that refers to a content type, and an empty component of the same uid. -/
def ghostSeo : Dump where
  contentTypes := .ofList
    [("api::page.page",
      some { singularName := some "page"
             attributes := .ofList [("seo", ⟨.relation .toOne (some "shared.seo"), false⟩)] }),
     ("shared.seo", some { singularName := some "seo" })]
  components := .ofList [("shared.seo", none)]

example :
    (ofDump ghostSeo.declared {}).interfaces.map (·.dependencies) = [["Seo"], []] ∧
      (ofDump ghostSeo {}).interfaces.map (·.dependencies) = [[], []] := by
  decide +kernel

end Conversion

end CmsTypings
