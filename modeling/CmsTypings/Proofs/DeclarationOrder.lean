import CmsTypings.Proofs.ContentTypeNames
import CmsTypings.Proofs.UidReferences
import Mathlib.Data.List.Find

/-!
The order of declaration.

In general the order of a registry matters: the first of a name takes it, and searches by a bare
name or for the media type end at the first entry that fits. Where the plain names of all
candidates are apart and suffixes are not forced, every candidate gets its plain name, whatever
comes before it. Then no search has two entries to choose from, and the latest entry of a uid is
the one of the components if there is one, since content types are always judged first. So a
registry may be declared in any order and each of its entries still becomes the same interface.
-/

namespace CmsTypings

open Naming

/-! ### Plain names that are apart -/

namespace Roster

variable {ignored : String → Bool} {pool : Pool} {c : Candidate} {cs cs' : List Candidate}

/-- No two candidates that ask for a name have one plain name, and none has a reserved one. -/
structure Apart (ignored : String → Bool) (cs : List Candidate) : Prop where
  distinct : ((asking ignored cs).map (·.plainName)).Nodup
  unreserved : ∀ c ∈ asking ignored cs, c.plainName ∉ reservedNames

lemma claim?_of_free (hforced : pool.alwaysSuffix = false) (hfree : c.plainName ∉ pool.taken) :
    pool.claim? c.request = some ⟨c.plainName, false⟩ := by
  rw [← Candidate.baseName_request] at hfree ⊢
  rcases Pool.choice_cases pool c.request with ⟨-, -, hforces | htaken⟩ | ⟨hchoice, -⟩
  · simp [Pool.Forces, hforced] at hforces
  · exact absurd htaken hfree
  · rw [Pool.claim?_eq_some_iff, hchoice]
    exact ⟨rfl, hfree⟩

/-- Where the plain names are apart, every candidate that asks is enrolled under its own. -/
lemma judge_of_apart (hforced : pool.alwaysSuffix = false)
    (hdistinct : ((asking ignored cs).map (·.plainName)).Nodup)
    (hfree : ∀ c ∈ asking ignored cs, c.plainName ∉ pool.taken) :
    judge ignored pool cs =
      cs.map fun c => (c, if ignored c.uid then .ignored else .enrolled c.plain) := by
  induction cs generalizing pool with
  | nil => rfl
  | cons c cs ih =>
    cases hi : ignored c.uid with
    | true =>
      rw [asking_cons_of_ignored hi] at hdistinct hfree
      rw [judge_cons_of_ignored hi, ih hforced hdistinct hfree]
      simp [hi]
    | false =>
      rw [asking_cons_of_asking hi] at hdistinct hfree
      obtain ⟨hnew, hdistinct⟩ := List.nodup_cons.1 hdistinct
      have hclaim := claim?_of_free hforced (hfree c List.mem_cons_self)
      have hrest : ∀ d ∈ asking ignored cs, d.plainName ∉ (pool.next c.request).taken := by
        intro d hd ht
        rw [Pool.mem_taken_next, hclaim] at ht
        rcases ht with ht | ht
        · exact hfree d (List.mem_cons_of_mem _ hd) ht
        · rw [granted_cons_some, granted_nil, List.mem_singleton] at ht
          exact hnew (List.mem_map.2 ⟨d, hd, ht⟩)
      rw [judge_cons_of_asking hi, hclaim, ih (by simpa using hforced) hdistinct hrest]
      simp [hi, Verdict.ofAnswer, Candidate.enrolled_plainName]

lemma Apart.judge_eq (h : Apart ignored cs) :
    judge ignored (.fresh false) cs =
      cs.map fun c => (c, if ignored c.uid then .ignored else .enrolled c.plain) :=
  judge_of_apart rfl h.distinct h.unreserved

lemma Apart.perm (h : Apart ignored cs) (hp : cs'.Perm cs) : Apart ignored cs' := by
  have hasking : (asking ignored cs').Perm (asking ignored cs) := hp.filter _
  exact ⟨(hasking.map _).nodup_iff.2 h.distinct, fun c hc => h.unreserved c (hasking.subset hc)⟩

lemma Apart.entries_eq (h : Apart ignored cs) :
    (⟨judge ignored (.fresh false) cs⟩ : Roster).entries = (asking ignored cs).map (·.plain) := by
  rw [Roster.entries_eq, h.judge_eq, List.filterMap_map, asking, ← List.filterMap_eq_map,
    List.filterMap_filter]
  refine List.filterMap_congr fun c _ => ?_
  cases hi : ignored c.uid <;> simp [hi, Verdict.enrolment]

lemma Apart.skipped_eq (h : Apart ignored cs) :
    (⟨judge ignored (.fresh false) cs⟩ : Roster).skipped =
      (cs.filter fun c => ignored c.uid).map (·.uid) := by
  rw [Roster.skipped_eq, h.judge_eq, List.filter_map, List.map_map]
  congr 1
  refine List.filter_congr fun c _ => ?_
  cases hi : ignored c.uid <;> simp [hi, Verdict.enrolment]

end Roster

/-! ### Searches that do not depend on the order -/

/-- A uid is borne by one entry of each registry at most, and the content type comes first. -/
def Naming.ContentTypesFirst (entries : List Entry) : Prop :=
  entries.Pairwise fun e f => e.uid = f.uid → e.origin = .contentType ∧ f.origin = .component

lemma Dump.pairwise_candidates (d : Dump) :
    d.candidates.Pairwise fun c k =>
      c.uid = k.uid → c.origin = .contentType ∧ k.origin = .component := by
  have hregistry : ∀ (o : Origin) (m : Registry),
      (m.entries.map fun e => (⟨o, e.1, e.2⟩ : Candidate)).Pairwise fun c k =>
        c.uid = k.uid → c.origin = .contentType ∧ k.origin = .component := by
    intro o m
    rw [List.pairwise_map]
    exact (List.pairwise_map.1 m.nodup_keys).imp fun hne heq => absurd heq hne
  rw [candidates_eq, List.pairwise_append]
  refine ⟨hregistry _ _, hregistry _ _, fun c hc k hk _ => ?_⟩
  exact ⟨origin_of_mem_contentTypeCandidates hc, origin_of_mem_componentCandidates hk⟩

namespace Naming

variable {entries entries' : List Entry} {e : Entry} {uid reference : String}

/-- The latest entry of a uid, told without the order: the component, if there is one. -/
lemma isLatest_iff_of_contentTypesFirst (h : ContentTypesFirst entries) :
    IsLatest entries uid e ↔ e ∈ entries ∧ e.uid = uid ∧
      ∀ f ∈ entries, f.uid = uid → f.origin = .component → e.origin = .component := by
  constructor
  · rintro ⟨earlier, later, rfl, rfl, hlater⟩
    refine ⟨by simp, rfl, fun f hf hu ho => ?_⟩
    rw [ContentTypesFirst, List.pairwise_append] at h
    rcases List.mem_append.1 hf with hf | hf
    · exact (h.2.2 f hf e List.mem_cons_self hu).2
    · rcases List.mem_cons.1 hf with rfl | hf
      · exact ho
      · exact absurd hu (hlater f hf)
  · rintro ⟨he, rfl, hcomponent⟩
    obtain ⟨earlier, later, rfl⟩ := List.append_of_mem he
    refine ⟨earlier, later, rfl, rfl, fun f hf hu => ?_⟩
    rw [ContentTypesFirst, List.pairwise_append, List.pairwise_cons] at h
    obtain ⟨heo, hfo⟩ := h.2.1.1 f hf hu.symm
    have := hcomponent f (by simp [hf]) hu hfo
    simp [heo] at this

lemma latest?_eq_of_perm (hp : entries'.Perm entries) (h : ContentTypesFirst entries)
    (h' : ContentTypesFirst entries') (uid : String) :
    latest? entries' uid = latest? entries uid := by
  refine Option.ext fun e => ?_
  rw [latest?_eq_some_iff, latest?_eq_some_iff, isLatest_iff_of_contentTypesFirst h,
    isLatest_iff_of_contentTypesFirst h']
  simp only [hp.mem_iff]

/-- A search for what has one given name has no choice. -/
lemma find?_eq_of_perm {p : Entry → Bool} (name : String) (hp : entries'.Perm entries)
    (hnodup : (entries.map (·.name)).Nodup) (hname : ∀ e ∈ entries, p e = true → e.name = name) :
    entries'.find? p = entries.find? p := by
  refine (List.find?_eq_find?_of_perm hp.symm ?_).symm
  rintro e ⟨he, hpe⟩ f ⟨hf, hpf⟩
  exact List.inj_on_of_nodup_map hnodup he hf ((hname e he hpe).trans (hname f hf hpf).symm)

end Naming

/-! ### Contexts that answer alike -/

/-- Two contexts that resolve every reference to the same name. -/
structure Context.Agrees (ctx ctx' : Context) : Prop where
  filter : ctx'.filter = ctx.filter
  relation : ∀ uid, relationName? ctx'.entries uid = relationName? ctx.entries uid
  component : ∀ reference,
    componentName? ctx'.entries reference = componentName? ctx.entries reference
  media : mediaTypeName? ctx'.entries = mediaTypeName? ctx.entries

namespace Context.Agrees

variable {ctx ctx' : Context}

lemma ofAttribute_eq (h : ctx.Agrees ctx') (r : Entry) (n : String) (a : Attribute) :
    Member.ofAttribute ctx' r n a = Member.ofAttribute ctx r n a := by
  simp only [Member.ofAttribute, Member.componentTarget, Member.target, h.filter, h.relation,
    h.component, h.media]

lemma ofEntry_eq (h : ctx.Agrees ctx') (r : Entry) :
    Interface.ofEntry ctx' r = Interface.ofEntry ctx r := by
  have hmembers : ∀ s, Interface.members ctx' r s = Interface.members ctx r s := by
    intro s
    simp only [Interface.members, h.ofAttribute_eq]
  have hschema : Interface.ofSchema ctx' r = Interface.ofSchema ctx r := by
    funext s
    simp only [Interface.ofSchema, hmembers]
  rw [Interface.ofEntry, Interface.ofEntry, hschema]

/-- Entries under their plain names may be permuted if these are distinct. -/
lemma of_perm {cs cs' : List Candidate} {filter : IgnoreFilter} (hp : cs'.Perm cs)
    (hdistinct : (cs.map (·.plainName)).Nodup) (h : ContentTypesFirst (cs.map (·.plain)))
    (h' : ContentTypesFirst (cs'.map (·.plain))) :
    Agrees ⟨cs.map (·.plain), filter⟩ ⟨cs'.map (·.plain), filter⟩ := by
  have hp : (cs'.map (·.plain)).Perm (cs.map (·.plain)) := hp.map _
  have hnodup : ((cs.map (·.plain)).map (·.name)).Nodup := by
    rw [List.map_map]
    exact hdistinct
  have hdeclared : ∀ uid, declared? (cs'.map (·.plain)) uid = declared? (cs.map (·.plain)) uid := by
    intro uid
    rw [declared?, declared?, latest?_eq_of_perm hp h h']
  have hnamed : ∀ name,
      componentNamed? (cs'.map (·.plain)) name = componentNamed? (cs.map (·.plain)) name := by
    intro name
    refine find?_eq_of_perm name hp hnodup fun e he hb => ?_
    obtain ⟨c, -, rfl⟩ := List.mem_map.1 he
    simp only [bearsName, Bool.and_eq_true, beq_iff_eq] at hb
    exact hb.2
  refine ⟨rfl, fun uid => ?_, fun reference => ?_, ?_⟩
  · rw [relationName?, relationName?, hdeclared]
  · rw [componentName?, componentName?, component?, component?, hdeclared, hnamed]
  · rw [mediaTypeName?, mediaTypeName?]
    congr 1
    refine find?_eq_of_perm (Text.pascalCase mediaName) hp hnodup fun e he hm => ?_
    obtain ⟨c, -, rfl⟩ := List.mem_map.1 he
    simp only [isMedia, Bool.and_eq_true, beq_iff_eq] at hm
    exact congrArg Text.pascalCase hm.1.2

end Context.Agrees

/-! ### Registries in another order -/

/-- The registries of a dump with their entries in another order. -/
structure Dump.Reorders (d d' : Dump) : Prop where
  contentTypes : d'.contentTypes.entries.Perm d.contentTypes.entries
  components : d'.components.entries.Perm d.components.entries

lemma Dump.Reorders.candidates_perm {d d' : Dump} (h : d.Reorders d') :
    d'.candidates.Perm d.candidates :=
  (h.contentTypes.map _).append (h.components.map _)

namespace Conversion

variable {dump dump' : Dump} {settings : Settings}

/-- The plain names of the candidates of a dump are apart under the ignore rules of the settings. -/
def NamesApart (dump : Dump) (settings : Settings) : Prop :=
  Roster.Apart (IgnoreFilter.ofRules settings.idsToIgnore).skips dump.candidates

/-- The candidates of a dump that ask for a name. -/
def asking (dump : Dump) (settings : Settings) : List Candidate :=
  Roster.asking (IgnoreFilter.ofRules settings.idsToIgnore).skips dump.candidates

lemma entries_of_namesApart (hforced : settings.alwaysSuffixComponentNames = false)
    (h : NamesApart dump settings) :
    (ofDump dump settings).roster.entries = (asking dump settings).map (·.plain) := by
  simp only [ofDump, Roster.ofDump, hforced]
  exact Roster.Apart.entries_eq h

lemma skipped_of_namesApart (hforced : settings.alwaysSuffixComponentNames = false)
    (h : NamesApart dump settings) :
    (ofDump dump settings).roster.skipped =
      (dump.candidates.filter fun c =>
        (IgnoreFilter.ofRules settings.idsToIgnore).skips c.uid).map (·.uid) := by
  simp only [ofDump, Roster.ofDump, hforced]
  exact Roster.Apart.skipped_eq h

lemma contentTypesFirst_asking (dump : Dump) (settings : Settings) :
    ContentTypesFirst ((asking dump settings).map (·.plain)) :=
  List.pairwise_map.2 (dump.pairwise_candidates.filter _)

/-- **A registry whose names are apart may be declared in any order.** If no two plain names meet,
none is reserved and suffixes are not forced, then a conversion of the same registries in another
order makes the same interface of every entry; the interfaces and the uids that are left out are
the same up to their order. -/
theorem order_irrelevant (hforced : settings.alwaysSuffixComponentNames = false)
    (hapart : NamesApart dump settings) (horder : dump.Reorders dump') :
    let c := ofDump dump settings
    let c' := ofDump dump' settings
    c'.roster.entries.Perm c.roster.entries ∧
      (∀ e, Interface.ofEntry c'.context e = Interface.ofEntry c.context e) ∧
      c'.interfaces.Perm c.interfaces ∧ (∀ origin, c'.count origin = c.count origin) ∧
      c'.skipped.Perm c.skipped := by
  intro c c'
  have hapart' : NamesApart dump' settings := hapart.perm horder.candidates_perm
  have hasking : (asking dump' settings).Perm (asking dump settings) :=
    horder.candidates_perm.filter _
  have hentries : c.roster.entries = _ := entries_of_namesApart hforced hapart
  have hentries' : c'.roster.entries = _ := entries_of_namesApart hforced hapart'
  have hperm : c'.roster.entries.Perm c.roster.entries := by
    rw [hentries, hentries']
    exact hasking.map _
  have hagrees : c.context.Agrees c'.context := by
    rw [context, context, hentries, hentries']
    exact Context.Agrees.of_perm hasking hapart.distinct (contentTypesFirst_asking dump settings)
      (contentTypesFirst_asking dump' settings)
  have hinterfaces : c'.interfaces.Perm c.interfaces := by
    have hsame : Interface.ofEntry c'.context = Interface.ofEntry c.context :=
      funext hagrees.ofEntry_eq
    rw [interfaces, interfaces, assembled, assembled, hsame]
    exact (hperm.map _).filterMap _
  have hskipped : c'.skipped.Perm c.skipped := by
    rw [skipped, skipped, skipped_of_namesApart hforced hapart,
      skipped_of_namesApart hforced hapart']
    exact ((horder.candidates_perm.filter _).map _).append ((hperm.filter _).map _)
  refine ⟨hperm, hagrees.ofEntry_eq, hinterfaces, fun origin => ?_, hskipped⟩
  exact (hinterfaces.filter _).length_eq

/-- An author and an article that refer to each other and to a component, by uid and by name. -/
def blog : Dump where
  contentTypes := .ofList
    [("api::author.author",
      some { singularName := some "author"
             attributes := .ofList
               [("articles", ⟨.relation .toMany (some "api::article.article"), false⟩)] }),
     ("api::article.article",
      some { singularName := some "article"
             attributes := .ofList
               [("author", ⟨.relation .toOne (some "api::author.author"), false⟩),
                ("seo", ⟨.component "seo" false none, false⟩)] })]
  components := .ofList
    [("shared.seo", some { displayName := some "Seo" }), ("shared.link", none)]

/-- The same registries, each declared from its end. -/
def blogReversed : Dump where
  contentTypes := .ofList blog.contentTypes.entries.reverse
  components := .ofList blog.components.entries.reverse

/-- The articles are found whether they come before the author or after. -/
theorem blogReversed_order_irrelevant :
    ({} : Settings).alwaysSuffixComponentNames = false ∧ NamesApart blog {} ∧
      blog.Reorders blogReversed ∧
      (ofDump blogReversed {}).interfaces.Perm (ofDump blog {}).interfaces ∧
      (ofDump blog {}).interfaces.map (·.dependencies) = [["Article"], ["Author", "Seo"], []] := by
  have hforced : ({} : Settings).alwaysSuffixComponentNames = false := rfl
  have hapart : NamesApart blog {} := ⟨by decide +kernel, by decide +kernel⟩
  have horder : blog.Reorders blogReversed := by
    refine ⟨?_, ?_⟩
    · exact (List.Perm.swap _ _ []).symm
    · exact (List.Perm.swap _ _ []).symm
  exact ⟨hforced, hapart, horder, (order_irrelevant hforced hapart horder).2.2.1,
    by decide +kernel⟩

end Conversion

end CmsTypings
