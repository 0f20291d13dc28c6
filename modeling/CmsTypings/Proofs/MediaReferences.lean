import CmsTypings.Proofs.ContentTypeNames
import CmsTypings.Proofs.References

/-!
What media attributes refer to.

The type of media is recognised by the name it is converted under. This name leaves room for one
content type only, the first that asks for its plain name, so it does not matter which entry a
search for it finds first; but the content type of that name need not be that of the upload plugin.
Media attributes refer to the latter exactly if no other content type comes first.
-/

namespace CmsTypings

open Naming

/-- The uid of the content type in which the upload plugin keeps its files. -/
def uploadUid : String := "plugin::upload.file"

/-- A content type takes the name of the media type: it is declared, it is converted under that
name, and none before it has asked for it. -/
structure TakesMedia (turn : List Candidate × Candidate) : Prop where
  sourceName : turn.2.sourceName = mediaName
  declared : turn.2.schema.isSome = true
  first : Text.pascalCase mediaName ∉ turn.1.map (·.plainName)

lemma TakesMedia.firstOfName {turn : List Candidate × Candidate} (h : TakesMedia turn) :
    Roster.FirstOfName turn := by
  have hname : turn.2.plainName = Text.pascalCase mediaName := by
    rw [Candidate.plainName, h.sourceName]
  have hfree : Text.pascalCase mediaName ∉ reservedNames := by decide +kernel
  rw [Roster.FirstOfName, hname]
  exact ⟨hfree, h.first⟩

lemma isMedia_iff {e : Entry} : isMedia e = true ↔
    e.origin = .contentType ∧ e.sourceName = mediaName ∧ e.schema.isSome = true := by
  simp [isMedia, and_assoc]

/-- The property of a media attribute depends on the type of media. -/
lemma Member.dependency_of_media {ctx : Context} {entry : Entry} {name : String} {a : Attribute}
    {m : Member} {multiple : Bool} (ha : a.content = .media multiple)
    (hf : isMediaFormats entry name = false) (h : ofAttribute ctx entry name a = .ok m) :
    ∃ target, mediaTypeName? ctx.entries = some target ∧ m.dependency = some target := by
  unfold ofAttribute at h
  rw [if_neg (by simp [hf]), ha] at h
  cases hm : mediaTypeName? ctx.entries with
  | none => simp [hm] at h
  | some target =>
    simp only [hm, Except.ok.injEq] at h
    subst h
    exact ⟨target, rfl, rfl⟩

namespace Roster

variable {filter : IgnoreFilter} {alwaysSuffix : Bool} {dump : Dump} {e : Entry} {name : String}

lemma name_of_isMedia (he : e ∈ (ofDump filter alwaysSuffix dump).entries)
    (hm : isMedia e = true) : e.name = Text.pascalCase mediaName := by
  obtain ⟨ho, hs, -⟩ := isMedia_iff.1 hm
  rcases name_cases he with ⟨-, hn⟩ | ⟨-, hc, -⟩
  · rw [hn, hs]
  · simp [ho] at hc

/-- There is one entry of the media type at most, and a search for it gives its name. -/
lemma mediaTypeName?_eq_some_iff :
    mediaTypeName? (ofDump filter alwaysSuffix dump).entries = some name ↔
      ∃ e ∈ (ofDump filter alwaysSuffix dump).entries, isMedia e = true ∧ e.name = name := by
  rw [mediaTypeName?, Option.map_eq_some_iff]
  constructor
  · rintro ⟨e, he, hn⟩
    exact ⟨e, List.mem_of_find?_eq_some he, List.find?_some he, hn⟩
  · rintro ⟨e, he, hm, rfl⟩
    obtain ⟨f, hf⟩ := Option.isSome_iff_exists.1 (List.find?_isSome.2 ⟨e, he, hm⟩)
    refine ⟨f, hf, ?_⟩
    rw [name_of_isMedia he hm, name_of_isMedia (List.mem_of_find?_eq_some hf) (List.find?_some hf)]

lemma mem_contentTypes_iff {r : Roster} :
    e ∈ r.contentTypes ↔ e ∈ r.entries ∧ e.origin = .contentType := by
  simp [contentTypes]

/-- The entry of the media type is made of the content type that takes the name. -/
lemma mem_and_isMedia_iff :
    (e ∈ (ofDump filter alwaysSuffix dump).entries ∧ isMedia e = true) ↔
      ∃ turn ∈ turns (asking filter.skips dump.contentTypeCandidates),
        TakesMedia turn ∧ turn.2.plain = e := by
  have hentries : (ofDump filter alwaysSuffix dump).contentTypes =
      ((turns (asking filter.skips dump.contentTypeCandidates)).filter FirstOfName).map
        (·.2.plain) := by
    rw [contentTypes_ofDump]
    exact entries_judge_contentTypes alwaysSuffix fun c hc =>
      Dump.origin_of_mem_contentTypeCandidates hc
  constructor
  · rintro ⟨he, hm⟩
    obtain ⟨ho, hs, hschema⟩ := isMedia_iff.1 hm
    have hmem := mem_contentTypes_iff.2 ⟨he, ho⟩
    rw [hentries] at hmem
    obtain ⟨turn, hturn, rfl⟩ := List.mem_map.1 hmem
    obtain ⟨hturn, hfirst⟩ := List.mem_filter.1 hturn
    have hname : turn.2.plainName = Text.pascalCase mediaName := congrArg Text.pascalCase hs
    have hfree := (of_decide_eq_true hfirst).2
    rw [hname] at hfree
    exact ⟨turn, hturn, ⟨hs, hschema, hfree⟩, rfl⟩
  · rintro ⟨turn, hturn, htakes, rfl⟩
    have hmem : turn.2.plain ∈ (ofDump filter alwaysSuffix dump).contentTypes := by
      rw [hentries]
      exact List.mem_map_of_mem (List.mem_filter.2 ⟨hturn, decide_eq_true htakes.firstOfName⟩)
    obtain ⟨he, ho⟩ := mem_contentTypes_iff.1 hmem
    exact ⟨he, isMedia_iff.2 ⟨ho, htakes.sourceName, htakes.declared⟩⟩

end Roster

namespace Conversion

/-- The type that media attributes refer to is that of the upload plugin. -/
structure MediaIsUpload (c : Conversion) : Prop where
  named : ∀ name, mediaTypeName? c.roster.entries = some name →
    ∃ e ∈ c.roster.entries, e.uid = uploadUid ∧ e.name = name
  /-- No media attribute of an entry refers to anything else. -/
  referred : ∀ e ∈ c.roster.entries, ∀ s, e.schema = some s → ∀ n a multiple,
    (n, a) ∈ s.attributes.entries → a.content = .media multiple →
      Member.isMediaFormats e n = false → ∀ m, Member.ofAttribute c.context e n a = .ok m →
        ∃ f ∈ c.roster.entries, f.uid = uploadUid ∧ m.dependency = some f.name

/-- **When media attributes refer to the upload plugin.** This is so exactly if the content type
that takes the name of the media type, if any, has the uid of the upload plugin's content type. -/
theorem mediaIsUpload_iff (dump : Dump) (settings : Settings) :
    (ofDump dump settings).MediaIsUpload ↔
      ∀ turn ∈ turns (Roster.asking (IgnoreFilter.ofRules settings.idsToIgnore).skips
        dump.contentTypeCandidates), TakesMedia turn → turn.2.uid = uploadUid := by
  constructor
  · intro h turn hturn htakes
    obtain ⟨he, hm⟩ := Roster.mem_and_isMedia_iff.2 ⟨turn, hturn, htakes, rfl⟩
    obtain ⟨f, hf, huid, hname⟩ :=
      h.named _ (Roster.mediaTypeName?_eq_some_iff.2 ⟨_, he, hm, rfl⟩)
    have hsame : f = turn.2.plain := Roster.eq_of_name_eq hf he hname
    rw [← huid, hsame]
    rfl
  · intro h
    have hnamed : ∀ name, mediaTypeName? (ofDump dump settings).roster.entries = some name →
        ∃ e ∈ (ofDump dump settings).roster.entries, e.uid = uploadUid ∧ e.name = name := by
      intro name hname
      obtain ⟨e, he, hm, rfl⟩ := Roster.mediaTypeName?_eq_some_iff.1 hname
      obtain ⟨turn, hturn, htakes, rfl⟩ := Roster.mem_and_isMedia_iff.1 ⟨he, hm⟩
      exact ⟨_, he, h turn hturn htakes, rfl⟩
    refine ⟨hnamed, fun e _ s _ n a multiple _ hmedia hf m hm => ?_⟩
    obtain ⟨target, htarget, hdependency⟩ := Member.dependency_of_media hmedia hf hm
    obtain ⟨f, hfm, huid, rfl⟩ := hnamed target htarget
    exact ⟨f, hfm, huid, hdependency⟩

/-- An article with a cover, the content type of the upload plugin, and before it another content
type that is called media. -/
def ownMedia : Dump where
  contentTypes := .ofList
    [("api::media.media", some { singularName := some "media" }),
     ("plugin::upload.file", some { singularName := some "file" }),
     ("api::article.article",
      some { singularName := some "article"
             attributes := .ofList [("cover", ⟨.media false, false⟩)] })]

/-- The cover refers to the other content type; that of the upload plugin is left without a name. -/
theorem ownMedia_not_upload : ¬ (ofDump ownMedia {}).MediaIsUpload := by
  intro h
  have hname : mediaTypeName? (ofDump ownMedia {}).roster.entries = some "Media" := by
    decide +kernel
  have huids : ∀ e ∈ (ofDump ownMedia {}).roster.entries, e.uid ≠ uploadUid := by decide +kernel
  obtain ⟨e, he, huid, -⟩ := h.named _ hname
  exact huids e he huid

end Conversion

end CmsTypings
