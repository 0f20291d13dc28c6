import CmsTypings.Proofs.Places
import CmsTypings.Proofs.SavedSettings

/-!
Settings that are saved to a file and loaded from it.

Loading looks at more files than the one that is asked for. Where no other is there, each of them is
missing or is the saved file under another path; so no source fails, and the saved text is the last
one that is laid over the others.
-/

namespace CmsTypings.Settings

open Disk Disk.Path

/-! ### The files that are always looked at -/

/-- The files that loading looks at whatever file is asked for, without their completions. -/
def standingFiles (env : Environment) : List Path := projectFiles ++ (userFile? env).toList

/-- The names of those files. -/
def standingNames : List String := [fileName, "." ++ fileName]

lemma isName_of_mem : ∀ name ∈ standingNames, IsName name := by
  have h : ∀ name ∈ standingNames, name.toList ≠ [] ∧ '/' ∉ name.toList := by decide +kernel
  exact fun name hname => ⟨(h name hname).1, (h name hname).2⟩

lemma exists_name_of_mem {env : Environment} {q : Path} (hq : q ∈ standingFiles env) :
    ∃ name ∈ standingNames, q.EndsIn name := by
  obtain hq | hq := List.mem_append.1 hq
  · rw [projectFiles] at hq
    simp only [List.mem_cons, List.not_mem_nil, or_false] at hq
    obtain rfl | rfl | rfl := hq
    · exact ⟨fileName, by simp [standingNames], .inl rfl⟩
    · exact ⟨"." ++ fileName, by simp [standingNames], .inl rfl⟩
    · exact ⟨fileName, by simp [standingNames], .inr ⟨"config".toList, rfl⟩⟩
  · obtain ⟨directory, -, rfl⟩ := Option.map_eq_some_iff.1 (Option.mem_toList.1 hq)
    exact ⟨fileName, by simp [standingNames], endsIn_join _ _⟩

/-- The extension of a path is that of its last name. -/
lemma extension_of_endsIn {q : Path} {name : String} (h : q.EndsIn name) (hname : IsName name) :
    q.extension = Path.extension ⟨name⟩ :=
  extension_congr ((h.getLast?_names hname).trans
    (EndsIn.getLast?_names (p := ⟨name⟩) (.inl rfl) hname).symm)

lemma extension_of_mem {env : Environment} {q : Path} (hq : q ∈ standingFiles env) :
    q.extension = "toml" := by
  have hsame : ∀ name ∈ standingNames, Path.extension ⟨name⟩ = "toml" := by decide +kernel
  obtain ⟨name, hname, hends⟩ := exists_name_of_mem hq
  rw [extension_of_endsIn hends (isName_of_mem name hname), hsame name hname]

lemma isExtension_of_mem : ∀ f ∈ FileFormat.all, ∀ e ∈ f.extensions, IsExtension e := by
  have h : ∀ f ∈ FileFormat.all, ∀ e ∈ f.extensions,
      e.toList ≠ [] ∧ '/' ∉ e.toList ∧ '.' ∉ e.toList := by decide +kernel
  exact fun f hf e he => ⟨⟨(h f hf e he).1, (h f hf e he).2.1⟩, (h f hf e he).2.2⟩

/-- A completion has an extension, which is one of its format. -/
lemma extension_of_mem_completions {env : Environment} {q : Path} (hq : q ∈ standingFiles env)
    {c : Path × FileFormat} (hc : c ∈ completions q) :
    c.1.extension ∈ c.2.extensions ∧ c.1.extension ≠ "" := by
  obtain ⟨f, hf, hc⟩ := List.mem_flatMap.1 hc
  obtain ⟨e, he, rfl⟩ := List.mem_map.1 hc
  obtain ⟨name, hname, hends⟩ := exists_name_of_mem hq
  have hextension := isExtension_of_mem f hf e he
  have hsame : (q.withExtension e).extension = e :=
    hends.extension_withExtension (isName_of_mem name hname) hextension
  refine ⟨hsame.symm ▸ he, ?_⟩
  rintro hempty
  exact hextension.ne_nil (by rw [← hsame, hempty]; rfl)

lemma mem_consulted_of_mem {env : Environment} {q : Path} (hq : q ∈ standingFiles env) :
    q ∈ consulted env none ∧ ∀ c ∈ completions q, c.1 ∈ consulted env none := by
  have hmem : q ∈ projectFiles ++ (userFile? env).toList ++ (none : Option Path).toList :=
    List.mem_append_left _ hq
  refine ⟨List.mem_flatMap.2 ⟨q, hmem, List.mem_cons_self⟩, fun c hc => ?_⟩
  exact List.mem_flatMap.2 ⟨q, hmem, List.mem_cons_of_mem _ (List.mem_map_of_mem hc)⟩

/-! ### Formats -/

lemma toml_of_mem_extensions {f : FileFormat} (h : "toml" ∈ f.extensions) : f = .toml := by
  cases f <;> simp_all [FileFormat.extensions]

lemma ofExtension?_toml : FileFormat.ofExtension? "toml" = some .toml := by decide +kernel

/-! ### Sources after saving -/

lemma exists_optional {view : View} {q : Path} {entries : List (String × Setting)}
    (h : source? view q = .ok none ∨ source? view q = .ok (some entries)) (below : Setting) :
    ∃ above, optional view q below = .ok above := by
  obtain h | h := h
  · exact ⟨below, by rw [optional, h]; rfl⟩
  · exact ⟨below.layer entries, by rw [optional, h]; rfl⟩

lemma ofEnvironment_eq_nil {env : Environment}
    (henv : ∀ v ∈ env, variableStart.isPrefixOf v.1.toLower.toList = false) :
    ofEnvironment env = [] := by
  rw [ofEnvironment, List.filterMap_eq_nil_iff]
  intro v hv
  simp [henv v hv]

section Saved

variable {disk disk' : Disk} {path q : Path} {env : Environment} {s : Settings}
  {entries : List (String × Setting)} (hwrite : disk.write path s.save = .ok disk')
  (hext : path.extension = "toml")
  (halone : ∀ p ∈ consulted env none, View.isFile disk.read p = true →
    disk.place p = disk.place path)

include hwrite

/-- What is a file after saving is the saved one, if it is the only one. -/
lemma place_and_read_of_isFile
    (halone : View.isFile disk.read q = true → disk.place q = disk.place path)
    (hfile : View.isFile disk'.read q = true) :
    disk.place q = disk.place path ∧ disk'.read q = .ok s.save := by
  have hplace : disk.place q = disk.place path := by
    by_contra hne
    exact hne (halone (isFile_of_write hwrite hne hfile))
  obtain ⟨-, -, -, -, hslash⟩ := isFile_read.1 hfile
  exact ⟨hplace, read_write hwrite hplace hslash⟩

include hext

lemma required_saved (hentries : FileFormat.toml.read? s.save = some entries) (below : Setting) :
    required disk'.read path below = .ok (below.layer entries) := by
  obtain ⟨-, -, hslash, -⟩ := write_eq_ok.1 hwrite
  have hread : disk'.read path = .ok s.save := read_write hwrite rfl hslash
  have hsource : source? disk'.read path = .ok (some entries) := by
    simp [source?, file?, View.isFile, hread, hext, ofExtension?_toml, hentries]
  rw [required, hsource]
  rfl

include halone

/-- A standing file that is found after saving is the saved one, and is read as what it is. -/
lemma file?_of_mem (hq : q ∈ standingFiles env) {found : Path × FileFormat}
    (hfound : file? disk'.read q = some found) :
    found.2 = .toml ∧ disk'.read found.1 = .ok s.save := by
  obtain ⟨hself, hcompletions⟩ := mem_consulted_of_mem hq
  rw [file?] at hfound
  split at hfound
  · next hfile =>
    rw [extension_of_mem hq, ofExtension?_toml] at hfound
    obtain rfl := Option.some.inj hfound
    exact ⟨rfl, (place_and_read_of_isFile hwrite (halone q hself) hfile).2⟩
  · have hmem : found ∈ completions q := List.mem_of_find?_eq_some hfound
    have hfile := List.find?_some hfound
    obtain ⟨hplace, hread⟩ :=
      place_and_read_of_isFile hwrite (halone found.1 (hcompletions found hmem)) hfile
    -- the completion leads to the saved file, so its format can only be the one of that file
    obtain ⟨hformat, hne⟩ := extension_of_mem_completions hq hmem
    obtain ⟨place, -, hfoundPlace, -⟩ := isFile_read.1 hfile
    rw [place_write hwrite] at hfoundPlace
    have hsame : found.1.extension = path.extension :=
      extension_eq_of_place hfoundPlace (hplace.symm.trans hfoundPlace) hne (by rw [hext]; decide)
    rw [hsame, hext] at hformat
    exact ⟨toml_of_mem_extensions hformat, hread⟩

/-- After saving, a standing file is missing or states the saved entries. -/
lemma source?_of_mem (hentries : FileFormat.toml.read? s.save = some entries)
    (hq : q ∈ standingFiles env) :
    source? disk'.read q = .ok none ∨ source? disk'.read q = .ok (some entries) := by
  rw [source?]
  cases hfound : file? disk'.read q with
  | none => exact .inl rfl
  | some found =>
    obtain ⟨found, format⟩ := found
    obtain ⟨rfl, hread⟩ := file?_of_mem hwrite hext halone hq hfound
    exact .inr (by simp [hread, hentries])

/-- The saved entries lie over those of all other sources. -/
lemma exists_collect_saved
    (henv : ∀ v ∈ env, variableStart.isPrefixOf v.1.toLower.toList = false)
    (hentries : FileFormat.toml.read? s.save = some entries) :
    ∃ below : Setting, collect disk'.read env (some path) = .ok (below.layer entries) := by
  have hoptional : ∀ q ∈ standingFiles env, ∀ below,
      ∃ above, optional disk'.read q below = .ok above :=
    fun q hq => exists_optional (source?_of_mem hwrite hext halone hentries hq)
  obtain ⟨project, hproject⟩ := exists_foldlM
    (fun q hq => hoptional q (List.mem_append_left _ hq)) (Setting.table [])
  simp only [collect, hproject, ok_bind, required_saved hwrite hext hentries,
    ofEnvironment_eq_nil henv]
  cases hfile : (userFile? env).filter (View.has disk'.read) with
  | none => exact ⟨project, rfl⟩
  | some q =>
    have hmem : q ∈ (userFile? env).toList :=
      Option.mem_toList.2 (Option.eq_some_of_filter_eq_some hfile)
    obtain ⟨user, huser⟩ := hoptional q (List.mem_append_right _ hmem) project
    refine ⟨user, ?_⟩
    simp only [huser]
    rfl

end Saved

/-- **Settings that were saved are loaded as they are**, if the file is the only one and no variable
states a setting. -/
theorem load_save {disk disk' : Disk} {path : Path} {env : Environment} {s : Settings}
    (hwrite : disk.write path s.save = .ok disk') (hext : path.extension = "toml")
    (halone : ∀ p ∈ consulted env none, View.isFile disk.read p = true →
      disk.place p = disk.place path)
    (henv : ∀ v ∈ env, variableStart.isPrefixOf v.1.toLower.toList = false) :
    load disk'.read env (some path) = .ok s := by
  obtain ⟨entries, hentries, hstated⟩ := exists_read?_save s
  obtain ⟨below, hcollect⟩ := exists_collect_saved hwrite hext halone henv hentries
  rw [load, hcollect, ok_bind, hstated]

/-- A project with an empty directory for its configuration. -/
def bareProject : Disk where
  nodes place := if place ∈ [["project"], ["config", "project"]] then some .directory else none
  here := ["project"]

/-- Settings whose texts are written with quotes of different kinds. -/
def quotedSettings : Settings where
  acceptedRuntimeModes := []
  verboseLogging := true
  idsToIgnore := [.pattern "plugin::\\w+", .exact "it's \"quoted\"\n", .exact ""]

/-- The saved file may be one of those that are always looked at. -/
theorem load_quotedSettings :
    load (bareProject.put ["schemas-to-ts.toml", "config", "project"]
        (.file (.text quotedSettings.save))).read
      [("HOME", "/home/user")] (some ⟨"config/schemas-to-ts.toml"⟩) = .ok quotedSettings := by
  have hwrite : bareProject.write ⟨"config/schemas-to-ts.toml"⟩ quotedSettings.save =
      .ok (bareProject.put ["schemas-to-ts.toml", "config", "project"]
        (.file (.text quotedSettings.save))) :=
    write_eq_ok.2 ⟨_, by decide +kernel, by decide +kernel, by decide +kernel, rfl⟩
  have hnode : ∀ place content, bareProject.node? place ≠ some (.file content) := by
    intro place content
    cases place with
    | nil => exact nofun
    | cons name outer =>
      simp only [Disk.node?, bareProject]
      split <;> exact nofun
  refine load_save hwrite (by decide +kernel) (fun p _ hfile => ?_) (by decide +kernel)
  obtain ⟨place, content, -, hfile, -⟩ := isFile_read.1 hfile
  exact absurd hfile (hnode place content)

end CmsTypings.Settings
