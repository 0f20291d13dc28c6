import CmsTypings.Command.Run
import CmsTypings.Proofs.Outcome
import Mathlib.Data.List.Find

/-!
The files that a run looks at.

Up to its goal a run learns of its disk only what the files are that configure it, whether the
user's settings file is there, and what the input holds. Views that answer these questions alike
lead to the same module.
-/

namespace CmsTypings

open Disk

lemma foldlM_congr {ε α β : Type} {f g : β → α → Except ε β} {l : List α}
    (h : ∀ a ∈ l, ∀ b, f b a = g b a) (b : β) : l.foldlM f b = l.foldlM g b := by
  induction l generalizing b with
  | nil => rfl
  | cons a l ih =>
    rw [List.foldlM_cons, List.foldlM_cons, h a (by simp)]
    congr 1
    funext b'
    exact ih (fun c hc => h c (List.mem_cons_of_mem a hc)) b'

/-- Two views show the same file at a path, or both show none. -/
def SameFile (v w : View) (p : Path) : Prop :=
  v.isFile p = true ∨ w.isFile p = true → v p = w p

variable {v w : View} {p : Path} {env : Settings.Environment}

lemma SameFile.isFile_eq (h : SameFile v w p) : v.isFile p = w.isFile p := by
  by_cases hfile : v.isFile p = true ∨ w.isFile p = true
  · rw [View.isFile, View.isFile, h hfile]
  · simp only [not_or, Bool.not_eq_true] at hfile
    rw [hfile.1, hfile.2]

/-! ### Settings -/

namespace Settings

/-- Two views answer alike what is asked while settings are loaded. -/
structure SameSources (v w : View) (env : Environment) (path? : Option Path) : Prop where
  files : ∀ q ∈ consulted env path?, SameFile v w q
  user : ∀ q, userFile? env = some q → v.has q = w.has q

/-- A path and the paths that it may stand for without its extension. -/
def spellings (p : Path) : List Path := p :: (completions p).map Prod.fst

lemma mem_spellings_of_file? {found : Path × FileFormat} (hfound : file? w p = some found) :
    found.1 ∈ spellings p ∧ w.isFile found.1 = true := by
  rw [file?] at hfound
  split at hfound
  · next hfile =>
    obtain ⟨format, -, rfl⟩ := Option.map_eq_some_iff.1 hfound
    exact ⟨by simp [spellings], hfile⟩
  · have hmem : found ∈ completions p := List.mem_of_find?_eq_some hfound
    have hfile : w.isFile found.1 = true := by simpa using List.find?_some hfound
    exact ⟨List.mem_cons_of_mem p (List.mem_map_of_mem hmem), hfile⟩

section Source

variable (h : ∀ q ∈ spellings p, SameFile v w q)

include h

lemma file?_congr : file? v p = file? w p := by
  have hself : v.isFile p = w.isFile p := (h p (by simp [spellings])).isFile_eq
  have hothers : ∀ c ∈ completions p, v.isFile c.1 = w.isFile c.1 := fun c hc =>
    (h c.1 (List.mem_cons_of_mem p (List.mem_map_of_mem hc))).isFile_eq
  rw [file?, file?, hself, List.find?_congr hothers]

lemma source?_congr : source? v p = source? w p := by
  rw [source?, source?, file?_congr h]
  cases hfound : file? w p with
  | none => rfl
  | some found =>
    obtain ⟨hmem, hfile⟩ := mem_spellings_of_file? hfound
    have hread : v found.1 = w found.1 := h found.1 hmem (Or.inr hfile)
    simp only [hread]

lemma optional_congr (below : Setting) : optional v p below = optional w p below := by
  rw [optional, optional, source?_congr h]

lemma required_congr (below : Setting) : required v p below = required w p below := by
  rw [required, required, source?_congr h]

end Source

/-- **Loading looks at nothing but the settings files.** -/
theorem load_congr {path? : Option Path} (h : SameSources v w env path?) :
    load v env path? = load w env path? := by
  have hsource : ∀ p ∈ projectFiles ++ (userFile? env).toList ++ path?.toList,
      ∀ q ∈ spellings p, SameFile v w q := by
    intro p hp q hq
    exact h.files q (List.mem_flatMap.2 ⟨p, hp, hq⟩)
  have hproject : projectFiles.foldlM (fun s p => optional v p s) (.table []) =
      projectFiles.foldlM (fun s p => optional w p s) (.table []) :=
    foldlM_congr (fun p hp s => optional_congr (hsource p (by simp [hp])) s) _
  have hthere : (userFile? env).filter v.has = (userFile? env).filter w.has := by
    cases hfile : userFile? env with
    | none => rfl
    | some q => simp [Option.filter, h.user q hfile]
  rw [load, load]
  congr 1
  simp only [collect, hproject, hthere]
  congr 1
  funext s
  cases huserFile : (userFile? env).filter w.has with
  | none =>
    cases path? with
    | none => rfl
    | some q => simp only [required_congr (hsource q (by simp))]
  | some u =>
    have hmem : u ∈ (userFile? env).toList :=
      Option.mem_toList.2 (Option.eq_some_of_filter_eq_some huserFile)
    cases path? with
    | none => simp only [optional_congr (hsource u (by simp [hmem]))]
    | some q =>
      simp only [optional_congr (hsource u (by simp [hmem])), required_congr (hsource q (by simp))]

end Settings

/-! ### The formatter -/

lemma Formatter.ofProject?_congr {root : Path}
    (h : ∀ q ∈ configurationNames.map root.join, SameFile v w q) :
    ofProject? v root = ofProject? w root := by
  rw [ofProject?, ofProject?, List.find?_congr fun q hq => (h q hq).isFile_eq]

namespace Command

variable {launch : Launcher} {i : Invocation} {product : Product} {outcome : Outcome}

/-- A run looks for a formatter if its arguments and its settings ask for one. -/
def SeeksFormatter (v : View) (env : Settings.Environment) (i : Invocation) : Prop :=
  i.format = true ∧ ∃ settings, Settings.load v env i.settings? = .ok settings ∧
    settings.useExternalFormatter = true

/-- **What a run makes depends on its disk only through the files that it looks at.** -/
theorem prepare_congr (hsettings : Settings.SameSources v w env i.settings?)
    (hformatter : SeeksFormatter w env i →
      ∀ q ∈ Formatter.configurationNames.map i.root.join, SameFile v w q)
    (hinput : v i.input = w i.input) : prepare v launch env i = prepare w launch env i := by
  have hload : Settings.load v env i.settings? = Settings.load w env i.settings? :=
    Settings.load_congr hsettings
  have hdump : readDump v i.input = readDump w i.input := by rw [readDump, readDump, hinput]
  simp only [prepare, hload, hdump]
  cases hloaded : Settings.load w env i.settings? with
  | error fault => rfl
  | ok settings =>
    by_cases hasks : (settings.useExternalFormatter && i.format) = true
    · have hseeks : SeeksFormatter w env i := by
        rw [Bool.and_eq_true] at hasks
        exact ⟨hasks.2, settings, hloaded, hasks.1⟩
      have hproject : Formatter.ofProject? v i.root = Formatter.ofProject? w i.root :=
        Formatter.ofProject?_congr (hformatter hseeks)
      simp only [hproject]
    · simp only [if_neg hasks]

/-! ### How a run stands at its goal -/

/-- What holds of a run whose module is ready: its input was there, and nothing is amiss or printed
so far. -/
structure Ready (v : View) (i : Invocation) (product : Product) : Prop where
  input : ∃ text, v i.input = .ok text
  status : product.standing.status = 0
  output : product.standing.output = ""

lemma ready_of_prepare (h : prepare v launch env i = .ok product) : Ready v i product := by
  simp only [prepare] at h
  split at h
  · cases h
  · split at h
    · cases h
    · cases hread : v i.input with
      | error fault => simp [readDump, hread] at h
      | ok text =>
        simp only [readDump, hread] at h
        split at h
        · cases h
        · obtain rfl := Except.ok.inj h
          exact ⟨⟨text, hread⟩, rfl, rfl⟩

/-- A run that is over before its goal has printed nothing. -/
lemma output_of_prepare (h : prepare v launch env i = .error outcome) : outcome.output = "" := by
  simp only [prepare] at h
  split at h
  · obtain rfl := Except.error.inj h
    rfl
  · split at h
    · obtain rfl := Except.error.inj h
      rfl
    · split at h
      · obtain rfl := Except.error.inj h
        rfl
      · cases h

end Command

end CmsTypings
