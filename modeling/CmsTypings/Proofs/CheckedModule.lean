import CmsTypings.Proofs.CheckSwitch
import CmsTypings.Proofs.MadeDirectories
import CmsTypings.Proofs.ViewedFiles

/-!
A module that was written, and the check of it.

The run that writes and the run that checks part only at their goal. Whatever the first one does to
the disk, the second finds the files that it looks at as they were, unless one of them is the module
itself, or the directories made on the way have brought a configuration within reach that was not
found before. So it makes the same module and finds it in its place.
-/

namespace CmsTypings.Command

open Disk

variable {disk disk' : Disk} {launch : Launcher} {env : Settings.Environment} {args : List String}
  {i : Invocation} {product : Product} {outcome : Outcome} {text : String}
  {result : Except IoFault Unit}

/-- The text of the module that a run makes, if it comes that far. -/
def moduleText? (disk : Disk) (launch : Launcher) (env : Settings.Environment) (i : Invocation) :
    Option String :=
  (prepare disk.read launch env i).toOption.map (·.text)

lemma moduleText?_eq_some_iff : moduleText? disk launch env i = some text ↔
    ∃ product, prepare disk.read launch env i = .ok product ∧ product.text = text := by
  simp [moduleText?, toOption_eq_some]

/-! ### The two goals -/

lemma run_of_parse (h : parse (modeIn? env) args = .ok i) :
    run disk launch env args = convert disk launch env i := by
  rw [run, h]

lemma convert_of_stopped (h : prepare disk.read launch env i = .error outcome) :
    convert disk launch env i = (disk, outcome) := by
  rw [convert, h]

lemma convert_write (h : prepare disk.read launch env i = .ok product) (hgoal : i.goal = .write)
    (hwrite : ModuleFile.write disk i.root product.text = (disk', result)) :
    convert disk launch env i = (disk', product.written (ModuleFile.path i.root) result) := by
  simp only [convert, h, hgoal, hwrite]

/-- What is checked is the module that would be written. -/
lemma convert_check (h : prepare disk.read launch env i = .ok product) :
    convert disk launch env { i with goal := .check } =
      (disk, product.checked (ModuleFile.path i.root)
        (ModuleFile.drift? disk.read (ModuleFile.path i.root) product.text)) := by
  have hsame : prepare disk.read launch env { i with goal := .check } = .ok product := h
  simp only [convert, hsame]

/-- A run that is not stopped and ends well has written its module. -/
lemma exists_write_of_convert (h : prepare disk.read launch env i = .ok product)
    (hgoal : i.goal = .write) (hrun : convert disk launch env i = (disk', outcome))
    (hstatus : outcome.status = 0) :
    ∃ made, Grows disk made ∧
      made.write (ModuleFile.path i.root) product.text = .ok disk' := by
  obtain ⟨⟨after, result⟩, hwrite⟩ : ∃ r, ModuleFile.write disk i.root product.text = r := ⟨_, rfl⟩
  rw [convert_write h hgoal hwrite] at hrun
  obtain ⟨rfl, rfl⟩ := Prod.mk.inj hrun
  rcases writeWithin_cases hwrite with ⟨fault, rfl, -⟩ | ⟨-, hmade⟩
  · simp [Product.written] at hstatus
  · exact hmade

/-! ### The disk that a check finds -/

/-- The files that may configure a run. -/
def configurationFiles (env : Settings.Environment) (i : Invocation) : List Path :=
  Settings.consulted env i.settings? ++ Formatter.configurationNames.map i.root.join

/-- None of the files that a run reads for its module is the file of the module. -/
def Apart (disk : Disk) (env : Settings.Environment) (i : Invocation) : Prop :=
  ∀ p ∈ i.input :: configurationFiles env i, disk.place p ≠ disk.place (ModuleFile.path i.root)

/-- No configuration that a run looks for is found that was not found before. -/
structure NothingAppears (before after : View) (env : Settings.Environment) (i : Invocation) :
    Prop where
  settings : ∀ p ∈ Settings.consulted env i.settings?,
    after.isFile p = true → before.isFile p = true
  user : ∀ p, Settings.userFile? env = some p → after.has p = true → before.has p = true
  formatter : SeeksFormatter before env i →
    ∀ p ∈ Formatter.configurationNames.map i.root.join,
      after.isFile p = true → before.isFile p = true

lemma nothingAppears_refl (v : View) : NothingAppears v v env i :=
  ⟨fun _ _ h => h, fun _ _ h => h, fun _ _ _ h => h⟩

lemma mem_configurationFiles_of_userFile? {p : Path} (h : Settings.userFile? env = some p) :
    p ∈ configurationFiles env i := by
  have hmem : p ∈ Settings.projectFiles ++ (Settings.userFile? env).toList ++
      i.settings?.toList := by simp [h]
  exact List.mem_append_left _ (List.mem_flatMap.2 ⟨p, hmem, by simp⟩)

/-- Nothing appears where the directories of the module stand already. -/
theorem nothingAppears_of_place {place : Place} (hparse : parse (modeIn? env) args = .ok i)
    (hgoal : i.goal = .write) (hplace : disk.place (ModuleFile.path i.root) = .ok place)
    (hrun : run disk launch env args = (disk', outcome)) (hapart : Apart disk' env i) :
    NothingAppears disk.read disk'.read env i := by
  rw [run_of_parse hparse] at hrun
  cases hprepare : prepare disk.read launch env i with
  | error stop =>
    rw [convert_of_stopped hprepare] at hrun
    obtain ⟨rfl, -⟩ := Prod.mk.inj hrun
    exact nothingAppears_refl _
  | ok product =>
    obtain ⟨⟨after, result⟩, hwritten⟩ :
        ∃ r, ModuleFile.write disk i.root product.text = r := ⟨_, rfl⟩
    rw [convert_write hprepare hgoal hwritten] at hrun
    obtain ⟨rfl, -⟩ := Prod.mk.inj hrun
    rcases writeWithin_cases_of_place hplace hwritten with rfl | hwrite
    · exact nothingAppears_refl _
    · have hother : ∀ p ∈ configurationFiles env i,
          disk.place p ≠ disk.place (ModuleFile.path i.root) := by
        intro p hp hsame
        refine hapart p (List.mem_cons_of_mem _ hp) ?_
        rw [(place_write hwrite).2 hplace, (place_write hwrite).2 (hsame.trans hplace)]
      have hfile : ∀ p ∈ configurationFiles env i,
          View.isFile after.read p = true → View.isFile disk.read p = true :=
        fun p hp => isFile_of_write hwrite (hother p hp)
      exact ⟨fun p hp => hfile p (List.mem_append_left _ hp),
        fun p hp => has_of_write hwrite (hother p (mem_configurationFiles_of_userFile? hp)),
        fun _ p hp => hfile p (List.mem_append_right _ hp)⟩

/-- After a write a run makes the module that was written. -/
lemma prepare_eq_of_write {made : Disk} (h : prepare disk.read launch env i = .ok product)
    (hgrows : Grows disk made)
    (hwrite : made.write (ModuleFile.path i.root) product.text = .ok disk')
    (hapart : Apart disk' env i) (hnothing : NothingAppears disk.read disk'.read env i) :
    prepare disk'.read launch env i = .ok product := by
  have hkept : ∀ p ∈ i.input :: configurationFiles env i, View.isFile disk.read p = true →
      disk'.read p = disk.read p := by
    intro p hp hfile
    exact read_writeWithin hgrows hwrite hfile (hapart p hp)
  have hsame : ∀ p ∈ configurationFiles env i,
      (View.isFile disk'.read p = true → View.isFile disk.read p = true) →
        SameFile disk'.read disk.read p := by
    rintro p hp hbefore (hfile | hfile)
    · exact hkept p (List.mem_cons_of_mem _ hp) (hbefore hfile)
    · exact hkept p (List.mem_cons_of_mem _ hp) hfile
  have huser : ∀ p, Settings.userFile? env = some p →
      View.has disk'.read p = View.has disk.read p := by
    intro p hp
    rw [Bool.eq_iff_iff]
    exact ⟨hnothing.user p hp, has_writeWithin hgrows hwrite⟩
  have hinput : disk'.read i.input = disk.read i.input := by
    obtain ⟨content, hread⟩ := (ready_of_prepare h).input
    exact hkept i.input List.mem_cons_self (by rw [View.isFile, hread])
  have hsettings : Settings.SameSources disk'.read disk.read env i.settings? :=
    ⟨fun p hp => hsame p (List.mem_append_left _ hp) (hnothing.settings p hp), huser⟩
  rw [prepare_congr hsettings (fun hseeks p hp =>
    hsame p (List.mem_append_right _ hp) (hnothing.formatter hseeks p hp)) hinput, h]

/-! ### Agreement -/

/-- What the runs of a command line that asks for a module to be written have to do with the runs
that check it. -/
structure ChecksAgree (disk : Disk) (launch : Launcher) (env : Settings.Environment)
    (args : List String) (i : Invocation) : Prop where
  written : ∀ disk' outcome text, run disk launch env args = (disk', outcome) →
    outcome.status = 0 → moduleText? disk launch env i = some text →
      disk'.read (ModuleFile.path i.root) = .ok text
  confirmed : ∀ disk' outcome, run disk launch env args = (disk', outcome) →
    outcome.status = 0 → Apart disk' env i → NothingAppears disk.read disk'.read env i →
      ∃ answer, run disk' launch env ("--check" :: args) = (disk', answer) ∧
        answer.status = 0 ∧ answer.output = ""
  reported : ∀ existing text, disk.read (ModuleFile.path i.root) = .ok existing →
    moduleText? disk launch env i = some text → existing ≠ text →
      ∃ answer, run disk launch env ("--check" :: args) = (disk, answer) ∧ answer.status = 1

/-- **Writing and checking agree.** -/
theorem write_and_check_agree (hparse : parse (modeIn? env) args = .ok i)
    (hgoal : i.goal = .write) : ChecksAgree disk launch env args i := by
  have hcheck := parse_check hparse hgoal
  refine ⟨?_, ?_, ?_⟩
  · intro disk' outcome text hrun hstatus htext
    rw [run_of_parse hparse] at hrun
    obtain ⟨product, hproduct, rfl⟩ := moduleText?_eq_some_iff.1 htext
    obtain ⟨made, -, hwrite⟩ := exists_write_of_convert hproduct hgoal hrun hstatus
    exact read_of_write hwrite
  · intro disk' outcome hrun hstatus hapart hnothing
    rw [run_of_parse hparse] at hrun
    rw [run_of_parse hcheck]
    cases hprepare : prepare disk.read launch env i with
    | error stop =>
      -- the mode was not accepted: both runs are over before their goal
      rw [convert_of_stopped hprepare] at hrun
      obtain ⟨rfl, rfl⟩ := Prod.mk.inj hrun
      have hsame : prepare disk.read launch env { i with goal := .check } = .error stop := hprepare
      exact ⟨stop, convert_of_stopped hsame, hstatus, output_of_prepare hprepare⟩
    | ok product =>
      obtain ⟨made, hgrows, hwrite⟩ := exists_write_of_convert hprepare hgoal hrun hstatus
      have hread : disk'.read (ModuleFile.path i.root) = .ok product.text :=
        read_of_write hwrite
      have hagain := prepare_eq_of_write hprepare hgrows hwrite hapart hnothing
      have hdrift : ModuleFile.drift? disk'.read (ModuleFile.path i.root) product.text =
          .ok none := by
        simp [ModuleFile.drift?, hread, Drift.report?]
      have hready := ready_of_prepare hprepare
      exact ⟨_, convert_check hagain, by simp [hdrift, Product.checked, hready.status],
        by simp [hdrift, Product.checked, hready.output]⟩
  · intro existing text hread htext hne
    rw [run_of_parse hcheck]
    obtain ⟨product, hproduct, rfl⟩ := moduleText?_eq_some_iff.1 htext
    have hdrift : ModuleFile.drift? disk.read (ModuleFile.path i.root) product.text =
        .ok (some (Drift.script existing product.text).report) := by
      simp [ModuleFile.drift?, hread, Drift.report?, hne]
    exact ⟨_, convert_check hproduct, by simp [hdrift, Product.checked]⟩

/-- A project with a dump, a configuration of the formatter and the module of another dump. -/
def staleProject : Disk where
  nodes
    | ["project"] | ["types", "project"] => some .directory
    | ["dump.json", "project"] | [".prettierrc", "project"] =>
      some (.file (.text "\x7b\x7d"))
    | ["contentTypes.d.ts", "types", "project"] => some (.file (.text "export \x7b\x7d;\n"))
    | _ => none
  here := ["project"]

/-- A formatter that leaves nothing of a text. -/
def erasing : Launcher := fun _ _ => .ok ⟨[], "", 0⟩

def conversionIn (root : String) : List String :=
  ["--input", "dump.json", "--root", root, "--mode", "development"]

def invocationIn (root : String) : Invocation where
  input := ⟨"dump.json"⟩
  root := ⟨root⟩
  settings? := none
  mode := "development"
  format := true
  goal := .write

theorem staleProject_write_and_check : ∃ disk' outcome answer,
    run staleProject erasing [] (conversionIn ".") = (disk', outcome) ∧ outcome.status = 0 ∧
      run disk' erasing [] ("--check" :: conversionIn ".") = (disk', answer) ∧
      answer.status = 0 ∧ answer.output = "" := by
  have hparse : parse (modeIn? []) (conversionIn ".") = .ok (invocationIn ".") := by
    decide +kernel
  have hplace : staleProject.place (ModuleFile.path ⟨"."⟩) =
      .ok ["contentTypes.d.ts", "types", "project"] := by decide +kernel
  have hstatus : (run staleProject erasing [] (conversionIn ".")).2.status = 0 := by
    decide +kernel
  have hapart : Apart (run staleProject erasing [] (conversionIn ".")).1 [] (invocationIn ".") := by
    unfold Apart
    decide +kernel
  obtain ⟨⟨disk', outcome⟩, hrun⟩ : ∃ r, run staleProject erasing [] (conversionIn ".") = r :=
    ⟨_, rfl⟩
  rw [hrun] at hstatus hapart
  have hnothing : NothingAppears staleProject.read disk'.read [] (invocationIn ".") :=
    nothingAppears_of_place hparse rfl hplace hrun hapart
  obtain ⟨answer, hanswer⟩ :=
    (write_and_check_agree hparse rfl).confirmed disk' outcome hrun hstatus hapart hnothing
  exact ⟨disk', outcome, answer, hrun, hstatus, hanswer⟩

/-- Made on the way to the module, the directory `new` brings the formatter of `new/..` within
reach. -/
theorem newDirectory_checks_differ : ¬ ∀ (disk : Disk) (launch : Launcher)
    (env : Settings.Environment) (args : List String) (i : Invocation) (disk' : Disk)
    (outcome : Outcome), parse (modeIn? env) args = .ok i → i.goal = .write →
      run disk launch env args = (disk', outcome) → outcome.status = 0 → Apart disk' env i →
        ∃ answer, run disk' launch env ("--check" :: args) = (disk', answer) ∧
          answer.status = 0 ∧ answer.output = "" := by
  have hparse : parse (modeIn? []) (conversionIn "new/..") = .ok (invocationIn "new/..") := by
    decide +kernel
  have hstatus : (run staleProject erasing [] (conversionIn "new/..")).2.status = 0 := by
    decide +kernel
  have hapart : Apart (run staleProject erasing [] (conversionIn "new/..")).1 []
      (invocationIn "new/..") := by
    unfold Apart
    decide +kernel
  have hcheck : (run (run staleProject erasing [] (conversionIn "new/..")).1 erasing []
      ("--check" :: conversionIn "new/..")).2.status = 1 := by decide +kernel
  obtain ⟨⟨disk', outcome⟩, hrun⟩ : ∃ r, run staleProject erasing [] (conversionIn "new/..") = r :=
    ⟨_, rfl⟩
  rw [hrun] at hstatus hapart hcheck
  intro h
  obtain ⟨answer, hanswer, hzero, -⟩ := h staleProject erasing [] (conversionIn "new/..")
    (invocationIn "new/..") disk' outcome hparse rfl hrun hstatus hapart
  simp [hanswer, hzero] at hcheck

end CmsTypings.Command
