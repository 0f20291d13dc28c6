import CmsTypings.Proofs.CheckedModule
import CmsTypings.Proofs.SparedPlaces

/-!
What a run leaves behind.

A run touches its disk at one point only, where it writes its module; a run that is over before, or
that has another goal, leaves the disk as it is. What it writes spares everything but the module and
the directories on the way to it, and if the module cannot be written no file has changed. A
formatter that fails is no reason to fail: the run goes on as if it had been told not to format.
-/

namespace CmsTypings

open Disk

/-! ### Formatters that fail -/

namespace Formatter

variable {launch : Launcher} {f : Formatter} {text : String}

/-- A formatter does not come up with a text: it is not there, it complains, or what it prints is no
text. -/
inductive Fails (launch : Launcher) (f : Formatter) (text : String) : Prop
  | missing {fault : IoFault} (h : launch f.arguments text = .error fault)
  | refused {printed : Printed} (h : launch f.arguments text = .ok printed)
    (hstatus : printed.status ≠ 0)
  | garbled {printed : Printed} {fault : Text.Utf8.Fault}
    (h : launch f.arguments text = .ok printed)
    (hdecode : Text.Utf8.decode printed.output = .error fault)

lemma Fails.exists_failure (h : f.Fails launch text) :
    ∃ failure, f.format launch text = .error failure := by
  cases h with
  | missing h => exact ⟨_, by rw [format, h]⟩
  | refused h hstatus =>
    rw [format, h]
    exact ⟨_, if_pos hstatus⟩
  | @garbled printed fault h hdecode =>
    rw [format, h]
    by_cases hstatus : printed.status ≠ 0
    · exact ⟨_, if_pos hstatus⟩
    · simp only [outcome, if_neg hstatus, hdecode]
      exact ⟨_, rfl⟩

/-- When formatting fails, the text stays as it is. -/
lemma formatted_of_error {format? : Option (String → Except Failure String)}
    (h : ∀ format ∈ format?, ∃ failure, format text = .error failure) :
    (formatted format? text).1 = text := by
  cases format? with
  | none => rfl
  | some format =>
    obtain ⟨failure, hfailure⟩ := h format rfl
    simp only [formatted, hfailure]

end Formatter

namespace Command

variable {disk disk' : Disk} {launch : Launcher} {env : Settings.Environment} {args : List String}
  {mode? : Option String} {i j : Invocation} {product : Product} {outcome : Outcome}

/-! ### Switches on the command line -/

lemma word_switch (flag : Switch) : Word.ofText ("--" ++ flag.name) = .switch flag := by
  cases flag <;> rfl

/-- A switch on a command line that can be taken is never taken for anything else. -/
lemma mem_switches_of_take {d d' : Draft} {flag : Switch} (h : take d args = .ok d')
    (hmem : "--" ++ flag.name ∈ args) : flag ∈ d'.switches := by
  induction d, args using take.induct with
  | case1 d => cases hmem
  | case4 d text hword =>
    rw [← List.mem_singleton.1 hmem, word_switch] at hword
    cases hword
  | case6 d text rest other hword next hnext ih =>
    rw [take.eq_def] at h
    simp only [hword, hnext] at h
    rcases List.mem_cons.1 hmem with htext | hrest
    · rw [← htext, word_switch] at hword
      obtain rfl := Word.switch.inj hword
      exact switches_subset_of_take h (by simp [Draft.switch_eq_ok hnext])
    · exact ih h hrest
  | case8 d text rest option value hword next hnext ih =>
    rw [take.eq_def] at h
    simp only [hword, hnext] at h
    rcases List.mem_cons.1 hmem with htext | hrest
    · rw [← htext, word_switch] at hword
      cases hword
    · exact ih h hrest
  | case11 d text option hword value rest inner hvalue next hnext ih =>
    rw [take.eq_def] at h
    simp only [hword, hvalue, hnext] at h
    rcases List.mem_cons.1 hmem with htext | hmem
    · rw [← htext, word_switch] at hword
      cases hword
    · rcases List.mem_cons.1 hmem with hvalue' | hrest
      · rw [← hvalue', word_switch] at hvalue
        cases hvalue
      · exact ih h hrest
  | _ =>
    rw [take.eq_def] at h
    simp_all

/-- A run that is told to check or to print has no module to write. -/
lemma goal_ne_write (h : parse mode? args = .ok i)
    (hswitch : "--check" ∈ args ∨ "--stdout" ∈ args) : i.goal ≠ .write := by
  obtain ⟨d, input, htake, -, -, rfl⟩ := parse_eq_ok.1 h
  rcases hswitch with hcheck | hstdout
  · have hmem : Switch.check ∈ d.switches := mem_switches_of_take htake hcheck
    simp only [Draft.invocation, List.contains_iff_mem.2 hmem]
    split <;> simp
  · have hmem : Switch.stdout ∈ d.switches := mem_switches_of_take htake hstdout
    simp [Draft.invocation, hmem]

/-! ### Runs that leave the disk alone -/

/-- A run is over before it has a module: its settings or its input cannot be loaded, or its mode is
not accepted. -/
inductive Stopped (disk : Disk) (env : Settings.Environment) (i : Invocation) : Prop
  | settings {fault : SettingsFault} (h : Settings.load disk.read env i.settings? = .error fault)
  | mode {settings : Settings} (h : Settings.load disk.read env i.settings? = .ok settings)
    (hmode : settings.accepts i.mode = false)
  | input {failure : Failure} (h : readDump disk.read i.input = .error failure)

lemma Stopped.exists_outcome (launch : Launcher) (h : Stopped disk env i) :
    ∃ outcome, prepare disk.read launch env i = .error outcome := by
  rw [prepare]
  cases h with
  | settings h => exact ⟨_, by rw [h]⟩
  | mode h hmode => exact ⟨_, by simp only [h, hmode, Bool.not_false, if_true]; rfl⟩
  | input h =>
    cases Settings.load disk.read env i.settings? with
    | error fault => exact ⟨_, rfl⟩
    | ok settings =>
      by_cases hmode : (!settings.accepts i.mode) = true
      · exact ⟨_, if_pos hmode⟩
      · simp only [if_neg hmode, h]
        exact ⟨_, rfl⟩

lemma convert_fst_of_goal (h : i.goal ≠ .write) : (convert disk launch env i).1 = disk := by
  cases hprepare : prepare disk.read launch env i with
  | error stop => rw [convert_of_stopped hprepare]
  | ok product => cases hgoal : i.goal <;> simp_all [convert]

/-! ### Runs without a formatter -/

/-- What a run converts, if it comes that far; the code is the module before it is formatted. -/
def conversion? (disk : Disk) (env : Settings.Environment) (i : Invocation) : Option Conversion :=
  match Settings.load disk.read env i.settings? with
  | .error _ => none
  | .ok settings =>
    if settings.accepts i.mode then
      (readDump disk.read i.input).toOption.map fun dump => Conversion.ofDump dump settings
    else none

lemma exists_product (launch : Launcher) {c : Conversion} (h : conversion? disk env i = some c)
    (hfails : i.format = true → ∀ f, Formatter.ofProject? disk.read i.root = some f →
      f.Fails launch c.code) :
    ∃ product, prepare disk.read launch env i = .ok product ∧ product.conversion = c ∧
      product.text = c.code := by
  rw [conversion?] at h
  cases hload : Settings.load disk.read env i.settings? with
  | error fault => simp [hload] at h
  | ok settings =>
    simp only [hload] at h
    split_ifs at h with hmode
    obtain ⟨dump, hdump, rfl⟩ := Option.map_eq_some_iff.1 h
    rw [toOption_eq_some] at hdump
    simp only [prepare, hload, hmode, hdump]
    refine ⟨_, rfl, rfl, Formatter.formatted_of_error ?_⟩
    intro format hformat
    obtain ⟨f, hf, rfl⟩ := Option.map_eq_some_iff.1 hformat
    split_ifs at hf with hasked
    rw [Bool.and_eq_true] at hasked
    exact (hfails hasked.2 f hf).exists_failure

/-- Two runs come to the same end, whatever they note on the way. -/
structure SameEnd (r r' : Disk × Outcome) : Prop where
  disk_eq : r.1 = r'.1
  status_eq : r.2.status = r'.2.status
  output_eq : r.2.output = r'.2.output

/-- From one module on, runs with the same goal come to the same end. -/
lemma sameEnd_of_prepare {product' : Product} (h : prepare disk.read launch env i = .ok product)
    (h' : prepare disk.read launch env j = .ok product') (hroot : i.root = j.root)
    (hgoal : i.goal = j.goal) (htext : product.text = product'.text)
    (hconversion : product.conversion = product'.conversion) :
    SameEnd (convert disk launch env i) (convert disk launch env j) := by
  have hready := ready_of_prepare h
  have hready' := ready_of_prepare h'
  cases hj : j.goal with
  | print =>
    simp only [convert, h, h', hgoal.trans hj, hj]
    exact ⟨rfl, hready.status.trans hready'.status.symm, htext⟩
  | check =>
    simp only [convert, h, h', hgoal.trans hj, hj, hroot, htext]
    generalize ModuleFile.drift? disk.read (ModuleFile.path j.root) product'.text = drift?
    refine ⟨rfl, ?_, ?_⟩ <;> rcases drift? with fault | _ | report <;>
      simp [Product.checked, hready.status, hready'.status, hready.output, hready'.output]
  | write =>
    simp only [convert, h, h', hgoal.trans hj, hj, hroot, htext]
    generalize ModuleFile.write disk j.root product'.text = written
    refine ⟨rfl, ?_, ?_⟩ <;> rcases written with ⟨after, fault | _⟩ <;>
      simp [Product.written, Product.summary, hready.status, hready'.status, hready.output,
        hready'.output, hconversion]

/-- A run whose formatter fails with the text of a module goes on as if it had none. -/
structure GoesUnformatted (disk : Disk) (launch : Launcher) (env : Settings.Environment)
    (args : List String) (i : Invocation) (text : String) : Prop where
  sameEnd : SameEnd (run disk launch env args) (convert disk launch env { i with format := false })
  /-- The file then holds the text as it was before formatting. -/
  written : i.goal = .write → (run disk launch env args).2.status = 0 →
    (run disk launch env args).1.read (ModuleFile.path i.root) = .ok text
  /-- If the file is not written, that is because the disk refuses it. -/
  refused : i.goal = .write → (run disk launch env args).2.status ≠ 0 →
    ∃ fault, (ModuleFile.write disk i.root text).2 = .error fault

lemma goesUnformatted {c : Conversion} (hparse : parse (modeIn? env) args = .ok i)
    (hconversion : conversion? disk env i = some c)
    (hfails : ∀ f, Formatter.ofProject? disk.read i.root = some f → f.Fails launch c.code) :
    GoesUnformatted disk launch env args i c.code := by
  obtain ⟨product, hproduct, rfl, htext⟩ :=
    exists_product launch hconversion fun _ => hfails
  have hplain : conversion? disk env { i with format := false } = some product.conversion :=
    hconversion
  obtain ⟨plain, hplain, hsame, htext'⟩ :=
    exists_product launch hplain fun hformat => absurd hformat Bool.false_ne_true
  rw [← htext]
  refine ⟨?_, ?_, ?_⟩
  · rw [run_of_parse hparse]
    exact sameEnd_of_prepare hproduct hplain rfl rfl (htext.trans htext'.symm) hsame.symm
  · intro hgoal hstatus
    rw [run_of_parse hparse] at hstatus ⊢
    obtain ⟨made, -, hwrite⟩ := exists_write_of_convert hproduct hgoal rfl hstatus
    exact read_of_write hwrite
  · intro hgoal hstatus
    obtain ⟨⟨after, result⟩, hwrite⟩ : ∃ r, ModuleFile.write disk i.root product.text = r :=
      ⟨_, rfl⟩
    rw [run_of_parse hparse, convert_write hproduct hgoal hwrite] at hstatus
    rw [hwrite]
    cases result with
    | error fault => exact ⟨fault, rfl⟩
    | ok u =>
      have hzero := (ready_of_prepare hproduct).status
      simp [Product.written, hzero] at hstatus

/-! ### All runs -/

/-- What a run may do to its disk. -/
structure IsTidy (disk : Disk) (launch : Launcher) (env : Settings.Environment)
    (args : List String) : Prop where
  misused : ∀ stop, parse (modeIn? env) args = .error stop → (run disk launch env args).1 = disk
  switched : "--check" ∈ args ∨ "--stdout" ∈ args → (run disk launch env args).1 = disk
  stopped : ∀ i, parse (modeIn? env) args = .ok i → Stopped disk env i →
    (run disk launch env args).1 = disk
  spares : ∀ i, parse (modeIn? env) args = .ok i →
    Spares disk (run disk launch env args).1 (ModuleFile.path i.root)
  failed : (run disk launch env args).2.status ≠ 0 → SameFiles disk (run disk launch env args).1
  formatter : ∀ i c, parse (modeIn? env) args = .ok i → conversion? disk env i = some c →
    (∀ f, Formatter.ofProject? disk.read i.root = some f → f.Fails launch c.code) →
      GoesUnformatted disk launch env args i c.code

lemma run_of_misuse {stop : Stop} (h : parse (modeIn? env) args = .error stop) :
    run disk launch env args = (disk, Command.stopped env stop) := by
  rw [run, h]

/-- A run leaves its disk alone, or it has written its module. -/
lemma convert_cases (disk : Disk) (launch : Launcher) (env : Settings.Environment)
    (i : Invocation) : (convert disk launch env i).1 = disk ∨
      ∃ product disk' result, prepare disk.read launch env i = .ok product ∧
        ModuleFile.write disk i.root product.text = (disk', result) ∧
        convert disk launch env i = (disk', product.written (ModuleFile.path i.root) result) := by
  cases hprepare : prepare disk.read launch env i with
  | error stop => exact Or.inl (by rw [convert_of_stopped hprepare])
  | ok product =>
    by_cases hgoal : i.goal = .write
    · obtain ⟨⟨disk', result⟩, hwrite⟩ : ∃ r, ModuleFile.write disk i.root product.text = r :=
        ⟨_, rfl⟩
      exact Or.inr ⟨product, disk', result, rfl, hwrite, convert_write hprepare hgoal hwrite⟩
    · exact Or.inl (convert_fst_of_goal hgoal)

lemma spares_convert (disk : Disk) (launch : Launcher) (env : Settings.Environment)
    (i : Invocation) : Spares disk (convert disk launch env i).1 (ModuleFile.path i.root) := by
  rcases convert_cases disk launch env i with hsame | ⟨product, disk', result, -, hwrite, hrun⟩
  · rw [hsame]
    exact spares_refl disk _
  · rw [hrun]
    exact spares_writeWithin hwrite

lemma sameFiles_convert (h : (convert disk launch env i).2.status ≠ 0) :
    SameFiles disk (convert disk launch env i).1 := by
  rcases convert_cases disk launch env i with hsame | ⟨product, disk', result, hready, hwrite, hrun⟩
  · rw [hsame]
    exact sameFiles_refl disk
  · rw [hrun] at h ⊢
    cases result with
    | error fault => exact sameFiles_of_error hwrite
    | ok u =>
      have hzero := (ready_of_prepare hready).status
      simp [Product.written, hzero] at h

/-- **Runs are tidy.** Only a run that writes its module touches the disk, and it touches nothing
but that file and directories missing on the way to it. A run that fails has changed no file, and no
run fails because its formatter does. -/
theorem run_isTidy (disk : Disk) (launch : Launcher) (env : Settings.Environment)
    (args : List String) : IsTidy disk launch env args where
  misused stop hparse := by rw [run_of_misuse hparse]
  switched hswitch := by
    cases hparse : parse (modeIn? env) args with
    | error stop => rw [run_of_misuse hparse]
    | ok i =>
      rw [run_of_parse hparse]
      exact convert_fst_of_goal (goal_ne_write hparse hswitch)
  stopped i hparse hstopped := by
    obtain ⟨outcome, hprepare⟩ := hstopped.exists_outcome launch
    rw [run_of_parse hparse, convert_of_stopped hprepare]
  spares i hparse := by
    rw [run_of_parse hparse]
    exact spares_convert disk launch env i
  failed hstatus := by
    cases hparse : parse (modeIn? env) args with
    | error stop =>
      rw [run_of_misuse hparse]
      exact sameFiles_refl disk
    | ok i =>
      rw [run_of_parse hparse] at hstatus ⊢
      exact sameFiles_convert hstatus
  formatter i c hparse hconversion hfails := goesUnformatted hparse hconversion hfails

/-- A formatter that is not installed. -/
def missingFormatter : Launcher := fun _ _ => .error .notFound

theorem staleProject_unformatted : ∃ c,
    conversion? staleProject [] (invocationIn ".") = some c ∧
      (run staleProject missingFormatter [] (conversionIn ".")).2.status = 0 ∧
      (run staleProject missingFormatter [] (conversionIn ".")).1.read
        (ModuleFile.path ⟨"."⟩) = .ok c.code := by
  have hparse : parse (modeIn? []) (conversionIn ".") = .ok (invocationIn ".") := by
    decide +kernel
  obtain ⟨c, hc⟩ : ∃ c, conversion? staleProject [] (invocationIn ".") = some c :=
    Option.isSome_iff_exists.1 (by decide +kernel)
  have hstatus : (run staleProject missingFormatter [] (conversionIn ".")).2.status = 0 := by
    decide +kernel
  have htidy := run_isTidy staleProject missingFormatter [] (conversionIn ".")
  have hplain := htidy.formatter (invocationIn ".") c hparse hc fun f _ => .missing rfl
  exact ⟨c, hc, hstatus, hplain.written rfl hstatus⟩

end Command

end CmsTypings
