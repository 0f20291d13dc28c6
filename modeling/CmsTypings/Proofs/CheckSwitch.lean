import CmsTypings.Command.Arguments
import CmsTypings.Proofs.Outcome

/-!
A command line with one more switch.

Arguments are taken from left to right, and a switch says nothing but that it is there. So a command
line that asks for a module to be written asks, with the switch to check in front of it, for the
same conversion and for a check of what is there.
-/

namespace CmsTypings.Command

namespace Draft

variable {d d' : Draft} {option : Valued} {value : String} {flag : Switch}

/-- A draft in which the switch to check comes first. -/
def checking (d : Draft) : Draft := { d with switches := .check :: d.switches }

lemma set_eq_ok (h : d.set option value = .ok d') :
    d'.switches = d.switches ∧ d.checking.set option value = .ok d'.checking := by
  rw [set] at h
  split_ifs at h with hrepeated hempty
  obtain rfl := Except.ok.inj h
  have hsame : d.checking.value? option = d.value? option := rfl
  exact ⟨rfl, by rw [set, hsame, if_neg hrepeated, if_neg hempty]; rfl⟩

lemma switch_eq_ok (h : d.switch flag = .ok d') : d'.switches = d.switches ++ [flag] := by
  rw [switch] at h
  split_ifs at h
  obtain rfl := Except.ok.inj h
  rfl

lemma checking_switch (h : d.switch flag = .ok d') (hflag : flag ≠ .check) :
    d.checking.switch flag = .ok d'.checking := by
  rw [switch] at h
  split_ifs at h with hrepeated
  obtain rfl := Except.ok.inj h
  have hsame : d.checking.switches.contains flag = d.switches.contains flag := by
    simp [checking, hflag]
  rw [switch, hsame, if_neg hrepeated]
  rfl

end Draft

variable {d d' : Draft} {args : List String} {mode? : Option String} {i : Invocation}

/-- A switch that was given stays given. -/
lemma switches_subset_of_take (h : take d args = .ok d') : d.switches ⊆ d'.switches := by
  induction d, args using take.induct with
  | case1 d =>
    obtain rfl := Except.ok.inj h
    exact List.Subset.refl _
  | case4 d text hword =>
    rw [take.eq_def] at h
    simp only [hword] at h
    obtain rfl := Except.ok.inj h
    exact List.Subset.refl _
  | case6 d text rest flag hword next hnext ih =>
    rw [take.eq_def] at h
    simp only [hword, hnext] at h
    have hmore := ih h
    rw [Draft.switch_eq_ok hnext] at hmore
    exact fun s hs => hmore (List.mem_append_left _ hs)
  | case8 d text rest option value hword next hnext ih =>
    rw [take.eq_def] at h
    simp only [hword, hnext] at h
    exact (Draft.set_eq_ok hnext).1 ▸ ih h
  | case11 d text option hword value rest inner hvalue next hnext ih =>
    rw [take.eq_def] at h
    simp only [hword, hvalue, hnext] at h
    exact (Draft.set_eq_ok hnext).1 ▸ ih h
  | _ =>
    rw [take.eq_def] at h
    simp_all

/-- Arguments are taken alike behind the switch to check, unless they repeat it. -/
lemma take_checking (h : take d args = .ok d') (hcheck : .check ∉ d'.switches) :
    take d.checking args = .ok d'.checking := by
  induction d, args using take.induct with
  | case1 d =>
    obtain rfl := Except.ok.inj h
    rfl
  | case4 d text hword =>
    rw [take.eq_def] at h ⊢
    simp only [hword] at h ⊢
    obtain rfl := Except.ok.inj h
    rfl
  | case6 d text rest flag hword next hnext ih =>
    rw [take.eq_def] at h
    simp only [hword, hnext] at h
    have hflag : flag ≠ .check := by
      rintro rfl
      refine hcheck (switches_subset_of_take h ?_)
      simp [Draft.switch_eq_ok hnext]
    rw [take.eq_def]
    simp only [hword, Draft.checking_switch hnext hflag]
    exact ih h
  | case8 d text rest option value hword next hnext ih =>
    rw [take.eq_def] at h
    simp only [hword, hnext] at h
    rw [take.eq_def]
    simp only [hword, (Draft.set_eq_ok hnext).2]
    exact ih h
  | case11 d text option hword value rest inner hvalue next hnext ih =>
    rw [take.eq_def] at h
    simp only [hword, hvalue, hnext] at h
    rw [take.eq_def]
    simp only [hword, hvalue, (Draft.set_eq_ok hnext).2]
    exact ih h
  | _ =>
    rw [take.eq_def] at h
    simp_all

/-! ### What is asked for -/

/-- What a draft with an input asks for. -/
def Draft.invocation (d : Draft) (mode? : Option String) (input : String) : Invocation where
  input := ⟨input⟩
  root := ⟨(d.value? .root).getD "."⟩
  settings? := (d.value? .config).map Disk.Path.mk
  mode := ((d.value? .mode).or mode?).getD ""
  format := !d.switches.contains .noFormat
  goal :=
    if d.switches.contains .stdout then .print
    else if d.switches.contains .check then .check
    else .write

lemma parse_eq_ok : parse mode? args = .ok i ↔
    ∃ d input, take {} args = .ok d ∧ d.value? .input = some input ∧
      (d.switches.contains .check && d.switches.contains .stdout) = false ∧
        i = d.invocation mode? input := by
  rw [parse, bind_eq_ok]
  refine exists_congr fun d => ?_
  cases hinput : d.value? .input with
  | none => simp [throw_eq_error]
  | some input =>
    cases hboth : d.switches.contains .check && d.switches.contains .stdout with
    | true => simp [throw_eq_error]
    | false => simp [pure_eq_ok, Draft.invocation, eq_comm]

/-- **The switch to check changes nothing but the goal.** -/
theorem parse_check (h : parse mode? args = .ok i) (hgoal : i.goal = .write) :
    parse mode? ("--check" :: args) = .ok { i with goal := .check } := by
  obtain ⟨d, input, htake, hinput, -, rfl⟩ := parse_eq_ok.1 h
  have hswitches : d.switches.contains .stdout = false ∧ d.switches.contains .check = false := by
    simp only [Draft.invocation] at hgoal
    split_ifs at hgoal with hstdout hcheck
    exact ⟨by simpa using hstdout, by simpa using hcheck⟩
  have hchecking : take {} ("--check" :: args) = .ok d.checking := by
    have hword : Word.ofText "--check" = .switch .check := rfl
    have hfirst : Draft.switch {} .check = .ok (Draft.checking {}) := rfl
    rw [take.eq_def]
    simp only [hword, hfirst]
    exact take_checking htake (by simpa using hswitches.2)
  have hformat : d.checking.switches.contains .noFormat = d.switches.contains .noFormat := by
    simp [Draft.checking]
  have hstdout : d.checking.switches.contains .stdout = false := by
    simpa [Draft.checking] using hswitches.1
  have hcheck : d.checking.switches.contains .check = true := by simp [Draft.checking]
  refine parse_eq_ok.2 ⟨d.checking, input, hchecking, hinput, by rw [hstdout, Bool.and_false], ?_⟩
  simp only [Draft.invocation, hformat, hstdout, hcheck]
  rfl

end CmsTypings.Command
