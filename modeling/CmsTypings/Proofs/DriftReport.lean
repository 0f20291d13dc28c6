import CmsTypings.ModuleFile
import CmsTypings.Proofs.EntryLines

/-!
What the report on a drift tells of two texts.

The lines of a text are the only pieces that make it up and end each at its first line break or
where the text ends. So a script that leads from one text to another by such pieces goes through the
lines of both, whichever way it takes. Its report has one row for each line that it removes or adds,
because a line holds no line feed but at its end. What the report leaves out are the lines that both
texts keep: the lines of the old text but for the removed ones are those of the new text but for the
added ones.
-/

namespace CmsTypings

namespace Drift

/-! ### Lines -/

/-- A line of a text that goes on with `rest`: it ends at its first line break, or where the text
ends. A carriage return before a line feed is not yet the end. -/
inductive IsLine (rest : List Char) : List Char → Prop
  | feed {body : List Char} (hbody : '\n' ∉ body ∧ '\r' ∉ body) : IsLine rest (body ++ ['\n'])
  | both {body : List Char} (hbody : '\n' ∉ body ∧ '\r' ∉ body) :
    IsLine rest (body ++ ['\r', '\n'])
  | ret {body : List Char} (hbody : '\n' ∉ body ∧ '\r' ∉ body) (hrest : rest.head? ≠ some '\n') :
    IsLine rest (body ++ ['\r'])
  | last {body : List Char} (hbody : '\n' ∉ body ∧ '\r' ∉ body) (hne : body ≠ [])
    (hrest : rest = []) : IsLine rest body

/-- Each piece is a line of what the pieces make up from it on. -/
def AllLines : List (List Char) → Prop
  | [] => True
  | l :: ls => IsLine ls.flatten l ∧ AllLines ls

/-- Pieces make up a text, and each of them is a line of it. -/
structure MakeUp (ls : List String) (text : String) : Prop where
  join : String.join ls = text
  allLines : AllLines (ls.map String.toList)

lemma IsLine.cons {rest l : List Char} {c : Char} (h : IsLine rest l)
    (hc : ¬ (c = '\n' ∨ c = '\r')) : IsLine rest (c :: l) := by
  rw [not_or] at hc
  have hbody : ∀ {body : List Char}, '\n' ∉ body ∧ '\r' ∉ body →
      '\n' ∉ c :: body ∧ '\r' ∉ c :: body := by
    intro body h
    simp only [List.mem_cons, not_or]
    exact ⟨⟨Ne.symm hc.1, h.1⟩, Ne.symm hc.2, h.2⟩
  cases h with
  | feed h => exact .feed (hbody h)
  | both h => exact .both (hbody h)
  | ret h hrest => exact .ret (hbody h) hrest
  | last h _ hrest => exact .last (hbody h) (List.cons_ne_nil _ _) hrest

/-- What is found to be the lines of a text are lines. -/
lemma allLines_lineChars (text : List Char) : AllLines (lineChars text) := by
  have hplain : '\n' ∉ ([] : List Char) ∧ '\r' ∉ ([] : List Char) := by simp
  fun_induction lineChars text with
  | case1 => trivial
  | case2 rest ih => exact ⟨.both hplain, ih⟩
  | case3 c rest hfeed hbreak ih =>
    refine ⟨?_, ih⟩
    rw [flatten_lineChars]
    rcases hbreak with rfl | rfl
    · exact .feed hplain
    · refine .ret hplain fun hhead => ?_
      obtain ⟨more, rfl⟩ := List.head?_eq_some_iff.1 hhead
      exact hfeed more rfl rfl
  | case4 c rest _ hc hrest ih =>
    rw [not_or] at hc
    exact ⟨.last (by simp [Ne.symm hc.1, Ne.symm hc.2]) (by simp) rfl, trivial⟩
  | case5 c rest _ hc l ls hrest ih =>
    rw [hrest] at ih
    exact ⟨ih.1.cons hc, ih.2⟩

lemma lineChars_plain {body : List Char} (hbody : '\n' ∉ body ∧ '\r' ∉ body) (hne : body ≠ []) :
    lineChars body = [body] := by
  obtain ⟨front, z, rfl⟩ := (List.eq_nil_or_concat' body).resolve_left hne
  simp only [List.mem_append, List.mem_singleton, not_or] at hbody
  have hlast : lineChars [z] = [[z]] := by
    simp [lineChars, Ne.symm hbody.1.2, Ne.symm hbody.2.2]
  exact lineChars_append_plain ⟨hbody.1.1, hbody.2.1⟩ hlast

/-- A line is found where it begins. -/
lemma IsLine.lineChars_append {rest l : List Char} (h : IsLine rest l) :
    lineChars (l ++ rest) = l :: lineChars rest := by
  cases h with
  | @feed body hbody =>
    rw [List.append_assoc]
    exact lineChars_append_newline hbody rest
  | @both body hbody =>
    have htail : lineChars ('\r' :: '\n' :: rest) = ['\r', '\n'] :: lineChars rest := rfl
    rw [List.append_assoc]
    exact lineChars_append_plain hbody htail
  | @ret body hbody hrest =>
    have htail : lineChars ('\r' :: rest) = ['\r'] :: lineChars rest := by
      rw [lineChars, if_pos (Or.inr rfl)]
      rintro more - rfl
      exact hrest rfl
    rw [List.append_assoc]
    exact lineChars_append_plain hbody htail
  | last hbody hne hrest =>
    subst hrest
    rw [List.append_nil]
    exact lineChars_plain hbody hne

lemma AllLines.lineChars_flatten {ls : List (List Char)} (h : AllLines ls) :
    lineChars ls.flatten = ls := by
  induction ls with
  | nil => rfl
  | cons l ls ih => rw [List.flatten_cons, h.1.lineChars_append, ih h.2]

/-- **The lines of a text are the only pieces that make it up and are lines of it.** -/
theorem makeUp_iff (ls : List String) (text : String) : MakeUp ls text ↔ ls = lines text := by
  have hback : (ls.map String.toList).map String.ofList = ls := by simp [Function.comp_def]
  constructor
  · rintro ⟨rfl, hlines⟩
    rw [lines, String.toList_join, List.flatMap_def, hlines.lineChars_flatten, hback]
  · rintro rfl
    have hchars : (lines text).map String.toList = lineChars text.toList := by
      simp [lines, Function.comp_def]
    refine ⟨?_, hchars ▸ allLines_lineChars text.toList⟩
    rw [← String.toList_inj, String.toList_join, List.flatMap_def, hchars, flatten_lineChars]

/-! ### Scripts between two texts -/

/-- What finds a script from one text to another. -/
abbrev Differ := String → String → Script

/-- A script by which one text becomes another, line by line. -/
structure Script.Leads (s : Script) (old new : String) : Prop where
  source : MakeUp s.source old
  target : MakeUp s.target new

lemma Script.leads_iff (s : Script) (old new : String) :
    s.Leads old new ↔ s.source = lines old ∧ s.target = lines new := by
  rw [← makeUp_iff, ← makeUp_iff]
  exact ⟨fun h => ⟨h.source, h.target⟩, fun h => ⟨h.1, h.2⟩⟩

lemma source_exchange (old new : String) : (exchange old new).source = lines old := by
  simp [exchange, Script.source, List.filter_append, List.filter_map, Function.comp_def]

lemma target_exchange (old new : String) : (exchange old new).target = lines new := by
  simp [exchange, Script.target, List.filter_append, List.filter_map, Function.comp_def]

/-- The script that is found leads from the one text to the other. -/
theorem leads_script (old new : String) : (script old new).Leads old new := by
  rw [Script.leads_iff, script]
  split
  · next h => exact h
  · exact ⟨source_exchange old new, target_exchange old new⟩

/-! ### Rows of a report -/

/-- The rows of a text that ends in a line feed, each without its line feed. -/
def rows (text : String) : List (List Char) := (text.toList.splitOn '\n').dropLast

/-- What a row says behind a sign, with a line feed at its end. -/
def behindSign? (sign : Char) : List Char → Option String
  | [] => none
  | c :: body => if c = sign then some (String.ofList (body ++ ['\n'])) else none

/-- The lines that a report shows with a sign. -/
def shown (sign : Char) (report : String) : Multiset String :=
  ((rows report).filterMap (behindSign? sign) : List String)

/-- The lines of a text, each with a line feed at its end. -/
def closedLines (text : String) : Multiset String := ((lines text).map closed : List String)

/-- A report as it should be on how one text differs from another. -/
structure IsReport (old new report : String) : Prop where
  ne_empty : report ≠ ""
  endsInNewline : endsInNewline report = true
  signed : ∀ row ∈ rows report, row.head? = some '-' ∨ row.head? = some '+'
  /-- What is shown as removed stood in the old text. -/
  removed_le : shown '-' report ≤ closedLines old
  /-- What is shown as added stands in the new text. -/
  added_le : shown '+' report ≤ closedLines new
  /-- The remaining lines of both texts are the same. -/
  balanced : closedLines old - shown '-' report = closedLines new - shown '+' report

/-- There is a report if two texts differ, and one as it should be. -/
structure IsFaithful (old new : String) (report? : Option String) : Prop where
  none_iff : report? = none ↔ old = new
  isReport : ∀ report ∈ report?, IsReport old new report

/-- What a report puts before a line. -/
def Change.sign? : Change → Option Char
  | .keep => none
  | .remove => some '-'
  | .add => some '+'

/-- The row of an edit, if it has one. -/
def Edit.row? (e : Edit) : Option (List Char) :=
  e.change.sign?.map fun sign => sign :: (closed e.line).toList.dropLast

/-- The lines of a script with which one thing is done, each with a line feed at its end. -/
def Script.linesOf (s : Script) (c : Change) : List String :=
  (s.filter (·.change = c)).map (closed ·.line)

/-- A line that stands in one row: it holds no line feed but at its end. -/
def OneRow (line : String) : Prop :=
  ∃ body, '\n' ∉ body ∧ (closed line).toList = body ++ ['\n']

lemma oneRow_of_feed {line : String} {body : List Char} (h : line.toList = body ++ ['\n'])
    (hbody : '\n' ∉ body) : OneRow line := by
  have hends : endsInNewline line = true := by simp [endsInNewline, h]
  exact ⟨body, hbody, by rw [closed, if_pos hends, h]⟩

lemma oneRow_of_no_feed {line : String} (h : '\n' ∉ line.toList) : OneRow line := by
  have hends : ¬ endsInNewline line = true := by
    intro hlast
    exact h (List.mem_of_getLast? (of_decide_eq_true hlast))
  exact ⟨line.toList, h, by simp [closed, hends]⟩

lemma IsLine.oneRow {rest : List Char} {line : String} (h : IsLine rest line.toList) :
    OneRow line := by
  generalize hchars : line.toList = l at h
  cases h with
  | feed hbody => exact oneRow_of_feed hchars hbody.1
  | @both body hbody =>
    have hline : line.toList = (body ++ ['\r']) ++ ['\n'] := by simp [hchars]
    exact oneRow_of_feed hline (by simp [hbody.1])
  | ret hbody _ => exact oneRow_of_no_feed (by simp [hchars, hbody.1])
  | last hbody _ _ => exact oneRow_of_no_feed (hchars ▸ hbody.1)

lemma AllLines.oneRow {ls : List String} (h : AllLines (ls.map String.toList)) :
    ∀ l ∈ ls, OneRow l := by
  induction ls with
  | nil => simp
  | cons l ls ih => exact List.forall_mem_cons.2 ⟨h.1.oneRow, ih h.2⟩

/-- Every line of a script stands in the old text or in the new one. -/
lemma Script.Leads.oneRow {s : Script} {old new : String} (h : s.Leads old new) :
    ∀ e ∈ s, OneRow e.line := by
  intro e he
  by_cases hadd : e.change = .add
  · have hmem : e.line ∈ s.target :=
      List.mem_map_of_mem (List.mem_filter.2 ⟨he, by simp [hadd]⟩)
    exact h.target.allLines.oneRow _ hmem
  · have hmem : e.line ∈ s.source :=
      List.mem_map_of_mem (List.mem_filter.2 ⟨he, by simp [hadd]⟩)
    exact h.source.allLines.oneRow _ hmem

/-- Rows that are each ended by a line feed are the rows of what they make up. -/
lemma rows_eq {text : String} {rs : List (List Char)} (hrs : ∀ r ∈ rs, '\n' ∉ r)
    (htext : text.toList = rs.flatMap (· ++ ['\n'])) : rows text = rs := by
  have hsplit : (rs.flatMap (· ++ ['\n'])).splitOn '\n' = rs ++ [[]] := by
    clear htext
    induction rs with
    | nil => rfl
    | cons r rs ih =>
      obtain ⟨hr, hrest⟩ := List.forall_mem_cons.1 hrs
      rw [List.flatMap_cons, List.append_assoc, List.singleton_append,
        List.splitOn_append_cons_self, List.splitOn_eq_singleton hr, ih hrest]
      rfl
  rw [rows, htext, hsplit, List.dropLast_concat]

section Rows

variable {s : Script} {e : Edit}

lemma report_cons (e : Edit) (s : Script) : Script.report (e :: s) = e.report ++ s.report := by
  rw [Script.report, Script.report, List.map_cons, String.join_cons]

lemma toList_report_edit (h : OneRow e.line) :
    e.report.toList = e.row?.toList.flatMap (· ++ ['\n']) := by
  obtain ⟨body, -, hclosed⟩ := h
  cases hchange : e.change <;> simp [Edit.report, Edit.row?, Change.sign?, hchange, hclosed]

lemma toList_report (h : ∀ e ∈ s, OneRow e.line) :
    s.report.toList = (s.filterMap Edit.row?).flatMap (· ++ ['\n']) := by
  induction s with
  | nil => rfl
  | cons e s ih =>
    obtain ⟨he, hs⟩ := List.forall_mem_cons.1 h
    rw [report_cons, String.toList_append, toList_report_edit he, ih hs, List.filterMap_cons]
    cases e.row? <;> simp

lemma not_mem_row {r : List Char} (h : OneRow e.line) (hr : e.row? = some r) : '\n' ∉ r := by
  obtain ⟨body, hbody, hclosed⟩ := h
  cases hchange : e.change <;> simp [Edit.row?, Change.sign?, hchange, hclosed] at hr
  all_goals
    subst hr
    simp [hbody]

/-- A report has one row for each line that is removed or added. -/
lemma rows_report (h : ∀ e ∈ s, OneRow e.line) : rows s.report = s.filterMap Edit.row? := by
  refine rows_eq (fun r hr => ?_) (toList_report h)
  obtain ⟨e, he, hrow⟩ := List.mem_filterMap.1 hr
  exact not_mem_row (h e he) hrow

/-- A sign says what is done. -/
lemma sign?_eq_some_iff {c c' : Change} {sign : Char} (h : c.sign? = some sign) :
    c'.sign? = some sign ↔ c' = c := by
  rw [← h]
  clear h
  cases c <;> cases c' <;> decide

lemma row?_bind_behindSign? {c : Change} {sign : Char} (h : OneRow e.line)
    (hsign : c.sign? = some sign) :
    e.row?.bind (behindSign? sign) = if e.change = c then some (closed e.line) else none := by
  obtain ⟨body, -, hclosed⟩ := h
  have hback : String.ofList (body ++ ['\n']) = closed e.line := by
    rw [← hclosed, String.ofList_toList]
  have hsame : e.change.sign? = some sign ↔ e.change = c := sign?_eq_some_iff hsign
  cases hthis : e.change.sign? with
  | none =>
    rw [if_neg (by simp [← hsame, hthis]), Edit.row?, hthis]
    rfl
  | some this =>
    have hrow : e.row? = some (this :: body) := by simp [Edit.row?, hthis, hclosed]
    rw [hthis, Option.some.injEq] at hsame
    rw [hrow, Option.bind_some, behindSign?, hback]
    simp only [hsame]

/-- What a report shows with a sign are the lines with which the sign's thing is done. -/
lemma shown_report {c : Change} {sign : Char} (h : ∀ e ∈ s, OneRow e.line)
    (hsign : c.sign? = some sign) : shown sign s.report = (s.linesOf c : Multiset String) := by
  rw [shown, rows_report h, List.filterMap_filterMap, Script.linesOf]
  congr 1
  induction s with
  | nil => rfl
  | cons e s ih =>
    obtain ⟨he, hs⟩ := List.forall_mem_cons.1 h
    rw [List.filterMap_cons, row?_bind_behindSign? he hsign, ih hs, List.filter_cons]
    by_cases hchange : e.change = c <;> simp [hchange]

end Rows

/-! ### What a report leaves out -/

/-- The lines of a text are those that its script keeps and those with which it does one thing. -/
lemma filter_linesOf (s : Script) {c other : Change} (hc : c ≠ .keep)
    (hother : ∀ x : Change, x ≠ other ↔ x = c ∨ x = .keep) :
    (((s.filter fun e => e.change ≠ other).map (closed ·.line) : List String) : Multiset String) =
      s.linesOf c + s.linesOf .keep := by
  have hdone : (s.filter fun e => e.change ≠ other).filter (fun e => e.change = c) =
      s.filter fun e => e.change = c := by
    rw [List.filter_filter]
    refine List.filter_congr fun e _ => ?_
    simp only [hother, ← Bool.decide_and]
    exact decide_eq_decide.2 ⟨fun h => h.1, fun h => ⟨h, Or.inl h⟩⟩
  have hkept : (s.filter fun e => e.change ≠ other).filter (fun e => !decide (e.change = c)) =
      s.filter fun e => e.change = .keep := by
    rw [List.filter_filter]
    refine List.filter_congr fun e _ => ?_
    simp only [hother, ← decide_not, ← Bool.decide_and]
    refine decide_eq_decide.2 ⟨fun h => h.2.resolve_left h.1, fun h => ⟨?_, Or.inr h⟩⟩
    rw [h]
    exact hc.symm
  have hperm := List.filter_append_perm (fun e : Edit => decide (e.change = c))
    (s.filter fun e => e.change ≠ other)
  rw [hdone, hkept] at hperm
  have hlines := hperm.map (closed ·.line)
  rw [List.map_append] at hlines
  exact Multiset.coe_eq_coe.2 hlines.symm

section Leads

variable {s : Script} {old new : String}

lemma Script.Leads.closedLines_old (h : s.Leads old new) :
    closedLines old = s.linesOf .remove + s.linesOf .keep := by
  have hsource := ((s.leads_iff old new).1 h).1
  rw [closedLines, ← hsource, Script.source, List.map_map]
  exact filter_linesOf s (by decide) fun x => by cases x <;> decide

lemma Script.Leads.closedLines_new (h : s.Leads old new) :
    closedLines new = s.linesOf .add + s.linesOf .keep := by
  have htarget := ((s.leads_iff old new).1 h).2
  rw [closedLines, ← htarget, Script.target, List.map_map]
  exact filter_linesOf s (by decide) fun x => by cases x <;> decide

/-- A script that keeps every line leads nowhere else. -/
lemma Script.Leads.exists_row (h : s.Leads old new) (hne : old ≠ new) :
    s.filterMap Edit.row? ≠ [] := by
  intro hnil
  refine hne ?_
  have hkeep : ∀ e ∈ s, e.change = .keep := by
    intro e he
    have hrow : e.row? = none := List.filterMap_eq_nil_iff.1 hnil e he
    cases hchange : e.change <;> simp_all [Edit.row?, Change.sign?]
  have hsame : s.source = s.target := by
    rw [Script.source, Script.target]
    congr 1
    exact List.filter_congr fun e he => by simp [hkeep e he]
  rw [← h.source.join, ← h.target.join, hsame]

/-- **The report of a script between two texts is as it should be.** -/
theorem isReport_report (h : s.Leads old new) (hne : old ≠ new) : IsReport old new s.report := by
  have hone := h.oneRow
  have hrows := rows_report hone
  have hremoved : shown '-' s.report = s.linesOf .remove := shown_report hone rfl
  have hadded : shown '+' s.report = s.linesOf .add := shown_report hone rfl
  have hlast : s.report.toList.getLast? = some '\n' := by
    obtain ⟨front, row, hlast⟩ :=
      (List.eq_nil_or_concat' (s.filterMap Edit.row?)).resolve_left (h.exists_row hne)
    simp [toList_report hone, hlast]
  exact {
    ne_empty := by
      intro hempty
      simp [hempty] at hlast
    endsInNewline := by simp [endsInNewline, hlast]
    signed := by
      intro row hrow
      rw [hrows] at hrow
      obtain ⟨e, -, he⟩ := List.mem_filterMap.1 hrow
      cases hchange : e.change <;> simp [Edit.row?, Change.sign?, hchange] at he <;>
        simp [← he]
    removed_le := by
      rw [hremoved, h.closedLines_old]
      exact Multiset.le_add_right _ _
    added_le := by
      rw [hadded, h.closedLines_new]
      exact Multiset.le_add_right _ _
    balanced := by
      rw [hremoved, hadded, h.closedLines_old, h.closedLines_new, add_tsub_cancel_left,
        add_tsub_cancel_left] }

end Leads

/-- The report on how `new` differs from `old`, by scripts from wherever they come. -/
def reportBy? (differ : Differ) (old new : String) : Option String :=
  if old = new then none else some (differ old new).report

theorem isFaithful_reportBy? {differ : Differ} {old new : String}
    (h : (differ old new).Leads old new) : IsFaithful old new (reportBy? differ old new) := by
  rw [reportBy?]
  by_cases hsame : old = new
  · rw [if_pos hsame]
    exact ⟨by simp [hsame], by simp⟩
  · rw [if_neg hsame]
    refine ⟨by simp [hsame], ?_⟩
    intro report hreport
    obtain rfl := Option.some.inj hreport
    exact isReport_report h hsame

end Drift

namespace ModuleFile

open Disk Drift

/-- How a text differs from the file at a path, where a missing file counts as empty, by scripts
from wherever they come. -/
def driftBy? (differ : Differ) (view : View) (path : Path) (text : String) :
    Except IoFault (Option String) :=
  match view path with
  | .ok existing => .ok (reportBy? differ existing text)
  | .error .notFound => .ok (reportBy? differ "" text)
  | .error fault => .error fault

/-- A run's own scripts come from the search for a shortest one. -/
lemma drift?_eq_driftBy? (view : View) (path : Path) (text : String) :
    drift? view path text = driftBy? script view path text := rfl

/-- A file at a path holds a text; a missing file counts as empty. -/
def Shows (view : View) (path : Path) (existing : String) : Prop :=
  view path = .ok existing ∨ (view path = .error .notFound ∧ existing = "")

variable {view : View} {path : Path} {existing text : String}

lemma driftBy?_of_shows (h : Shows view path existing) (differ : Differ) :
    driftBy? differ view path text = .ok (reportBy? differ existing text) := by
  rcases h with h | ⟨h, rfl⟩ <;> rw [driftBy?, h]

/-- **The report on a drift is faithful.** From whatever script it comes, there is none exactly if
the file holds the text, and otherwise its rows account for the difference: one for each line that
is removed or added, and what they leave out is common to both texts. The scripts of the search for
a shortest one are among those from which it may come. -/
theorem drift_isFaithful (hfile : Shows view path existing) :
    (∀ differ : Differ, (differ existing text).Leads existing text →
      ∃ report?, driftBy? differ view path text = .ok report? ∧
        IsFaithful existing text report?) ∧
    ∃ report?, drift? view path text = .ok report? ∧ IsFaithful existing text report? := by
  constructor
  · intro differ hleads
    exact ⟨_, driftBy?_of_shows hfile differ, isFaithful_reportBy? hleads⟩
  · rw [drift?_eq_driftBy?]
    exact ⟨_, driftBy?_of_shows hfile script, isFaithful_reportBy? (leads_script existing text)⟩

/-- The script by which a last line gets its line feed. -/
def lineFeedScript : Script := [⟨.keep, "a\r\n"⟩, ⟨.remove, "b"⟩, ⟨.add, "b\n"⟩]

theorem lineFeed_isFaithful :
    Shows (fun _ => .ok "a\r\nb") ⟨location⟩ "a\r\nb" ∧
      lineFeedScript.Leads "a\r\nb" "a\r\nb\n" ∧
      IsFaithful "a\r\nb" "a\r\nb\n" (some "-b\n+b\n") := by
  have hfile : Shows (fun _ => .ok "a\r\nb") ⟨location⟩ "a\r\nb" := Or.inl rfl
  have hleads : lineFeedScript.Leads "a\r\nb" "a\r\nb\n" :=
    (lineFeedScript.leads_iff _ _).2 (by decide +kernel)
  have hreport : reportBy? (fun _ _ => lineFeedScript) "a\r\nb" "a\r\nb\n" =
      some "-b\n+b\n" := by decide +kernel
  obtain ⟨report?, hdrift, hfaithful⟩ :=
    (drift_isFaithful hfile).1 (fun _ _ => lineFeedScript) hleads
  rw [driftBy?_of_shows hfile, hreport] at hdrift
  obtain rfl := Except.ok.inj hdrift
  exact ⟨hfile, hleads, hfaithful⟩

end ModuleFile

end CmsTypings
