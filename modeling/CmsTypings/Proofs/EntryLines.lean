import CmsTypings.Drift.Script
import CmsTypings.Proofs.Literals

/-!
Declarations of one line for each entry.

Keys and fixed text bring no line break into a declaration, but escaping takes none out of a value.
So an enumeration has a first line, a line for each of its values and a closing line exactly when
no value holds a line break; the same is true of the listing of uids. A line break in a value
stands raw between the quotes of a literal.
-/

namespace CmsTypings

/-! ### Lines -/

namespace Drift

/-- A text without line breaks. -/
def Unbroken (text : String) : Prop := '\n' ∉ text.toList ∧ '\r' ∉ text.toList

instance (text : String) : Decidable (Unbroken text) := inferInstanceAs (Decidable (_ ∧ _))

/-- Fixed text, whose characters are looked through one by one. -/
lemma unbroken_ofList {l : List Char} (h : '\n' ∉ l ∧ '\r' ∉ l) : Unbroken (String.ofList l) := by
  rwa [Unbroken, String.toList_ofList]

lemma unbroken_append_iff {s t : String} : Unbroken (s ++ t) ↔ Unbroken s ∧ Unbroken t := by
  simp only [Unbroken, String.toList_append, List.mem_append, not_or]
  exact and_and_and_comm

/-- A text has an end, and no line break there. -/
def EndsUnbroken (text : String) : Prop :=
  ∃ front z, text.toList = front ++ [z] ∧ z ≠ '\n' ∧ z ≠ '\r'

lemma EndsUnbroken.append_left {t : String} (h : EndsUnbroken t) (s : String) :
    EndsUnbroken (s ++ t) := by
  obtain ⟨front, z, hz, hlast⟩ := h
  refine ⟨s.toList ++ front, z, ?_, hlast⟩
  rw [String.toList_append, hz, List.append_assoc]

/-- Characters that are no line breaks go into the line before which they stand. -/
lemma lineChars_append_plain {body tail l : List Char} {ls : List (List Char)}
    (hbody : '\n' ∉ body ∧ '\r' ∉ body) (htail : lineChars tail = l :: ls) :
    lineChars (body ++ tail) = (body ++ l) :: ls := by
  induction body with
  | nil => exact htail
  | cons c body ih =>
    simp only [List.mem_cons, not_or] at hbody
    obtain ⟨⟨hfeed, hbody⟩, hret, hbody'⟩ := hbody
    rw [List.cons_append, lineChars, if_neg (by simp [Ne.symm hfeed, Ne.symm hret]),
      ih ⟨hbody, hbody'⟩, List.cons_append]
    rintro _ rfl -
    exact hret rfl

/-- A line goes on to the first line feed. -/
lemma lineChars_append_newline {l : List Char} (h : '\n' ∉ l ∧ '\r' ∉ l) (rest : List Char) :
    lineChars (l ++ '\n' :: rest) = (l ++ ['\n']) :: lineChars rest := by
  have htail : lineChars ('\n' :: rest) = ['\n'] :: lineChars rest := by simp [lineChars]
  exact lineChars_append_plain h htail

/-- In a line a line break stands at the end, alone or before a line feed. -/
lemma eq_nil_or_of_mem_lineChars {text l a b : List Char} {c : Char} (hl : l ∈ lineChars text)
    (h : l = a ++ c :: b) (hc : c = '\n' ∨ c = '\r') : b = [] ∨ b = ['\n'] := by
  fun_induction lineChars text generalizing l a with
  | case1 => simp at hl
  | case2 rest ih =>
    rcases List.mem_cons.1 hl with rfl | hl
    · rcases a with _ | ⟨d, _ | ⟨e, a⟩⟩
      · right
        simpa using (List.cons.inj h).2.symm
      · left
        simpa using (List.cons.inj (List.cons.inj h).2).2.symm
      · simp at h
    · exact ih hl h
  | case3 d rest _ _ ih =>
    rcases List.mem_cons.1 hl with rfl | hl
    · rcases a with _ | ⟨e, a⟩
      · left
        simpa using (List.cons.inj h).2.symm
      · simp at h
    · exact ih hl h
  | case4 d rest _ _ _ _ =>
    obtain rfl := List.mem_singleton.1 hl
    rcases a with _ | ⟨e, a⟩
    · left
      simpa using (List.cons.inj h).2.symm
    · simp at h
  | case5 d rest _ hd k ks hrest ih =>
    rcases List.mem_cons.1 hl with rfl | hl
    · rcases a with _ | ⟨e, a⟩
      · -- the first character of this line is no line break
        obtain ⟨rfl, -⟩ := List.cons.inj h
        exact absurd hc hd
      · have hk : k ∈ lineChars rest := hrest ▸ List.mem_cons_self
        exact ih hk (List.cons.inj h).2
    · have hlater : l ∈ lineChars rest := hrest ▸ List.mem_cons_of_mem k hl
      exact ih hlater h

/-- What stands before the line feed of a line is not interrupted. -/
lemma unbroken_of_mem_lines {text body : String} (h : body ++ "\n" ∈ lines text)
    (hend : EndsUnbroken body) : Unbroken body := by
  obtain ⟨front, z, hz, hlast⟩ := hend
  obtain ⟨l, hl, hbody⟩ := List.mem_map.1 h
  have hchars : l = body.toList ++ ['\n'] := by
    rw [← String.toList_ofList (l := l), hbody, String.toList_append]
    rfl
  have hno : ∀ c ∈ body.toList, ¬ (c = '\n' ∨ c = '\r') := by
    intro c hc hbreak
    obtain ⟨before, behind, hsplit⟩ := List.append_of_mem hc
    rw [hsplit, List.append_assoc] at hchars
    rcases eq_nil_or_of_mem_lineChars hl hchars hbreak with hnil | hfeed
    · simp at hnil
    · -- the break is the last character before the line feed
      have hbehind : behind = [] := by simpa using hfeed
      rw [hbehind, hz] at hsplit
      have hzc : z = c := by simpa using (List.append_inj' hsplit rfl).2
      subst hzc
      exact hbreak.elim hlast.1 hlast.2
  exact ⟨fun hc => hno _ hc (Or.inl rfl), fun hc => hno _ hc (Or.inr rfl)⟩

lemma lines_append_newline {body : String} (h : Unbroken body) (rest : String) :
    lines (body ++ "\n" ++ rest) = (body ++ "\n") :: lines rest := by
  have hchars : (body ++ "\n" ++ rest).toList = body.toList ++ '\n' :: rest.toList := by simp
  have hbody : String.ofList (body.toList ++ ['\n']) = body ++ "\n" := by
    rw [← String.toList_inj]
    simp
  rw [lines, hchars, lineChars_append_newline h, List.map_cons, hbody]
  rfl

/-- Texts that are each ended by a line feed are the lines of what they make up exactly if no line
break interrupts them. -/
lemma lines_join_iff {bodies : List String} (hend : ∀ b ∈ bodies, EndsUnbroken b) :
    lines (String.join (bodies.map (· ++ "\n"))) = bodies.map (· ++ "\n") ↔
      ∀ b ∈ bodies, Unbroken b := by
  constructor
  · intro hlines b hb
    have hline : b ++ "\n" ∈ bodies.map (· ++ "\n") := List.mem_map_of_mem hb
    rw [← hlines] at hline
    exact unbroken_of_mem_lines hline (hend b hb)
  · intro h
    clear hend
    induction bodies with
    | nil => rfl
    | cons b bodies ih =>
      obtain ⟨hb, hrest⟩ := List.forall_mem_cons.1 h
      rw [List.map_cons, String.join_cons, lines_append_newline hb, ih hrest]

end Drift

open Drift DeclarationModule Text Text.Literal

/-! ### Listings -/

/-- Escaping neither adds line breaks nor takes any out. -/
lemma unbroken_escape_iff (value : String) : Unbroken (escape value) ↔ Unbroken value := by
  have hmem : ∀ c, c ≠ '\\' → (c ∈ escapeChars value.toList ↔ c ∈ value.toList) := by
    intro c hc
    rw [escapeChars, List.mem_flatMap]
    constructor
    · rintro ⟨d, hd, hcd⟩
      rw [escapeChar] at hcd
      split at hcd
      · simp only [List.mem_cons, hc, List.not_mem_nil, or_false, false_or] at hcd
        exact hcd ▸ hd
      · exact List.mem_singleton.1 hcd ▸ hd
    · intro h
      refine ⟨c, h, ?_⟩
      rw [escapeChar]
      split <;> simp
  rw [Unbroken, toList_escape, hmem _ (by decide), hmem _ (by decide)]
  rfl

/-- A name holds no line break. -/
lemma unbroken_of_nameChar {text : String} (h : ∀ d ∈ text.toList, isNameChar d = true) :
    Unbroken text :=
  ⟨fun hc => absurd (h _ hc) (by decide), fun hc => absurd (h _ hc) (by decide)⟩

namespace DeclarationModule

/-- A text stands on lines as a listing should: a first line, a line for each entry, and the closing
brace on a line of its own. -/
def OnLines (text first : String) (entries : List String) : Prop :=
  lines text = first :: (entries ++ ["\x7d\n"])

instance (text first : String) (entries : List String) : Decidable (OnLines text first entries) :=
  inferInstanceAs (Decidable (_ = _))

/-- The first line of a listing, without its line feed. -/
def firstLine (name : String) : String := "export enum " ++ name ++ " \x7b"

/-- The line of an entry, without its line feed. -/
def entryLine (entry : String × String) : String :=
  "  " ++ entry.1 ++ " = '" ++ escape entry.2 ++ "',"

lemma unbroken_firstLine_iff (name : String) : Unbroken (firstLine name) ↔ Unbroken name := by
  have hfront : Unbroken "export enum " := unbroken_ofList (by decide)
  have hbrace : Unbroken " \x7b" := unbroken_ofList (by decide)
  simp [firstLine, unbroken_append_iff, hfront, hbrace]

lemma unbroken_entryLine_iff (entry : String × String) :
    Unbroken (entryLine entry) ↔ Unbroken entry.1 ∧ Unbroken (escape entry.2) := by
  have hindent : Unbroken "  " := unbroken_ofList (by decide)
  have hquote : Unbroken " = '" := unbroken_ofList (by decide)
  have hend : Unbroken "'," := unbroken_ofList (by decide)
  simp [entryLine, unbroken_append_iff, hindent, hquote, hend]

/-- When a listing has one line for each entry. -/
lemma onLines_listText_iff (name : String) (entries : List (String × String)) :
    OnLines (listText name entries) (EnumBlock.header name) (entries.map uidLine) ↔
      Unbroken name ∧ ∀ e ∈ entries, Unbroken e.1 ∧ Unbroken (escape e.2) := by
  have hheader : EnumBlock.header name = firstLine name ++ "\n" := by
    simp [EnumBlock.header, firstLine, String.append_assoc]
  have hentry : uidLine = fun e => entryLine e ++ "\n" := by
    funext e
    simp [uidLine, entryLine, String.append_assoc]
  have hlines : (firstLine name :: (entries.map entryLine ++ ["\x7d"])).map (· ++ "\n") =
      EnumBlock.header name :: (entries.map uidLine ++ ["\x7d\n"]) := by
    simp [hheader, hentry, Function.comp_def]
  have htext : listText name entries =
      String.join ((firstLine name :: (entries.map entryLine ++ ["\x7d"])).map (· ++ "\n")) := by
    rw [hlines, listText]
    simp [String.append_assoc]
  have hend : ∀ b ∈ firstLine name :: (entries.map entryLine ++ ["\x7d"]), EndsUnbroken b := by
    simp only [List.mem_cons, List.mem_append, List.mem_map, List.not_mem_nil, or_false]
    rintro b (rfl | ⟨e, -, rfl⟩ | rfl)
    · exact EndsUnbroken.append_left ⟨[' '], '\x7b', rfl, by decide⟩ _
    · exact EndsUnbroken.append_left ⟨['\''], ',', rfl, by decide⟩ _
    · exact ⟨[], '\x7d', rfl, by decide⟩
  have hbrace : Unbroken "\x7d" := unbroken_ofList (by decide)
  rw [OnLines, htext, ← hlines, lines_join_iff hend, List.forall_mem_cons, List.forall_mem_append,
    List.forall_mem_singleton, List.forall_mem_map, unbroken_firstLine_iff]
  simp only [unbroken_entryLine_iff, hbrace, and_true]

/-- **When every entry has a line of its own.** An enumeration is written as a first line, one line
for each of its values in their order and a closing line exactly when no literal in it holds a raw
line break, and the listing of uids likewise; what is written between the quotes of a literal holds
a line break exactly when the value does. -/
theorem onLines_iff_unbroken (b : EnumBlock) (blocks : List Block) :
    (OnLines b.render (EnumBlock.header b.name) (b.values.map EnumBlock.memberLine) ↔
        Unbroken b.name ∧ ∀ v ∈ b.values, Unbroken (escape v)) ∧
    (OnLines (uidText (uidEntries blocks)) (EnumBlock.header "ContentTypesUID")
          ((uidEntries blocks).map uidLine) ↔
        ∀ b ∈ blocks, b.origin = .contentType → Unbroken b.name ∧ Unbroken (escape b.uid)) ∧
    ∀ value : String, Unbroken (escape value) ↔ Unbroken value := by
  refine ⟨?_, ?_, unbroken_escape_iff⟩
  · have hlines : b.entries.map uidLine = b.values.map EnumBlock.memberLine := by
      rw [EnumBlock.entries, List.map_map]
      rfl
    have hkeys : ∀ v, Unbroken (enumKey v) :=
      fun v => unbroken_of_nameChar fun d hd => isNameChar_of_mem_enumKey hd
    rw [EnumBlock.render_eq_listText, ← hlines, onLines_listText_iff, EnumBlock.entries,
      List.forall_mem_map]
    simp only [hkeys, true_and]
  · have hname : Unbroken "ContentTypesUID" := unbroken_ofList (by decide)
    have htext : uidText (uidEntries blocks) = listText "ContentTypesUID" (uidEntries blocks) := rfl
    rw [htext, onLines_listText_iff, uidEntries, List.forall_mem_map]
    simp [hname]

/-- An enumeration of a value with a line feed, and a content type whose uid has one, do not stand
on lines as they should. -/
theorem brokenMood_not_onLines :
    ¬ (∀ b : EnumBlock, Unbroken b.name →
      OnLines b.render (EnumBlock.header b.name) (b.values.map EnumBlock.memberLine)) ∧
    ¬ ∀ blocks : List Block, (∀ b ∈ blocks, Unbroken b.name) →
      OnLines (uidText (uidEntries blocks)) (EnumBlock.header "ContentTypesUID")
        ((uidEntries blocks).map uidLine) := by
  constructor
  · intro h
    have hmood := h ⟨"Article_Mood", ["good\nbad"]⟩ (by decide +kernel)
    revert hmood
    decide +kernel
  · intro h
    have harticle := h [⟨"api::article\n.article", "Article", .contentType, "", []⟩]
      (by decide +kernel)
    revert harticle
    decide +kernel

end DeclarationModule

end CmsTypings
