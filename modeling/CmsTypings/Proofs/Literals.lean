import CmsTypings.Proofs.Listings

/-!
Literals and the code around them.

A reader of a module takes in code, character by character, until a quote opens a literal; `scan`
then tells the value of the literal and where the code goes on. A part of a module is described by
the pieces that such a reader finds in it, whatever follows the part. Lines that give a key its
literal are read as the key and the value, so from enumerations and from the listing of uids a
reader gets the values exactly as they are, and no code but the keys and the fixed text around them.
-/

namespace CmsTypings

open Naming Text

namespace Text.Literal

/-! ### Two replacements -/

/-- A text with a backslash in front of each `c`. -/
def guardChar (c : Char) (text : List Char) : List Char :=
  text.flatMap fun d => if d = c then ['\\', d] else [d]

/-- Escaping is to guard the backslashes first, and the quotes then. -/
lemma escapeChars_eq_guardChar (value : List Char) :
    escapeChars value = guardChar '\'' (guardChar '\\' value) := by
  rw [escapeChars, guardChar, guardChar, List.flatMap_assoc]
  refine List.flatMap_congr fun c _ => ?_
  by_cases hbackslash : c = '\\'
  · simp [escapeChar, hbackslash]
  · by_cases hquote : c = '\'' <;> simp [escapeChar, hbackslash, hquote]

/-- The other way round a quote ends up behind two backslashes and closes the literal. -/
example : scan (guardChar '\\' (guardChar '\'' ['\'', 'x']) ++ ['\'']) =
    some (['\\'], ['x', '\'']) := by
  decide

/-! ### The pieces of a text -/

/-- What a reader finds: a character of code, a literal with its value, or a literal that is never
closed. -/
inductive Piece where
  | code (c : Char)
  | literal (value : List Char)
  | unclosed (rest : List Char)
deriving DecidableEq, Repr

lemma length_lt_of_scan {text : List Char} {r : List Char × List Char} (h : scan text = some r) :
    r.2.length < text.length := by
  fun_induction scan text generalizing r with
  | case1 => cases h
  | case2 c rest ih =>
    obtain ⟨r', hscan, rfl⟩ := Option.map_eq_some_iff.1 h
    have hrest := ih hscan
    exact Nat.lt_succ_of_lt (Nat.lt_succ_of_lt hrest)
  | case3 rest =>
    obtain rfl := Option.some.inj h
    simp
  | case4 c rest _ _ ih =>
    obtain ⟨r', hscan, rfl⟩ := Option.map_eq_some_iff.1 h
    have hrest := ih hscan
    exact Nat.lt_succ_of_lt hrest

/-- The pieces of a text that begins with code. -/
def pieces (text : List Char) : List Piece :=
  match text with
  | [] => []
  | c :: rest =>
    if c = '\'' then
      match _hscan : scan rest with
      | some (value, after) => .literal value :: pieces after
      | none => [.unclosed rest]
    else .code c :: pieces rest
termination_by text.length
decreasing_by
  · exact Nat.lt_succ_of_lt (length_lt_of_scan _hscan)
  · exact Nat.lt_succ_self _

lemma pieces_cons_of_ne {c : Char} (h : c ≠ '\'') (rest : List Char) :
    pieces (c :: rest) = .code c :: pieces rest := by
  rw [pieces, if_neg h]

lemma pieces_quote {text value rest : List Char} (h : scan text = some (value, rest)) :
    pieces ('\'' :: text) = .literal value :: pieces rest := by
  rw [pieces, if_pos rfl]
  split
  · next h' =>
    obtain ⟨rfl, rfl⟩ := Prod.mk.inj (Option.some.inj (h.symm.trans h'))
    rfl
  · next h' => simp [h] at h'

end Text.Literal

open Text.Literal

/-- A part of a module has these pieces, whatever follows it. -/
def HasPieces (text : List Char) (ps : List Piece) : Prop :=
  ∀ rest, pieces (text ++ rest) = ps ++ pieces rest

namespace HasPieces

variable {text text' : List Char} {ps ps' : List Piece}

lemma nil : HasPieces [] [] := fun _ => rfl

lemma append (h : HasPieces text ps) (h' : HasPieces text' ps') :
    HasPieces (text ++ text') (ps ++ ps') := by
  intro rest
  rw [List.append_assoc, List.append_assoc, h, h']

lemma flatMap {α : Type} {text : α → List Char} {ps : α → List Piece} {as : List α}
    (h : ∀ a ∈ as, HasPieces (text a) (ps a)) : HasPieces (as.flatMap text) (as.flatMap ps) := by
  induction as with
  | nil => exact nil
  | cons a as ih =>
    rw [List.forall_mem_cons] at h
    rw [List.flatMap_cons, List.flatMap_cons]
    exact h.1.append (ih h.2)

/-- Text without a quote is code. -/
lemma code (h : '\'' ∉ text) : HasPieces text (text.map .code) := by
  intro rest
  induction text with
  | nil => rfl
  | cons c text ih =>
    rw [List.mem_cons, not_or] at h
    rw [List.cons_append, pieces_cons_of_ne (Ne.symm h.1), ih h.2, List.map_cons, List.cons_append]

/-- An escaped value between quotes is the literal of this value. -/
lemma literal (value : List Char) :
    HasPieces ('\'' :: (escapeChars value ++ ['\''])) [.literal value] := by
  intro rest
  have hscan := scan_escapeChars value rest
  rw [List.cons_append, List.append_assoc, List.singleton_append, pieces_quote hscan]
  rfl

end HasPieces

/-! ### Text without a quote -/

/-- A text that a reader takes for code from end to end. -/
def IsCode (text : String) : Prop := '\'' ∉ text.toList

/-- A text of code, as a reader finds it. -/
def codePieces (text : String) : List Piece := text.toList.map .code

lemma IsCode.hasPieces {text : String} (h : IsCode text) :
    HasPieces text.toList (codePieces text) := .code h

/-- Fixed text, whose characters are looked through one by one. -/
lemma isCode_ofList {l : List Char} (h : '\'' ∉ l) : IsCode (String.ofList l) := by
  rwa [IsCode, String.toList_ofList]

lemma isCode_append_iff {text text' : String} :
    IsCode (text ++ text') ↔ IsCode text ∧ IsCode text' := by
  rw [IsCode, String.toList_append, List.mem_append, not_or]
  rfl

lemma IsCode.append {text text' : String} (h : IsCode text) (h' : IsCode text') :
    IsCode (text ++ text') := isCode_append_iff.2 ⟨h, h'⟩

lemma IsCode.join {texts : List String} (h : ∀ text ∈ texts, IsCode text) :
    IsCode (String.join texts) := by
  rw [IsCode, String.toList_join, List.mem_flatMap]
  rintro ⟨text, htext, hquote⟩
  exact h text htext hquote

lemma isCode_of_nameChar {text : String} (h : ∀ d ∈ text.toList, isNameChar d = true) :
    IsCode text := fun hquote => absurd (h _ hquote) (by decide)

/-! ### Declarations that give keys their literals -/

namespace DeclarationModule

/-- What a reader finds of a key and its value. -/
def linePieces (entry : String × String) : List Piece :=
  codePieces ("  " ++ entry.1 ++ " = ") ++ [.literal entry.2.toList] ++ codePieces ",\n"

/-- What a reader finds of a declaration that lists keys and values. -/
def listPieces (name : String) (entries : List (String × String)) : List Piece :=
  codePieces (EnumBlock.header name) ++ entries.flatMap linePieces ++ codePieces "\x7d\n"

/-- The text of such a declaration. -/
def listText (name : String) (entries : List (String × String)) : String :=
  EnumBlock.header name ++ String.join (entries.map uidLine) ++ "\x7d\n"

lemma hasPieces_uidLine {entry : String × String} (h : ∀ d ∈ entry.1.toList, isNameChar d = true) :
    HasPieces (uidLine entry).toList (linePieces entry) := by
  have hline : (uidLine entry).toList = ("  " ++ entry.1 ++ " = ").toList ++
      '\'' :: (escapeChars entry.2.toList ++ ['\'']) ++ ",\n".toList := by
    simp [uidLine, toList_escape]
  have hkey : IsCode ("  " ++ entry.1 ++ " = ") :=
    ((isCode_ofList (by decide)).append (isCode_of_nameChar h)).append (isCode_ofList (by decide))
  have hend : IsCode ",\n" := isCode_ofList (by decide)
  rw [hline]
  exact (hkey.hasPieces.append (.literal _)).append hend.hasPieces

lemma hasPieces_listText {name : String} {entries : List (String × String)}
    (hname : ∀ d ∈ name.toList, isNameChar d = true)
    (hkeys : ∀ e ∈ entries, ∀ d ∈ e.1.toList, isNameChar d = true) :
    HasPieces (listText name entries).toList (listPieces name entries) := by
  have htext : (listText name entries).toList = (EnumBlock.header name).toList ++
      entries.flatMap (fun e => (uidLine e).toList) ++ "\x7d\n".toList := by
    simp [listText, String.toList_join, List.flatMap, Function.comp_def]
  have hheader : IsCode (EnumBlock.header name) :=
    ((isCode_ofList (by decide)).append (isCode_of_nameChar hname)).append
      (isCode_ofList (by decide))
  have hbrace : IsCode "\x7d\n" := isCode_ofList (by decide)
  rw [htext]
  exact (hheader.hasPieces.append (.flatMap fun e he => hasPieces_uidLine (hkeys e he))).append
    hbrace.hasPieces

end DeclarationModule

open DeclarationModule

/-- The keys of an enumeration with their values. -/
def EnumBlock.entries (b : EnumBlock) : List (String × String) :=
  b.values.map fun v => (enumKey v, v)

lemma EnumBlock.render_eq_listText (b : EnumBlock) : b.render = listText b.name b.entries := by
  have hlines : b.entries.map uidLine = b.values.map memberLine := by
    rw [entries, List.map_map]
    rfl
  rw [listText, hlines]
  rfl

lemma isNameChar_of_mem_enumKey {value : String} {d : Char} (h : d ∈ (enumKey value).toList) :
    isNameChar d = true := by
  rw [enumKey, String.toList_ofList] at h
  exact isNameChar_of_mem_keyChars h

/-- An enumeration is read as its values, each under its key. -/
lemma EnumBlock.hasPieces_render {b : EnumBlock} (h : ∀ d ∈ b.name.toList, isNameChar d = true) :
    HasPieces b.render.toList (listPieces b.name b.entries) := by
  rw [render_eq_listText]
  refine hasPieces_listText h fun e he => ?_
  obtain ⟨v, -, rfl⟩ := List.mem_map.1 he
  exact fun d hd => isNameChar_of_mem_enumKey hd

/-! ### The fixed parts of a module -/

namespace DeclarationModule

/-- The parts that are the same in every module. -/
def fixedParts : List String := [opening, mediaFormat, contentTypeAlias, requestHelpers]

/-- No fixed part has a quote, for none of the pieces that make it up has one. -/
lemma isCode_of_mem_fixedParts : ∀ part ∈ fixedParts, IsCode part := by
  unfold fixedParts opening mediaFormat contentTypeAlias requestHelpers sortKey
  -- the pieces are not put together, so that each is looked through on its own
  simp only [List.forall_mem_cons, List.not_mem_nil, false_implies, implies_true, and_true,
    isCode_append_iff, -String.reduceAppend]
  and_intros <;> exact isCode_ofList (by decide)

end DeclarationModule

/-! ### The literals of a module -/

namespace Conversion

variable {dump : Dump} {settings : Settings} {i : Interface} {b : EnumBlock}

lemma nameChar_of_mem_enums (hi : i ∈ (ofDump dump settings).interfaces) (hb : b ∈ i.enums) :
    ∀ d ∈ b.name.toList, isNameChar d = true := by
  obtain ⟨e, he, s, -, rfl⟩ := mem_interfaces_iff.1 hi
  obtain ⟨n, a, -, -, -, hn⟩ := Interface.mem_enums_iff.1 hb
  intro d hd
  rw [hn] at hd
  exact nameChar_of_mem_enumName (fun d hd => Roster.nameChar_of_mem_name he hd) hd

/-- Parts of a module that follow the first. -/
def laterParts (parts : List String) : List Char := parts.flatMap fun part => '\n' :: part.toList

lemma toList_intercalate_cons (first : String) (parts : List String) :
    ("\n".intercalate (first :: parts)).toList = first.toList ++ laterParts parts := by
  induction parts generalizing first with
  | nil => simp [laterParts]
  | cons part parts ih =>
    rw [laterParts] at ih
    simp [String.intercalate_cons_cons, ih, laterParts]

/-- The text of a module up to its first interface. -/
def frontText (c : Conversion) : List Char := opening.toList ++ laterParts c.enumTexts

/-- The text from the first interface to the listing of uids. -/
def middleText (c : Conversion) : List Char :=
  laterParts ((c.interfaces.map Interface.block).map (·.body) ++
    [mediaFormat, c.unionOf .contentType, c.unionOf .component])

/-- The text behind the listing of uids. -/
def endText : List Char := laterParts [contentTypeAlias, requestHelpers]

lemma toList_code (c : Conversion) :
    c.code.toList = c.frontText ++ c.middleText ++ laterParts [c.uidsText] ++ endText := by
  have henums : (c.interfaces.map Interface.block).flatMap (·.enums) = c.enumTexts := by
    rw [List.flatMap_map]
    rfl
  have hsections : sections (c.interfaces.map Interface.block) =
      opening :: (c.enumTexts ++ ((c.interfaces.map Interface.block).map (·.body) ++
        [mediaFormat, c.unionOf .contentType, c.unionOf .component] ++
          ([c.uidsText] ++ [contentTypeAlias, requestHelpers]))) := by
    rw [sections, henums, List.append_assoc, List.append_assoc, List.append_assoc]
    rfl
  rw [code, render, hsections, toList_intercalate_cons, frontText, middleText, endText]
  simp only [laterParts, List.flatMap_append, List.append_assoc]

/-- What a reader finds of an enumeration, and of the line break that sets it apart. -/
def enumPieces (b : EnumBlock) : List Piece := codePieces "\n" ++ listPieces b.name b.entries

/-- What a reader finds of a module before the first interface. -/
def frontPieces (c : Conversion) : List Piece :=
  codePieces opening ++ (c.interfaces.flatMap (·.enums)).flatMap enumPieces

/-- What a reader finds of the listing of uids. -/
def uidPieces (c : Conversion) : List Piece :=
  codePieces "\n" ++
    listPieces "ContentTypesUID" ((c.interfacesOf .contentType).map fun i => (i.name, i.uid))

lemma hasPieces_break : HasPieces ['\n'] (codePieces "\n") :=
  (isCode_ofList (by decide) : IsCode "\n").hasPieces

lemma hasPieces_frontText (dump : Dump) (settings : Settings) :
    HasPieces (ofDump dump settings).frontText (ofDump dump settings).frontPieces := by
  have htexts : (ofDump dump settings).enumTexts =
      ((ofDump dump settings).interfaces.flatMap (·.enums)).map EnumBlock.render := by
    rw [List.map_flatMap]
    rfl
  rw [frontText, laterParts, htexts, List.flatMap_map]
  have hopening : IsCode opening := isCode_of_mem_fixedParts _ (by simp [fixedParts])
  refine hopening.hasPieces.append (.flatMap fun b hb => ?_)
  obtain ⟨i, hi, hb⟩ := List.mem_flatMap.1 hb
  exact hasPieces_break.append (EnumBlock.hasPieces_render (nameChar_of_mem_enums hi hb))

lemma hasPieces_uidsText (dump : Dump) (settings : Settings) :
    HasPieces (laterParts [(ofDump dump settings).uidsText])
      (ofDump dump settings).uidPieces := by
  have htext : (ofDump dump settings).uidsText = listText "ContentTypesUID"
      (((ofDump dump settings).interfacesOf .contentType).map fun i => (i.name, i.uid)) := by
    rw [uidsText, uidEntries_blocks]
    rfl
  rw [laterParts, List.flatMap_singleton, htext]
  refine hasPieces_break.append (hasPieces_listText (by simp [isNameChar]) fun e he => ?_)
  obtain ⟨i, hi, rfl⟩ := List.mem_map.1 he
  exact nameChar_of_mem_interfaces (List.mem_filter.1 hi).1

lemma not_mem_laterParts {parts : List String} (h : ∀ part ∈ parts, IsCode part) :
    '\'' ∉ laterParts parts := by
  rw [laterParts, List.mem_flatMap]
  rintro ⟨part, hpart, hquote⟩
  rcases List.mem_cons.1 hquote with hbreak | hquote
  · exact absurd hbreak (by decide)
  · exact h part hpart hquote

lemma isCode_unionOf (dump : Dump) (settings : Settings) (origin : Origin) :
    IsCode ((ofDump dump settings).unionOf origin) := by
  have hname : IsCode (unionName origin) := by
    cases origin <;> exact isCode_ofList (by decide)
  have hheader : IsCode (Interface.header (unionName origin)) :=
    ((isCode_ofList (by decide)).append hname).append (isCode_ofList (by decide))
  have hmember : ∀ n ∈ (ofDump dump settings).namesOf origin, IsCode (memberLine n) := by
    intro n hn
    have hn : IsCode n := isCode_of_nameChar (nameChar_of_mem_namesOf hn)
    exact (((isCode_ofList (by decide)).append hn).append (isCode_ofList (by decide))).append hn
      |>.append (isCode_ofList (by decide))
  rw [unionOf, memberNames_blocks, unionText]
  refine (hheader.append (.join fun line hline => ?_)).append (isCode_ofList (by decide))
  obtain ⟨n, hn, rfl⟩ := List.mem_map.1 hline
  exact hmember n hn

/-- The rest of a module is code if the interfaces are. -/
lemma hasPieces_middleText {dump : Dump} {settings : Settings}
    (h : ∀ i ∈ (ofDump dump settings).interfaces, IsCode i.body) :
    HasPieces (ofDump dump settings).middleText ((ofDump dump settings).middleText.map .code) := by
  refine .code (not_mem_laterParts fun part hpart => ?_)
  rw [List.map_map, List.mem_append] at hpart
  rcases hpart with hbody | hhelper
  · obtain ⟨i, hi, rfl⟩ := List.mem_map.1 hbody
    exact h i hi
  · simp only [List.mem_cons, List.not_mem_nil, or_false] at hhelper
    rcases hhelper with rfl | rfl | rfl
    · exact isCode_of_mem_fixedParts _ (by simp [fixedParts])
    · exact isCode_unionOf dump settings .contentType
    · exact isCode_unionOf dump settings .component

lemma hasPieces_endText : HasPieces endText (endText.map .code) := by
  refine .code (not_mem_laterParts fun part hpart => isCode_of_mem_fixedParts part ?_)
  simp only [List.mem_cons, List.not_mem_nil, or_false] at hpart
  rcases hpart with rfl | rfl <;> simp [fixedParts]

/-- The values of enumerations and the uids are read off a module as they are, and add no code to
it. -/
structure KeepsLiterals (c : Conversion) : Prop where
  layout : c.code.toList = c.frontText ++ c.middleText ++ laterParts [c.uidsText] ++ endText
  /-- A reader of the module comes to the first interface over the values of enumerations. -/
  enums : HasPieces c.frontText c.frontPieces
  /-- The listing of uids is read as the uids under their names. -/
  uids : HasPieces (laterParts [c.uidsText]) c.uidPieces
  /-- The module has no other literals, unless an attribute bears a name with a quote. -/
  whole : (∀ i ∈ c.interfaces, IsCode i.body) → pieces c.code.toList =
    c.frontPieces ++ c.middleText.map .code ++ c.uidPieces ++ endText.map .code
  /-- All that a value contributes to the code is its key, which is a word. -/
  keys : ∀ value : String, ∀ d ∈ (enumKey value).toList, isNameChar d = true

/-- **Values stay inside their literals.** What escaping writes between two quotes is read back up
to the second quote, whatever follows it; so no two values are written alike, and in a module the
values of enumerations and the uids are found as literals and nowhere in the code. -/
theorem escaped_read_back (dump : Dump) (settings : Settings) :
    (∀ (value : String) (rest : List Char),
      scan ((escape value).toList ++ '\'' :: rest) = some (value.toList, rest)) ∧
    Function.Injective escape ∧
    (∀ value : String,
      escape value = String.ofList (guardChar '\'' (guardChar '\\' value.toList))) ∧
    (ofDump dump settings).KeepsLiterals := by
  have hscan : ∀ (value : String) (rest : List Char),
      scan ((escape value).toList ++ '\'' :: rest) = some (value.toList, rest) := by
    intro value rest
    rw [toList_escape]
    exact scan_escapeChars value.toList rest
  have hfront := hasPieces_frontText dump settings
  have huids := hasPieces_uidsText dump settings
  refine ⟨hscan, fun v w h => ?_, fun value => ?_,
    ⟨toList_code _, hfront, huids, fun hquiet => ?_, fun _ _ => isNameChar_of_mem_enumKey⟩⟩
  · have hread := hscan v []
    rw [h, hscan w []] at hread
    exact (String.toList_inj.1 (Prod.mk.inj (Option.some.inj hread)).1).symm
  · rw [escape, escapeChars_eq_guardChar]
  · have hwhole := ((hfront.append (hasPieces_middleText hquiet)).append huids).append
      hasPieces_endText
    rw [toList_code, ← List.append_nil (_ ++ endText), hwhole [], pieces, List.append_nil]

end Conversion

end CmsTypings
