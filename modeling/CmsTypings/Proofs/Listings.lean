import CmsTypings.Proofs.Accounts
import CmsTypings.Proofs.EnumText

/-!
The listings of a module.

Besides the interfaces a module holds three listings of them: the members of two unions and the uids
of the content types. Each is written from the blocks of the module on its own. Here a listing is
read back off its text, entry by entry up to the closing brace, and the name of an interface off the
first line of its text. All these readings of one module tell the same names in the same order.
-/

namespace CmsTypings

open Naming Text Text.Literal

namespace DeclarationModule

/-! ### Reading a listing -/

/-- The inside of a literal as it is written, and what follows the closing quote. -/
def quoted? : List Char → Option (List Char × List Char)
  | [] => none
  | '\\' :: c :: rest => (quoted? rest).map fun r => ('\\' :: c :: r.1, r.2)
  | c :: rest =>
    if c = '\'' then some ([], rest) else (quoted? rest).map fun r => (c :: r.1, r.2)

/-- A name with the given texts around it, and what follows. -/
def nameBetween? (before behind : String) (text : List Char) : Option (String × List Char) := do
  let text ← text.dropPrefix? before.toList
  let rest ← (text.dropWhile isNameChar).dropPrefix? behind.toList
  return (String.ofList (text.takeWhile isNameChar), rest)

/-- The name in the first line of an interface, and the lines behind it. -/
def interfaceHeading? : List Char → Option (String × List Char) :=
  nameBetween? "export interface " "<P extends boolean = true> \x7b\n"

def enumHeading? : List Char → Option (String × List Char) :=
  nameBetween? "export enum " " \x7b\n"

/-- The name of the interface that a text declares. -/
def declaredName? (text : String) : Option String :=
  (interfaceHeading? text.toList).map Prod.fst

/-- A key with its type, on a line of their own. -/
def memberItem? (text : List Char) : Option ((String × String) × List Char) := do
  let (key, text) ← nameBetween? "  " ": " text
  let rest ← (text.dropWhile (· ≠ ';')).dropPrefix? ";\n".toList
  return ((key, String.ofList (text.takeWhile (· ≠ ';'))), rest)

/-- A key with the inside of its literal. -/
def uidItem? (text : List Char) : Option ((String × String) × List Char) := do
  let (key, text) ← nameBetween? "  " " = '" text
  let (literal, rest) ← quoted? text
  let rest ← rest.dropPrefix? ",\n".toList
  return ((key, String.ofList literal), rest)

/-- Entry after entry, up to the closing brace at the end. -/
def items? (item? : List Char → Option ((String × String) × List Char)) (text : List Char) :
    Option (List (String × String)) :=
  if text = "\x7d\n".toList then some []
  else
    match item? text with
    | none => none
    | some (e, rest) =>
      if rest.length < text.length then (items? item? rest).map (e :: ·) else none
termination_by text.length

/-- A declaration that lists entries: the name it declares, and each key with what it stands for. -/
structure Listing where
  name : String
  entries : List (String × String)
deriving DecidableEq, Repr

def readUnion? (text : String) : Option Listing := do
  let (name, rest) ← interfaceHeading? text.toList
  return ⟨name, ← items? memberItem? rest⟩

def readUids? (text : String) : Option Listing := do
  let (name, rest) ← enumHeading? text.toList
  return ⟨name, ← items? uidItem? rest⟩

/-! ### What is written is read -/

variable {name before behind : String} {rest : List Char}

lemma nameBetween?_append (hbehind : behind.toList.head?.map isNameChar = some false)
    (hname : ∀ d ∈ name.toList, isNameChar d = true) :
    nameBetween? before behind ((before ++ name ++ behind).toList ++ rest) = some (name, rest) := by
  obtain ⟨c, hhead, hc⟩ := Option.map_eq_some_iff.1 hbehind
  obtain ⟨cs, hcs⟩ := List.head?_eq_some_iff.1 hhead
  have htake : (name.toList ++ (behind.toList ++ rest)).takeWhile isNameChar = name.toList :=
    takeWhile_name hname (by simp [hcs, hc])
  have hdrop : (name.toList ++ (behind.toList ++ rest)).dropWhile isNameChar =
      behind.toList ++ rest := by
    rw [List.dropWhile_append_of_pos hname, hcs, List.cons_append,
      List.dropWhile_cons_of_neg (by simp [hc])]
  simp [nameBetween?, dropPrefix?_append, htake, hdrop]

lemma quoted?_escapeChars (value rest : List Char) :
    quoted? (escapeChars value ++ '\'' :: rest) = some (escapeChars value, rest) := by
  induction value with
  | nil => simp [escapeChars, quoted?]
  | cons c cs ih =>
    rw [escapeChars] at ih
    rw [escapeChars, List.flatMap_cons, List.append_assoc]
    by_cases hc : c = '\\' ∨ c = '\''
    · simp only [escapeChar, if_pos hc, List.cons_append, List.nil_append, quoted?, ih]
      rfl
    · rw [not_or] at hc
      simp only [escapeChar, hc.1, hc.2, or_self, if_false, List.cons_append, List.nil_append]
      rw [quoted?]
      · simp [hc.2, ih]
      · exact fun _ _ h _ => hc.1 h

/-- The first line of an interface tells its name. -/
lemma interfaceHeading?_header (hname : ∀ d ∈ name.toList, isNameChar d = true) :
    interfaceHeading? ((Interface.header name).toList ++ rest) = some (name, rest) :=
  nameBetween?_append rfl hname

lemma enumHeading?_header (hname : ∀ d ∈ name.toList, isNameChar d = true) :
    enumHeading? ((EnumBlock.header name).toList ++ rest) = some (name, rest) :=
  nameBetween?_append rfl hname

lemma memberItem?_memberLine (hname : ∀ d ∈ name.toList, isNameChar d = true) :
    memberItem? ((memberLine name).toList ++ rest) = some ((name, name ++ "<P>"), rest) := by
  have h : (memberLine name).toList ++ rest = ("  " ++ name ++ ": ").toList ++
      ((name ++ "<P>").toList ++ (";\n".toList ++ rest)) := by
    simp [memberLine]
  have htype : ∀ d ∈ (name ++ "<P>").toList, decide (d ≠ ';') = true := by
    intro d hd
    rw [String.toList_append, List.mem_append] at hd
    rw [decide_eq_true_iff]
    rintro rfl
    rcases hd with hd | hd
    · exact absurd (hname _ hd) (by decide)
    · simp at hd
  have htake : ((name ++ "<P>").toList ++ (";\n".toList ++ rest)).takeWhile (· ≠ ';') =
      (name ++ "<P>").toList := by
    rw [List.takeWhile_append_of_pos htype]
    simp
  have hdrop : ((name ++ "<P>").toList ++ (";\n".toList ++ rest)).dropWhile (· ≠ ';') =
      ";\n".toList ++ rest := by
    rw [List.dropWhile_append_of_pos htype]
    simp
  rw [h, memberItem?, nameBetween?_append rfl hname]
  simp only [Option.bind_eq_bind, Option.bind_some, htake, hdrop, dropPrefix?_append,
    String.ofList_toList]
  rfl

lemma uidItem?_uidLine {uid : String} (hname : ∀ d ∈ name.toList, isNameChar d = true) :
    uidItem? ((uidLine (name, uid)).toList ++ rest) = some ((name, escape uid), rest) := by
  have h : (uidLine (name, uid)).toList ++ rest = ("  " ++ name ++ " = '").toList ++
      (escapeChars uid.toList ++ '\'' :: (",\n".toList ++ rest)) := by
    simp [uidLine, toList_escape]
  rw [h, uidItem?, nameBetween?_append rfl hname]
  simp only [Option.bind_eq_bind, Option.bind_some, quoted?_escapeChars, dropPrefix?_append]
  rfl

/-- Entries that are read one by one are read in a row. -/
lemma items?_flatMap {α : Type} (item? : List Char → Option ((String × String) × List Char))
    (line : α → List Char) (item : α → String × String) {as : List α}
    (hread : ∀ a ∈ as, ∀ rest, item? (line a ++ rest) = some (item a, rest))
    (hline : ∀ a ∈ as, (line a).head? = some ' ') :
    items? item? (as.flatMap line ++ "\x7d\n".toList) = some (as.map item) := by
  induction as with
  | nil =>
    rw [items?]
    simp
  | cons a as ih =>
    obtain ⟨c, cs, hcs⟩ : ∃ c cs, line a = c :: cs := by
      cases hl : line a with
      | nil => simpa [hl] using hline a List.mem_cons_self
      | cons c cs => exact ⟨c, cs, rfl⟩
    have hc : c = ' ' := by simpa [hcs] using hline a List.mem_cons_self
    have hrest := ih (fun b hb => hread b (List.mem_cons_of_mem a hb))
      (fun b hb => hline b (List.mem_cons_of_mem a hb))
    rw [List.flatMap_cons, List.append_assoc, items?, if_neg (by simp [hcs, hc]),
      hread a List.mem_cons_self]
    simp only [hcs, List.cons_append, List.length_cons, List.length_append, hrest,
      Option.map_some, List.map_cons]
    rw [if_pos (by omega)]

lemma readUnion?_unionText {members : List String}
    (hname : ∀ d ∈ name.toList, isNameChar d = true)
    (hmembers : ∀ n ∈ members, ∀ d ∈ n.toList, isNameChar d = true) :
    readUnion? (unionText name members) = some ⟨name, members.map fun n => (n, n ++ "<P>")⟩ := by
  have h : (unionText name members).toList = (Interface.header name).toList ++
      (members.flatMap (fun n => (memberLine n).toList) ++ "\x7d\n".toList) := by
    simp [unionText, String.toList_join, List.flatMap, Function.comp_def]
  have hentries := items?_flatMap memberItem? (fun n => (memberLine n).toList)
    (fun n => (n, n ++ "<P>")) (fun n hn rest => memberItem?_memberLine (hmembers n hn))
    (fun n _ => by simp [memberLine])
  rw [readUnion?, h, interfaceHeading?_header hname]
  simp only [Option.bind_eq_bind, Option.bind_some, hentries]
  rfl

lemma readUids?_uidText {entries : List (String × String)}
    (hentries : ∀ e ∈ entries, ∀ d ∈ e.1.toList, isNameChar d = true) :
    readUids? (uidText entries) =
      some ⟨"ContentTypesUID", entries.map fun e => (e.1, escape e.2)⟩ := by
  have h : (uidText entries).toList = (EnumBlock.header "ContentTypesUID").toList ++
      (entries.flatMap (fun e => (uidLine e).toList) ++ "\x7d\n".toList) := by
    simp [uidText, String.toList_join, List.flatMap, Function.comp_def]
  have hread := items?_flatMap uidItem? (fun e => (uidLine e).toList) (fun e => (e.1, escape e.2))
    (fun e he rest => uidItem?_uidLine (hentries e he))
    (fun e _ => by simp [uidLine])
  rw [readUids?, h, enumHeading?_header (by simp [isNameChar])]
  simp only [Option.bind_eq_bind, Option.bind_some, hread]
  rfl

end DeclarationModule

/-! ### The listings of a conversion -/

/-- Content types are candidates before components. -/
lemma Dump.pairwise_origin_candidates (d : Dump) :
    d.candidates.Pairwise fun c k => k.origin = .contentType → c.origin = .contentType := by
  have hcontentTypes : ∀ c ∈ d.contentTypes.entries.map fun e =>
      (⟨.contentType, e.1, e.2⟩ : Candidate), c.origin = .contentType := by
    intro c hc
    obtain ⟨e, -, rfl⟩ := List.mem_map.1 hc
    rfl
  have hcomponents : ∀ c ∈ d.components.entries.map fun e =>
      (⟨.component, e.1, e.2⟩ : Candidate), ¬ c.origin = .contentType := by
    intro c hc
    obtain ⟨e, -, rfl⟩ := List.mem_map.1 hc
    exact Origin.noConfusion
  refine List.pairwise_append.2 ⟨?_, ?_, fun c hc k _ _ => hcontentTypes c hc⟩
  · exact List.pairwise_of_forall_mem_list fun c hc _ _ _ => hcontentTypes c hc
  · exact List.pairwise_of_forall_mem_list fun _ _ k hk h => absurd h (hcomponents k hk)

lemma Dump.mem_candidates_iff {d : Dump} {c : Candidate} :
    c ∈ d.candidates ↔ (c.uid, c.schema) ∈ (d.registry c.origin).entries := by
  obtain ⟨origin, uid, schema⟩ := c
  cases origin <;> simp [candidates, registry]

/-- What comes first is kept in front by a filter. -/
lemma eq_filter_append_filter {α : Type} {p : α → Bool} {l : List α}
    (h : l.Pairwise fun a b => p b = true → p a = true) :
    l = l.filter p ++ l.filter fun a => !p a := by
  induction l with
  | nil => rfl
  | cons a l ih =>
    obtain ⟨ha, hl⟩ := List.pairwise_cons.1 h
    cases hp : p a with
    | true =>
      rw [List.filter_cons_of_pos hp, List.filter_cons_of_neg (by simp [hp]), List.cons_append]
      exact congrArg (a :: ·) (ih hl)
    | false =>
      have hnone : ∀ b ∈ l, p b = false := by
        intro b hb
        cases hb' : p b with
        | false => rfl
        | true => rw [← hp, ha b hb hb']
      have hfilter : l.filter p = [] := List.filter_eq_nil_iff.2 fun b hb => by simp [hnone b hb]
      have hrest : l.filter (fun b => !p b) = l :=
        List.filter_eq_self.2 fun b hb => by simp [hnone b hb]
      rw [List.filter_cons_of_neg (by simp [hp]), List.filter_cons_of_pos (by simp [hp]), hfilter,
        hrest, List.nil_append]

namespace Conversion

open DeclarationModule

/-- The interfaces of one origin. -/
def interfacesOf (c : Conversion) (origin : Origin) : List Interface :=
  c.interfaces.filter fun i => i.origin = origin

def namesOf (c : Conversion) (origin : Origin) : List String :=
  (c.interfacesOf origin).map (·.name)

/-- The texts of the interfaces of one origin. -/
def bodiesOf (c : Conversion) (origin : Origin) : List String :=
  (c.interfacesOf origin).map (·.body)

/-- The texts of all enumerations. -/
def enumTexts (c : Conversion) : List String :=
  c.interfaces.flatMap fun i => i.enums.map EnumBlock.render

def unionName : Origin → String
  | .contentType => "ContentTypes"
  | .component => "Components"

/-- The text of the union of one origin. -/
def unionOf (c : Conversion) (origin : Origin) : String :=
  unionText (unionName origin) (memberNames (c.interfaces.map Interface.block) origin)

def uidsText (c : Conversion) : String :=
  uidText (uidEntries (c.interfaces.map Interface.block))

/-- The listings of a module agree with its interfaces: what is read off the text of each listing
are the names that are read off the texts of the interfaces, in the same order. -/
structure ListingsAgree (dump : Dump) (c : Conversion) : Prop where
  /-- The enumerations stand before the interfaces, and the listings behind them. -/
  layout : c.code = "\n".intercalate ([opening] ++ c.enumTexts ++
    (c.bodiesOf .contentType ++ c.bodiesOf .component) ++
    [mediaFormat, c.unionOf .contentType, c.unionOf .component, c.uidsText, contentTypeAlias,
      requestHelpers])
  bodies : ∀ origin, (c.bodiesOf origin).map declaredName? = (c.namesOf origin).map some
  members : ∀ origin, readUnion? (c.unionOf origin) =
    some ⟨unionName origin, (c.namesOf origin).map fun n => (n, n ++ "<P>")⟩
  uids : readUids? c.uidsText =
    some ⟨"ContentTypesUID", (c.interfacesOf .contentType).map fun i => (i.name, escape i.uid)⟩
  /-- The uid of an interface is the key of the schema that it is made of. -/
  registered : ∀ i ∈ c.interfaces, ∃ e ∈ c.roster.entries, ∃ s,
    (i.uid, some s) ∈ (dump.registry i.origin).entries ∧ e.schema = some s ∧
      i = Interface.ofSchema c.context e s
  counted : ∀ origin, (c.namesOf origin).length = c.count origin
  distinct : (c.namesOf .contentType ++ c.namesOf .component).Nodup

variable {dump : Dump} {settings : Settings} {c : Conversion} {i : Interface}

lemma memberNames_blocks (c : Conversion) (origin : Origin) :
    memberNames (c.interfaces.map Interface.block) origin = c.namesOf origin := by
  rw [memberNames, List.filter_map, List.map_map]
  rfl

lemma uidEntries_blocks (c : Conversion) :
    uidEntries (c.interfaces.map Interface.block) =
      (c.interfacesOf .contentType).map fun i => (i.name, i.uid) := by
  rw [uidEntries, List.filter_map, List.map_map]
  rfl

lemma nameChar_of_mem_interfaces (hi : i ∈ (ofDump dump settings).interfaces) :
    ∀ d ∈ i.name.toList, isNameChar d = true := by
  obtain ⟨e, he, s, -, rfl⟩ := mem_interfaces_iff.1 hi
  exact fun d hd => Roster.nameChar_of_mem_name he hd

lemma nameChar_of_mem_namesOf {origin : Origin} {n : String}
    (hn : n ∈ (ofDump dump settings).namesOf origin) : ∀ d ∈ n.toList, isNameChar d = true := by
  obtain ⟨i, hi, rfl⟩ := List.mem_map.1 hn
  exact nameChar_of_mem_interfaces (List.mem_filter.1 hi).1

/-- The interfaces of content types come first. -/
lemma interfaces_eq_append (dump : Dump) (settings : Settings) :
    (ofDump dump settings).interfaces =
      (ofDump dump settings).interfacesOf .contentType ++
        (ofDump dump settings).interfacesOf .component := by
  have hcandidates := dump.pairwise_origin_candidates.sublist (enrolledDeclared_sublist dump settings)
  have hkeys : ((ofDump dump settings).interfaces.map fun i => (i.origin, i.uid)).Pairwise
      fun a b => b.1 = .contentType → a.1 = .contentType := by
    rw [map_origin_uid_interfaces, List.pairwise_map]
    exact hcandidates
  have hsplit := eq_filter_append_filter (p := fun i : Interface => i.origin = .contentType)
    ((List.pairwise_map.1 hkeys).imp fun h => by simpa using h)
  have horigin : ∀ i : Interface, (!decide (i.origin = .contentType)) =
      decide (i.origin = .component) := by
    intro i
    cases i.origin <;> rfl
  simpa only [interfacesOf, horigin] using hsplit

lemma declaredName?_body (hi : i ∈ (ofDump dump settings).interfaces) :
    declaredName? i.body = some i.name := by
  have h : i.body.toList = (Interface.header i.name).toList ++
      (String.join (i.properties.map Property.line) ++ "\x7d\n").toList := by
    rw [Interface.body, String.append_assoc, String.toList_append]
  rw [declaredName?, h, interfaceHeading?_header (nameChar_of_mem_interfaces hi)]
  rfl

lemma exists_registered (hi : i ∈ (ofDump dump settings).interfaces) :
    ∃ e ∈ (ofDump dump settings).roster.entries, ∃ s,
      (i.uid, some s) ∈ (dump.registry i.origin).entries ∧ e.schema = some s ∧
        i = Interface.ofSchema (ofDump dump settings).context e s := by
  obtain ⟨e, he, s, hs, rfl⟩ := mem_interfaces_iff.1 hi
  obtain ⟨c, hc, -, claim, rfl⟩ := Roster.exists_candidate_of_mem he
  have hmem := Dump.mem_candidates_iff.1 hc
  have hschema : c.schema = some s := hs
  rw [hschema] at hmem
  exact ⟨_, he, s, hmem, hs, rfl⟩

/-- **The listings of a module agree.** The members of the union of content types, the keys of the
uids and the interfaces of content types bear the same names in the same order, and so do the
members of the union of components and the interfaces of components. -/
theorem listings_agree (dump : Dump) (settings : Settings) :
    ListingsAgree dump (ofDump dump settings) := by
  refine ⟨?_, fun origin => ?_, fun origin => ?_, ?_, fun i hi => exists_registered hi,
    fun origin => ?_, ?_⟩
  · have hbodies : ((ofDump dump settings).interfaces.map Interface.block).map (·.body) =
        (ofDump dump settings).bodiesOf .contentType ++
          (ofDump dump settings).bodiesOf .component := by
      rw [List.map_map, bodiesOf, bodiesOf, ← List.map_append, ← interfaces_eq_append]
      rfl
    have henums : ((ofDump dump settings).interfaces.map Interface.block).flatMap (·.enums) =
        (ofDump dump settings).enumTexts := by
      rw [List.flatMap_map]
      rfl
    rw [code, render, sections, hbodies, henums]
    rfl
  · rw [bodiesOf, namesOf, List.map_map, List.map_map]
    exact List.map_congr_left fun i hi => declaredName?_body (List.mem_filter.1 hi).1
  · have hname : ∀ d ∈ (unionName origin).toList, isNameChar d = true := by
      cases origin <;> simp [unionName, isNameChar]
    rw [unionOf, memberNames_blocks]
    exact readUnion?_unionText hname fun n hn => nameChar_of_mem_namesOf hn
  · rw [uidsText, uidEntries_blocks, readUids?_uidText, List.map_map]
    · rfl
    · intro e he
      obtain ⟨i, hi, rfl⟩ := List.mem_map.1 he
      exact nameChar_of_mem_interfaces (List.mem_filter.1 hi).1
  · rw [namesOf, List.length_map]
    rfl
  · rw [namesOf, namesOf, ← List.map_append, ← interfaces_eq_append]
    exact nodup_interfaceNames dump settings

end Conversion

end CmsTypings
