import CmsTypings.Proofs.TomlValues

/-!
Documents written and read back.

A document is a row of lines, each with a key and its value, and then of sections, one for each table
of an array of tables. Statement by statement the text is read as what was written; and statement by
statement the tables are built up again, where a line goes into the table that was opened last.
-/

namespace CmsTypings.Toml

open Toml.Text (Apart)

variable {text rest more : List Char} {key : String} {c : Char}

/-! ### The text of a document -/

/-- A key with its value on a line of its own. -/
def lineText (e : String × Toml) : List Char := pairText e ++ ['\n']

/-- One table of an array of tables. -/
def sectionText (key : String) (table : List (String × Toml)) : List Char :=
  '\n' :: '[' :: '[' :: (key.toList ++ ']' :: ']' :: '\n' :: table.flatMap lineText)

lemma writeLines_of_bare {entries : List (String × Toml)} (h : ∀ e ∈ entries, IsBareKey e.1) :
    writeLines entries = entries.flatMap lineText := by
  rw [writeLines, writePairs_of_bare h, List.flatMap_map]
  rfl

lemma writeSections_of_bare (hkey : IsBareKey key) {tables : List (List (String × Toml))}
    (h : ∀ t ∈ tables, ∀ e ∈ t, IsBareKey e.1) :
    writeSections key tables = tables.flatMap (sectionText key) := by
  have hopen : "\n[[".toList = ['\n', '[', '['] := rfl
  have hclose : "]]\n".toList = [']', ']', '\n'] := rfl
  rw [writeSections, writeKey_of_bare hkey, hopen, hclose]
  refine List.flatMap_congr fun t ht => ?_
  rw [writeLines_of_bare (h t ht), sectionText]
  simp

/-! ### Statements are read back -/

def assignment (e : String × Toml) : Statement := .assign [] e.1 e.2

/-- The statements of one table of an array of tables. -/
def sectionStatements (key : String) (table : List (String × Toml)) : List Statement :=
  .addTable [] key :: table.map assignment

lemma statements_nil (fuel : Nat) : statements fuel [] = some [] := by
  cases fuel <;> rfl

lemma lineText_append (e : String × Toml) (rest : List Char) :
    lineText e ++ rest = e.1.toList ++ ' ' :: '=' :: ' ' :: (writeValue e.2 ++ '\n' :: rest) := by
  simp [lineText, pairText]

lemma statement_line {e : String × Toml} (hkey : IsBareKey e.1) (hplain : Plain depthLimit e.2) :
    statement (lineText e ++ rest) = some (assignment e, '\n' :: rest) := by
  obtain ⟨c, cs, hc⟩ := List.exists_cons_of_ne_nil hkey.1
  obtain ⟨d, ds, hwrite, hd⟩ := writeValue_head hplain
  obtain ⟨hblank, htab, -⟩ := valueStart_ne hd
  have hbracket : c ≠ '[' := (isBare_ne (hkey.2 c (by simp [hc]))).2.2.2.2.2.2.2.2.1
  have hpath : keyPath (lineText e ++ rest) =
      some (([], e.1), '=' :: ' ' :: (writeValue e.2 ++ '\n' :: rest)) := by
    refine keyPath_assign hkey ?_
    rw [lineText_append]
    exact skipBlanks_bare hkey _
  have hskip : skipBlanks (' ' :: (writeValue e.2 ++ '\n' :: rest)) =
      writeValue e.2 ++ '\n' :: rest := by
    rw [hwrite]
    simp [skipBlanks, hblank, htab]
  have hvalue : value (2 * (writeValue e.2 ++ '\n' :: rest).length + 2) depthLimit
      (writeValue e.2 ++ '\n' :: rest) = some (e.2, '\n' :: rest) :=
    hplain.readsBack _ _ (by simp only [List.length_append]; omega) (by simp [Apart])
  have hfirst : lineText e ++ rest = c :: (cs ++ ' ' :: '=' :: ' ' ::
      (writeValue e.2 ++ '\n' :: rest)) := by
    rw [lineText_append, hc, List.cons_append]
  rw [statement.eq_def]
  split
  · next heq =>
    rw [hfirst] at heq
    exact absurd (List.cons.inj heq).1 hbracket
  · next heq =>
    rw [hfirst] at heq
    exact absurd (List.cons.inj heq).1 hbracket
  · simp only [hpath, Option.bind_eq_bind, Option.bind_some, hskip, hvalue]
    rfl

lemma statement_header (hkey : IsBareKey key) :
    statement ('[' :: '[' :: (key.toList ++ ']' :: ']' :: rest)) = some (.addTable [] key, rest) := by
  have hpath : keyPath (key.toList ++ ']' :: ']' :: rest) = some (([], key), ']' :: ']' :: rest) :=
    keyPath_bare hkey (skipBlanks_bare hkey _) (by simp [isBare]) rfl (by decide)
  simp only [statement, hpath, Option.bind_eq_bind, Option.bind_some]
  rfl

/-- One statement of a document. -/
lemma statements_cons {fuel : Nat} {s : Statement} {ss : List Statement}
    (hskip : skipLines text.length text = some (c :: more))
    (hstatement : statement (c :: more) = some (s, '\n' :: rest))
    (hrest : statements fuel rest = some ss) : statements (fuel + 1) text = some (s :: ss) := by
  simp only [statements, hskip, Option.bind_eq_bind, Option.bind_some, hstatement]
  change (statements fuel rest).bind _ = _
  rw [hrest]
  rfl

/-- A part of a document: it is read as these statements, whatever follows it. -/
structure ReadsAs (text : List Char) (ss : List Statement) : Prop where
  /-- A statement takes up a character at least. -/
  short : ss.length ≤ text.length
  /-- No byte order mark is in front. -/
  unmarked : ∀ c ∈ text.head?, c ≠ '\uFEFF'
  read : ∀ fuel rest more, statements fuel rest = some more →
    statements (fuel + ss.length) (text ++ rest) = some (ss ++ more)

lemma ReadsAs.append {text' : List Char} {ss ss' : List Statement} (h : ReadsAs text ss)
    (h' : ReadsAs text' ss') : ReadsAs (text ++ text') (ss ++ ss') where
  short := by
    rw [List.length_append, List.length_append]
    exact Nat.add_le_add h.short h'.short
  unmarked := by
    cases text with
    | nil => exact h'.unmarked
    | cons c text => exact h.unmarked
  read := by
    intro fuel rest more hmore
    have hread := h.read _ _ _ (h'.read fuel rest more hmore)
    rw [List.length_append, List.append_assoc, List.append_assoc, Nat.add_comm ss.length,
      ← Nat.add_assoc]
    exact hread

lemma ReadsAs.nil : ReadsAs [] [] where
  short := Nat.le_refl _
  unmarked := by simp
  read := fun _ _ _ h => h

/-- Parts are read one after the other. -/
lemma ReadsAs.flatMap {α : Type} {text : α → List Char} {ss : α → List Statement} {as : List α}
    (h : ∀ a ∈ as, ReadsAs (text a) (ss a)) : ReadsAs (as.flatMap text) (as.flatMap ss) := by
  induction as with
  | nil => exact .nil
  | cons a as ih =>
    obtain ⟨ha, has⟩ := List.forall_mem_cons.1 h
    exact ha.append (ih has)

/-- Nothing follows a whole document, and its length is fuel enough. -/
lemma ReadsAs.statements {ss : List Statement} (h : ReadsAs text ss) :
    statements (text.length + 1) text = some ss := by
  obtain ⟨k, hk⟩ := Nat.exists_eq_add_of_le' (Nat.le_succ_of_le h.short)
  have hread := h.read k [] [] (statements_nil k)
  rw [List.append_nil, List.append_nil] at hread
  rwa [← Nat.succ_eq_add_one, hk]

lemma readsAs_line {e : String × Toml} (hkey : IsBareKey e.1) (hplain : Plain depthLimit e.2) :
    ReadsAs (lineText e) [assignment e] := by
  obtain ⟨c, cs, hc⟩ := List.exists_cons_of_ne_nil hkey.1
  obtain ⟨-, -, hblank, htab, -, hline, hreturn, hnote, -, -, hmark⟩ :=
    isBare_ne (hkey.2 c (by simp [hc]))
  refine ⟨by simp [lineText], by simpa [lineText, pairText, hc] using hmark, ?_⟩
  intro fuel rest more hmore
  have hstatement : statement (lineText e ++ rest) = some (assignment e, '\n' :: rest) :=
    statement_line hkey hplain
  have hfirst : lineText e ++ rest = c :: (cs ++ ' ' :: '=' :: ' ' ::
      (writeValue e.2 ++ '\n' :: rest)) := by
    rw [lineText_append, hc, List.cons_append]
  rw [hfirst] at hstatement ⊢
  exact statements_cons (skipLines_of_start ⟨hblank, htab, hline, hreturn, hnote⟩ _) hstatement hmore

lemma readsAs_lines {entries : List (String × Toml)}
    (h : ∀ e ∈ entries, IsBareKey e.1 ∧ Plain depthLimit e.2) :
    ReadsAs (entries.flatMap lineText) (entries.map assignment) := by
  rw [← List.flatMap_pure_eq_map]
  exact .flatMap fun e he => readsAs_line (h e he).1 (h e he).2

lemma readsAs_header (hkey : IsBareKey key) :
    ReadsAs ('\n' :: '[' :: '[' :: (key.toList ++ [']', ']', '\n'])) [.addTable [] key] := by
  refine ⟨by simp, by simp, ?_⟩
  intro fuel rest more hmore
  have hskip : skipLines ('\n' :: '[' :: '[' :: (key.toList ++ ']' :: ']' :: '\n' :: rest)).length
      ('\n' :: '[' :: '[' :: (key.toList ++ ']' :: ']' :: '\n' :: rest)) =
      some ('[' :: '[' :: (key.toList ++ ']' :: ']' :: '\n' :: rest)) :=
    skipLines_of_start (by decide : '[' ≠ ' ' ∧ '[' ≠ '\t' ∧ '[' ≠ '\n' ∧ '[' ≠ '\r' ∧ '[' ≠ '#') _
  simp only [List.cons_append, List.append_assoc, List.nil_append]
  exact statements_cons hskip (statement_header hkey) hmore

lemma readsAs_section (hkey : IsBareKey key) {table : List (String × Toml)}
    (htable : ∀ e ∈ table, IsBareKey e.1 ∧ Plain depthLimit e.2) :
    ReadsAs (sectionText key table) (sectionStatements key table) := by
  have htext : sectionText key table = '\n' :: '[' :: '[' :: (key.toList ++ [']', ']', '\n']) ++
      table.flatMap lineText := by
    simp [sectionText]
  rw [htext]
  exact (readsAs_header hkey).append (readsAs_lines htable)

/-! ### Arrays of tables -/

lemma mapM_tables {items : List Toml} {tables : List (List (String × Toml))}
    (h : (items.mapM fun
      | .table entries => some entries
      | _ => none) = some tables) : items = tables.map .table := by
  induction items generalizing tables with
  | nil =>
    obtain rfl := Option.some.inj h
    rfl
  | cons v items ih =>
    rw [List.mapM_cons] at h
    obtain ⟨t, ht, h⟩ := Option.bind_eq_some_iff.1 h
    obtain ⟨ts, hts, h⟩ := Option.bind_eq_some_iff.1 h
    obtain rfl := Option.some.inj h
    cases v with
    | table entries =>
      obtain rfl := Option.some.inj ht
      rw [ih hts, List.map_cons]
    | string | integer | float | boolean | moment | array => cases ht

/-- The sections of a value are its tables. -/
lemma eq_of_sections? {v : Toml} {tables : List (List (String × Toml))}
    (h : sections? v = some tables) : v = .array (tables.map .table) ∧ tables ≠ [] := by
  cases v with
  | array items =>
    cases items with
    | nil => cases h
    | cons v items =>
      have hitems := mapM_tables h
      refine ⟨congrArg Toml.array hitems, ?_⟩
      rintro rfl
      cases hitems
  | string | integer | float | boolean | moment | table => cases h

/-- The tables of an array that is nested no deeper than a value may be. -/
lemma Plain.tables {tables : List (List (String × Toml))}
    (h : Plain depthLimit (.array (tables.map .table))) :
    ∀ t ∈ tables, BareKeys t ∧ ∀ e ∈ t, Plain depthLimit e.2 := by
  intro t ht
  rw [depthLimit] at h
  cases h with
  | array each =>
    have htable := each (.table t) (List.mem_map_of_mem ht)
    cases htable with
    | table keys each => exact ⟨keys, fun e he => (each e he).mono.mono⟩

/-- What a document can hold: bare keys, and under each of them a plain value. -/
structure Writable (entries : List (String × Toml)) : Prop where
  keys : BareKeys entries
  each : ∀ e ∈ entries, Plain depthLimit e.2

/-- The statements of the sections of an entry. -/
def entryStatements (e : String × Toml) : List Statement :=
  ((sections? e.2).map fun tables => tables.flatMap (sectionStatements e.1)).getD []

def entrySections (e : String × Toml) : List Char :=
  ((sections? e.2).map (writeSections e.1)).getD []

lemma readsAs_entry {e : String × Toml} (hkey : IsBareKey e.1) (hplain : Plain depthLimit e.2) :
    ReadsAs (entrySections e) (entryStatements e) := by
  rw [entryStatements, entrySections]
  cases hsections : sections? e.2 with
  | none => exact .nil
  | some tables =>
    rw [(eq_of_sections? hsections).1] at hplain
    have htables := hplain.tables
    simp only [Option.map_some, Option.getD_some]
    rw [writeSections_of_bare hkey fun t ht => (htables t ht).1.bare]
    exact .flatMap fun t ht => readsAs_section hkey fun e he =>
      ⟨(htables t ht).1.bare e he, (htables t ht).2 e he⟩

/-! ### Tables are built up again -/

lemma add_assignment {root : Entries} {e : String × Toml} (h : e.1 ∉ root.map Prod.fst) :
    Draft.add ⟨root, []⟩ (assignment e) = some ⟨root ++ [(e.1, .value e.2)], []⟩ := by
  simp only [assignment, Draft.add, Entries.within, assign_of_not_mem h]
  rfl

lemma map_fst_valued (entries : List (String × Toml)) :
    (valued entries).map Prod.fst = entries.map Prod.fst := by
  rw [valued, List.map_map]
  rfl

/-- Lines go one after the other into the table that takes each of them. -/
lemma foldlM_assignments (draft : Entries → Draft)
    (hstep : ∀ (es : Entries) (e : String × Toml), e.1 ∉ es.map Prod.fst →
      (draft es).add (assignment e) = some (draft (es ++ [(e.1, .value e.2)])))
    {es : Entries} {entries : List (String × Toml)}
    (h : (es.map Prod.fst ++ entries.map Prod.fst).Nodup) :
    (entries.map assignment).foldlM Draft.add (draft es) = some (draft (es ++ valued entries)) := by
  induction entries generalizing es with
  | nil => simp [valued]
  | cons e entries ih =>
    have hrest : ((es ++ [(e.1, Item.value e.2)]).map Prod.fst ++ entries.map Prod.fst).Nodup := by
      simpa using h
    rw [List.map_cons, List.foldlM_cons, hstep es e (not_mem_of_nodup h)]
    refine (ih hrest).trans ?_
    simp [valued]

/-- A document whose last key stands for an array of tables, which the next lines go into. -/
def opened (root : Entries) (key : String) (last : Entries) (earlier : List Entries) : Draft :=
  ⟨root ++ [(key, .tables last earlier)], [key]⟩

section Opened

variable {root last : Entries} {earlier : List Entries}

lemma item?_append_self (h : key ∉ root.map Prod.fst) (item : Item) :
    Entries.item? (root ++ [(key, item)]) key = some item := by
  have hroot : root.find? (fun e => e.1 = key) = none :=
    List.find?_eq_none.2 fun e he => by simpa using key_ne h e he
  simp [Entries.item?, List.find?_append, hroot]

lemma replace_append_self (h : key ∉ root.map Prod.fst) (item item' : Item) :
    Entries.replace (root ++ [(key, item)]) key item' = root ++ [(key, item')] := by
  have hroot : root.map (fun e => if e.1 = key then (key, item') else e) = root := by
    conv_rhs => rw [← List.map_id root]
    exact List.map_congr_left fun e he => by simp [key_ne h e he]
  simp [Entries.replace, hroot]

lemma add_first (h : key ∉ root.map Prod.fst) (path : List String) :
    Draft.add ⟨root, path⟩ (.addTable [] key) = some (opened root key [] []) := by
  simp only [Draft.add, Entries.addTable, Entries.within, item?_eq_none h]
  rfl

lemma add_next (h : key ∉ root.map Prod.fst) (last : Entries) (earlier : List Entries) :
    Draft.add (opened root key last earlier) (.addTable [] key) =
      some (opened root key [] (last :: earlier)) := by
  simp only [opened, Draft.add, Entries.addTable, Entries.within, item?_append_self h,
    replace_append_self h]
  rfl

lemma add_line (h : key ∉ root.map Prod.fst) {e : String × Toml} (he : e.1 ∉ last.map Prod.fst)
    (earlier : List Entries) : Draft.add (opened root key last earlier) (assignment e) =
      some (opened root key (last ++ [(e.1, .value e.2)]) earlier) := by
  simp only [opened, assignment, Draft.add, Entries.within, item?_append_self h,
    assign_of_not_mem he, replace_append_self h, Option.bind_eq_bind, Option.bind_some]
  rfl

lemma foldlM_lines (h : key ∉ root.map Prod.fst) {table : List (String × Toml)}
    (htable : BareKeys table) (earlier : List Entries) :
    (table.map assignment).foldlM Draft.add (opened root key [] earlier) =
      some (opened root key (valued table) earlier) := by
  have hnodup : (([] : Entries).map Prod.fst ++ table.map Prod.fst).Nodup := htable.nodup
  exact foldlM_assignments (fun es => opened root key es earlier)
    (fun _ _ he => add_line h he earlier) hnodup

lemma tablesOf_append (es : List Entries) (done more : List Toml) :
    tablesOf es (done ++ more) = tablesOf es done ++ more := by
  induction es generalizing done with
  | nil => rfl
  | cons e es ih => exact ih (.table (tableOf e) :: done)

/-- The tables of an array, in the order of the document. -/
def tablesToml (last : Entries) (earlier : List Entries) : List Toml :=
  tablesOf earlier [.table (tableOf last)]

lemma tablesToml_cons (t : List (String × Toml)) (last : Entries) (earlier : List Entries) :
    tablesToml (valued t) (last :: earlier) = tablesToml last earlier ++ [.table t] := by
  rw [tablesToml, tablesToml, tableOf_valued, ← tablesOf_append]
  rfl

variable (last earlier) in
/-- Further sections add their tables to the array that is open. -/
lemma foldlM_sections (h : key ∉ root.map Prod.fst) {tables : List (List (String × Toml))}
    (htables : ∀ t ∈ tables, BareKeys t) :
    ∃ last' earlier', (tables.flatMap (sectionStatements key)).foldlM Draft.add
        (opened root key last earlier) = some (opened root key last' earlier') ∧
      tablesToml last' earlier' = tablesToml last earlier ++ tables.map .table := by
  induction tables generalizing last earlier with
  | nil => exact ⟨last, earlier, rfl, (List.append_nil _).symm⟩
  | cons t tables ih =>
    obtain ⟨ht, htables⟩ := List.forall_mem_cons.1 htables
    obtain ⟨last', earlier', hrest, htoml⟩ := ih (valued t) (last :: earlier) htables
    refine ⟨last', earlier', ?_, ?_⟩
    · rw [List.flatMap_cons, List.foldlM_append, sectionStatements, List.foldlM_cons, add_next h]
      simp only [Option.bind_eq_bind, Option.bind_some, foldlM_lines h ht]
      exact hrest
    · rw [htoml, tablesToml_cons, List.append_assoc]
      rfl

/-- The sections of a new key. -/
lemma foldlM_array (h : key ∉ root.map Prod.fst) (path : List String)
    {tables : List (List (String × Toml))} (hne : tables ≠ []) (htables : ∀ t ∈ tables, BareKeys t) :
    ∃ item, (tables.flatMap (sectionStatements key)).foldlM Draft.add ⟨root, path⟩ =
        some ⟨root ++ [(key, item)], [key]⟩ ∧ item.toToml = .array (tables.map .table) := by
  obtain ⟨t, ts, rfl⟩ := List.exists_cons_of_ne_nil hne
  obtain ⟨ht, hts⟩ := List.forall_mem_cons.1 htables
  obtain ⟨last, earlier, hrest, htoml⟩ := foldlM_sections (valued t) [] h hts
  refine ⟨.tables last earlier, ?_, ?_⟩
  · rw [List.flatMap_cons, List.foldlM_append, sectionStatements, List.foldlM_cons, add_first h]
    simp only [Option.bind_eq_bind, Option.bind_some, foldlM_lines h ht]
    exact hrest
  · change Toml.array (tablesToml last earlier) = _
    rw [htoml, tablesToml, tableOf_valued]
    rfl

/-- The sections of all entries, behind what the lines have built. -/
lemma foldlM_entries {entries : List (String × Toml)}
    (hplain : ∀ e ∈ entries, Plain depthLimit e.2)
    (hnodup : (root.map Prod.fst ++
      (entries.filter fun e => (sections? e.2).isSome).map Prod.fst).Nodup) (path : List String) :
    ∃ es path', (entries.flatMap entryStatements).foldlM Draft.add ⟨root, path⟩ =
        some ⟨root ++ es, path'⟩ ∧ tableOf es = entries.filter fun e => (sections? e.2).isSome := by
  induction entries generalizing root path with
  | nil => exact ⟨[], path, by simp, rfl⟩
  | cons e entries ih =>
    obtain ⟨he, hentries⟩ := List.forall_mem_cons.1 hplain
    rw [List.flatMap_cons, List.foldlM_append, entryStatements]
    cases hsections : sections? e.2 with
    | none =>
      rw [List.filter_cons_of_neg (by simp [hsections])] at hnodup ⊢
      exact ih hentries hnodup path
    | some tables =>
      obtain ⟨hvalue, hne⟩ := eq_of_sections? hsections
      rw [List.filter_cons_of_pos (by simp [hsections])] at hnodup ⊢
      have hnew : e.1 ∉ root.map Prod.fst := not_mem_of_nodup hnodup
      rw [hvalue] at he
      obtain ⟨item, hitem, htables⟩ := foldlM_array hnew path hne fun t ht => (he.tables t ht).1
      obtain ⟨es, path', hfold, htoml⟩ := @ih (root ++ [(e.1, item)]) hentries
        (by simpa using hnodup) [e.1]
      refine ⟨(e.1, item) :: es, path', ?_, ?_⟩
      · simp only [Option.map_some, Option.getD_some, hitem, Option.bind_eq_bind, Option.bind_some,
          hfold]
        simp
      · rw [tableOf, htoml, htables, ← hvalue]

end Opened

/-! ### Whole documents -/

/-- The entries that are written on lines, before those that are written in sections. -/
def onLines (entries : List (String × Toml)) : List (String × Toml) :=
  entries.filter fun e => (sections? e.2).isNone

def inSections (entries : List (String × Toml)) : List (String × Toml) :=
  entries.filter fun e => (sections? e.2).isSome

def documentStatements (entries : List (String × Toml)) : List Statement :=
  (onLines entries).map assignment ++ entries.flatMap entryStatements

lemma onLines_append_perm (entries : List (String × Toml)) :
    (onLines entries ++ inSections entries).Perm entries := by
  have := List.filter_append_perm (fun e : String × Toml => (sections? e.2).isNone) entries
  simpa only [onLines, inSections, Option.not_isNone] using this

lemma readsAs_write {entries : List (String × Toml)} (h : Writable entries) :
    ReadsAs (write entries).toList (documentStatements entries) := by
  have hall : ∀ e ∈ entries, IsBareKey e.1 ∧ Plain depthLimit e.2 :=
    fun e he => ⟨h.keys.bare e he, h.each e he⟩
  have hlines : ∀ e ∈ onLines entries, IsBareKey e.1 ∧ Plain depthLimit e.2 :=
    fun e he => hall e (List.mem_of_mem_filter he)
  rw [write, String.toList_ofList, ← onLines, writeLines_of_bare fun e he => (hlines e he).1]
  exact (readsAs_lines hlines).append (.flatMap fun e he => readsAs_entry (hall e he).1 (hall e he).2)

/-- The statements of a document build its entries up. -/
lemma foldlM_documentStatements {entries : List (String × Toml)} (h : Writable entries) :
    ∃ es path, (documentStatements entries).foldlM Draft.add {} = some ⟨es, path⟩ ∧
      tableOf es = onLines entries ++ inSections entries := by
  have hnodup : ((valued (onLines entries)).map Prod.fst ++
      (inSections entries).map Prod.fst).Nodup := by
    rw [map_fst_valued, ← List.map_append]
    exact (((onLines_append_perm entries).map Prod.fst).nodup_iff).2 h.keys.nodup
  have hnew : (([] : Entries).map Prod.fst ++ (onLines entries).map Prod.fst).Nodup := by
    rw [map_fst_valued] at hnodup
    exact (List.nodup_append.1 hnodup).1
  have hlines : ((onLines entries).map assignment).foldlM Draft.add {} =
      some ⟨valued (onLines entries), []⟩ :=
    foldlM_assignments (fun es => ⟨es, []⟩) (fun _ _ he => add_assignment he) hnew
  obtain ⟨es, path, hfold, htoml⟩ := foldlM_entries h.each hnodup []
  refine ⟨valued (onLines entries) ++ es, path, ?_, ?_⟩
  · rw [documentStatements, List.foldlM_append, hlines]
    exact hfold
  · rw [tableOf_append, tableOf_valued, htoml]
    rfl

/-- No byte order mark begins a document. -/
lemma afterMark_eq (h : ∀ c ∈ text.head?, c ≠ '\uFEFF') : afterMark text = text := by
  rw [afterMark.eq_def]
  split
  · exact absurd rfl (h _ rfl)
  · rfl

/-- **A document is read back as it was written**, with the arrays of tables behind the rest. -/
theorem read?_write {entries : List (String × Toml)} (h : Writable entries) :
    read? (write entries) = some (onLines entries ++ inSections entries) := by
  have hread := readsAs_write h
  obtain ⟨es, path, hfold, htable⟩ := foldlM_documentStatements h
  rw [read?, afterMark_eq hread.unmarked]
  simp only [Option.bind_eq_bind, hread.statements, Option.bind_some, hfold, htable]
  rfl

end CmsTypings.Toml
