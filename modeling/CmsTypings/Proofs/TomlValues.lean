import CmsTypings.Proofs.TomlStrings
import Mathlib.Data.List.Nodup

/-!
Values written to a TOML document and read back.

Strings, truth values, arrays and tables with bare keys are read back as they are, if they are not
nested too deep. An array is read item by item, a table pair by pair; the text of a value says
how much fuel its reading takes, two units for each character.
-/

namespace CmsTypings.Toml

open Toml.Text (Apart)

variable {text rest more : List Char} {key : String} {c : Char}

/-! ### Keys -/

def IsBareKey (key : String) : Prop := key.toList ≠ [] ∧ ∀ c ∈ key.toList, isBare c = true

instance (key : String) : Decidable (IsBareKey key) :=
  decidable_of_iff (key.toList ≠ [] ∧ key.toList.all isBare = true) (by simp [IsBareKey])

/-- The keys of a table are bare, and no key is there twice. -/
structure BareKeys {α : Type} (entries : List (String × α)) : Prop where
  bare : ∀ e ∈ entries, IsBareKey e.1
  nodup : (entries.map Prod.fst).Nodup

lemma writeKey_of_bare (h : IsBareKey key) : writeKey key = key.toList := by
  have hne : key.toList.isEmpty = false := List.isEmpty_eq_false_iff.2 h.1
  have hall : key.toList.all isBare = true := List.all_eq_true.2 h.2
  simp [writeKey, hne, hall]

lemma isBare_ne (h : isBare c = true) :
    c ≠ '"' ∧ c ≠ '\'' ∧ c ≠ ' ' ∧ c ≠ '\t' ∧ c ≠ '.' ∧ c ≠ '\n' ∧ c ≠ '\r' ∧ c ≠ '#' ∧ c ≠ '[' ∧
      c ≠ '\x7d' ∧ c ≠ '\uFEFF' := by
  refine ⟨?_, ?_, ?_, ?_, ?_, ?_, ?_, ?_, ?_, ?_, ?_⟩ <;>
    · rintro rfl
      exact absurd h (by decide)

lemma takeWhile_of_head {p : Char → Bool} (h : ∀ c ∈ text.head?, p c = false) :
    text.takeWhile p = [] ∧ text.dropWhile p = text := by
  cases text with
  | nil => exact ⟨rfl, rfl⟩
  | cons c text =>
    have hc : p c = false := h c rfl
    simp [hc]

lemma key?_bare (h : IsBareKey key) (hrest : ∀ c ∈ rest.head?, isBare c = false) :
    key? (key.toList ++ rest) = some (key, rest) := by
  obtain ⟨hne, hbare⟩ := h
  have hline : Text.line? (key.toList ++ rest) = none := by
    obtain ⟨c, cs, hkey⟩ := List.exists_cons_of_ne_nil hne
    obtain ⟨hdouble, hsingle, -⟩ := isBare_ne (hbare c (by simp [hkey]))
    rw [hkey, List.cons_append, Text.line?.eq_def]
    split <;> simp_all
  obtain ⟨htake, hdrop⟩ := takeWhile_of_head hrest
  simp only [key?, hline, List.takeWhile_append_of_pos hbare, List.dropWhile_append_of_pos hbare,
    htake, hdrop, List.append_nil, String.ofList_toList]
  rw [if_neg (by simpa using hne)]

lemma skipBlanks_of_head (h : ∀ c ∈ text.head?, c ≠ ' ' ∧ c ≠ '\t') : skipBlanks text = text :=
  (takeWhile_of_head fun c hc => by simp [h c hc]).2

/-- A bare key is a path of one step. -/
lemma keyPath_bare (h : IsBareKey key) (htext : skipBlanks text = key.toList ++ rest)
    (hrest : ∀ c ∈ rest.head?, isBare c = false) (hmore : skipBlanks rest = c :: more)
    (hdot : c ≠ '.') : keyPath text = some (([], key), c :: more) := by
  have hdotted : dottedKey (text.length + 1) text = some (([], key), c :: more) := by
    simp only [dottedKey, htext, key?_bare h hrest, hmore, Option.bind_eq_bind, Option.bind_some]
    split
    · next heq =>
      exact absurd (List.cons.inj heq).1 hdot
    · rfl
  rw [keyPath, hdotted]
  rfl

/-! ### The start of a value -/

/-- The characters with which a value may begin. -/
def valueStarts : List Char := ['"', '\'', 't', 'f', '[', '\x7b']

lemma valueStart_ne (h : c ∈ valueStarts) :
    c ≠ ' ' ∧ c ≠ '\t' ∧ c ≠ '\n' ∧ c ≠ '\r' ∧ c ≠ '#' ∧ c ≠ ']' := by
  simp only [valueStarts, List.mem_cons, List.not_mem_nil, or_false] at h
  obtain rfl | rfl | rfl | rfl | rfl | rfl := h <;> decide

lemma encode_head (text : List Char) :
    ∃ c more, Text.encode text = c :: more ∧ (c = '"' ∨ c = '\'') := by
  unfold Text.encode
  simp only
  split
  · split
    · exact ⟨_, _, rfl, .inr rfl⟩
    · split <;> exact ⟨_, _, rfl, .inr rfl⟩
  · split <;> exact ⟨_, _, rfl, .inl rfl⟩

/-- Every value that a document can hold without numbers and dates, nested at most so deep. -/
inductive Plain : Nat → Toml → Prop where
  | string (depth : Nat) (text : String) : Plain depth (.string text)
  | boolean (depth : Nat) (b : Bool) : Plain depth (.boolean b)
  | array {depth : Nat} {items : List Toml} (each : ∀ v ∈ items, Plain depth v) :
    Plain (depth + 1) (.array items)
  | table {depth : Nat} {entries : List (String × Toml)} (keys : BareKeys entries)
    (each : ∀ e ∈ entries, Plain depth e.2) : Plain (depth + 1) (.table entries)

lemma Plain.mono {depth : Nat} {v : Toml} (h : Plain depth v) : Plain (depth + 1) v := by
  induction h with
  | string depth text => exact .string _ text
  | boolean depth b => exact .boolean _ b
  | array _ ih => exact .array ih
  | table keys _ ih => exact .table keys ih

lemma writeValue_head {depth : Nat} {v : Toml} (h : Plain depth v) :
    ∃ c more, writeValue v = c :: more ∧ c ∈ valueStarts := by
  cases h with
  | string depth text =>
    obtain ⟨c, more, hencode, hc⟩ := encode_head text.toList
    refine ⟨c, more, hencode, ?_⟩
    obtain rfl | rfl := hc <;> decide
  | boolean depth b => cases b <;> exact ⟨_, _, rfl, by decide⟩
  | @array depth items each =>
    rw [writeValue]
    unfold writeItems
    split <;> exact ⟨_, _, rfl, by decide⟩
  | @table depth entries keys each =>
    cases entries <;> exact ⟨_, _, rfl, by decide⟩

/-! ### Reading back -/

/-- A value is read back from its text, whatever follows it but a quote. -/
def ReadsBack (depth : Nat) (v : Toml) : Prop :=
  ∀ fuel rest, 2 * (writeValue v).length ≤ fuel → Apart rest →
    value fuel depth (writeValue v ++ rest) = some (v, rest)

lemma readsBack_string (depth : Nat) (text : String) : ReadsBack depth (.string text) := by
  intro fuel rest hfuel hrest
  obtain ⟨c, more, hencode, hc⟩ := encode_head text.toList
  have hread := Text.any?_encode text.toList hrest
  rw [hencode, List.cons_append] at hread
  rw [writeValue, hencode] at hfuel ⊢
  cases fuel with
  | zero => simp at hfuel
  | succ fuel =>
    obtain rfl | rfl := hc <;>
      simp only [List.cons_append, value, hread, Option.map_some, String.ofList_toList]

lemma readsBack_boolean (depth : Nat) (b : Bool) : ReadsBack depth (.boolean b) := by
  intro fuel rest hfuel hrest
  cases fuel with
  | zero => cases b <;> exact absurd hfuel (by decide)
  | succ fuel => cases b <;> rfl

/-! ### Arrays -/

lemma skipLines_of_start (h : c ≠ ' ' ∧ c ≠ '\t' ∧ c ≠ '\n' ∧ c ≠ '\r' ∧ c ≠ '#') (fuel : Nat) :
    skipLines fuel (c :: rest) = some (c :: rest) := by
  cases fuel with
  | zero => rfl
  | succ fuel =>
    obtain ⟨hblank, htab, hline, hreturn, hmark⟩ := h
    have hskip : skipBlanks (c :: rest) = c :: rest := skipBlanks_of_head (by simp [hblank, htab])
    rw [skipLines, hskip]
    split <;> simp_all

/-- An item on a line of its own. -/
def itemLine (v : Toml) : List Char := "\n    ".toList ++ writeValue v ++ [',']

lemma itemLine_append (v : Toml) (more : List Char) :
    itemLine v ++ more = '\n' :: ' ' :: ' ' :: ' ' :: ' ' :: (writeValue v ++ ',' :: more) := by
  have hindent : "\n    ".toList = ['\n', ' ', ' ', ' ', ' '] := rfl
  rw [itemLine, hindent]
  simp

lemma skipLines_indent (h : c ∈ valueStarts) {fuel : Nat} (hfuel : 2 ≤ fuel) :
    skipLines fuel ('\n' :: ' ' :: ' ' :: ' ' :: ' ' :: c :: rest) = some (c :: rest) := by
  obtain ⟨fuel, rfl⟩ := Nat.exists_eq_add_of_le' hfuel
  obtain ⟨hblank, htab, hline, hreturn, hmark, -⟩ := valueStart_ne h
  have hskip : skipBlanks (' ' :: ' ' :: ' ' :: ' ' :: c :: rest) = c :: rest := by
    simp [skipBlanks, hblank, htab]
  change skipLines (fuel + 1) (' ' :: ' ' :: ' ' :: ' ' :: c :: rest) = _
  rw [skipLines, hskip]
  split <;> simp_all

lemma skipLines_close (fuel : Nat) : skipLines fuel (']' :: rest) = some (']' :: rest) :=
  skipLines_of_start (by decide : ']' ≠ ' ' ∧ ']' ≠ '\t' ∧ ']' ≠ '\n' ∧ ']' ≠ '\r' ∧ ']' ≠ '#') fuel

lemma skipLines_comma (fuel : Nat) : skipLines fuel (',' :: rest) = some (',' :: rest) :=
  skipLines_of_start (by decide : ',' ≠ ' ' ∧ ',' ≠ '\t' ∧ ',' ≠ '\n' ∧ ',' ≠ '\r' ∧ ',' ≠ '#') fuel

/-- One item, with a comma behind it. -/
lemma items_cons {depth fuel : Nat} {v : Toml} {vs : List Toml} (h : Plain depth v)
    (hread : ReadsBack depth v) (hskip : skipLines text.length text = some (writeValue v ++ ',' :: more))
    (hfuel : 2 * (writeValue v).length ≤ fuel) (hmore : items fuel depth more = some (vs, rest)) :
    items (fuel + 1) depth text = some (v :: vs, rest) := by
  obtain ⟨c, cs, hwrite, hc⟩ := writeValue_head h
  have hvalue := hread fuel (',' :: more) hfuel (by simp [Apart])
  have hclose : c ≠ ']' := (valueStart_ne hc).2.2.2.2.2
  rw [items]
  rw [hwrite, List.cons_append] at hskip hvalue
  simp only [hskip, Option.bind_eq_bind, Option.bind_some]
  split
  · next heq =>
    exact absurd (List.cons.inj heq).1 hclose
  · simp only [hvalue, Option.bind_some, skipLines_comma, hmore]
    rfl

/-- The last item, with no comma behind it. -/
lemma items_last {depth fuel : Nat} {v : Toml} (h : Plain depth v) (hread : ReadsBack depth v)
    (hfuel : 2 * (writeValue v).length ≤ fuel) :
    items (fuel + 1) depth (writeValue v ++ ']' :: rest) = some ([v], rest) := by
  obtain ⟨c, cs, hwrite, hc⟩ := writeValue_head h
  have hvalue := hread fuel (']' :: rest) hfuel (by simp [Apart])
  obtain ⟨hblank, htab, hline, hreturn, hmark, hclose⟩ := valueStart_ne hc
  rw [hwrite, List.cons_append] at hvalue
  rw [items, hwrite, List.cons_append, skipLines_of_start ⟨hblank, htab, hline, hreturn, hmark⟩]
  simp only [Option.bind_eq_bind, Option.bind_some]
  split
  · next heq =>
    exact absurd (List.cons.inj heq).1 hclose
  · simp only [hvalue, Option.bind_some, skipLines_close]
    rfl

/-- The items of an array, each on a line of its own, are read in a row. -/
lemma items_lines {depth : Nat} {vs : List Toml} (h : ∀ v ∈ vs, Plain depth v ∧ ReadsBack depth v)
    {fuel : Nat} (hfuel : 2 * (vs.flatMap itemLine ++ ['\n', ']']).length + 1 ≤ fuel) :
    items fuel depth (vs.flatMap itemLine ++ '\n' :: ']' :: rest) = some (vs, rest) := by
  induction vs generalizing fuel with
  | nil =>
    obtain ⟨fuel, rfl⟩ := Nat.exists_eq_add_of_le' hfuel
    rfl
  | cons v vs ih =>
    obtain ⟨⟨hplain, hread⟩, hvs⟩ := List.forall_mem_cons.1 h
    obtain ⟨c, cs, hwrite, hc⟩ := writeValue_head hplain
    have hline : (itemLine v).length = (writeValue v).length + 6 := by
      simpa using congrArg List.length (itemLine_append v [])
    simp only [List.flatMap_cons, List.length_append, hline] at hfuel
    obtain ⟨fuel, rfl⟩ := Nat.exists_eq_add_of_le' (Nat.le_trans (by omega : 1 ≤ _) hfuel)
    have hmore : items fuel depth (vs.flatMap itemLine ++ '\n' :: ']' :: rest) = some (vs, rest) :=
      ih hvs (by simp only [List.length_append]; omega)
    refine items_cons hplain hread ?_ (by omega) hmore
    rw [List.flatMap_cons, List.append_assoc, itemLine_append, hwrite]
    exact skipLines_indent hc (by simp)

lemma writeValues_eq_map (vs : List Toml) : writeValues vs = vs.map writeValue := by
  induction vs with
  | nil => rfl
  | cons v vs ih => rw [writeValues, ih, List.map_cons]

lemma value_array {fuel depth : Nat} {vs : List Toml} (h : items fuel depth text = some (vs, rest)) :
    value (fuel + 1) (depth + 1) ('[' :: text) = some (.array vs, rest) := by
  simp only [value, h, Option.map_some]

lemma readsBack_array {depth : Nat} {vs : List Toml}
    (h : ∀ v ∈ vs, Plain depth v ∧ ReadsBack depth v) : ReadsBack (depth + 1) (.array vs) := by
  intro fuel rest hfuel hrest
  rw [writeValue, writeValues_eq_map] at hfuel ⊢
  match vs, h with
  | [], _ =>
    obtain ⟨fuel, rfl⟩ := Nat.exists_eq_add_of_le' hfuel
    rfl
  | [v], h =>
    obtain ⟨hplain, hread⟩ := h v List.mem_cons_self
    simp only [List.map_cons, List.map_nil, writeItems, List.length_append, List.length_cons,
      List.length_nil] at hfuel
    obtain ⟨fuel, rfl⟩ := Nat.exists_eq_add_of_le' (Nat.le_trans (by omega : 2 ≤ _) hfuel)
    rw [List.map_cons, List.map_nil, writeItems, List.cons_append, List.cons_append,
      List.append_assoc, List.singleton_append]
    exact value_array (items_last hplain hread (by omega))
  | v :: w :: vs, h =>
    have hwrite : writeItems ((v :: w :: vs).map writeValue) =
        '[' :: ((v :: w :: vs).flatMap itemLine ++ ['\n', ']']) := by
      have hlines : ((v :: w :: vs).map writeValue).flatMap
          (fun item => "\n    ".toList ++ item ++ [',']) = (v :: w :: vs).flatMap itemLine :=
        List.flatMap_map _ _ _
      rw [← hlines]
      rfl
    rw [hwrite] at hfuel ⊢
    rw [List.length_cons] at hfuel
    obtain ⟨fuel, rfl⟩ := Nat.exists_eq_add_of_le' (Nat.le_trans (by omega : 1 ≤ _) hfuel)
    rw [List.cons_append, List.append_assoc]
    exact value_array (items_lines h (by omega))

/-! ### Tables on one line -/

lemma key_ne {es : Entries} (h : key ∉ es.map Prod.fst) : ∀ e ∈ es, e.1 ≠ key :=
  fun _ he heq => h (heq ▸ List.mem_map_of_mem he)

lemma item?_eq_none {es : Entries} (h : key ∉ es.map Prod.fst) : es.item? key = none := by
  rw [Entries.item?, Option.map_eq_none_iff, List.find?_eq_none]
  exact fun e he => by simpa using key_ne h e he

/-- The next key is none of those before it. -/
lemma not_mem_of_nodup {keys more : List String} (h : (keys ++ key :: more).Nodup) : key ∉ keys :=
  fun hmem => (List.nodup_cons.1 (List.nodup_middle.1 h)).1 (List.mem_append_left _ hmem)

lemma assign_of_not_mem {es : Entries} (h : key ∉ es.map Prod.fst) (v : Toml) :
    es.assign [] key v .header = some (es ++ [(key, .value v)]) := by
  simp [Entries.assign, Entries.within, item?_eq_none h]

/-- A bare key with its value. -/
def pairText (e : String × Toml) : List Char := e.1.toList ++ ' ' :: '=' :: ' ' :: writeValue e.2

lemma writePairs_of_bare {entries : List (String × Toml)} (h : ∀ e ∈ entries, IsBareKey e.1) :
    writePairs entries = entries.map pairText := by
  have hequals : " = ".toList = [' ', '=', ' '] := rfl
  induction entries with
  | nil => rfl
  | cons e entries ih =>
    obtain ⟨he, hentries⟩ := List.forall_mem_cons.1 h
    rw [writePairs, ih hentries, writeKey_of_bare he, hequals, List.map_cons, pairText]
    simp

lemma skipBlanks_bare (h : IsBareKey key) (more : List Char) :
    skipBlanks (key.toList ++ more) = key.toList ++ more := by
  obtain ⟨hne, hbare⟩ := h
  obtain ⟨c, cs, hkey⟩ := List.exists_cons_of_ne_nil hne
  obtain ⟨-, -, hblank, htab, -⟩ := isBare_ne (hbare c (by simp [hkey]))
  exact skipBlanks_of_head (by simp [hkey, hblank, htab])

/-- The entries of a table that is being built, each with a value. -/
def valued (entries : List (String × Toml)) : Entries := entries.map fun e => (e.1, .value e.2)

lemma tableOf_append (es es' : Entries) : tableOf (es ++ es') = tableOf es ++ tableOf es' := by
  induction es with
  | nil => rfl
  | cons e es ih => rw [List.cons_append, tableOf, ih, tableOf, List.cons_append]

lemma tableOf_valued (entries : List (String × Toml)) : tableOf (valued entries) = entries := by
  induction entries with
  | nil => rfl
  | cons e entries ih =>
    change tableOf ((e.1, .value e.2) :: valued entries) = _
    rw [tableOf, ih]
    rfl

/-- A key with its value, as both a pair and a line begin. -/
lemma keyPath_assign (h : IsBareKey key) (htext : skipBlanks text = key.toList ++ ' ' :: '=' :: more) :
    keyPath text = some (([], key), '=' :: more) :=
  keyPath_bare h htext (by simp [isBare]) rfl (by decide)

variable (rest) in
/-- One pair of a table that is being built. -/
lemma pairs_step {depth fuel : Nat} {es : Entries} {v : Toml} (hkey : IsBareKey key)
    (hnew : key ∉ es.map Prod.fst) (hplain : Plain depth v) (hread : ReadsBack depth v)
    (htext : skipBlanks text = key.toList ++ ' ' :: '=' :: ' ' :: (writeValue v ++ rest))
    (hfuel : 2 * (writeValue v).length ≤ fuel) (hrest : Apart rest) :
    pairs (fuel + 1) depth es text =
      match skipBlanks rest with
      | '\x7d' :: rest => some (es ++ [(key, .value v)], rest)
      | ',' :: rest => pairs fuel depth (es ++ [(key, .value v)]) rest
      | _ => none := by
  obtain ⟨c, cs, hwrite, hc⟩ := writeValue_head hplain
  obtain ⟨hblank, htab, -⟩ := valueStart_ne hc
  have hskip : skipBlanks (' ' :: (writeValue v ++ rest)) = writeValue v ++ rest := by
    rw [hwrite]
    simp [skipBlanks, hblank, htab]
  simp only [pairs, keyPath_assign hkey htext, Option.bind_eq_bind, Option.bind_some, hskip,
    hread fuel rest hfuel hrest, assign_of_not_mem hnew]
  rfl

lemma separated_head (e : String × Toml) (entries : List (String × Toml)) :
    ∃ more, separated [',', ' '] ((e :: entries).map pairText) = e.1.toList ++ more := by
  cases entries with
  | nil => exact ⟨_, rfl⟩
  | cons e' entries => exact ⟨_, by simp [separated, pairText]; rfl⟩

/-- The pairs of a table are read in a row. -/
lemma pairs_separated {depth : Nat} {entries : List (String × Toml)}
    (h : ∀ e ∈ entries, IsBareKey e.1 ∧ Plain depth e.2 ∧ ReadsBack depth e.2)
    (hne : entries ≠ []) {es : Entries} (hnodup : (es.map Prod.fst ++ entries.map Prod.fst).Nodup)
    (htext : skipBlanks text =
      separated [',', ' '] (entries.map pairText) ++ ' ' :: '\x7d' :: rest)
    {fuel : Nat} (hfuel : 2 * (separated [',', ' '] (entries.map pairText)).length + 1 ≤ fuel) :
    pairs fuel depth es text = some (es ++ valued entries, rest) := by
  induction entries generalizing es text fuel with
  | nil => exact absurd rfl hne
  | cons e entries ih =>
    obtain ⟨⟨hkey, hplain, hread⟩, hentries⟩ := List.forall_mem_cons.1 h
    have hnew : e.1 ∉ es.map Prod.fst := not_mem_of_nodup hnodup
    obtain ⟨fuel, rfl⟩ := Nat.exists_eq_add_of_le' (Nat.le_trans (by omega : 1 ≤ _) hfuel)
    cases entries with
    | nil =>
      simp only [List.map_cons, List.map_nil, separated, pairText, List.length_append,
        List.length_cons] at hfuel
      rw [pairs_step (' ' :: '\x7d' :: rest) hkey hnew hplain hread
        (by simpa [separated, pairText] using htext) (by omega) (by simp [Apart])]
      rfl
    | cons e' entries =>
      have hsep : separated [',', ' '] ((e :: e' :: entries).map pairText) =
          pairText e ++ ',' :: ' ' :: separated [',', ' '] ((e' :: entries).map pairText) := by
        simp [separated]
      rw [hsep] at htext hfuel
      simp only [pairText, List.length_append, List.length_cons] at hfuel
      rw [pairs_step (',' :: ' ' :: (separated [',', ' '] ((e' :: entries).map pairText) ++
          ' ' :: '\x7d' :: rest)) hkey hnew hplain hread
        (by simpa [pairText] using htext) (by omega) (by simp [Apart])]
      have hblank : skipBlanks (' ' :: (separated [',', ' '] ((e' :: entries).map pairText) ++
          ' ' :: '\x7d' :: rest)) =
          separated [',', ' '] ((e' :: entries).map pairText) ++ ' ' :: '\x7d' :: rest := by
        obtain ⟨more, hmore⟩ := separated_head e' entries
        rw [hmore, List.append_assoc]
        exact skipBlanks_bare (hentries e' List.mem_cons_self).1 _
      have hrest : ((es ++ [(e.1, Item.value e.2)]).map Prod.fst ++
          (e' :: entries).map Prod.fst).Nodup := by
        simpa using hnodup
      have hless : 2 * (separated [',', ' '] ((e' :: entries).map pairText)).length + 1 ≤ fuel := by
        omega
      refine (ih hentries (List.cons_ne_nil _ _) hrest hblank hless).trans ?_
      simp [valued]

lemma value_table {depth fuel : Nat} {es : Entries} (htext : skipBlanks text = c :: more)
    (hc : c ≠ '\x7d') (h : pairs fuel depth [] (c :: more) = some (es, rest)) :
    value (fuel + 1) (depth + 1) ('\x7b' :: text) = some (.table (tableOf es), rest) := by
  simp only [value, htext]
  split
  · next heq =>
    exact absurd (List.cons.inj heq).1 hc
  · simp only [h, Option.map_some]

lemma readsBack_table {depth : Nat} {entries : List (String × Toml)} (hkeys : BareKeys entries)
    (h : ∀ e ∈ entries, Plain depth e.2 ∧ ReadsBack depth e.2) :
    ReadsBack (depth + 1) (.table entries) := by
  intro fuel rest hfuel hrest
  cases entries with
  | nil =>
    rw [writeValue] at hfuel
    obtain ⟨fuel, rfl⟩ := Nat.exists_eq_add_of_le' hfuel
    rfl
  | cons e entries =>
    rw [writeValue, writePairs_of_bare hkeys.bare] at hfuel ⊢
    simp only [List.length_append, List.length_cons] at hfuel
    obtain ⟨fuel, rfl⟩ := Nat.exists_eq_add_of_le' (Nat.le_trans (by omega : 1 ≤ _) hfuel)
    obtain ⟨c, cs, hkey⟩ := List.exists_cons_of_ne_nil (hkeys.bare e List.mem_cons_self).1
    have hclose : c ≠ '\x7d' :=
      (isBare_ne ((hkeys.bare e List.mem_cons_self).2 c (by simp [hkey]))).2.2.2.2.2.2.2.2.2.1
    obtain ⟨more, hmore⟩ := separated_head e entries
    have hskip : skipBlanks (separated [',', ' '] ((e :: entries).map pairText) ++
        ' ' :: '\x7d' :: rest) =
        separated [',', ' '] ((e :: entries).map pairText) ++ ' ' :: '\x7d' :: rest := by
      rw [hmore, List.append_assoc]
      exact skipBlanks_bare (hkeys.bare e List.mem_cons_self) _
    have hnodup : (([] : Entries).map Prod.fst ++ (e :: entries).map Prod.fst).Nodup := hkeys.nodup
    have hpairs := pairs_separated (fun e he => ⟨hkeys.bare e he, h e he⟩) (List.cons_ne_nil e entries)
      hnodup hskip (by omega : 2 * (separated [',', ' '] ((e :: entries).map pairText)).length + 1 ≤ fuel)
    rw [List.nil_append] at hpairs
    have htext : ['\x7b', ' '] ++ separated [',', ' '] ((e :: entries).map pairText) ++ [' ', '\x7d'] ++
        rest = '\x7b' :: ' ' :: (separated [',', ' '] ((e :: entries).map pairText) ++
          ' ' :: '\x7d' :: rest) := by
      simp
    have hhead : separated [',', ' '] ((e :: entries).map pairText) ++ ' ' :: '\x7d' :: rest =
        c :: (cs ++ more ++ ' ' :: '\x7d' :: rest) := by
      rw [hmore, hkey]
      simp
    rw [hhead] at hpairs hskip htext
    have hblank : skipBlanks (' ' :: c :: (cs ++ more ++ ' ' :: '\x7d' :: rest)) =
        c :: (cs ++ more ++ ' ' :: '\x7d' :: rest) := hskip
    rw [htext, value_table hblank hclose hpairs, tableOf_valued]

/-- **Values are read back**, whatever follows them but a quote. -/
lemma Plain.readsBack {depth : Nat} {v : Toml} (h : Plain depth v) : ReadsBack depth v := by
  induction h with
  | string depth text => exact readsBack_string depth text
  | boolean depth b => exact readsBack_boolean depth b
  | array each ih => exact readsBack_array fun v hv => ⟨each v hv, ih v hv⟩
  | table keys each ih => exact readsBack_table keys fun e he => ⟨each e he, ih e he⟩

end CmsTypings.Toml
