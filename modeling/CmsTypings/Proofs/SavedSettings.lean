import CmsTypings.Proofs.Outcome
import CmsTypings.Proofs.TomlDocuments
import CmsTypings.Settings.Loading
import Mathlib.Data.List.Induction

/-!
Settings that are saved, as a source of settings.

The saved text is read as the entries of all settings, in some order. Each of them takes the place of
what earlier sources stated under its key, and gives the setting again that it was written from.
-/

namespace CmsTypings

namespace Setting

variable {key : String}

/-! ### Layers, key by key -/

/-- A key that is the name of an entry as it stands. -/
structure IsEntryName (key : String) : Prop where
  path : pathOf key = [.name key]
  small : key.toLower = key

lemma get?_cons (e : String × Setting) (es : List (String × Setting)) (other : String) :
    (table (e :: es)).get? other = if e.1 = other then some e.2 else (table es).get? other := by
  by_cases h : e.1 = other <;> simp [get?, entries, h]

lemma get?_alterEntry (change : Setting → Setting) (es : List (String × Setting)) (other : String) :
    (table (alterEntry key change es)).get? other =
      if key = other then some (change (((table es).get? key).getD (.table [])))
      else (table es).get? other := by
  induction es with
  | nil =>
    rw [alterEntry, get?_cons]
    rfl
  | cons e es ih =>
    by_cases he : e.1 = key
    · by_cases hk : key = other <;> simp [alterEntry, get?_cons, he, hk]
    · rw [alterEntry, if_neg he, get?_cons, get?_cons, get?_cons, if_neg he, ih]
      by_cases hk : key = other
      · rw [if_pos hk, if_pos hk, if_neg (hk ▸ he)]
      · rw [if_neg hk, if_neg hk]

lemma overlay_eq {s : Setting} (hs : ∀ es, s ≠ .table es) (below : Setting) :
    overlay below s = s := by
  cases s with
  | table es => exact absurd rfl (hs es)
  | _ => rfl

/-- What is not a table takes the place of what was there, and nothing else changes. -/
lemma get?_write (hkey : IsEntryName key) {s : Setting} (hs : ∀ es, s ≠ .table es)
    (below : Setting) (other : String) :
    (write s (pathOf key) below).get? other = if key = other then some s else below.get? other := by
  rw [hkey.path, write, hkey.small, get?_alterEntry, write, overlay_eq hs]
  rfl

/-- The last value that a source states under a key counts, or else what was stated before it. -/
theorem get?_layer {source : List (String × Setting)}
    (h : ∀ e ∈ source, IsEntryName e.1 ∧ ∀ es, e.2 ≠ .table es) (below : Setting) (key : String) :
    (below.layer source).get? key =
      ((source.reverse.find? fun e => e.1 = key).map Prod.snd).or (below.get? key) := by
  induction source using List.reverseRecOn with
  | nil => rfl
  | append_singleton source e ih =>
    have hlayer : below.layer (source ++ [e]) = write e.2 (pathOf e.1) (below.layer source) := by
      simp [layer, List.foldl_append]
    obtain ⟨hname, hvalue⟩ := h e (by simp)
    rw [hlayer, get?_write hname hvalue, ih fun e he => h e (List.mem_append_left _ he)]
    by_cases hk : e.1 = key <;> simp [hk]

/-- A source that states no key twice counts with all its entries. -/
lemma get?_layer_of_mem {source : List (String × Setting)}
    (h : ∀ e ∈ source, IsEntryName e.1 ∧ ∀ es, e.2 ≠ .table es)
    (hnodup : (source.map Prod.fst).Nodup) (below : Setting) {e : String × Setting}
    (he : e ∈ source) : (below.layer source).get? e.1 = some e.2 := by
  have hfind : source.reverse.find? (fun e' => e'.1 = e.1) = some e := by
    obtain ⟨e', he'⟩ : ∃ e', source.reverse.find? (fun e' => e'.1 = e.1) = some e' :=
      Option.isSome_iff_exists.1 (List.find?_isSome.2 ⟨e, by simpa using he, by simp⟩)
    have hmem : e' ∈ source := List.mem_reverse.1 (List.mem_of_find?_eq_some he')
    have hkey : e'.1 = e.1 := by simpa using List.find?_some he'
    rw [he', List.inj_on_of_nodup_map hnodup hmem he hkey]
  rw [get?_layer h, hfind]
  rfl

/-! ### Values from a document -/

lemma ofTomlItems_eq_map (items : List Toml) : ofTomlItems items = items.map ofToml := by
  induction items with
  | nil => rfl
  | cons v rest ih => rw [ofTomlItems, ih, List.map_cons]

lemma ofTomlEntries_eq_map (entries : List (String × Toml)) :
    ofTomlEntries entries = entries.map fun e => (e.1, ofToml e.2) := by
  induction entries with
  | nil => rfl
  | cons e rest ih => rw [ofTomlEntries, ih, List.map_cons]

lemma listOf_ofToml {α : Type} {item : Setting → Except SettingsFault α} {toml : α → Toml}
    (h : ∀ a, item (ofToml (toml a)) = .ok a) (as : List α) :
    listOf item (ofToml (.array (as.map toml))) = .ok as := by
  rw [ofToml, listOf, ofTomlItems_eq_map, List.map_map]
  induction as with
  | nil => rfl
  | cons a as ih =>
    rw [List.map_cons, List.mapM_cons, Function.comp_apply, h, ih]
    rfl

end Setting

namespace Settings

open Setting (IsEntryName get?_layer_of_mem listOf_ofToml ofToml)
open Toml (IsBareKey Plain Writable)

/-! ### The table of all settings -/

lemma map_fst_toToml (s : Settings) : s.toToml.map Prod.fst = fieldNames := rfl

lemma mem_fieldNames {s : Settings} {e : String × Toml} (he : e ∈ s.toToml) :
    e.1 ∈ fieldNames := by
  rw [← map_fst_toToml s]
  exact List.mem_map_of_mem he

lemma fieldNames_nodup : fieldNames.Nodup := by decide +kernel

lemma isBareKey_of_mem : ∀ key ∈ fieldNames, IsBareKey key := by decide +kernel

lemma isBareKey_pattern : IsBareKey "pattern" := by decide +kernel

lemma isEntryName_of_mem {key : String} (h : key ∈ fieldNames) : IsEntryName key where
  path := by
    revert key
    decide +kernel
  small := by
    revert key
    decide +kernel

lemma plain_ruleToml (r : IgnoreRule) (depth : Nat) : Plain (depth + 1) (ruleToml r) := by
  cases r with
  | exact s => exact .string _ s
  | pattern p =>
    refine .table ⟨?_, by simp⟩ ?_
    · rw [List.forall_mem_singleton]
      exact isBareKey_pattern
    · rw [List.forall_mem_singleton]
      exact .string depth p

lemma writable_toToml (s : Settings) : Writable s.toToml where
  keys := ⟨fun e he => isBareKey_of_mem _ (mem_fieldNames he), fieldNames_nodup⟩
  each := by
    have hmodes : ∀ v ∈ s.acceptedRuntimeModes.map Toml.string, Plain (Toml.depthLimit - 1) v := by
      simp only [List.forall_mem_map]
      exact fun mode _ => .string _ mode
    have hrules : ∀ v ∈ s.idsToIgnore.map ruleToml, Plain (Toml.depthLimit - 1) v := by
      simp only [List.forall_mem_map]
      exact fun r _ => plain_ruleToml r _
    simp only [toToml, List.forall_mem_cons, List.not_mem_nil, false_implies, implies_true, and_true]
    exact ⟨.array hmodes, .boolean _ _, .boolean _ _, .array hrules, .boolean _ _, .boolean _ _⟩

lemma ofToml_ne_table {s : Settings} {e : String × Toml} (he : e ∈ s.toToml) :
    ∀ es, ofToml e.2 ≠ .table es := by
  revert e
  simp [toToml, ofToml]

/-! ### Saved and read -/

lemma field_eq {α : Type} {table v : Setting} {key : String}
    {item : Setting → Except SettingsFault α} (fallback : α) (h : table.get? key = some v) :
    field table key item fallback = item v := by
  rw [field, h]

lemma string_string (text : String) : Setting.string (ofToml (.string text)) = .ok text := rfl

lemma rule_ruleToml (r : IgnoreRule) : Setting.rule (ofToml (ruleToml r)) = .ok r := by
  cases r <;> rfl

/-- A table in which all settings stand as they are saved. -/
lemma ofTable_eq_ok {s : Settings} {table : Setting}
    (h : ∀ e ∈ s.toToml, table.get? e.1 = some (ofToml e.2)) : ofTable table = .ok s := by
  simp only [toToml, List.forall_mem_cons, List.not_mem_nil, false_implies, implies_true,
    and_true] at h
  obtain ⟨hmodes, hverbose, henums, hrules, hcomponents, hformatter⟩ := h
  simp only [ofTable, field_eq _ hmodes, field_eq _ hverbose, field_eq _ henums, field_eq _ hrules,
    field_eq _ hcomponents, field_eq _ hformatter, listOf_ofToml string_string,
    listOf_ofToml rule_ruleToml]
  rfl

/-- **A saved text states all settings**, whatever was stated before it. -/
theorem exists_read?_save (s : Settings) : ∃ entries, FileFormat.toml.read? s.save = some entries ∧
    ∀ below : Setting, ofTable (below.layer entries) = .ok s := by
  obtain ⟨es, hread, hperm⟩ : ∃ es, Toml.read? s.save = some es ∧ es.Perm s.toToml :=
    ⟨_, Toml.read?_write (writable_toToml s), Toml.onLines_append_perm s.toToml⟩
  have hnodup : (es.map Prod.fst).Nodup := ((hperm.map _).nodup_iff).2 fieldNames_nodup
  refine ⟨Setting.ofTomlEntries es, by simp [FileFormat.read?, FileFormat.setting?, hread], ?_⟩
  intro below
  have hentries : ∀ e ∈ es.map (fun e => (e.1, ofToml e.2)),
      IsEntryName e.1 ∧ ∀ es, e.2 ≠ .table es := by
    simp only [List.forall_mem_map]
    intro e he
    have hmem : e ∈ s.toToml := hperm.mem_iff.1 he
    exact ⟨isEntryName_of_mem (mem_fieldNames hmem), ofToml_ne_table hmem⟩
  refine ofTable_eq_ok fun e he => ?_
  rw [Setting.ofTomlEntries_eq_map]
  have hmem : (e.1, ofToml e.2) ∈ es.map fun e => (e.1, ofToml e.2) :=
    List.mem_map_of_mem (hperm.mem_iff.2 he)
  exact get?_layer_of_mem hentries (by simpa [List.map_map, Function.comp_def] using hnodup) below hmem

end Settings

end CmsTypings
