/-!
Maps that keep the order in which their keys were first written.

Writing under a new key adds an entry at the end; writing under an old key changes its value and
moves nothing.
-/

namespace CmsTypings

universe u v

variable {α : Type u} {β : Type v}

/-- Writes `value` under `key` in a list of entries. -/
def putEntry (key : String) (value : α) : List (String × α) → List (String × α)
  | [] => [(key, value)]
  | e :: rest => if e.1 = key then (key, value) :: rest else e :: putEntry key value rest

theorem keys_putEntry (key : String) (value : α) (entries : List (String × α)) :
    (putEntry key value entries).map Prod.fst =
      if key ∈ entries.map Prod.fst then entries.map Prod.fst
      else entries.map Prod.fst ++ [key] := by
  induction entries with
  | nil => simp [putEntry]
  | cons e rest ih =>
    unfold putEntry
    by_cases h : e.1 = key
    · simp [h]
    · have h' : ¬ key = e.1 := fun hk => h hk.symm
      by_cases hr : key ∈ rest.map Prod.fst <;>
        simp only [h, ite_false, List.map_cons, ih, hr, h', List.mem_cons, or_false, or_true,
          ite_true, List.cons_append]

theorem nodup_putEntry {key : String} {value : α} {entries : List (String × α)}
    (h : (entries.map Prod.fst).Nodup) : ((putEntry key value entries).map Prod.fst).Nodup := by
  rw [keys_putEntry]
  split
  · exact h
  · next hk => exact List.nodup_append.2 ⟨h, by simp, by simpa using fun a x hx he => hk (by
      subst he; exact List.mem_map.2 ⟨_, hx, rfl⟩)⟩

theorem putEntry_of_not_mem {key : String} {value : α} {entries : List (String × α)}
    (h : key ∉ entries.map Prod.fst) : putEntry key value entries = entries ++ [(key, value)] := by
  induction entries with
  | nil => rfl
  | cons e rest ih =>
    rw [List.map_cons, List.mem_cons, not_or] at h
    have he : ¬ e.1 = key := fun hk => h.1 hk.symm
    simp [putEntry, he, ih h.2]

/-- A map from strings in the order of first writing. -/
structure OrderedMap (α : Type u) where
  entries : List (String × α)
  nodup_keys : (entries.map Prod.fst).Nodup

namespace OrderedMap

def empty : OrderedMap α := ⟨[], List.nodup_nil⟩

instance : Inhabited (OrderedMap α) := ⟨empty⟩

def keys (m : OrderedMap α) : List String := m.entries.map Prod.fst

def put (m : OrderedMap α) (key : String) (value : α) : OrderedMap α :=
  ⟨putEntry key value m.entries, nodup_putEntry m.nodup_keys⟩

def ofList (entries : List (String × α)) : OrderedMap α :=
  entries.foldl (fun m e => m.put e.1 e.2) empty

def get? (m : OrderedMap α) (key : String) : Option α :=
  (m.entries.find? fun e => e.1 == key).map Prod.snd

/-- The entries that satisfy `p`, in the same order. -/
def filter (m : OrderedMap α) (p : String → α → Bool) : OrderedMap α :=
  ⟨m.entries.filter fun e => p e.1 e.2,
    m.nodup_keys.sublist (List.Sublist.map _ List.filter_sublist)⟩

def mapValues (m : OrderedMap α) (f : String → α → β) : OrderedMap β :=
  ⟨m.entries.map fun e => (e.1, f e.1 e.2), by
    simpa [List.map_map, Function.comp_def] using m.nodup_keys⟩

@[simp] theorem entries_empty : (empty : OrderedMap α).entries = [] := rfl

@[simp] theorem entries_filter (m : OrderedMap α) (p : String → α → Bool) :
    (m.filter p).entries = m.entries.filter fun e => p e.1 e.2 := rfl

theorem keys_put (m : OrderedMap α) (key : String) (value : α) :
    (m.put key value).keys = if key ∈ m.keys then m.keys else m.keys ++ [key] :=
  keys_putEntry key value m.entries

theorem entries_put_of_not_mem {m : OrderedMap α} {key : String} (h : key ∉ m.keys) (value : α) :
    (m.put key value).entries = m.entries ++ [(key, value)] :=
  putEntry_of_not_mem h

end OrderedMap

end CmsTypings
