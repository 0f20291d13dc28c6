import CmsTypings.Proofs.ReaderAgreement

/-!
What a record keeps of its value.

A field of a record is named in a map and has its place in a list. Once it is read no other field
touches what it wrote, and it is read at most once; so the record holds under each field what was
written under it, and a map from names holds under each name what was written there.
-/

namespace CmsTypings

namespace Json

/-- The value under a name in a map. -/
def member? (name : String) : Json → Option Json
  | .object members => (members.find? fun m => m.1 == name).map Prod.snd
  | _ => none

/-- The value of a field in a record with the given fields: by its name in a map, by its place in a
list. -/
def fieldValue? (fields : List String) (name : String) : Json → Option Json
  | .array items => items[fields.idxOf name]?
  | v => v.member? name

/-- No object in the value repeats a name. -/
def DistinctNames (v : Json) : Prop := (Draft.ofJson v).DistinctNames

lemma DistinctNames.member {v x : Json} {name : String} (h : v.DistinctNames)
    (hx : v.member? name = some x) : x.DistinctNames := by
  cases v with
  | object members =>
    obtain ⟨m, hm, rfl⟩ := Option.map_eq_some_iff.1 hx
    cases h with
    | object nodup each =>
      refine each (.ok m.1, .ofJson m.2) ?_
      rw [Draft.ofMembers_eq_map]
      exact List.mem_map_of_mem (List.mem_of_find?_eq_some hm)
  | null | bool | number | string | array => cases hx

lemma DistinctNames.fieldValue {v x : Json} {fields : List String} {name : String}
    (h : v.DistinctNames) (hx : v.fieldValue? fields name = some x) : x.DistinctNames := by
  cases v with
  | array items =>
    cases h with
    | array each =>
      refine each (.ofJson x) ?_
      rw [Draft.ofItems_eq_map]
      exact List.mem_map_of_mem (List.mem_of_getElem? hx)
  | null | bool | number | string => cases hx
  | object => exact h.member hx

end Json

namespace Json.Reader

open Draft

/-! ### Maps -/

section Map

variable {α : Type} {r : Reader α}

lemma entries_ofList {entries : List (String × α)} (h : (entries.map Prod.fst).Nodup) :
    (OrderedMap.ofList entries).entries = entries := by
  have hfold : ∀ m : OrderedMap α, (entries.foldl (fun m e => m.put e.1 e.2) m).entries =
      entries.foldl (fun ms e => putEntry e.1 e.2 ms) m.entries := by
    clear h
    induction entries with
    | nil => exact fun _ => rfl
    | cons e rest ih => exact fun m => ih _
  rw [OrderedMap.ofList, hfold, OrderedMap.entries_empty, foldl_putEntry (by simpa using h),
    List.nil_append]

lemma forall₂_of_mapM {members : List (String × Json)} {entries : List (String × α)}
    (h : ((ofMembers members).mapM fun m => do
      let key ← liftFault m.1
      let value ← r .value m.2
      return (key, value)) = .ok entries) :
    List.Forall₂ (fun m e => e.1 = m.1 ∧ r .value (ofJson m.2) = .ok e.2) members entries := by
  induction members generalizing entries with
  | nil =>
    obtain rfl := Except.ok.inj h
    exact .nil
  | cons m rest ih =>
    rw [ofMembers, List.mapM_cons] at h
    obtain ⟨e, he, h⟩ := bind_eq_ok.1 h
    obtain ⟨es, hes, h⟩ := bind_eq_ok.1 h
    obtain rfl := Except.ok.inj h
    obtain ⟨_, hkey, he⟩ := bind_eq_ok.1 he
    obtain rfl := Except.ok.inj hkey
    obtain ⟨a, ha, he⟩ := bind_eq_ok.1 he
    obtain rfl := Except.ok.inj he
    exact .cons ⟨rfl, ha⟩ (ih hes)

lemma find?_of_forall₂ {members : List (String × Json)} {entries : List (String × α)} {x : Json}
    {name : String}
    (h : List.Forall₂ (fun m e => e.1 = m.1 ∧ r .value (ofJson m.2) = .ok e.2) members entries)
    (hx : (members.find? fun m => m.1 == name).map Prod.snd = some x) :
    ∃ a, r .value (ofJson x) = .ok a ∧
      (entries.find? fun e => e.1 == name).map Prod.snd = some a := by
  induction h with
  | nil => cases hx
  | @cons m e members entries h _ ih =>
    by_cases hname : m.1 = name
    · simp only [List.find?_cons, h.1, hname, BEq.rfl, Option.map_some, Option.some_inj] at hx ⊢
      exact ⟨e.2, hx ▸ h.2, rfl⟩
    · simp only [List.find?_cons, h.1, beq_eq_false_iff_ne.2 hname] at hx ⊢
      exact ih hx

/-- A map holds under a name what was written under it. -/
lemma orderedMap_get? {v x : Json} {name : String} {m : OrderedMap α} (hd : v.DistinctNames)
    (h : orderedMap r .value (ofJson v) = .ok m) (hx : v.member? name = some x) :
    ∃ a, r .value (ofJson x) = .ok a ∧ m.get? name = some a := by
  cases v with
  | object members =>
    obtain ⟨_, hinner, h⟩ := bind_eq_ok.1 h
    obtain rfl := Except.ok.inj hinner
    obtain ⟨entries, hentries, h⟩ := bind_eq_ok.1 h
    obtain ⟨_, -, h⟩ := bind_eq_ok.1 h
    obtain rfl := Except.ok.inj h
    have heach := forall₂_of_mapM hentries
    have hkeys : entries.map Prod.fst = members.map Prod.fst := by
      rw [← List.forall₂_eq_eq_eq, List.forall₂_map_left_iff, List.forall₂_map_right_iff]
      exact heach.flip.imp fun _ _ h => h.1
    have hnodup : (entries.map Prod.fst).Nodup := by
      rw [hkeys]
      have hmembers : ∀ m ∈ ofMembers members, m.2.DistinctNames := by
        cases hd with
        | object nodup each => exact each
      exact nodup_of_valueMembers (valueMembers_ofMembers hmembers) hd
    rw [OrderedMap.get?, entries_ofList hnodup]
    exact find?_of_forall₂ heach hx
  | null | bool | number | string | array => cases hx

end Map

/-! ### Records -/

section Record

variable {α β σ : Type} {fields : List (Field σ)} {name : String} {r : Reader α} {get : σ → β}
  {g : α → β}

/-- A field of a record that does not touch what `get` reads. -/
def Field.Keeps (f : Field σ) (get : σ → β) : Prop :=
  ∀ ⦃src d update⦄, f.read src d = .ok update → ∀ s, get (update s) = get s

lemma field_keeps {set : α → σ → σ} (h : ∀ a s, get (set a s) = get s) :
    (field name r set).Keeps get := by
  intro src d update hread s
  obtain ⟨a, -, rfl⟩ := map_eq_ok.1 hread
  exact h a s

/-- One field, read by `r`, writes what `get` reads off the record; the others do not touch it. -/
inductive Owns (name : String) (r : Reader α) (get : σ → β) (g : α → β) : List (Field σ) → Prop where
  | here {set : α → σ → σ} {fields : List (Field σ)} (writes : ∀ a s, get (set a s) = g a)
      (others : ∀ f ∈ fields, f.name ≠ name ∧ f.Keeps get) :
      Owns name r get g (field name r set :: fields)
  | there {f : Field σ} {fields : List (Field σ)} (other : f.name ≠ name) (keeps : f.Keeps get)
      (rest : Owns name r get g fields) : Owns name r get g (f :: fields)

/-- What was written under the field is what `get` reads. -/
def Shows (r : Reader α) (get : σ → β) (g : α → β) (x : Json) (s : σ) : Prop :=
  ∃ a, r .value (ofJson x) = .ok a ∧ get s = g a

/-! ### Written as a list -/

lemma readInOrder_keeps (h : ∀ f ∈ fields, f.name ≠ name ∧ f.Keeps get) {items : List Draft}
    {s s' : σ} {n : Nat} (hread : readInOrder .value s fields items = .ok (s', n)) :
    get s' = get s := by
  induction fields generalizing items s n with
  | nil =>
    obtain ⟨rfl, -⟩ := Prod.mk.inj (Except.ok.inj hread)
    rfl
  | cons f fields ih =>
    cases items with
    | nil =>
      obtain ⟨rfl, -⟩ := Prod.mk.inj (Except.ok.inj hread)
      rfl
    | cons d items =>
      obtain ⟨update, hupdate, hread⟩ := bind_eq_ok.1 hread
      obtain ⟨⟨s₁, n₁⟩, hrest, hread⟩ := bind_eq_ok.1 hread
      obtain ⟨rfl, -⟩ := Prod.mk.inj (Except.ok.inj hread)
      rw [ih (fun f' hf' => h f' (List.mem_cons_of_mem _ hf')) hrest,
        (h f List.mem_cons_self).2 hupdate]

lemma readInOrder_shows (h : Owns name r get g fields) {items : List Json} {x : Json}
    (hx : items[(fields.map Field.name).idxOf name]? = some x) {s s' : σ} {n : Nat}
    (hread : readInOrder .value s fields (ofItems items) = .ok (s', n)) :
    Shows r get g x s' := by
  induction h generalizing items s n with
  | @here set fields writes others =>
    cases items with
    | nil => cases hx
    | cons v items =>
      obtain ⟨update, hupdate, hread⟩ := bind_eq_ok.1 hread
      obtain ⟨⟨s₁, n₁⟩, hrest, hread⟩ := bind_eq_ok.1 hread
      obtain ⟨rfl, -⟩ := Prod.mk.inj (Except.ok.inj hread)
      obtain ⟨a, ha, rfl⟩ := map_eq_ok.1 hupdate
      obtain rfl : v = x := by simpa [field] using hx
      exact ⟨a, ha, by rw [readInOrder_keeps others hrest, writes]⟩
  | @there f fields other keeps _ ih =>
    cases items with
    | nil => cases hx
    | cons v items =>
      obtain ⟨update, hupdate, hread⟩ := bind_eq_ok.1 hread
      obtain ⟨⟨s₁, n₁⟩, hrest, hread⟩ := bind_eq_ok.1 hread
      obtain ⟨rfl, -⟩ := Prod.mk.inj (Except.ok.inj hread)
      rw [List.map_cons, List.idxOf_cons_ne _ other, List.getElem?_cons_succ] at hx
      exact ih hx hrest

/-! ### Written as a map -/

/-- One member of a map: it is passed over, or it is a field that was not read before. -/
lemma readMember_eq_ok {src : Source} {state state' : σ × List String} {key : String} {d : Draft}
    (h : readMember fields src state (.ok key, d) = .ok state') :
    ((fields.find? fun f => f.name == key) = none ∧ state' = state) ∨
      ∃ f update, (fields.find? fun f => f.name == key) = some f ∧ key ∉ state.2 ∧
        f.read src d = .ok update ∧ state' = (update state.1, key :: state.2) := by
  obtain ⟨_, hkey, h⟩ := bind_eq_ok.1 h
  obtain rfl := Except.ok.inj hkey
  cases hf : fields.find? fun f => f.name == key with
  | none =>
    simp only [hf] at h
    obtain ⟨_, -, h⟩ := bind_eq_ok.1 h
    exact .inl ⟨rfl, (Except.ok.inj h).symm⟩
  | some f =>
    simp only [hf] at h
    by_cases hseen : state.2.contains key = true
    · rw [if_pos hseen] at h
      cases h
    · rw [if_neg hseen] at h
      obtain ⟨update, hupdate, h⟩ := bind_eq_ok.1 h
      exact .inr ⟨f, update, rfl, by simpa using hseen, hupdate, (Except.ok.inj h).symm⟩

lemma Owns.exists_find? (h : Owns name r get g fields) :
    ∃ f, (fields.find? fun f => f.name == name) = some f ∧
      ∀ ⦃src d update⦄, f.read src d = .ok update →
        ∃ a, r src d = .ok a ∧ ∀ s, get (update s) = g a := by
  induction h with
  | @here set fields writes others =>
    refine ⟨field name r set, by simp [field], fun src d update hread => ?_⟩
    obtain ⟨a, ha, rfl⟩ := map_eq_ok.1 hread
    exact ⟨a, ha, writes a⟩
  | there other keeps _ ih => simpa [other] using ih

lemma Owns.keeps_of_find? (h : Owns name r get g fields) {key : String} (hne : key ≠ name)
    {f : Field σ} (hf : (fields.find? fun f => f.name == key) = some f) : f.Keeps get := by
  have hname : f.name = key := by simpa using List.find?_some hf
  have hmem := List.mem_of_find?_eq_some hf
  clear hf
  induction h with
  | here writes others =>
    obtain rfl | hmem := List.mem_cons.1 hmem
    · exact absurd hname.symm hne
    · exact (others f hmem).2
  | there other keeps _ ih =>
    obtain rfl | hmem := List.mem_cons.1 hmem
    · exact keeps
    · exact ih hmem

/-- A member with another name leaves the field alone, and so does every member once the field has
been read. -/
lemma readMember_keeps (h : Owns name r get g fields) {src : Source} {state state' : σ × List String}
    {key : String} {d : Draft} (hkey : key ≠ name ∨ name ∈ state.2)
    (hread : readMember fields src state (.ok key, d) = .ok state') :
    get state'.1 = get state.1 ∧ (name ∈ state.2 → name ∈ state'.2) := by
  obtain ⟨-, rfl⟩ | ⟨f, update, hf, hseen, hupdate, rfl⟩ := readMember_eq_ok hread
  · exact ⟨rfl, id⟩
  · have hne : key ≠ name := hkey.elim id fun hmem heq => hseen (heq ▸ hmem)
    exact ⟨h.keeps_of_find? hne hf hupdate _, List.mem_cons_of_mem _⟩

lemma foldlM_keeps (h : Owns name r get g fields) {members : List (String × Json)}
    {state state' : σ × List String} (hseen : name ∈ state.2)
    (hread : (ofMembers members).foldlM (readMember fields .value) state = .ok state') :
    get state'.1 = get state.1 := by
  induction members generalizing state with
  | nil =>
    obtain rfl := Except.ok.inj hread
    rfl
  | cons m rest ih =>
    obtain ⟨state₁, hstep, hrest⟩ := bind_eq_ok.1 hread
    obtain ⟨hget, hmem⟩ := readMember_keeps h (.inr hseen) hstep
    rw [ih (hmem hseen) hrest, hget]

lemma foldlM_shows (h : Owns name r get g fields) {members : List (String × Json)} {x : Json}
    {state state' : σ × List String} (hx : (Json.object members).member? name = some x)
    (hread : (ofMembers members).foldlM (readMember fields .value) state = .ok state') :
    Shows r get g x state'.1 := by
  induction members generalizing state with
  | nil => cases hx
  | cons m rest ih =>
    obtain ⟨state₁, hstep, hrest⟩ := bind_eq_ok.1 hread
    by_cases hname : m.1 = name
    · obtain rfl : m.2 = x := by simpa [member?, hname] using hx
      obtain ⟨f, hf, hreads⟩ := h.exists_find?
      rw [hname] at hstep
      obtain ⟨hnone, -⟩ | ⟨f', update, hf', -, hupdate, rfl⟩ := readMember_eq_ok hstep
      · rw [hf] at hnone
        cases hnone
      · obtain rfl := Option.some.inj (hf.symm.trans hf')
        obtain ⟨a, ha, hwrites⟩ := hreads hupdate
        exact ⟨a, ha, by rw [foldlM_keeps h List.mem_cons_self hrest, hwrites]⟩
    · exact ih (by simpa [member?, hname] using hx) hrest

/-- **A record holds what was written.** Whether a record is written as a map or as a list, what its
reader makes of the value of a field is what the record has there. -/
lemma record_shows (h : Owns name r get g fields) {type : String} {blank s : σ} {v x : Json}
    (hread : record type blank fields .value (ofJson v) = .ok s)
    (hx : v.fieldValue? (fields.map Field.name) name = some x) : Shows r get g x s := by
  cases v with
  | object members =>
    obtain ⟨_, hinner, hread⟩ := bind_eq_ok.1 hread
    obtain rfl := Except.ok.inj hinner
    obtain ⟨state, hmembers, hread⟩ := bind_eq_ok.1 hread
    obtain ⟨_, -, hread⟩ := bind_eq_ok.1 hread
    obtain rfl := Except.ok.inj hread
    exact foldlM_shows h hx hmembers
  | array items =>
    obtain ⟨_, hinner, hread⟩ := bind_eq_ok.1 hread
    obtain rfl := Except.ok.inj hinner
    obtain ⟨⟨s', n⟩, hitems, hread⟩ := bind_eq_ok.1 hread
    obtain rfl : s' = s := by
      by_cases hn : n < (ofItems items).length
      · simp only [if_pos hn] at hread
        cases hread
      · simp only [if_neg hn] at hread
        exact Except.ok.inj hread
    exact readInOrder_shows h hx hitems
  | null | bool | number | string => cases hx

end Record

end Json.Reader

end CmsTypings
