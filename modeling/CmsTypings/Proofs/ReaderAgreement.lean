import CmsTypings.Json.Reader
import CmsTypings.Proofs.Outcome
import Mathlib.Data.List.Nodup

/-!
Text and values read alike.

A reader walks a draft, whether the draft was scanned from text or made of a value. Here the draft
of a text is compared with the value that is kept of it. Where the draft is kept, nothing in it is
broken, nothing in it is nested too deep, and what a reader skips is sound as well; and where no
object repeats a name, the value has the very members that were written. So a reader that asks the
same questions of both gets the same answers, and every description of a type is such a reader.
-/

namespace CmsTypings.Json

/-! ### Names that are not repeated -/

namespace Draft

/-- No object in the draft writes a member name twice. -/
inductive DistinctNames : Draft → Prop where
  | null : DistinctNames .null
  | bool (b : Bool) : DistinctNames (.bool b)
  | number (kept : Except Fault Number) : DistinctNames (.number kept)
  | string (kept : Except Fault String) : DistinctNames (.string kept)
  | broken (stop : Stop) : DistinctNames (.broken stop)
  | array {items : List Draft} {stop : Option Stop} (each : ∀ d ∈ items, DistinctNames d) :
      DistinctNames (.array items stop)
  | object {members : List (Except Fault String × Draft)} {stop : Option Stop}
      (nodup : (members.map Prod.fst).Nodup) (each : ∀ m ∈ members, DistinctNames m.2) :
      DistinctNames (.object members stop)

lemma ofItems_eq_map (items : List Json) : ofItems items = items.map ofJson := by
  induction items with
  | nil => rfl
  | cons v rest ih => rw [ofItems, ih, List.map_cons]

lemma ofMembers_eq_map (members : List (String × Json)) :
    ofMembers members = members.map fun m => (.ok m.1, ofJson m.2) := by
  induction members with
  | nil => rfl
  | cons m rest ih => rw [ofMembers, ih, List.map_cons]

end Draft

namespace Reader

open Draft

/-! ### One layer of a kept draft -/

/-- A draft without repeated names, and the value that is kept of it: what their outermost layers
have in common. -/
inductive Kept (src : Source) : Draft → Json → Prop where
  | null : Kept src .null .null
  | bool (b : Bool) : Kept src (.bool b) (.bool b)
  | number (n : Number) : Kept src (.number (.ok n)) (.number n)
  | string (s : String) : Kept src (.string (.ok s)) (.string s)
  | array {inner : Source} {items : List Draft} {values : List Json}
      (entered : enter src = .ok inner)
      (each : List.Forall₂ (fun d v => value inner d = .ok v ∧ d.DistinctNames) items values) :
      Kept src (.array items none) (.array values)
  | object {inner : Source} {members : List (Except Fault String × Draft)}
      {values : List (String × Json)} (entered : enter src = .ok inner)
      (each : List.Forall₂
        (fun m v => m.1 = .ok v.1 ∧ value inner m.2 = .ok v.2 ∧ m.2.DistinctNames) members values)
      (nodup : (values.map Prod.fst).Nodup) :
      Kept src (.object members none) (.object values)

lemma liftFault_eq_ok {α : Type} {x : Except Fault α} {a : α} (h : liftFault x = .ok a) :
    x = .ok a := by
  cases x with
  | error f => cases h
  | ok b => exact congrArg _ (Except.ok.inj h)

lemma enter_value : enter .value = .ok .value := rfl

lemma closed_eq_ok {stop : Option Stop} {u : Unit} (h : closed stop = .ok u) : stop = none := by
  cases stop with
  | none => rfl
  | some s => cases h

lemma foldl_putEntry {α : Type} {acc values : List (String × α)}
    (h : ((acc ++ values).map Prod.fst).Nodup) :
    values.foldl (fun ms m => putEntry m.1 m.2 ms) acc = acc ++ values := by
  induction values generalizing acc with
  | nil => simp
  | cons m rest ih =>
    have hm : m.1 ∉ acc.map Prod.fst := by
      rw [List.map_append, List.map_cons] at h
      exact fun hmem => (List.nodup_append'.1 h).2.2 hmem List.mem_cons_self
    rw [List.foldl_cons, putEntry_of_not_mem hm, ih (by simpa using h)]
    simp

section Layer

variable {src : Source}

lemma forall₂_of_valueItems {items : List Draft} {values : List Json}
    (h : valueItems src items = .ok values) (hd : ∀ d ∈ items, d.DistinctNames) :
    List.Forall₂ (fun d v => value src d = .ok v ∧ d.DistinctNames) items values := by
  induction items generalizing values with
  | nil =>
    obtain rfl := Except.ok.inj h
    exact .nil
  | cons d rest ih =>
    obtain ⟨hhead, hrest⟩ := List.forall_mem_cons.1 hd
    obtain ⟨v, hv, h⟩ := bind_eq_ok.1 h
    obtain ⟨vs, hvs, h⟩ := bind_eq_ok.1 h
    obtain rfl := Except.ok.inj h
    exact .cons ⟨hv, hhead⟩ (ih hvs hrest)

lemma forall₂_of_valueMembers {members : List (Except Fault String × Draft)}
    {values : List (String × Json)} (h : valueMembers src members = .ok values)
    (hd : ∀ m ∈ members, m.2.DistinctNames) :
    List.Forall₂ (fun m v => m.1 = .ok v.1 ∧ value src m.2 = .ok v.2 ∧ m.2.DistinctNames)
      members values := by
  induction members generalizing values with
  | nil =>
    obtain rfl := Except.ok.inj h
    exact .nil
  | cons m rest ih =>
    obtain ⟨hhead, hrest⟩ := List.forall_mem_cons.1 hd
    obtain ⟨k, hk, h⟩ := bind_eq_ok.1 h
    obtain ⟨v, hv, h⟩ := bind_eq_ok.1 h
    obtain ⟨vs, hvs, h⟩ := bind_eq_ok.1 h
    obtain rfl := Except.ok.inj h
    exact .cons ⟨liftFault_eq_ok hk, hv, hhead⟩ (ih hvs hrest)

lemma nodup_of_valueMembers {members : List (Except Fault String × Draft)} {stop : Option Stop}
    {values : List (String × Json)} (h : valueMembers src members = .ok values)
    (hd : (Draft.object members stop).DistinctNames) : (values.map Prod.fst).Nodup := by
  obtain ⟨hnodup, hmembers⟩ : (members.map Prod.fst).Nodup ∧ ∀ m ∈ members, m.2.DistinctNames := by
    cases hd with
    | object nodup each => exact ⟨nodup, each⟩
  have hkeys : members.map Prod.fst = (values.map Prod.fst).map .ok := by
    rw [List.map_map, ← List.forall₂_eq_eq_eq, List.forall₂_map_left_iff, List.forall₂_map_right_iff]
    exact (forall₂_of_valueMembers h hmembers).imp fun _ _ h => h.1
  exact List.Nodup.of_map _ (hkeys ▸ hnodup)

lemma kept_of_value {d : Draft} {v : Json} (h : value src d = .ok v) (hd : d.DistinctNames) :
    Kept src d v := by
  cases d with
  | null =>
    obtain rfl := Except.ok.inj h
    exact .null
  | bool b =>
    obtain rfl := Except.ok.inj h
    exact .bool b
  | number kept =>
    obtain ⟨n, hn, h⟩ := bind_eq_ok.1 h
    obtain rfl := Except.ok.inj h
    obtain rfl := liftFault_eq_ok hn
    exact .number n
  | string kept =>
    obtain ⟨s, hs, h⟩ := bind_eq_ok.1 h
    obtain rfl := Except.ok.inj h
    obtain rfl := liftFault_eq_ok hs
    exact .string s
  | array items stop =>
    obtain ⟨inner, hinner, h⟩ := bind_eq_ok.1 h
    obtain ⟨values, hvalues, h⟩ := bind_eq_ok.1 h
    obtain ⟨_, hstop, h⟩ := bind_eq_ok.1 h
    obtain rfl := Except.ok.inj h
    obtain rfl := closed_eq_ok hstop
    cases hd with
    | array each => exact .array hinner (forall₂_of_valueItems hvalues each)
  | object members stop =>
    obtain ⟨inner, hinner, h⟩ := bind_eq_ok.1 h
    obtain ⟨values, hvalues, h⟩ := bind_eq_ok.1 h
    obtain ⟨_, hstop, h⟩ := bind_eq_ok.1 h
    obtain rfl := Except.ok.inj h
    obtain rfl := closed_eq_ok hstop
    have hnodup := nodup_of_valueMembers hvalues hd
    rw [foldl_putEntry (by simpa using hnodup), List.nil_append]
    cases hd with
    | object nodup each => exact .object hinner (forall₂_of_valueMembers hvalues each) hnodup
  | broken stop => cases h

end Layer

/-! ### What is kept can be skipped, and kept again -/

mutual

lemma skip_of_value {src : Source} : ∀ {d : Draft} {v : Json}, value src d = .ok v →
    skip d = .ok ()
  | .null, _, _ | .bool _, _, _ | .number _, _, _ | .string _, _, _ => rfl
  | .array items stop, _, h => by
    obtain ⟨inner, -, h⟩ := bind_eq_ok.1 h
    obtain ⟨values, hvalues, h⟩ := bind_eq_ok.1 h
    obtain ⟨_, hstop, -⟩ := bind_eq_ok.1 h
    obtain rfl := closed_eq_ok hstop
    rw [skip, skipItems_of_value hvalues]
    rfl
  | .object members stop, _, h => by
    obtain ⟨inner, -, h⟩ := bind_eq_ok.1 h
    obtain ⟨values, hvalues, h⟩ := bind_eq_ok.1 h
    obtain ⟨_, hstop, -⟩ := bind_eq_ok.1 h
    obtain rfl := closed_eq_ok hstop
    rw [skip, skipMembers_of_value hvalues]
    rfl
  | .broken stop, _, h => by cases h

lemma skipItems_of_value {src : Source} : ∀ {items : List Draft} {values : List Json},
    valueItems src items = .ok values → skipItems items = .ok ()
  | [], _, _ => rfl
  | d :: rest, _, h => by
    obtain ⟨v, hv, h⟩ := bind_eq_ok.1 h
    obtain ⟨vs, hvs, -⟩ := bind_eq_ok.1 h
    rw [skipItems, skip_of_value hv]
    exact skipItems_of_value hvs

lemma skipMembers_of_value {src : Source} :
    ∀ {members : List (Except Fault String × Draft)} {values : List (String × Json)},
      valueMembers src members = .ok values → skipMembers members = .ok ()
  | [], _, _ => rfl
  | (key, d) :: rest, _, h => by
    obtain ⟨k, -, h⟩ := bind_eq_ok.1 h
    obtain ⟨v, hv, h⟩ := bind_eq_ok.1 h
    obtain ⟨vs, hvs, -⟩ := bind_eq_ok.1 h
    rw [skipMembers, skip_of_value hv]
    exact skipMembers_of_value hvs

end

mutual

lemma skip_ofJson : ∀ v : Json, skip (ofJson v) = .ok ()
  | .null | .bool _ | .number _ | .string _ => rfl
  | .array items => by
    rw [ofJson, skip, skipItems_ofItems items]
    rfl
  | .object members => by
    rw [ofJson, skip, skipMembers_ofMembers members]
    rfl

lemma skipItems_ofItems : ∀ items : List Json, skipItems (ofItems items) = .ok ()
  | [] => rfl
  | v :: rest => by
    rw [ofItems, skipItems, skip_ofJson v]
    exact skipItems_ofItems rest

lemma skipMembers_ofMembers :
    ∀ members : List (String × Json), skipMembers (ofMembers members) = .ok ()
  | [] => rfl
  | (name, v) :: rest => by
    rw [ofMembers, skipMembers, skip_ofJson v]
    exact skipMembers_ofMembers rest

end

mutual

/-- A value that is kept of distinct names has distinct names. -/
lemma distinctNames_ofJson {src : Source} : ∀ {d : Draft} {v : Json}, value src d = .ok v →
    d.DistinctNames → (ofJson v).DistinctNames
  | .null, _, h, hd | .bool _, _, h, hd => by
    obtain rfl := Except.ok.inj h
    exact hd
  | .number _, _, h, _ => by
    obtain ⟨_, -, h⟩ := bind_eq_ok.1 h
    obtain rfl := Except.ok.inj h
    exact .number _
  | .string _, _, h, _ => by
    obtain ⟨_, -, h⟩ := bind_eq_ok.1 h
    obtain rfl := Except.ok.inj h
    exact .string _
  | .array items stop, _, h, .array each => by
    obtain ⟨inner, -, h⟩ := bind_eq_ok.1 h
    obtain ⟨values, hvalues, h⟩ := bind_eq_ok.1 h
    obtain ⟨_, -, h⟩ := bind_eq_ok.1 h
    obtain rfl := Except.ok.inj h
    exact .array (distinctNames_ofItems hvalues each)
  | .object members stop, _, h, hd@(.object _ each) => by
    obtain ⟨inner, -, h⟩ := bind_eq_ok.1 h
    obtain ⟨values, hvalues, h⟩ := bind_eq_ok.1 h
    obtain ⟨_, -, h⟩ := bind_eq_ok.1 h
    obtain rfl := Except.ok.inj h
    have hnodup := nodup_of_valueMembers hvalues hd
    rw [foldl_putEntry (by simpa using hnodup), List.nil_append]
    have hkeys : (ofMembers values).map Prod.fst = (values.map Prod.fst).map .ok := by
      rw [ofMembers_eq_map, List.map_map, List.map_map]
      rfl
    refine .object ?_ (distinctNames_ofMembers hvalues each)
    rw [hkeys]
    exact hnodup.map fun _ _ => Except.ok.inj
  | .broken stop, _, h, _ => by cases h

lemma distinctNames_ofItems {src : Source} : ∀ {items : List Draft} {values : List Json},
    valueItems src items = .ok values → (∀ d ∈ items, d.DistinctNames) →
      ∀ d ∈ ofItems values, d.DistinctNames
  | [], _, h, _ => by
    obtain rfl := Except.ok.inj h
    exact fun _ hd => absurd hd List.not_mem_nil
  | d :: rest, _, h, hd => by
    obtain ⟨hhead, hrest⟩ := List.forall_mem_cons.1 hd
    obtain ⟨v, hv, h⟩ := bind_eq_ok.1 h
    obtain ⟨vs, hvs, h⟩ := bind_eq_ok.1 h
    obtain rfl := Except.ok.inj h
    exact List.forall_mem_cons.2 ⟨distinctNames_ofJson hv hhead, distinctNames_ofItems hvs hrest⟩

lemma distinctNames_ofMembers {src : Source} :
    ∀ {members : List (Except Fault String × Draft)} {values : List (String × Json)},
      valueMembers src members = .ok values → (∀ m ∈ members, m.2.DistinctNames) →
        ∀ m ∈ ofMembers values, m.2.DistinctNames
  | [], _, h, _ => by
    obtain rfl := Except.ok.inj h
    exact fun _ hm => absurd hm List.not_mem_nil
  | (key, d) :: rest, _, h, hd => by
    obtain ⟨hhead, hrest⟩ := List.forall_mem_cons.1 hd
    obtain ⟨k, -, h⟩ := bind_eq_ok.1 h
    obtain ⟨v, hv, h⟩ := bind_eq_ok.1 h
    obtain ⟨vs, hvs, h⟩ := bind_eq_ok.1 h
    obtain rfl := Except.ok.inj h
    exact List.forall_mem_cons.2 ⟨distinctNames_ofJson hv hhead, distinctNames_ofMembers hvs hrest⟩

end

mutual

/-- A value with distinct names is kept as it is. -/
lemma value_ofJson : ∀ {v : Json}, (ofJson v).DistinctNames → value .value (ofJson v) = .ok v
  | .null, _ | .bool _, _ | .number _, _ | .string _, _ => rfl
  | .array values, .array each => by
    rw [ofJson, value, enter_value, ok_bind, valueItems_ofItems each]
    rfl
  | .object values, h@(.object _ each) => by
    have hvalues := valueMembers_ofMembers each
    have hwritten : values.foldl (fun ms m => putEntry m.1 m.2 ms) [] = values :=
      foldl_putEntry (by simpa using nodup_of_valueMembers hvalues h)
    rw [ofJson, value, enter_value, ok_bind, hvalues, ok_bind, hwritten]
    rfl

lemma valueItems_ofItems : ∀ {values : List Json}, (∀ d ∈ ofItems values, d.DistinctNames) →
    valueItems .value (ofItems values) = .ok values
  | [], _ => rfl
  | v :: rest, h => by
    obtain ⟨hhead, hrest⟩ := List.forall_mem_cons.1 h
    rw [ofItems, valueItems, value_ofJson hhead, ok_bind, valueItems_ofItems hrest]
    rfl

lemma valueMembers_ofMembers : ∀ {values : List (String × Json)},
    (∀ m ∈ ofMembers values, m.2.DistinctNames) →
      valueMembers .value (ofMembers values) = .ok values
  | [], _ => rfl
  | (name, v) :: rest, h => by
    obtain ⟨hhead, hrest⟩ := List.forall_mem_cons.1 h
    rw [ofMembers, valueMembers, liftFault, ok_bind, value_ofJson hhead, ok_bind,
      valueMembers_ofMembers hrest]
    rfl

end

/-! ### Readers that agree -/

/-- A reader makes the same of a draft and of the value that is kept of it. -/
def Agrees {α : Type} (r : Reader α) : Prop :=
  ∀ ⦃src : Source⦄ ⦃d : Draft⦄ ⦃v : Json⦄, value src d = .ok v → d.DistinctNames →
    (r src d).toOption = (r .value (ofJson v)).toOption

section Plain

variable {α β : Type} {r : Reader α}

lemma agrees_map (f : α → β) (h : Agrees r) : Agrees (r.map f) := by
  intro src d v hv hd
  rw [map, map, toOption_map, toOption_map, h hv hd]

lemma agrees_string : Agrees string := by
  intro src d v hv hd
  cases kept_of_value hv hd <;> rfl

lemma agrees_bool : Agrees bool := by
  intro src d v hv hd
  cases kept_of_value hv hd <;> rfl

/-- A null is absence on both sides. -/
lemma agrees_option (h : Agrees r) : Agrees (option r) := by
  intro src d v hv hd
  have hagree := h hv hd
  cases kept_of_value hv hd with
  | null => rfl
  | bool | number | string | array | object =>
    simp only [ofJson, option, toOption_map] at hagree ⊢
    rw [hagree]

lemma agrees_list (h : Agrees r) : Agrees (list r) := by
  intro src d v hv hd
  cases kept_of_value hv hd with
  | @array inner items values entered each =>
    have hitems : (items.mapM (r inner)).toOption = ((ofItems values).mapM (r .value)).toOption := by
      rw [ofItems_eq_map]
      exact toOption_mapM (List.forall₂_map_right_iff.2 (each.imp fun _ _ h' => h h'.1 h'.2))
    simp only [list, ofJson, entered, enter_value, ok_bind]
    exact toOption_bind_congr hitems fun _ => rfl
  | null | bool | number | string | object => rfl

lemma agrees_orderedMap (h : Agrees r) : Agrees (orderedMap r) := by
  intro src d v hv hd
  cases kept_of_value hv hd with
  | @object inner members values entered each nodup =>
    simp only [orderedMap, ofJson, entered, enter_value, ok_bind, ofMembers_eq_map]
    refine toOption_bind_congr (toOption_mapM ?_) fun _ => rfl
    refine List.forall₂_map_right_iff.2 (each.imp fun m v h' => ?_)
    rw [h'.1]
    exact toOption_bind_congr rfl fun _ => toOption_bind_congr (h h'.2.1 h'.2.2) fun _ => rfl
  | null | bool | number | string | array => rfl

lemma agrees_value : Agrees value := by
  intro src d v hv hd
  rw [hv, value_ofJson (distinctNames_ofJson hv hd)]

end Plain

/-! ### Records -/

section Record

variable {α σ : Type} {fields : List (Field σ)} {inner : Source}

lemma agrees_field {name : String} {r : Reader α} {set : α → σ → σ} (h : Agrees r) :
    Agrees (field name r set).read :=
  agrees_map set h

/-- A member changes the record alike on both sides, or is skipped on both. -/
lemma readMember_agrees (hfields : ∀ f ∈ fields, Agrees f.read) {key : String} {d : Draft} {v : Json}
    (hvalue : value inner d = .ok v) (hd : d.DistinctNames) (state : σ × List String) :
    (readMember fields inner state (.ok key, d)).toOption =
      (readMember fields .value state (.ok key, ofJson v)).toOption := by
  simp only [readMember]
  refine toOption_bind_congr rfl fun key => ?_
  cases hf : fields.find? fun f => f.name == key with
  | none => simp only [skip_of_value hvalue, skip_ofJson]
  | some f =>
    have hread := hfields f (List.mem_of_find?_eq_some hf) hvalue hd
    by_cases hseen : state.2.contains key = true
    · simp only [hseen]
      rfl
    · simp only [hseen]
      exact toOption_bind_congr hread fun _ => rfl

lemma foldlM_readMember_agrees (hfields : ∀ f ∈ fields, Agrees f.read)
    {members : List (Except Fault String × Draft)} {values : List (String × Json)}
    (each : List.Forall₂
      (fun m v => m.1 = .ok v.1 ∧ value inner m.2 = .ok v.2 ∧ m.2.DistinctNames) members values)
    (state : σ × List String) :
    (members.foldlM (readMember fields inner) state).toOption =
      ((ofMembers values).foldlM (readMember fields .value) state).toOption := by
  induction each generalizing state with
  | nil => rfl
  | @cons m v members values h _ ih =>
    obtain ⟨key, d⟩ := m
    obtain rfl : key = .ok v.1 := h.1
    rw [ofMembers, List.foldlM_cons, List.foldlM_cons]
    exact toOption_bind_congr (readMember_agrees hfields h.2.1 h.2.2 state) ih

lemma readInOrder_agrees (hfields : ∀ f ∈ fields, Agrees f.read) {items : List Draft}
    {values : List Json}
    (each : List.Forall₂ (fun d v => value inner d = .ok v ∧ d.DistinctNames) items values)
    (acc : σ) :
    (readInOrder inner acc fields items).toOption =
      (readInOrder .value acc fields (ofItems values)).toOption := by
  induction fields generalizing acc items values with
  | nil => cases each <;> rfl
  | cons f fields ih =>
    cases each with
    | nil => rfl
    | cons h each =>
      have hread := hfields f List.mem_cons_self h.1 h.2
      have hrest := fun acc => ih (fun g hg => hfields g (List.mem_cons_of_mem _ hg)) each acc
      exact toOption_bind_congr hread fun _ => toOption_bind_congr (hrest _) fun _ => rfl

/-- A record is read alike, whether it is written as a map or as a list. -/
lemma agrees_record (type : String) (blank : σ) (hfields : ∀ f ∈ fields, Agrees f.read) :
    Agrees (record type blank fields) := by
  intro src d v hv hd
  cases kept_of_value hv hd with
  | @object inner members values entered each nodup =>
    simp only [record, ofJson, entered, enter_value, ok_bind]
    exact toOption_bind_congr (foldlM_readMember_agrees hfields each _) fun _ => rfl
  | @array inner items values entered each =>
    have hlength : items.length = (ofItems values).length := by
      rw [ofItems_eq_map, List.length_map]
      exact each.length_eq
    simp only [record, ofJson, entered, enter_value, ok_bind]
    refine toOption_bind_congr (readInOrder_agrees hfields each _) fun r => ?_
    -- the two sides fault a list that goes on in different ways, but both do
    rw [hlength]
    by_cases hn : r.2 < (ofItems values).length
    · simp only [hn]
      cases src <;> rfl
    · simp only [hn]
      rfl
  | null | bool | number | string => rfl

end Record

end Reader

end CmsTypings.Json
