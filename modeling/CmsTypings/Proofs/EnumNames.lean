import CmsTypings.Proofs.References

/-!
The names of enumerations.

An enumeration is named after its schema and its attribute, with an underscore between them, and
no one looks whether that name is free. What can go wrong is settled by the places of underscores:
in a schema's name and in an attribute's name they stand before digits only. So names of one
schema meet when its attributes have one name in Pascal case, and names of two schemas meet only
where an attribute's name begins with a number that could as well end the name of its schema.
-/

namespace CmsTypings

open Naming Text

lemma nodup_eraseDups {α : Type} [BEq α] [LawfulBEq α] (l : List α) : l.eraseDups.Nodup := by
  -- what is left of the tail is shorter, but it is not the tail: the induction is on the length
  cases l with
  | nil => exact List.nodup_nil
  | cons a l =>
    rw [List.eraseDups_cons, List.nodup_cons, List.mem_eraseDups]
    exact ⟨by simp, nodup_eraseDups (l.filter fun b => !b == a)⟩
termination_by l.length
decreasing_by exact Nat.lt_succ_of_le (List.length_filter_le _ _)

/-- Whether a name begins with a digit. -/
def DigitFirst (name : String) : Prop := name.toList.head?.any Char.isDigit = true

lemma DigitFirst.append {s : String} (h : DigitFirst s) (t : String) : DigitFirst (s ++ t) := by
  unfold DigitFirst at *
  cases hs : s.toList with
  | nil => simp [hs] at h
  | cons d ds => simpa [hs] using h

/-! ### Names with an underscore between two parts -/

lemma toList_enumName (owner property : String) :
    (enumName owner property).toList = owner.toList ++ '_' :: (pascalCase property).toList := by
  simp [enumName]

lemma pascalCase_eq_of_enumName_eq {owner n n' : String}
    (h : enumName owner n = enumName owner n') : pascalCase n = pascalCase n' := by
  have hl := congrArg String.toList h
  rw [toList_enumName, toList_enumName] at hl
  have hcons := List.append_cancel_left hl
  exact String.toList_inj.1 (List.cons.inj hcons).2

lemma enumName_not_reserved (owner property : String) :
    enumName owner property ∉ reservedNames := by
  intro h
  have hplain : ∀ n ∈ reservedNames, '_' ∉ n.toList := by decide
  apply hplain _ h
  simp [toList_enumName]

/-- A name that reads on behind an underscore reads on with a digit. -/
lemma digitFirst_of_numbered {name front back : String} (h : Numbered name.toList)
    (heq : name = front ++ "_" ++ back) : DigitFirst back := by
  apply h front.toList back.toList
  simp [heq]

/-- What the longer first part has over the shorter one begins with the underscore. -/
lemma exists_split {owner owner' n n' : String} {u : List Char} (hne : owner ≠ owner')
    (hu : owner'.toList = owner.toList ++ u)
    (hr : '_' :: (pascalCase n).toList = u ++ '_' :: (pascalCase n').toList) :
    ∃ w, owner' = owner ++ "_" ++ w ∧ pascalCase n = w ++ "_" ++ pascalCase n' := by
  cases u with
  | nil =>
    rw [List.append_nil] at hu
    exact absurd (String.toList_inj.1 hu.symm) hne
  | cons d u =>
    rw [List.cons_append, List.cons.injEq] at hr
    obtain ⟨rfl, hr⟩ := hr
    refine ⟨String.ofList u, String.toList_inj.1 ?_, String.toList_inj.1 ?_⟩
    · simp [hu]
    · simp [hr]

/-- Two names with an underscore agree only if the longer first part holds an underscore where
the shorter one ends. -/
lemma enumName_eq_cases {owner owner' n n' : String} (hne : owner ≠ owner')
    (h : enumName owner n = enumName owner' n') :
    (∃ w, owner' = owner ++ "_" ++ w ∧ pascalCase n = w ++ "_" ++ pascalCase n') ∨
      (∃ w, owner = owner' ++ "_" ++ w ∧ pascalCase n' = w ++ "_" ++ pascalCase n) := by
  have hl := congrArg String.toList h
  rw [toList_enumName, toList_enumName] at hl
  rcases List.append_eq_append_iff.1 hl with ⟨u, hu, hr⟩ | ⟨u, hu, hr⟩
  · exact Or.inl (exists_split hne hu hr)
  · exact Or.inr (exists_split hne.symm hu hr)

/-- A number in front of an attribute passes for the end of a schema's name. -/
example : enumName "Article" "1 2" = enumName "Article_1" "2" := by decide

namespace Conversion

/-- The names that the enumerations of a module declare, one for each block. -/
def enumNames (c : Conversion) : List String :=
  c.interfaces.flatMap fun i => i.enums.map (·.name)

/-- No enumeration shares its name with another declaration of the module. -/
structure EnumsApart (c : Conversion) : Prop where
  distinct : c.enumNames.Nodup
  interfaces : ∀ n ∈ c.enumNames, n ∉ c.interfaces.map (·.name)
  helpers : ∀ n ∈ c.enumNames, n ∉ reservedNames

/-- Whether the attribute `n` of an entry becomes an enumeration of the given values. -/
def Enumerates (c : Conversion) (e : Entry) (n : String) (values : List String) : Prop :=
  e ∈ c.roster.entries ∧ Member.isMediaFormats e n = false ∧
    ∃ s a, e.schema = some s ∧ (n, a) ∈ s.attributes.entries ∧ a.enumValues = some values

/-- The ways in which an enumeration comes by a name that is taken. -/
inductive Clash (c : Conversion) : Prop
  /-- Two attributes of one schema have one name in Pascal case, but not the same values. -/
  | attributes {e : Entry} {n n' : String} {values values' : List String}
      (h : c.Enumerates e n values) (h' : c.Enumerates e n' values')
      (hname : pascalCase n = pascalCase n') (hvalues : values ≠ values')
  /-- A number at the front of an attribute makes the name of another schema. -/
  | interface {e f : Entry} {n : String} {values : List String}
      (h : c.Enumerates e n values) (hf : f ∈ c.roster.entries) (hs : f.schema.isSome = true)
      (hd : DigitFirst (pascalCase n)) (hname : f.name = e.name ++ "_" ++ pascalCase n)
  /-- Numbers at the front of an attribute make the name of another schema and of an attribute
  that this schema has. -/
  | schemas {e f : Entry} {n n' w : String} {values values' : List String}
      (h : c.Enumerates e n values) (h' : c.Enumerates f n' values')
      (hd : DigitFirst (pascalCase n)) (hname : f.name = e.name ++ "_" ++ w)
      (hattr : pascalCase n = w ++ "_" ++ pascalCase n')

variable {dump : Dump} {settings : Settings} {c : Conversion} {e f : Entry} {i j : Interface}
  {n n' name : String} {values values' : List String}

/-! ### Blocks and their attributes -/

/-- The block of an enumeration stands in the interface of its entry. -/
lemma exists_block (h : c.Enumerates e n values) :
    ∃ i ∈ c.interfaces, i.name = e.name ∧
      (⟨enumName e.name n, values⟩ : EnumBlock) ∈ i.enums := by
  obtain ⟨he, hf, s, a, hs, ha, hv⟩ := h
  refine ⟨_, ofSchema_mem he hs, rfl, ?_⟩
  exact Interface.mem_enums_iff.2 ⟨n, a, ha, hf, hv, rfl⟩

lemma exists_enumerates {b : EnumBlock} (hi : i ∈ c.interfaces) (hb : b ∈ i.enums) :
    ∃ e n, i.name = e.name ∧ c.Enumerates e n b.values ∧ b.name = enumName e.name n := by
  obtain ⟨e, he, s, hs, rfl⟩ := mem_interfaces_iff.1 hi
  obtain ⟨n, a, ha, hf, hv, hn⟩ := Interface.mem_enums_iff.1 hb
  exact ⟨e, n, rfl, ⟨he, hf, s, a, hs, ha, hv⟩, hn⟩

lemma mem_enumNames_iff :
    name ∈ c.enumNames ↔ ∃ e n values, c.Enumerates e n values ∧ name = enumName e.name n := by
  simp only [enumNames, List.mem_flatMap, List.mem_map]
  constructor
  · rintro ⟨i, hi, b, hb, rfl⟩
    obtain ⟨e, n, -, h, hn⟩ := exists_enumerates hi hb
    exact ⟨e, n, b.values, h, hn⟩
  · rintro ⟨e, n, values, h, rfl⟩
    obtain ⟨i, hi, -, hb⟩ := exists_block h
    exact ⟨i, hi, _, hb, rfl⟩

lemma nodup_interfaceNames (dump : Dump) (settings : Settings) :
    ((ofDump dump settings).interfaces.map (·.name)).Nodup := by
  have hsub : ((ofDump dump settings).interfaces.map (·.name)).Sublist
      ((ofDump dump settings).roster.entries.map (·.name)) := by
    simp only [interfaces, assembled, List.filterMap_map, Function.id_comp]
    refine map_filterMap_sublist (fun e i h => ?_) _
    obtain ⟨s, -, rfl⟩ := ofEntry_eq_some_iff.1 h
    rfl
  exact (Roster.nodup_names _ _ _).sublist hsub

/-! ### A clash is the only way to share a name -/

/-- Where the names are distinct, a name belongs to one block. -/
lemma eq_of_block_name_eq {b b' : EnumBlock} (hd : c.enumNames.Nodup) (hi : i ∈ c.interfaces)
    (hj : j ∈ c.interfaces) (hb : b ∈ i.enums) (hb' : b' ∈ j.enums) (hn : b.name = b'.name) :
    i = j ∧ b = b' := by
  obtain ⟨hinner, hpair⟩ := List.nodup_flatMap.1 hd
  have hbi : b.name ∈ i.enums.map (·.name) := List.mem_map_of_mem hb
  have hbj : b.name ∈ j.enums.map (·.name) := hn ▸ List.mem_map_of_mem hb'
  have hij : i = j := by
    by_contra hne
    have hsymm : Std.Symm (Function.onFun List.Disjoint fun i : Interface =>
      i.enums.map (·.name)) := ⟨fun _ _ h _ hx hy => h hy hx⟩
    exact hpair.forall hi hj hne hbi hbj
  subst hij
  exact ⟨rfl, List.inj_on_of_nodup_map (hinner i hi) hb hb' hn⟩

lemma not_apart_of_clash (h : Clash c) : ¬ c.EnumsApart := by
  intro hap
  cases h with
  | @attributes e n n' values values' h h' hname hvalues =>
    obtain ⟨i, hi, -, hb⟩ := exists_block h
    obtain ⟨j, hj, -, hb'⟩ := exists_block h'
    have hn : enumName e.name n = enumName e.name n' := by rw [enumName, enumName, hname]
    obtain ⟨-, heq⟩ := eq_of_block_name_eq hap.distinct hi hj hb hb' hn
    exact hvalues (EnumBlock.mk.inj heq).2
  | @interface e f n values h hf hs hd hname =>
    have hmem : enumName e.name n ∈ c.enumNames := mem_enumNames_iff.2 ⟨e, n, values, h, rfl⟩
    obtain ⟨s, hs⟩ := Option.isSome_iff_exists.1 hs
    exact hap.interfaces _ hmem (List.mem_map.2 ⟨_, ofSchema_mem hf hs, hname⟩)
  | @schemas e f n n' w values values' h h' hd hname hattr =>
    obtain ⟨i, hi, hin, hb⟩ := exists_block h
    obtain ⟨j, hj, hjn, hb'⟩ := exists_block h'
    have hn : enumName e.name n = enumName f.name n' := by
      simp only [enumName, hname, hattr, String.append_assoc]
    obtain ⟨rfl, -⟩ := eq_of_block_name_eq hap.distinct hi hj hb hb' hn
    have hlen := congrArg String.length (hin.symm.trans (hjn.trans hname))
    have hone : "_".length = 1 := rfl
    rw [String.length_append, String.length_append] at hlen
    omega

/-- One name of two schemas' enumerations, seen from the schema with the shorter name. -/
lemma clash_of_split {w : String} (h : (ofDump dump settings).Enumerates e n values)
    (h' : (ofDump dump settings).Enumerates f n' values') (hname : f.name = e.name ++ "_" ++ w)
    (hattr : pascalCase n = w ++ "_" ++ pascalCase n') : Clash (ofDump dump settings) := by
  have hw : DigitFirst w := digitFirst_of_numbered (Roster.numbered_name h'.1) hname
  refine Clash.schemas h h' ?_ hname hattr
  rw [hattr, String.append_assoc]
  exact hw.append _

lemma enumNames_nodup (h : ¬ Clash (ofDump dump settings)) :
    (ofDump dump settings).enumNames.Nodup := by
  refine List.nodup_flatMap.2 ⟨fun i hi => ?_, ?_⟩
  · -- the blocks of one schema are distinct, so two of one name differ in their values
    obtain ⟨e, he, s, hs, rfl⟩ := mem_interfaces_iff.1 hi
    refine List.Nodup.map_on (fun b hb b' hb' hn => ?_) (nodup_eraseDups _)
    obtain ⟨n, a, ha, hf, hv, hbn⟩ := Interface.mem_enums_iff.1 hb
    obtain ⟨n', a', ha', hf', hv', hbn'⟩ := Interface.mem_enums_iff.1 hb'
    have hname := pascalCase_eq_of_enumName_eq (hbn.symm.trans (hn.trans hbn'))
    have hvalues : b.values = b'.values := by
      by_contra hne
      exact h (Clash.attributes ⟨he, hf, s, a, hs, ha, hv⟩ ⟨he, hf', s, a', hs, ha', hv'⟩
        hname hne)
    cases b
    cases b'
    simp_all
  · have hnames := List.pairwise_map.1 (nodup_interfaceNames dump settings)
    refine hnames.imp_of_mem fun hi hj hne => ?_
    intro x hx hx'
    obtain ⟨b, hb, rfl⟩ := List.mem_map.1 hx
    obtain ⟨b', hb', hn⟩ := List.mem_map.1 hx'
    obtain ⟨e, n, hie, he, hbn⟩ := exists_enumerates hi hb
    obtain ⟨f, n', hjf, hf, hbn'⟩ := exists_enumerates hj hb'
    rw [hie, hjf] at hne
    rw [hbn, hbn'] at hn
    rcases enumName_eq_cases hne hn.symm with ⟨w, hname, hattr⟩ | ⟨w, hname, hattr⟩
    · exact h (clash_of_split he hf hname hattr)
    · exact h (clash_of_split hf he hname hattr)

lemma enumName_not_interface (h : ¬ Clash (ofDump dump settings))
    (he : (ofDump dump settings).Enumerates e n values) :
    enumName e.name n ∉ (ofDump dump settings).interfaces.map (·.name) := by
  intro hm
  obtain ⟨i, hi, hn⟩ := List.mem_map.1 hm
  obtain ⟨f, hf, s, hs, rfl⟩ := mem_interfaces_iff.1 hi
  have hd : DigitFirst (pascalCase n) := digitFirst_of_numbered (Roster.numbered_name hf) hn
  exact h (Clash.interface he hf (by simp [hs]) hd hn)

/-- **When enumerations share a name.** The names of the enumerations of a module are distinct, and
apart from the names of its interfaces and of the helpers, exactly when no clash is in its
schemas. -/
theorem enumsApart_iff (dump : Dump) (settings : Settings) :
    (ofDump dump settings).EnumsApart ↔ ¬ Clash (ofDump dump settings) := by
  refine ⟨fun hap h => not_apart_of_clash h hap, fun h => ⟨enumNames_nodup h, ?_, ?_⟩⟩
  · intro name hn
    obtain ⟨e, n, values, he, rfl⟩ := mem_enumNames_iff.1 hn
    exact enumName_not_interface h he
  · intro name hn
    obtain ⟨e, n, values, -, rfl⟩ := mem_enumNames_iff.1 hn
    exact enumName_not_reserved _ _

/-- A content type with two attributes that Pascal case does not tell apart. -/
def twoStatuses : Dump where
  contentTypes := .ofList [("api::article.article",
    some { singularName := some "article"
           attributes := .ofList
             [("myStatus", ⟨.enumeration ["draft"] none, false⟩),
              ("my_status", ⟨.enumeration ["live"] none, false⟩)] })]

/-- Its two enumerations have one name. -/
theorem twoStatuses_not_apart : ¬ (ofDump twoStatuses {}).EnumsApart :=
  fun h => absurd h.distinct (by decide +kernel)

end Conversion

end CmsTypings
