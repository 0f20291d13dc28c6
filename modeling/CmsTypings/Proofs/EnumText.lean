import CmsTypings.Proofs.EnumKeys
import CmsTypings.Proofs.EnumNames

/-!
The text of an enumeration.

A block can be read back off its text. A value stands between quotes, so the reader of literals
finds it and the place behind it; the key in front of it holds no blank. So the lines of a block
tell its values one after the other, and the blocks of a schema are listed once each whether they
are compared as blocks or as texts.
-/

namespace CmsTypings

open Naming Text Text.Literal

/-- What stands between the quotes of a literal is read back, whatever follows the literal. -/
lemma scan_escapeChars (value rest : List Char) :
    scan (escapeChars value ++ '\'' :: rest) = some (value, rest) := by
  induction value with
  | nil => simp [escapeChars, scan]
  | cons c cs ih =>
    rw [escapeChars] at ih
    rw [escapeChars, List.flatMap_cons, List.append_assoc]
    by_cases hc : c = '\\' ∨ c = '\''
    · simp only [escapeChar, if_pos hc, List.cons_append, List.nil_append, scan, ih]
      rfl
    · rw [not_or] at hc
      simp only [escapeChar, hc.1, hc.2, or_self, if_false, List.cons_append, List.nil_append]
      rw [scan]
      · simp [hc.2, ih]
      · exact fun _ _ h _ => hc.1 h

namespace EnumBlock

variable {b b' : EnumBlock}

lemma toList_memberLine (value : String) :
    (memberLine value).toList = ' ' :: ' ' :: (keyChars value.toList ++
      ' ' :: '=' :: ' ' :: '\'' :: (escapeChars value.toList ++ '\'' :: ",\n".toList)) := by
  simp [memberLine, enumKey, toList_escape]

/-- A line tells its value and where it ends. -/
lemma memberLine_append_inj {v v' : String} {r r' : List Char}
    (h : (memberLine v).toList ++ r = (memberLine v').toList ++ r') : v = v' ∧ r = r' := by
  have hkey : ∀ value : String, ∀ c ∈ keyChars value.toList, isNameChar c = true :=
    fun _ _ hc => isNameChar_of_mem_keyChars hc
  simp only [toList_memberLine, List.cons_append, List.append_assoc, List.cons.injEq,
    true_and] at h
  have hd := congrArg (List.dropWhile isNameChar) h
  rw [List.dropWhile_append_of_pos (hkey v), List.dropWhile_append_of_pos (hkey v'),
    List.dropWhile_cons_of_neg (by decide), List.dropWhile_cons_of_neg (by decide)] at hd
  simp only [List.cons.injEq, true_and] at hd
  have hs := congrArg scan hd
  rw [scan_escapeChars, scan_escapeChars, Option.some.injEq, Prod.mk.injEq] at hs
  exact ⟨String.toList_inj.1 hs.1, List.append_cancel_left hs.2⟩

def linesChars (values : List String) : List Char :=
  values.flatMap fun v => (memberLine v).toList

lemma linesChars_cons (v : String) (vs : List String) :
    linesChars (v :: vs) = (memberLine v).toList ++ linesChars vs := List.flatMap_cons

/-- The lines of a block tell its values. -/
lemma values_eq_of_lines_eq {values values' : List String}
    (h : linesChars values ++ "\x7d\n".toList = linesChars values' ++ "\x7d\n".toList) :
    values = values' := by
  induction values generalizing values' with
  | nil =>
    cases values' with
    | nil => rfl
    | cons v vs => simp [linesChars, toList_memberLine] at h
  | cons v vs ih =>
    cases values' with
    | nil => simp [linesChars, toList_memberLine] at h
    | cons v' vs' =>
      rw [linesChars_cons, linesChars_cons, List.append_assoc, List.append_assoc] at h
      obtain ⟨rfl, hrest⟩ := memberLine_append_inj h
      rw [ih hrest]

lemma toList_render (b : EnumBlock) :
    b.render.toList = "export enum ".toList ++ (b.name.toList ++
      (" \x7b\n".toList ++ (linesChars b.values ++ "\x7d\n".toList))) := by
  have hlines : ∀ values : List String,
      (String.join (values.map memberLine)).toList = linesChars values := by
    intro values
    simp [linesChars, String.toList_join, List.flatMap, Function.comp_def]
  simp [render, header, hlines]

/-- Blocks of one schema differ in their texts, whatever the schema is called. -/
lemma eq_of_render_eq {owner n n' : String} (hb : b.name = enumName owner n)
    (hb' : b'.name = enumName owner n') (h : b.render = b'.render) : b = b' := by
  have hn : ∀ c ∈ (pascalCase n).toList, isNameChar c = true := by
    rw [toList_pascalCase]
    exact fun c hc => nameChar_of_mem_pascal hc
  have hn' : ∀ c ∈ (pascalCase n').toList, isNameChar c = true := by
    rw [toList_pascalCase]
    exact fun c hc => nameChar_of_mem_pascal hc
  have hl := congrArg String.toList h
  rw [toList_render, toList_render, hb, hb', toList_enumName, toList_enumName] at hl
  simp only [List.append_assoc, List.cons_append, List.append_cancel_left_eq, List.cons.injEq,
    true_and] at hl
  have hname : pascalCase n = pascalCase n' := by
    have ht := congrArg (List.takeWhile isNameChar) hl
    rw [takeWhile_name hn rfl, takeWhile_name hn' rfl] at ht
    exact String.toList_inj.1 ht
  rw [hname] at hl
  have hvalues := values_eq_of_lines_eq (List.append_cancel_left (List.append_cancel_left hl))
  obtain ⟨name, values⟩ := b
  obtain ⟨name', values'⟩ := b'
  simp only at hb hb' hvalues
  rw [hb, hb', hvalues, enumName, enumName, hname]

end EnumBlock

/-! ### The texts of a schema's enumerations -/

/-- Where a function tells the members of a list apart, the list loses the same ones before it and
behind it. -/
lemma eraseDups_map {α β : Type} [BEq α] [LawfulBEq α] [BEq β] [LawfulBEq β] {f : α → β} :
    ∀ l : List α, (∀ x ∈ l, ∀ y ∈ l, f x = f y → x = y) →
      (l.map f).eraseDups = l.eraseDups.map f
  | [], _ => rfl
  | a :: l, h => by
    have hfilter : (l.map f).filter (fun b => !b == f a) =
        (l.filter fun b => !b == a).map f := by
      rw [List.filter_map]
      congr 1
      refine List.filter_congr fun x hx => ?_
      by_cases hxa : x = a
      · simp [hxa]
      · have hne : f x ≠ f a := fun hf => hxa (h x (by simp [hx]) a (by simp) hf)
        simp [hxa, hne]
    have htail : ∀ x ∈ l.filter (fun b => !b == a), x ∈ a :: l :=
      fun x hx => List.mem_cons_of_mem _ (List.mem_filter.1 hx).1
    have ih := eraseDups_map (l.filter fun b => !b == a)
      fun x hx y hy => h x (htail x hx) y (htail y hy)
    rw [List.map_cons, List.eraseDups_cons, List.eraseDups_cons, hfilter, ih, List.map_cons]
termination_by l => l.length
decreasing_by exact Nat.lt_succ_of_le (List.length_filter_le _ _)

lemma nameChar_of_mem_enumName {owner property : String} {c : Char}
    (ho : ∀ d ∈ owner.toList, isNameChar d = true) (hc : c ∈ (enumName owner property).toList) :
    isNameChar c = true := by
  rw [toList_enumName, List.mem_append, List.mem_cons] at hc
  rcases hc with hc | rfl | hc
  · exact ho c hc
  · rfl
  · rw [toList_pascalCase] at hc
    exact nameChar_of_mem_pascal hc

/-- **The texts of a schema's enumerations.** They are the texts of the enumerations that its
attributes become, each listed where it first comes up. -/
theorem Interface.render_enums (ctx : Context) (e : Entry) (s : Schema) :
    (ofSchema ctx e s).enums.map EnumBlock.render =
      (((members ctx e s).filterMap (·.enum)).map EnumBlock.render).eraseDups := by
  have hname : ∀ b ∈ (members ctx e s).filterMap (·.enum), ∃ n, b.name = enumName e.name n := by
    intro b hb
    obtain ⟨n, a, -, -, -, hn⟩ := mem_enums_iff.1 (List.mem_eraseDups.2 hb)
    exact ⟨n, hn⟩
  refine (eraseDups_map _ fun b hb b' hb' h => ?_).symm
  obtain ⟨n, hn⟩ := hname b hb
  obtain ⟨n', hn'⟩ := hname b' hb'
  exact EnumBlock.eq_of_render_eq hn hn' h

end CmsTypings
