import CmsTypings.Proofs.EnumKeys
import CmsTypings.Proofs.Identifiers
import CmsTypings.Proofs.PascalShape
import CmsTypings.Text.Blank

/-!
The form of an enumeration's keys.

The letters and digits of a value, with its accents taken off, begin with a capital or a digit. An
underscore in front keeps them from being read as a number: as they hold neither blanks, signs nor
points, a reader of numbers could only begin with a digit or with the name of infinity. So every
key that is not empty is an identifier and no number, and tells the letters and digits of its value.
-/

namespace CmsTypings

open Naming Text Unicode.Decomposition

/-! ### Reading numbers -/

/-- A text without the sign that it begins with. -/
def unsigned : List Char → List Char
  | '+' :: rest => rest
  | '-' :: rest => rest
  | text => text

/-- Whether the digits of a number, or the name of infinity, stand at the front of a text. -/
def beginsNumeral : List Char → Bool
  | '.' :: rest => rest.head?.any Char.isDigit
  | text => text.head?.any Char.isDigit || "Infinity".toList.isPrefixOf text

/-- Whether a lenient reader finds a number at the front of a text. It passes over white space and
a sign, and does not mind what follows the number. -/
def readsNumber (text : List Char) : Bool := beginsNumeral (unsigned (trimStart text))

example : readsNumber " -.5em".toList = true ∧ readsNumber "e5".toList = false := by
  decide +kernel

lemma isBlank_of_nameChar {c : Char} (h : isNameChar c = true) : isBlank c = false := by
  by_contra hblank
  rw [Bool.not_eq_false, isBlank_iff] at hblank
  rw [isNameChar, Bool.or_eq_true, beq_iff_eq] at h
  rcases h with hnum | rfl
  · have hcode := toNat_of_isAlphanum hnum
    simp only [List.mem_cons, List.not_mem_nil, or_false, exists_eq_or_imp, exists_eq_left]
      at hblank
    omega
  · simp at hblank

/-- In front of a name the reader finds a number only where there is a digit or infinity. -/
lemma readsNumber_of_nameChar {c : Char} (h : isNameChar c = true) (cs : List Char) :
    readsNumber (c :: cs) = readsAsNumber (c :: cs) := by
  have hne : ∀ d, isNameChar d = false → c ≠ d := by
    rintro d hd rfl
    rw [h] at hd
    exact absurd hd (by decide)
  have htrim : trimStart (c :: cs) = c :: cs :=
    List.dropWhile_cons_of_neg (by simp [isBlank_of_nameChar h])
  have hsign : unsigned (c :: cs) = c :: cs := by
    rw [unsigned]
    · exact fun _ hplus => hne '+' (by decide) (List.cons.inj hplus).1
    · exact fun _ hminus => hne '-' (by decide) (List.cons.inj hminus).1
  have hnumeral : beginsNumeral (c :: cs) = readsAsNumber (c :: cs) := by
    rw [beginsNumeral]
    · rfl
    · exact fun _ hpoint => hne '.' (by decide) (List.cons.inj hpoint).1
  rw [readsNumber, htrim, hsign, hnumeral]

/-! ### The form of a key -/

/-- The two forms of a key: a capital with letters and digits behind it, or an underscore with
letters and digits behind it of which a number would be read. -/
inductive KeyForm : List Char → Prop
  | plain {c : Char} {cs : List Char} (capital : c.isUpper = true)
      (rest : ∀ d ∈ cs, d.isAlphanum = true) (finite : ¬ "Infinity".toList <+: c :: cs) :
      KeyForm (c :: cs)
  | marked {cs : List Char} (rest : ∀ d ∈ cs, d.isAlphanum = true)
      (number : (∃ d ∈ cs.head?, d.isDigit = true) ∨ "Infinity".toList <+: cs) :
      KeyForm ('_' :: cs)

/-- A key without the underscore that it may begin with. -/
def unmarked : List Char → List Char
  | '_' :: cs => cs
  | cs => cs

/-- A key that is made of a value. -/
structure IsKeyOf (value key : String) : Prop where
  empty_iff : key = "" ↔ ∀ c ∈ nfd value.toList, c.isAlphanum = false
  form : key ≠ "" → KeyForm key.toList
  identifier : key ≠ "" → IsIdentifier key
  noNumber : readsNumber key.toList = false
  /-- Up to case the key is the letters and digits of the decomposed value, in their order. -/
  content : (unmarked key.toList).map Char.toLower =
    ((nfd value.toList).filter Char.isAlphanum).map Char.toLower

lemma head?_bareKey (value : List Char) :
    (bareKey value).head? = (pascal (nfd value)).head? := by
  rw [bareKey]
  cases hname : pascal (nfd value) with
  | nil => rfl
  | cons c cs =>
    have hc : c.isAlphanum = true := (of_mem_head?_pascal (by rw [hname]; rfl)).1
    rw [List.filter_cons_of_pos hc]
    rfl

lemma bareKey_eq_nil_iff (value : List Char) :
    bareKey value = [] ↔ ∀ c ∈ nfd value, c.isAlphanum = false := by
  rw [← pascal_eq_nil_iff, ← List.head?_eq_none_iff, head?_bareKey, List.head?_eq_none_iff]

/-- The letters and digits of a key begin with a capital or a digit. -/
lemma of_mem_head?_bareKey {value : List Char} {c : Char} (h : c ∈ (bareKey value).head?) :
    c.isUpper = true ∨ c.isDigit = true := by
  rw [head?_bareKey] at h
  obtain ⟨hnum, hlower⟩ := of_mem_head?_pascal h
  rcases alphanum_cases hnum with hupper | hl | hdigit
  · exact Or.inl hupper
  · exact absurd hl (by simp [hlower])
  · exact Or.inr hdigit

lemma readsAsNumber_iff (key : List Char) :
    readsAsNumber key = true ↔
      (∃ d ∈ key.head?, d.isDigit = true) ∨ "Infinity".toList <+: key := by
  rw [readsAsNumber, Bool.or_eq_true, Option.any_eq_true, List.isPrefixOf_iff_prefix]
  rfl

lemma keyChars_of_number {value : List Char} (h : readsAsNumber (bareKey value) = true) :
    keyChars value = '_' :: bareKey value := by
  simp [keyChars, h]

lemma keyChars_of_noNumber {value : List Char} (h : readsAsNumber (bareKey value) = false) :
    keyChars value = bareKey value := by
  simp [keyChars, h]

lemma keyChars_eq_nil_iff (value : List Char) : keyChars value = [] ↔ bareKey value = [] := by
  cases hnumber : readsAsNumber (bareKey value) with
  | true =>
    rw [keyChars_of_number hnumber]
    have hne : bareKey value ≠ [] := by
      intro hnil
      rw [hnil] at hnumber
      exact absurd hnumber (by decide)
    simp [hne]
  | false => rw [keyChars_of_noNumber hnumber]

/-- Every key has one of the two forms, if it is not empty. -/
lemma keyForm_keyChars {value : List Char} (h : keyChars value ≠ []) :
    KeyForm (keyChars value) := by
  have hbare : ∀ d ∈ bareKey value, d.isAlphanum = true := fun _ hd => alphanum_of_mem_bareKey hd
  cases hnumber : readsAsNumber (bareKey value) with
  | true =>
    rw [keyChars_of_number hnumber]
    exact .marked hbare ((readsAsNumber_iff _).1 hnumber)
  | false =>
    rw [keyChars_of_noNumber hnumber] at h ⊢
    obtain ⟨c, cs, hkey⟩ := List.exists_cons_of_ne_nil h
    have hno := (readsAsNumber_iff (bareKey value)).not.1 (by simp [hnumber])
    rw [not_or] at hno
    have hc : c ∈ (bareKey value).head? := by rw [hkey]; rfl
    have hcapital : c.isUpper = true := by
      rcases of_mem_head?_bareKey hc with hupper | hdigit
      · exact hupper
      · exact absurd ⟨c, hc, hdigit⟩ hno.1
    rw [hkey] at hbare hno ⊢
    exact .plain hcapital (fun d hd => hbare d (List.mem_cons_of_mem c hd)) hno.2

namespace KeyForm

variable {key : List Char}

/-- A key begins like a name, but not with a digit. -/
lemma exists_cons (h : KeyForm key) :
    ∃ c cs, key = c :: cs ∧ isNameChar c = true ∧ c.isDigit = false := by
  cases h with
  | @plain c cs capital rest finite =>
    have hletter : c.isAlpha = true := by simp [Char.isAlpha, capital]
    have hdigit : c.isDigit = false := by
      by_contra hd
      rw [Bool.not_eq_false] at hd
      rw [isAlpha_eq_false_of_isDigit hd] at hletter
      exact absurd hletter (by decide)
    exact ⟨c, cs, rfl, by simp [isNameChar, Char.isAlphanum, hletter], hdigit⟩
  | @marked cs rest number => exact ⟨'_', cs, rfl, rfl, rfl⟩

lemma not_infinity (h : KeyForm key) : ¬ "Infinity".toList <+: key := by
  cases h with
  | plain capital rest finite => exact finite
  | marked rest number =>
    rintro ⟨more, hmore⟩
    simp at hmore

/-- A reader of numbers finds none in front of a key. -/
lemma readsNumber_eq_false (h : KeyForm key) : readsNumber key = false := by
  obtain ⟨c, cs, rfl, hname, hdigit⟩ := h.exists_cons
  rw [readsNumber_of_nameChar hname, ← Bool.not_eq_true, readsAsNumber_iff]
  rintro (⟨d, hd, hdigit'⟩ | hinfinity)
  · obtain rfl := Option.some.inj hd
    rw [hdigit] at hdigit'
    exact absurd hdigit' (by decide)
  · exact h.not_infinity hinfinity

end KeyForm

lemma unmarked_keyChars (value : List Char) : unmarked (keyChars value) = bareKey value := by
  cases hnumber : readsAsNumber (bareKey value) with
  | true =>
    rw [keyChars_of_number hnumber]
    rfl
  | false =>
    rw [keyChars_of_noNumber hnumber, unmarked]
    -- the letters and digits of a key do not begin with an underscore
    intro cs hcs
    have hunder : '_' ∈ bareKey value := hcs ▸ List.mem_cons_self
    exact absurd (alphanum_of_mem_bareKey hunder) (by decide)

/-- **Keys are safe.** The key of a value is empty where the decomposed value has neither letters
nor digits. Otherwise it is a capital with letters and digits behind it that do not spell infinity,
or an underscore with letters and digits behind it of which a number would be read; so it is an
identifier and no number. It keeps the letters and digits of the decomposed value, but for case. -/
theorem enumKey_isKeyOf (value : String) : IsKeyOf value (enumKey value) := by
  have hchars : (enumKey value).toList = keyChars value.toList := String.toList_ofList
  have hne : enumKey value ≠ "" ↔ keyChars value.toList ≠ [] := by
    rw [ne_eq, ← String.toList_eq_nil_iff, hchars]
  refine ⟨?_, fun h => ?_, fun h => ?_, ?_, ?_⟩
  · rw [← String.toList_eq_nil_iff, hchars, keyChars_eq_nil_iff, bareKey_eq_nil_iff]
  · rw [hchars]
    exact keyForm_keyChars (hne.1 h)
  · obtain ⟨c, cs, hkey, -, hdigit⟩ := (keyForm_keyChars (hne.1 h)).exists_cons
    refine ⟨h, fun d hd => ?_, ?_⟩
    · rw [hchars] at hd
      exact isNameChar_of_mem_keyChars hd
    · rw [DigitFirst, hchars, hkey]
      simp [hdigit]
  · rw [hchars]
    by_cases hempty : keyChars value.toList = []
    · rw [hempty]
      rfl
    · exact (keyForm_keyChars hempty).readsNumber_eq_false
  · rw [hchars, unmarked_keyChars, bareKey, map_toLower_filter_pascal]

end CmsTypings
