import CmsTypings.Conversion
import CmsTypings.Proofs.EnumNames

/-!
Declaration names as identifiers.

A declaration's name is made of letters, digits and underscores, but it need not be an identifier:
the underscore that keeps a leading digit apart is written between words, not in front of the first
one. The first character of a name is the first letter or digit of the text that it is made of. So
a name is an identifier exactly when that character is a letter, or when there is none and the
suffix is the whole name.
-/

namespace CmsTypings

open Naming Text

namespace Text

lemma isDigit_toUpper_of_isAlpha {c : Char} (h : c.isAlpha = true) : c.toUpper.isDigit = false := by
  have hu : c.toUpper.isUpper = true := by rw [Char.isUpper_toUpper_eq_isAlpha, h]
  -- the digits stand before the upper case letters
  simp only [Char.isUpper, Char.isDigit] at *
  grind

end Text

/-- A name that may be declared: letters, digits and underscores, and no digit in front. -/
def IsIdentifier (name : String) : Prop :=
  name ≠ "" ∧ (∀ c ∈ name.toList, isNameChar c = true) ∧ ¬ DigitFirst name

instance (name : String) : Decidable (DigitFirst name) :=
  inferInstanceAs (Decidable (_ = true))

instance (name : String) : Decidable (IsIdentifier name) :=
  decidable_of_iff (name ≠ "" ∧ name.toList.all isNameChar = true ∧ ¬ DigitFirst name)
    (by rw [IsIdentifier, List.all_eq_true])

/-- Whether a letter comes first in what an entry is named after, which is the suffix where the
text holds neither letters nor digits. -/
def Entry.LetterFirst (e : Entry) : Prop :=
  match e.sourceName.toList.find? Char.isAlphanum with
  | some c => c.isAlpha = true
  | none => e.suffixed = true

namespace Conversion

variable {dump : Dump} {settings : Settings} {e : Entry}

/-- The first character of an entry's name. -/
lemma head?_name (h : e ∈ (ofDump dump settings).roster.entries) :
    e.name.toList.head? =
      ((e.sourceName.toList.find? Char.isAlphanum).map Char.toUpper).or
        (if e.suffixed then some 'C' else none) := by
  rcases Roster.name_cases h with ⟨hs, hn⟩ | ⟨hs, -, hn⟩
  · rw [hn, toList_pascalCase, head?_pascal, hs]
    simp
  · rw [hn, String.toList_append, List.head?_append, toList_pascalCase, head?_pascal, hs]
    rfl

lemma isIdentifier_name_iff (h : e ∈ (ofDump dump settings).roster.entries) :
    IsIdentifier e.name ↔ e.LetterFirst := by
  have hchars : ∀ c ∈ e.name.toList, isNameChar c = true :=
    fun c hc => Roster.nameChar_of_mem_name h hc
  have hempty : e.name ≠ "" ↔ e.name.toList.head? ≠ none := by simp
  have hhead := head?_name h
  rw [IsIdentifier, DigitFirst, Entry.LetterFirst, hempty, hhead]
  cases hf : e.sourceName.toList.find? Char.isAlphanum with
  | none =>
    cases hs : e.suffixed with
    | false => simp
    | true => simpa using hchars
  | some c =>
    have hc : c.isAlphanum = true := List.find?_some hf
    cases ha : c.isAlpha with
    | true => simpa [ha, isDigit_toUpper_of_isAlpha ha] using hchars
    | false =>
      have hd : c.isDigit = true := by simpa [Char.isAlphanum, ha] using hc
      simp [ha, toUpper_of_isDigit hd, hd]

/-- **When every declaration is named by an identifier.** This is so exactly when a letter comes
first in what each declared schema is named after. -/
theorem identifiers_iff (dump : Dump) (settings : Settings) :
    (∀ i ∈ (ofDump dump settings).interfaces, IsIdentifier i.name) ↔
      ∀ e ∈ (ofDump dump settings).roster.entries, e.schema.isSome = true → e.LetterFirst := by
  constructor
  · intro h e he hs
    obtain ⟨s, hs⟩ := Option.isSome_iff_exists.1 hs
    exact (isIdentifier_name_iff he).1 (h _ (ofSchema_mem he hs))
  · intro h i hi
    obtain ⟨e, he, s, hs, rfl⟩ := mem_interfaces_iff.1 hi
    exact (isIdentifier_name_iff he).2 (h e he (by simp [hs]))

/-- A content type whose name begins with a number. -/
def yearReview : Dump where
  contentTypes := .ofList
    [("api::2023-review.2023-review", some { singularName := some "2023-review" })]

/-- It is declared under a name that is no identifier. -/
theorem yearReview_not_identifier :
    ¬ ∀ i ∈ (ofDump yearReview {}).interfaces, IsIdentifier i.name := by
  decide +kernel

end Conversion

end CmsTypings
