import CmsTypings.Proofs.PascalName

/-!
What Pascal case keeps of a text, and the shape that it gives it.

A name tells the letters and digits of the text that it is made of, in their order and up to case;
nothing is lost and nothing comes in but underscores. These stand between a letter or digit and a
digit: they are written between two words, and never in front.
-/

namespace CmsTypings.Text

/-- A name in Pascal case that is made of a text. -/
structure IsPascalOf (text name : String) : Prop where
  /-- Up to underscores and case the name is the letters and digits of the text, in their order. -/
  content : (name.toList.filter (· ≠ '_')).map Char.toLower =
    (text.toList.filter Char.isAlphanum).map Char.toLower
  empty_iff : name = "" ↔ ∀ c ∈ text.toList, c.isAlphanum = false
  chars : ∀ c ∈ name.toList, c.isAlphanum = true ∨ c = '_'
  /-- An underscore stands right behind a letter or digit and right before a digit. -/
  underscore : ∀ front rest, name.toList = front ++ '_' :: rest →
    (∃ c ∈ front.getLast?, c.isAlphanum = true) ∧ ∃ d ∈ rest.head?, d.isDigit = true
  first : ∀ c ∈ name.toList.head?, c ≠ '_' ∧ c.isLower = false

/-! ### Letters and digits -/

lemma map_toLower_capitalize (w : List Char) :
    (capitalize w).map Char.toLower = w.map Char.toLower := by
  cases w with
  | nil => rfl
  | cons c cs => simp [capitalize]

/-- Underscores are all that a name holds besides letters and digits. -/
lemma filter_ne_underscore_pascal (text : List Char) :
    (pascal text).filter (· ≠ '_') = (pascal text).filter Char.isAlphanum := by
  refine List.filter_congr fun c hc => ?_
  have hname := nameChar_of_mem_pascal hc
  by_cases hunder : c = '_'
  · subst hunder
    rfl
  · simpa [isNameChar, hunder] using hname.symm

/-- Recasing changes the case of letters and nothing else. -/
lemma map_toLower_filter_pascal (text : List Char) :
    ((pascal text).filter Char.isAlphanum).map Char.toLower =
      (text.filter Char.isAlphanum).map Char.toLower := by
  have hwords : ∀ w ∈ words text, ∀ c ∈ w, c.isAlphanum = true :=
    fun w hw c hc => alphanum_of_mem_words hw hc
  calc ((pascal text).filter Char.isAlphanum).map Char.toLower
      = ((words text).flatMap capitalize).map Char.toLower := by
        rw [pascal, filter_joinWords hwords]
    _ = (words text).flatMap fun w => w.map Char.toLower := by
        rw [List.map_flatMap]
        exact List.flatMap_congr fun w _ => map_toLower_capitalize w
    _ = ((words text).flatten).map Char.toLower := by
        rw [List.map_flatten, List.flatMap_def]
    _ = (text.filter Char.isAlphanum).map Char.toLower := by rw [flatten_words]

/-! ### The front of a name, and underscores -/

lemma pascal_eq_nil_iff (text : List Char) :
    pascal text = [] ↔ ∀ c ∈ text, c.isAlphanum = false := by
  rw [← List.head?_eq_none_iff, head?_pascal, Option.map_eq_none_iff, List.find?_eq_none]
  simp

lemma of_mem_head?_pascal {text : List Char} {c : Char} (h : c ∈ (pascal text).head?) :
    c.isAlphanum = true ∧ c.isLower = false := by
  rw [head?_pascal] at h
  obtain ⟨d, hd, rfl⟩ := Option.map_eq_some_iff.1 h
  have hnum : d.isAlphanum = true := List.find?_some hd
  exact ⟨by rw [isAlphanum_toUpper, hnum], Char.isLower_toUpper_eq_false d⟩

/-- Right behind an underscore stands a digit, so what stands right before one is no underscore. -/
lemma alphanum_before_underscore {text front rest : List Char}
    (h : pascal text = front ++ '_' :: rest) : ∃ c ∈ front.getLast?, c.isAlphanum = true := by
  rcases List.eq_nil_or_concat' front with rfl | ⟨before, c, rfl⟩
  · -- a name does not begin with an underscore
    have hfirst : '_' ∈ (pascal text).head? := by rw [h]; rfl
    exact absurd (of_mem_head?_pascal hfirst).1 (by decide)
  · have hmem : c ∈ pascal text := by
      rw [h]
      simp
    have hc : isNameChar c = true := nameChar_of_mem_pascal hmem
    have hne : c ≠ '_' := by
      rintro rfl
      have hdigit := numbered_pascal text before ('_' :: rest) (by rw [h]; simp)
      exact absurd hdigit (by simp)
    refine ⟨c, by simp, ?_⟩
    simpa [isNameChar, hne] using hc

/-- **What Pascal case keeps, and the shape that it gives.** The name holds the letters and digits
of the text, each once and in order but for their case, and underscores only between a letter or
digit and a digit; it is empty where the text has neither letters nor digits, and begins with a
capital or a digit otherwise. -/
theorem pascalCase_isPascalOf (text : String) : IsPascalOf text (pascalCase text) where
  content := by
    rw [toList_pascalCase, filter_ne_underscore_pascal, map_toLower_filter_pascal]
  empty_iff := by
    rw [← String.toList_eq_nil_iff, toList_pascalCase, pascal_eq_nil_iff]
  chars c hc := by
    rw [toList_pascalCase] at hc
    simpa [isNameChar] using nameChar_of_mem_pascal hc
  underscore front rest h := by
    rw [toList_pascalCase] at h
    have hdigit := numbered_pascal text.toList front rest h
    exact ⟨alphanum_before_underscore h, (Option.any_eq_true _ _).1 hdigit⟩
  first c hc := by
    rw [toList_pascalCase] at hc
    obtain ⟨hnum, hlower⟩ := of_mem_head?_pascal hc
    refine ⟨?_, hlower⟩
    rintro rfl
    exact absurd hnum (by decide)

end CmsTypings.Text
