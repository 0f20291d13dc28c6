import CmsTypings.Text.Words
import Mathlib

/-!
The characters of a name in Pascal case.

A name is made of ASCII letters, digits and underscores, and an underscore stands nowhere but
right before a digit. The second fact is kept in a form that survives appending, so that it
passes from the words to the name and from the name to what is written behind it.
-/

namespace CmsTypings.Text

/-- Whether a character may stand in a declaration's name. -/
def isNameChar (c : Char) : Bool := c.isAlphanum || c == '_'

/-- Every underscore stands right before a digit. -/
def Numbered (cs : List Char) : Prop :=
  ∀ a b, cs = a ++ '_' :: b → b.head?.any Char.isDigit = true

/-! ### Letters and their case -/

lemma isAlphanum_toUpper (c : Char) : c.toUpper.isAlphanum = c.isAlphanum := by
  by_cases h : c.isAlpha = true
  · simp [Char.isAlphanum, h]
  · have hlower : ¬ c.isLower = true := fun hl => h (by simp [Char.isAlpha, hl])
    rw [Char.toUpper_eq_of_not_isLower hlower]

lemma isAlphanum_toLower (c : Char) : c.toLower.isAlphanum = c.isAlphanum := by
  by_cases h : c.isAlpha = true
  · simp [Char.isAlphanum, h]
  · have hupper : ¬ c.isUpper = true := fun hu => h (by simp [Char.isAlpha, hu])
    rw [Char.toLower_eq_of_not_isUpper hupper]

lemma toUpper_of_isDigit {c : Char} (h : c.isDigit) : c.toUpper = c := by
  refine Char.toUpper_eq_of_not_isLower ?_
  -- the digits stand before the lower case letters
  simp only [Char.isDigit, Char.isLower] at *
  grind

/-! ### Words -/

lemma alphanum_of_mem_words {text w : List Char} {c : Char} (hw : w ∈ words text) (hc : c ∈ w) :
    c.isAlphanum = true := by
  have h : c ∈ (words text).flatten := List.mem_flatten.2 ⟨w, hw, hc⟩
  rw [flatten_words] at h
  exact (List.mem_filter.1 h).2

/-- A letter or digit begins the first word of the text that it begins. -/
lemma words_cons_of_alphanum {c : Char} (h : c.isAlphanum = true) (rest : List Char) :
    ∃ w ws, words (c :: rest) = (c :: w) :: ws := by
  rw [words, if_pos h]
  split
  · cases words rest with
    | nil => exact ⟨[], [], rfl⟩
    | cons w ws => exact ⟨w, ws, rfl⟩
  · exact ⟨[], words rest, rfl⟩

/-- The first character of a name in Pascal case. -/
lemma head?_pascal (text : List Char) :
    (pascal text).head? = (text.find? Char.isAlphanum).map Char.toUpper := by
  unfold pascal
  induction text with
  | nil => rfl
  | cons c rest ih =>
    cases h : c.isAlphanum with
    | true =>
      obtain ⟨w, ws, hw⟩ := words_cons_of_alphanum h rest
      simp [hw, joinWords, capitalize, h]
    | false => rw [words_cons_of_not_alphanum h, ih, List.find?_cons_of_neg (by simp [h])]

lemma alphanum_of_mem_capitalize {w : List Char} {c : Char} (hw : ∀ d ∈ w, d.isAlphanum = true)
    (hc : c ∈ capitalize w) : c.isAlphanum = true := by
  cases w with
  | nil => simp [capitalize] at hc
  | cons d ds =>
    rcases List.mem_cons.1 hc with rfl | hc
    · rw [isAlphanum_toUpper]
      exact hw d (by simp)
    · obtain ⟨e, he, rfl⟩ := List.mem_map.1 hc
      rw [isAlphanum_toLower]
      exact hw e (by simp [he])

lemma nameChar_of_mem_capitalizeNext {w : List Char} {c : Char}
    (hw : ∀ d ∈ w, d.isAlphanum = true) (hc : c ∈ capitalizeNext w) : isNameChar c = true := by
  have hcap : c ∈ capitalize w → isNameChar c = true := fun h => by
    simp [isNameChar, alphanum_of_mem_capitalize hw h]
  unfold capitalizeNext at hc
  split at hc
  · rcases List.mem_cons.1 hc with rfl | hc
    · rfl
    · exact hcap hc
  · exact hcap hc

/-- A name in Pascal case holds letters, digits and underscores only. -/
lemma nameChar_of_mem_pascal {text : List Char} {c : Char} (hc : c ∈ pascal text) :
    isNameChar c = true := by
  have hall : ∀ w ∈ words text, ∀ d ∈ w, d.isAlphanum = true :=
    fun w hw d hd => alphanum_of_mem_words hw hd
  unfold pascal at hc
  cases hws : words text with
  | nil => simp [hws, joinWords] at hc
  | cons w ws =>
    rw [hws] at hc hall
    simp only [joinWords, List.mem_append, List.mem_flatMap] at hc
    rcases hc with hc | ⟨v, hv, hc⟩
    · simp [isNameChar, alphanum_of_mem_capitalize (hall w (by simp)) hc]
    · exact nameChar_of_mem_capitalizeNext (hall v (by simp [hv])) hc

/-- The letters and digits of words written as one name. -/
lemma filter_joinWords {ws : List (List Char)} (hws : ∀ w ∈ ws, ∀ c ∈ w, c.isAlphanum = true) :
    (joinWords ws).filter Char.isAlphanum = ws.flatMap capitalize := by
  have hword : ∀ w ∈ ws, (capitalize w).filter Char.isAlphanum = capitalize w := by
    intro w hw
    exact List.filter_eq_self.2 fun c hc => alphanum_of_mem_capitalize (hws w hw) hc
  have hnext : ∀ w ∈ ws, (capitalizeNext w).filter Char.isAlphanum = capitalize w := by
    intro w hw
    rw [capitalizeNext]
    split
    · rw [List.filter_cons_of_neg (by decide), hword w hw]
    · exact hword w hw
  cases ws with
  | nil => rfl
  | cons w ws =>
    rw [joinWords, List.filter_append, hword w (by simp), List.filter_flatMap, List.flatMap_cons]
    congr 1
    exact List.flatMap_congr fun v hv => hnext v (by simp [hv])

/-! ### Underscores -/

lemma numbered_of_not_mem {cs : List Char} (h : '_' ∉ cs) : Numbered cs := by
  rintro a b rfl
  simp at h

lemma Numbered.append {s t : List Char} (hs : Numbered s) (ht : Numbered t) :
    Numbered (s ++ t) := by
  intro a b h
  rcases List.append_eq_append_iff.1 h with ⟨u, -, hu⟩ | ⟨u, hu, hb⟩
  · exact ht u b hu
  · -- the underscore is the first of the second part, or it lies in the first part
    cases u with
    | nil => exact ht [] b hb.symm
    | cons d u =>
      rw [List.cons_append, List.cons.injEq] at hb
      obtain ⟨rfl, rfl⟩ := hb
      have hd := hs a u hu
      cases u with
      | nil => simp at hd
      | cons e u => exact hd

lemma numbered_flatMap {ws : List (List Char)} {f : List Char → List Char}
    (h : ∀ w ∈ ws, Numbered (f w)) : Numbered (ws.flatMap f) := by
  induction ws with
  | nil => exact numbered_of_not_mem (by simp)
  | cons w ws ih =>
    rw [List.flatMap_cons]
    exact (h w (by simp)).append (ih fun v hv => h v (by simp [hv]))

lemma numbered_capitalize {w : List Char} (hw : ∀ d ∈ w, d.isAlphanum = true) :
    Numbered (capitalize w) :=
  numbered_of_not_mem fun h => absurd (alphanum_of_mem_capitalize hw h) (by decide)

lemma numbered_capitalizeNext {w : List Char} (hw : ∀ d ∈ w, d.isAlphanum = true) :
    Numbered (capitalizeNext w) := by
  have hcap := numbered_capitalize hw
  unfold capitalizeNext
  split
  · next hd =>
    -- the underscore put in front stands before the digit that asked for it
    rintro (_ | ⟨e, a⟩) b h
    · simp only [List.nil_append, List.cons.injEq, true_and] at h
      subst h
      cases w with
      | nil => simp at hd
      | cons d ds =>
        simp only [List.head?_cons, Option.any_some] at hd
        simp [capitalize, toUpper_of_isDigit hd, hd]
    · simp only [List.cons_append, List.cons.injEq] at h
      exact hcap a b h.2
  · exact hcap

/-- In a name in Pascal case every underscore stands right before a digit. -/
lemma numbered_pascal (text : List Char) : Numbered (pascal text) := by
  have hall : ∀ w ∈ words text, ∀ d ∈ w, d.isAlphanum = true :=
    fun w hw d hd => alphanum_of_mem_words hw hd
  unfold pascal
  cases hws : words text with
  | nil => exact numbered_of_not_mem (by simp [joinWords])
  | cons w ws =>
    rw [hws] at hall
    have hw := numbered_capitalize (hall w (by simp))
    have hrest : Numbered (ws.flatMap capitalizeNext) :=
      numbered_flatMap fun v hv => numbered_capitalizeNext (hall v (by simp [hv]))
    exact hw.append hrest

end CmsTypings.Text
