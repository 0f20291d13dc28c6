import CmsTypings.EnumBlock
import CmsTypings.Proofs.Recasing

/-!
The keys of enumerations, made into keys again.

A key is ASCII text, which decomposition leaves alone, and the underscore that keeps it from reading
as a number belongs to no word. So making a key of a key is recasing its letters and digits, and the
key stays as it is exactly when no two words of the value have merged in it.
-/

namespace CmsTypings

open Text

namespace Unicode.Decomposition

lemma reorder_of_lt {codes : List Nat} (h : ∀ code ∈ codes, code < 0x300) :
    reorder [] codes = codes := by
  induction codes with
  | nil => rfl
  | cons code rest ih =>
    have hclass : combiningClass code = 0 := by simp [combiningClass, h code (by simp)]
    have hrest := ih fun k hk => h k (by simp [hk])
    simp [reorder, hclass, hrest]

/-- Text below the first character that decomposes is its own decomposition. -/
lemma nfd_of_lt {text : List Char} (h : ∀ c ∈ text, c.toNat < 0xC0) : nfd text = text := by
  have hcodes : (text.flatMap fun c => decompose c.toNat) = text.map Char.toNat := by
    rw [List.map_eq_flatMap]
    exact List.flatMap_congr fun c hc => by simp [decompose, h c hc]
  have hlt : ∀ code ∈ text.map Char.toNat, code < 0x300 := by
    intro code hcode
    obtain ⟨c, hc, rfl⟩ := List.mem_map.1 hcode
    have := h c hc
    omega
  rw [nfd, hcodes, reorder_of_lt hlt, List.map_map]
  simp [Function.comp_def]

end Unicode.Decomposition

open Unicode.Decomposition

/-! ### The letters and digits of a key -/

lemma bareKey_eq (value : List Char) :
    bareKey value = (words (nfd value)).flatMap capitalize :=
  filter_joinWords fun _ hw _ hc => alphanum_of_mem_words hw hc

lemma alphanum_of_mem_bareKey {value : List Char} {c : Char} (h : c ∈ bareKey value) :
    c.isAlphanum = true :=
  (List.mem_filter.1 h).2

lemma isNameChar_of_mem_keyChars {value : List Char} {c : Char} (hc : c ∈ keyChars value) :
    isNameChar c = true := by
  have hbare : c ∈ bareKey value → isNameChar c = true := fun h => by
    simp [isNameChar, alphanum_of_mem_bareKey h]
  simp only [keyChars] at hc
  split at hc
  · rcases List.mem_cons.1 hc with rfl | hc
    · rfl
    · exact hbare hc
  · exact hbare hc

/-- Two keys are equal if their letters and digits are. -/
lemma keyChars_eq_iff {v w : List Char} : keyChars v = keyChars w ↔ bareKey v = bareKey w := by
  have hbare : ∀ u more : List Char, '_' :: more ≠ bareKey u := by
    intro u more h
    have hunder : '_' ∈ bareKey u := h ▸ List.mem_cons_self
    exact absurd (alphanum_of_mem_bareKey hunder) (by decide)
  constructor
  · intro h
    simp only [keyChars] at h
    split at h <;> split at h
    · exact (List.cons.inj h).2
    · exact absurd h (hbare w _)
    · exact absurd h.symm (hbare v _)
    · exact h
  · intro h
    rw [keyChars, keyChars, h]

/-- The codes of letters and digits. -/
lemma toNat_of_isAlphanum {c : Char} (h : c.isAlphanum = true) :
    48 ≤ c.toNat ∧ c.toNat ≤ 57 ∨ 65 ≤ c.toNat ∧ c.toNat ≤ 90 ∨
      97 ≤ c.toNat ∧ c.toNat ≤ 122 := by
  simp only [Char.isAlphanum, Char.isAlpha, Char.isUpper, Char.isLower, Char.isDigit,
    Bool.or_eq_true, Bool.and_eq_true, decide_eq_true_eq, UInt32.le_iff_toNat_le, ge_iff_le] at h
  have hc : c.toNat = c.val.toNat := rfl
  have hcapitals : 'A'.val.toNat = 65 ∧ 'Z'.val.toNat = 90 := ⟨rfl, rfl⟩
  have hsmall : 'a'.val.toNat = 97 ∧ 'z'.val.toNat = 122 := ⟨rfl, rfl⟩
  have hdigits : '0'.val.toNat = 48 ∧ '9'.val.toNat = 57 := ⟨rfl, rfl⟩
  omega

/-- The words of a key are those of its letters and digits. -/
lemma words_keyChars (value : List Char) : words (keyChars value) = words (bareKey value) := by
  simp only [keyChars]
  split
  · exact words_cons_of_not_alphanum (by decide) _
  · rfl

lemma nfd_keyChars (value : List Char) : nfd (keyChars value) = keyChars value := by
  have hbare : ∀ c ∈ bareKey value, c.toNat < 0xC0 := by
    intro c hc
    have := toNat_of_isAlphanum (alphanum_of_mem_bareKey hc)
    omega
  refine nfd_of_lt fun c hc => ?_
  simp only [keyChars] at hc
  split at hc
  · rcases List.mem_cons.1 hc with rfl | hc
    · decide
    · exact hbare c hc
  · exact hbare c hc

/-! ### Keys of keys -/

/-- Making a key of a key changes nothing where recasing its letters and digits does not. -/
lemma keyChars_keyChars_iff (value : List Char) :
    keyChars (keyChars value) = keyChars value ↔ Settled (bareKey value) := by
  have hflatten : (words (bareKey value)).flatten = bareKey value := by
    rw [flatten_words]
    exact List.filter_eq_self.2 fun c hc => alphanum_of_mem_bareKey hc
  rw [keyChars_eq_iff, bareKey_eq (keyChars value), nfd_keyChars, words_keyChars, Settled,
    ← flatMap_capitalize_eq_flatten_iff, hflatten]

/-- **When a key is the key of itself.** This is so exactly when no two neighbouring words of the
decomposed value merge: a single letter, and a word that begins with a letter that no other letter
follows. -/
theorem enumKey_enumKey_iff (value : String) :
    enumKey (enumKey value) = enumKey value ↔
      (words (nfd value.toList)).IsChain fun w v => ¬ Merges w v := by
  have hcapital : ∀ w ∈ (words (nfd value.toList)).map capitalize, IsCapitalized w := by
    intro w hw
    obtain ⟨v, hv, rfl⟩ := List.mem_map.1 hw
    exact isCapitalized_capitalize hv
  have hchars : enumKey (enumKey value) = enumKey value ↔
      keyChars (keyChars value.toList) = keyChars value.toList := by
    rw [enumKey, enumKey, String.toList_ofList, String.ofList_inj]
  rw [hchars, keyChars_keyChars_iff, bareKey_eq, List.flatMap_def,
    settled_flatten_iff hcapital, List.isChain_map]
  simp only [merges_capitalize_iff]

/-- The key of `a b` is `AB`, and the key of that is `Ab`. -/
theorem enumKey_letters_not_idempotent :
    ¬ ∀ value, enumKey (enumKey value) = enumKey value := by
  intro h
  have hletters := h "a b"
  revert hletters
  decide +kernel

end CmsTypings
