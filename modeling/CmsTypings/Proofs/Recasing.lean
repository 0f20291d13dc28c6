import CmsTypings.Proofs.PascalName

/-!
Capitalized words written together, and split into words again.

A row of capitalized words holds no capital but at the beginning of a word, so it is split nowhere
else. It is split before a capital, unless the capital stands between another one and something
other than a lower-case letter: there two words have merged, and the second of them loses its
capital when the row is recased. So recasing leaves a row of capitalized words as it is exactly when
no two of them merge.
-/

namespace CmsTypings.Text

/-! ### Case -/

lemma toUpper_eq_self_iff (c : Char) : c.toUpper = c ↔ c.isLower = false := by
  constructor
  · intro h
    rw [← h]
    exact Char.isLower_toUpper_eq_false c
  · intro h
    exact Char.toUpper_eq_of_not_isLower (by simp [h])

lemma toLower_eq_self_iff (c : Char) : c.toLower = c ↔ c.isUpper = false := by
  constructor
  · intro h
    rw [← h]
    exact Char.isUpper_toLower_eq_false c
  · intro h
    exact Char.toLower_eq_of_not_isUpper (by simp [h])

/-- A letter or digit is one of three kinds. -/
lemma alphanum_cases {c : Char} (h : c.isAlphanum = true) :
    c.isUpper = true ∨ c.isLower = true ∨ c.isDigit = true := by
  simpa [Char.isAlphanum, Char.isAlpha, or_assoc] using h

lemma isAlpha_eq_false_of_isDigit {c : Char} (h : c.isDigit = true) : c.isAlpha = false := by
  -- the digits stand before all letters
  simp only [Char.isAlpha, Char.isUpper, Char.isLower, Char.isDigit] at *
  grind

/-! ### Capitalized words -/

/-- A word as Pascal case writes it. -/
structure IsCapitalized (w : List Char) : Prop where
  ne_nil : w ≠ []
  alphanum : ∀ c ∈ w, c.isAlphanum = true
  capitalize_eq : capitalize w = w

lemma capitalize_cons_eq_self_iff (c : Char) (cs : List Char) :
    capitalize (c :: cs) = c :: cs ↔ c.isLower = false ∧ ∀ d ∈ cs, d.isUpper = false := by
  have htail : cs.map Char.toLower = cs ↔ ∀ d ∈ cs, d.isUpper = false := by
    have hmap : cs.map Char.toLower = cs.map id ↔ ∀ d ∈ cs, d.toLower = d := List.map_inj_left
    simpa [toLower_eq_self_iff] using hmap
  rw [capitalize, List.cons.injEq, toUpper_eq_self_iff, htail]

lemma capitalize_capitalize (w : List Char) : capitalize (capitalize w) = capitalize w := by
  cases w with
  | nil => rfl
  | cons c cs => simp [capitalize]

lemma length_capitalize (w : List Char) : (capitalize w).length = w.length := by
  cases w <;> simp [capitalize]

lemma ne_nil_of_mem_words {text w : List Char} (h : w ∈ words text) : w ≠ [] := by
  induction text generalizing w with
  | nil => simp at h
  | cons c rest ih =>
    rw [words] at h
    split at h
    · split at h
      · -- the character goes in front of the first word, if there is one
        cases hws : words rest with
        | nil => simp_all [pushFront]
        | cons v vs =>
          simp only [hws, pushFront, List.mem_cons] at h ih
          rcases h with rfl | h
          · exact List.cons_ne_nil c v
          · exact ih (Or.inr h)
      · rcases List.mem_cons.1 h with rfl | h
        · exact List.cons_ne_nil c []
        · exact ih h
    · exact ih h

/-- Pascal case capitalizes the words of a text. -/
lemma isCapitalized_capitalize {text w : List Char} (h : w ∈ words text) :
    IsCapitalized (capitalize w) where
  ne_nil := by
    have hlen := length_capitalize w
    have hw := List.length_pos_of_ne_nil (ne_nil_of_mem_words h)
    exact List.ne_nil_of_length_pos (by omega)
  alphanum c hc := alphanum_of_mem_capitalize (fun d hd => alphanum_of_mem_words h hd) hc
  capitalize_eq := capitalize_capitalize w

/-! ### Splitting behind a capitalized word -/

/-- A word set before the first of several, as a part of it. -/
def attach (w : List Char) : List (List Char) → List (List Char)
  | [] => [w]
  | v :: vs => (w ++ v) :: vs

/-- A word without inner capitals is split nowhere; whether it goes on into what follows is a matter
of its last character. -/
lemma words_append {c : Char} {cs : List Char} (hc : ∀ d ∈ c :: cs, d.isAlphanum = true)
    (hcs : ∀ d ∈ cs, d.isUpper = false) (rest : List Char) :
    words (c :: cs ++ rest) =
      if continuesInto (cs.getLastD c) rest then attach (c :: cs) (words rest)
      else (c :: cs) :: words rest := by
  induction cs generalizing c with
  | nil =>
    have hattach : attach [c] (words rest) = pushFront c (words rest) := by
      cases words rest <;> rfl
    simp [words, hc c (by simp), hattach]
  | cons d ds ih =>
    have hd : d.isUpper = false := hcs d (by simp)
    have hgoes : continuesInto c (d :: ds ++ rest) = true := by
      simp [continuesInto, wordBreak, hd, hc d (by simp)]
    have hinner := ih (fun e he => hc e (List.mem_cons_of_mem c he))
      (fun e he => hcs e (List.mem_cons_of_mem d he))
    rw [List.cons_append, words, if_pos (hc c (by simp)), if_pos hgoes, hinner, List.getLastD_cons]
    split
    · cases words rest <;> simp [attach, pushFront]
    · rfl

/-! ### Rows of capitalized words -/

/-- Recasing leaves the letters and digits of a text as they are. -/
def Settled (text : List Char) : Prop := ∀ w ∈ words text, capitalize w = w

/-- The border between two words is lost if the first is a single letter and the second begins with
a letter that no other letter follows. -/
def Merges (w v : List Char) : Prop :=
  w.length = 1 ∧ w.head?.any Char.isAlpha = true ∧
    v.head?.any Char.isAlpha = true ∧ v.tail.head?.any Char.isAlpha = false

instance (w v : List Char) : Decidable (Merges w v) :=
  inferInstanceAs (Decidable (_ ∧ _ ∧ _ ∧ _))

lemma merges_capitalize_iff (w v : List Char) :
    Merges (capitalize w) (capitalize v) ↔ Merges w v := by
  have hhead : ∀ u : List Char, (capitalize u).head?.any Char.isAlpha = u.head?.any Char.isAlpha := by
    intro u
    cases u <;> simp [capitalize]
  have hsecond : (capitalize v).tail.head?.any Char.isAlpha = v.tail.head?.any Char.isAlpha := by
    cases v with
    | nil => rfl
    | cons d ds => cases ds <;> simp [capitalize]
  rw [Merges, Merges, length_capitalize, hhead, hhead, hsecond]

lemma flatMap_capitalize_eq_flatten_iff (ws : List (List Char)) :
    ws.flatMap capitalize = ws.flatten ↔ ∀ w ∈ ws, capitalize w = w := by
  induction ws with
  | nil => simp
  | cons w ws ih =>
    rw [List.flatMap_cons, List.flatten_cons, List.forall_mem_cons, ← ih]
    constructor
    · intro h
      exact List.append_inj h (length_capitalize w)
    · rintro ⟨hw, hws⟩
      rw [hw, hws]

/-- A capitalized word from which the rest is split off is left as it is. -/
lemma settled_append_of_split {c : Char} {cs rest : List Char} (hw : IsCapitalized (c :: cs))
    (hsplit : continuesInto (cs.getLastD c) rest = false) :
    Settled (c :: cs ++ rest) ↔ Settled rest := by
  have hcs := ((capitalize_cons_eq_self_iff c cs).1 hw.capitalize_eq).2
  rw [Settled, words_append hw.alphanum hcs, hsplit]
  simp [Settled, hw.capitalize_eq]

/-- A capitalized word that goes on into the rest keeps its case, and the rest does so too unless it
begins with a capital. -/
lemma settled_append_of_continues {c d : Char} {cs more : List Char} (hw : IsCapitalized (c :: cs))
    (hd : d.isAlphanum = true) (hlower : d.isLower = false)
    (hgoes : continuesInto (cs.getLastD c) (d :: more) = true) :
    Settled (c :: cs ++ d :: more) ↔ d.isUpper = false ∧ Settled (d :: more) := by
  obtain ⟨hc, hcs⟩ := (capitalize_cons_eq_self_iff c cs).1 hw.capitalize_eq
  obtain ⟨v, vs, hwords⟩ := words_cons_of_alphanum hd more
  have hwhole : capitalize (c :: cs ++ d :: v) = c :: cs ++ d :: v ↔
      d.isUpper = false ∧ ∀ e ∈ v, e.isUpper = false := by
    rw [List.cons_append, capitalize_cons_eq_self_iff]
    simp only [hc, true_and, List.mem_append, List.mem_cons]
    constructor
    · intro h
      exact ⟨h d (by simp), fun e he => h e (by simp [he])⟩
    · rintro ⟨hdu, hv⟩ e (he | rfl | he)
      · exact hcs e he
      · exact hdu
      · exact hv e he
  have hpart : capitalize (d :: v) = d :: v ↔ ∀ e ∈ v, e.isUpper = false := by
    rw [capitalize_cons_eq_self_iff]
    simp [hlower]
  rw [Settled, words_append hw.alphanum hcs, if_pos hgoes, hwords, attach, Settled, hwords,
    List.forall_mem_cons, List.forall_mem_cons, hwhole, hpart, and_assoc]

/-- Before a capital a capitalized word goes on exactly if the word that follows merges with it. -/
lemma continuesInto_iff_merges {c d : Char} {cs ds rest : List Char}
    (hw : IsCapitalized (c :: cs)) (hv : IsCapitalized (d :: ds)) (hd : d.isUpper = true)
    (hrest : rest.head?.any Char.isLower = false) :
    continuesInto (cs.getLastD c) (d :: (ds ++ rest)) = true ↔ Merges (c :: cs) (d :: ds) := by
  obtain ⟨hc, hcs⟩ := (capitalize_cons_eq_self_iff c cs).1 hw.capitalize_eq
  obtain ⟨-, hds⟩ := (capitalize_cons_eq_self_iff d ds).1 hv.capitalize_eq
  have hdalpha : d.isAlpha = true := by simp [Char.isAlpha, hd]
  have hnext : (ds ++ rest).head?.any Char.isLower = ds.head?.any Char.isAlpha := by
    cases ds with
    | nil => simpa using hrest
    | cons e es => simp [Char.isAlpha, hds e (by simp)]
  have hdnum : d.isAlphanum = true := hv.alphanum d (by simp)
  rcases List.eq_nil_or_concat' cs with rfl | ⟨front, last, rfl⟩
  · rcases alphanum_cases (hw.alphanum c (by simp)) with hcu | hcl | hcd
    · have hcdigit : c.isDigit = false := by
        by_contra h
        have halpha := isAlpha_eq_false_of_isDigit (by simpa using h)
        simp [Char.isAlpha, hcu] at halpha
      have hcalpha : c.isAlpha = true := by simp [Char.isAlpha, hcu]
      have hsplit : wordBreak c d (ds ++ rest).head? = ds.head?.any Char.isAlpha := by
        rw [← hnext]
        simp [wordBreak, hc, hcdigit, hcu, hd]
      have hgoes : continuesInto c (d :: (ds ++ rest)) = !ds.head?.any Char.isAlpha := by
        rw [continuesInto, hdnum, hsplit, Bool.true_and]
      simp [hgoes, Merges, hcalpha, hdalpha]
    · simp [hc] at hcl
    · simp [continuesInto, wordBreak, Merges, hd, hcd, isAlpha_eq_false_of_isDigit hcd]
  · -- behind its first character the word holds no capital, so it ends before one
    have hlast : last.isUpper = false := hcs last (by simp)
    have hends : last.isLower = true ∨ last.isDigit = true := by
      rcases alphanum_cases (hw.alphanum last (by simp)) with h | h
      · simp [hlast] at h
      · exact h
    have hbreak : (last.isLower || last.isDigit) = true := by simpa using hends
    simp [continuesInto, wordBreak, Merges, hd, hbreak]

/-- One border in a row of capitalized words. -/
lemma settled_append_iff {c d : Char} {cs ds rest : List Char} (hw : IsCapitalized (c :: cs))
    (hv : IsCapitalized (d :: ds)) (hrest : rest.head?.any Char.isLower = false) :
    Settled (c :: cs ++ d :: (ds ++ rest)) ↔
      ¬ Merges (c :: cs) (d :: ds) ∧ Settled (d :: (ds ++ rest)) := by
  have hdnum : d.isAlphanum = true := hv.alphanum d (by simp)
  have hdlower := ((capitalize_cons_eq_self_iff d ds).1 hv.capitalize_eq).1
  cases hgoes : continuesInto (cs.getLastD c) (d :: (ds ++ rest)) with
  | false =>
    have hmerges : ¬ Merges (c :: cs) (d :: ds) := by
      intro hm
      have hdalpha : d.isAlpha = true := by simpa using hm.2.2.1
      have hdu : d.isUpper = true := by simpa [Char.isAlpha, hdlower] using hdalpha
      exact Bool.false_ne_true (hgoes ▸ (continuesInto_iff_merges hw hv hdu hrest).2 hm)
    rw [settled_append_of_split hw hgoes]
    simp [hmerges]
  | true =>
    have hmerges : d.isUpper = false ↔ ¬ Merges (c :: cs) (d :: ds) := by
      cases hdu : d.isUpper with
      | true => simpa using (continuesInto_iff_merges hw hv hdu hrest).1 hgoes
      | false => simp [Merges, Char.isAlpha, hdu, hdlower]
    rw [settled_append_of_continues hw hdnum hdlower hgoes, hmerges]

lemma head?_flatten_not_lower {ws : List (List Char)} (hws : ∀ w ∈ ws, IsCapitalized w) :
    ws.flatten.head?.any Char.isLower = false := by
  cases ws with
  | nil => rfl
  | cons w ws =>
    have hw := hws w (by simp)
    obtain ⟨c, cs, rfl⟩ := List.exists_cons_of_ne_nil hw.ne_nil
    simpa using ((capitalize_cons_eq_self_iff c cs).1 hw.capitalize_eq).1

/-- **A row of capitalized words is left as it is exactly when no two of them merge.** -/
theorem settled_flatten_iff {ws : List (List Char)} (hws : ∀ w ∈ ws, IsCapitalized w) :
    Settled ws.flatten ↔ ws.IsChain fun w v => ¬ Merges w v := by
  induction ws with
  | nil => simp [Settled]
  | cons w ws ih =>
    obtain ⟨hw, hrow⟩ := List.forall_mem_cons.1 hws
    obtain ⟨c, cs, rfl⟩ := List.exists_cons_of_ne_nil hw.ne_nil
    cases ws with
    | nil =>
      have hend : continuesInto (cs.getLastD c) [] = false := rfl
      simpa [Settled] using settled_append_of_split hw hend
    | cons v vs =>
      obtain ⟨hv, hvs⟩ := List.forall_mem_cons.1 hrow
      obtain ⟨d, ds, rfl⟩ := List.exists_cons_of_ne_nil hv.ne_nil
      have hflatten : ((d :: ds) :: vs).flatten = d :: (ds ++ vs.flatten) := rfl
      have hrest := head?_flatten_not_lower hvs
      rw [List.isChain_cons_cons, ← ih hrow, List.flatten_cons, hflatten,
        settled_append_iff hw hv hrest]

end CmsTypings.Text
