import CmsTypings.Proofs.Recasing

/-!
Where the words of a text begin and end.

Two letters or digits that follow each other belong to different words exactly if something stands
between them or there is a word break, and that leaves one row of words for a text. A word break
asks for the character before, the one after and the one after that, and nothing but a letter that
stands right there can make one. So what separates the stretches of letters and digits says nothing
about the words inside them: the words of a text are those of its stretches, one stretch after the
other.
-/

namespace CmsTypings.Text

/-! ### Characters and their words -/

/-- The number of the word in which the `k`-th character of a row of words stands. -/
def wordOf : List (List Char) → Nat → Nat
  | [], _ => 0
  | w :: ws, k => if k < w.length then 0 else wordOf ws (k - w.length) + 1

/-- The `k`-th character of a row of words and the next one stand in different words. -/
def CutAfter (ws : List (List Char)) (k : Nat) : Prop := wordOf ws k ≠ wordOf ws (k + 1)

instance (ws : List (List Char)) (k : Nat) : Decidable (CutAfter ws k) :=
  inferInstanceAs (Decidable (_ ≠ _))

/-- The letter or digit `c` follows the letter or digit `p` in another word: something lies in the
gap between them, a lower-case letter or digit meets a capital, or the last capital of a row stands
before a lower-case letter. -/
def PartsFrom (p : Char) (gap : List Char) (c : Char) (rest : List Char) : Prop :=
  gap ≠ [] ∨ ((p.isLower = true ∨ p.isDigit = true) ∧ c.isUpper = true) ∨
    (p.isUpper = true ∧ c.isUpper = true ∧ ∃ n ∈ rest.head?, n.isLower = true)

/-- A row of words is made of the letters and digits of a text, and parts them where it should. -/
structure IsSegmentation (text : List Char) (ws : List (List Char)) : Prop where
  ne_nil : ∀ w ∈ ws, w ≠ []
  alphanum : ∀ w ∈ ws, ∀ c ∈ w, c.isAlphanum = true
  flatten : ws.flatten = text.filter Char.isAlphanum
  cutAfter_iff : ∀ front p gap c rest, text = front ++ p :: (gap ++ c :: rest) →
    p.isAlphanum = true → c.isAlphanum = true → (∀ g ∈ gap, g.isAlphanum = false) →
      (CutAfter ws (front.filter Char.isAlphanum).length ↔ PartsFrom p gap c rest)

/-- The longest stretches of letters and digits in a text, in their order. -/
def runs (text : List Char) : List (List Char) :=
  (text.splitOnP fun c => !c.isAlphanum).filter (· ≠ [])

lemma wordOf_cons_zero {w : List Char} (hw : w ≠ []) (ws : List (List Char)) :
    wordOf (w :: ws) 0 = 0 := by
  have hlen : 0 < w.length := List.length_pos_of_ne_nil hw
  rw [wordOf, if_pos hlen]

lemma wordOf_single_succ (c : Char) (ws : List (List Char)) (k : Nat) :
    wordOf ([c] :: ws) (k + 1) = wordOf ws k + 1 := by
  simp [wordOf]

/-- A character in front moves all the others on by one, and leaves them in their words. -/
lemma wordOf_cons_succ (c : Char) (w : List Char) (ws : List (List Char)) (k : Nat) :
    wordOf ((c :: w) :: ws) (k + 1) = wordOf (w :: ws) k := by
  simp only [wordOf, List.length_cons]
  by_cases hk : k < w.length
  · rw [if_pos hk, if_pos (by omega)]
  · have hrest : k + 1 - (w.length + 1) = k - w.length := by omega
    rw [if_neg hk, if_neg (by omega), hrest]

lemma cutAfter_pushFront_succ (c : Char) (ws : List (List Char)) (k : Nat) :
    CutAfter (pushFront c ws) (k + 1) ↔ CutAfter ws k := by
  cases ws with
  | nil => simp [CutAfter, pushFront, wordOf]
  | cons w ws => rw [CutAfter, CutAfter, pushFront, wordOf_cons_succ, wordOf_cons_succ]

lemma cutAfter_single_succ (c : Char) (ws : List (List Char)) (k : Nat) :
    CutAfter ([c] :: ws) (k + 1) ↔ CutAfter ws k := by
  rw [CutAfter, CutAfter, wordOf_single_succ, wordOf_single_succ]
  omega

/-! ### One border -/

lemma continuesInto_of_gap {p g : Char} (hg : g.isAlphanum = false) (rest : List Char) :
    continuesInto p (g :: rest) = false := by
  simp [continuesInto, hg]

lemma partsFrom_nil_iff (p c : Char) (rest : List Char) :
    PartsFrom p [] c rest ↔ wordBreak p c rest.head? = true := by
  simp only [PartsFrom, wordBreak, ne_eq, not_true_eq_false, false_or, Bool.or_eq_true,
    Bool.and_eq_true, Option.any_eq_true, Option.mem_def, and_assoc]

/-- Next to each other two characters part at a word break. -/
lemma continuesInto_eq_false_iff {p c : Char} {rest : List Char} (hc : c.isAlphanum = true) :
    continuesInto p (c :: rest) = false ↔ PartsFrom p [] c rest := by
  rw [partsFrom_nil_iff, continuesInto, hc, Bool.true_and, Bool.not_eq_false']

/-- The first two letters or digits of a text. -/
lemma cutAfter_zero_iff {p c : Char} {gap rest : List Char} (hp : p.isAlphanum = true)
    (hc : c.isAlphanum = true) (hgap : ∀ g ∈ gap, g.isAlphanum = false) :
    CutAfter (words (p :: (gap ++ c :: rest))) 0 ↔ PartsFrom p gap c rest := by
  have hgoes : continuesInto p (gap ++ c :: rest) = false ↔ PartsFrom p gap c rest := by
    cases gap with
    | nil => exact continuesInto_eq_false_iff hc
    | cons g gs =>
      rw [List.cons_append, continuesInto_of_gap (hgap g List.mem_cons_self)]
      simp [PartsFrom]
  rw [← hgoes, words, if_pos hp]
  cases hword : continuesInto p (gap ++ c :: rest) with
  | false =>
    rw [if_neg Bool.false_ne_true, CutAfter, wordOf_single_succ, wordOf_cons_zero (by simp)]
    simp
  | true =>
    -- the gap is empty, and both characters begin the first word
    have hnil : gap = [] := by
      cases gap with
      | nil => rfl
      | cons g gs =>
        rw [List.cons_append, continuesInto_of_gap (hgap g List.mem_cons_self)] at hword
        cases hword
    subst hnil
    obtain ⟨w, ws, hwords⟩ := words_cons_of_alphanum hc rest
    rw [if_pos rfl, List.nil_append, hwords, pushFront, CutAfter, wordOf_cons_succ,
      wordOf_cons_zero (by simp), wordOf_cons_zero (by simp)]
    simp

/-- Where the words of a text part: what stands in front counts by its letters and digits only. -/
lemma cutAfter_words_iff {p c : Char} {gap rest : List Char} (front : List Char)
    (hp : p.isAlphanum = true) (hc : c.isAlphanum = true)
    (hgap : ∀ g ∈ gap, g.isAlphanum = false) :
    CutAfter (words (front ++ p :: (gap ++ c :: rest))) (front.filter Char.isAlphanum).length ↔
      PartsFrom p gap c rest := by
  induction front with
  | nil => exact cutAfter_zero_iff hp hc hgap
  | cons d front ih =>
    cases hd : d.isAlphanum with
    | false =>
      rw [List.cons_append, words_cons_of_not_alphanum hd, List.filter_cons_of_neg (by simp [hd])]
      exact ih
    | true =>
      rw [List.cons_append, words, if_pos hd, List.filter_cons_of_pos hd, List.length_cons]
      split
      · rw [cutAfter_pushFront_succ, ih]
      · rw [cutAfter_single_succ, ih]

/-! ### No other segmentation -/

/-- A row of words whose first character is `c`: the character is a word of its own, or it stands
before another one in its word. -/
lemma cons_cases {ws : List (List Char)} {c : Char} {l : List Char} (hne : ∀ w ∈ ws, w ≠ [])
    (hflatten : ws.flatten = c :: l) :
    (∃ vs, ws = [c] :: vs ∧ vs.flatten = l ∧ ∀ v ∈ vs, v ≠ []) ∨
      ∃ v vs, ws = pushFront c (v :: vs) ∧ (v :: vs).flatten = l ∧ ∀ w ∈ v :: vs, w ≠ [] := by
  rcases ws with _ | ⟨_ | ⟨d, w⟩, ws⟩
  · cases hflatten
  · exact absurd rfl (hne [] List.mem_cons_self)
  · rw [List.flatten_cons, List.cons_append, List.cons.injEq] at hflatten
    obtain ⟨rfl, hrest⟩ := hflatten
    have hws := (List.forall_mem_cons.1 hne).2
    cases w with
    | nil => exact Or.inl ⟨ws, rfl, hrest, hws⟩
    | cons e w => exact Or.inr ⟨e :: w, ws, rfl, hrest, List.forall_mem_cons.2 ⟨by simp, hws⟩⟩

lemma cutAfter_single_zero (c : Char) (ws : List (List Char)) : CutAfter ([c] :: ws) 0 := by
  rw [CutAfter, wordOf_single_succ, wordOf_cons_zero (by simp)]
  omega

lemma not_cutAfter_pushFront_zero (c : Char) {w : List Char} (hw : w ≠ [])
    (ws : List (List Char)) : ¬ CutAfter (pushFront c (w :: ws)) 0 := by
  rw [CutAfter, pushFront, wordOf_cons_succ, wordOf_cons_zero (by simp), wordOf_cons_zero hw]
  simp

/-- Words are told by their characters and by where they part. -/
lemma eq_of_cutAfter_iff {l : List Char} {ws vs : List (List Char)} (hws : ∀ w ∈ ws, w ≠ [])
    (hvs : ∀ v ∈ vs, v ≠ []) (hwl : ws.flatten = l) (hvl : vs.flatten = l)
    (hcut : ∀ k, k + 1 < l.length → (CutAfter ws k ↔ CutAfter vs k)) : ws = vs := by
  induction l generalizing ws vs with
  | nil =>
    have hnil : ∀ us : List (List Char), (∀ u ∈ us, u ≠ []) → us.flatten = [] → us = [] := by
      intro us hus hflatten
      rw [List.flatten_eq_nil_iff] at hflatten
      exact List.eq_nil_iff_forall_not_mem.2 fun u hu => hus u hu (hflatten u hu)
    rw [hnil ws hws hwl, hnil vs hvs hvl]
  | cons c l ih =>
    have hlater : ∀ {ws' vs' : List (List Char)},
        (∀ k, CutAfter ws (k + 1) ↔ CutAfter ws' k) →
        (∀ k, CutAfter vs (k + 1) ↔ CutAfter vs' k) →
        ∀ k, k + 1 < l.length → (CutAfter ws' k ↔ CutAfter vs' k) := by
      intro ws' vs' hw hv k hk
      rw [← hw, ← hv]
      exact hcut (k + 1) (by simp only [List.length_cons]; omega)
    have htwo : ∀ {u : List Char} {us : List (List Char)}, (∀ w ∈ u :: us, w ≠ []) →
        (u :: us).flatten = l → 0 + 1 < (c :: l).length := by
      intro u us hus hflatten
      have hlen := List.length_pos_of_ne_nil (hus u List.mem_cons_self)
      rw [← hflatten, List.length_cons, List.flatten_cons, List.length_append]
      omega
    -- both rows begin alike: there is a cut behind the first character in both or in neither
    rcases cons_cases hws hwl with ⟨ws', rfl, hwl', hws'⟩ | ⟨w, ws', rfl, hwl', hws'⟩ <;>
      rcases cons_cases hvs hvl with ⟨vs', rfl, hvl', hvs'⟩ | ⟨v, vs', rfl, hvl', hvs'⟩
    · rw [ih hws' hvs' hwl' hvl' (hlater (cutAfter_single_succ c ws') (cutAfter_single_succ c vs'))]
    · have hfirst := (hcut 0 (htwo hvs' hvl')).1 (cutAfter_single_zero c ws')
      exact absurd hfirst (not_cutAfter_pushFront_zero c (hvs' v List.mem_cons_self) vs')
    · have hfirst := (hcut 0 (htwo hws' hwl')).2 (cutAfter_single_zero c vs')
      exact absurd hfirst (not_cutAfter_pushFront_zero c (hws' w List.mem_cons_self) ws')
    · rw [ih hws' hvs' hwl' hvl'
        (hlater (cutAfter_pushFront_succ c (w :: ws')) (cutAfter_pushFront_succ c (v :: vs')))]

/-- Two letters or digits that follow each other, by the number of the first. -/
lemma exists_neighbours {text : List Char} {k : Nat}
    (hk : k + 1 < (text.filter Char.isAlphanum).length) :
    ∃ front p gap c rest, text = front ++ p :: (gap ++ c :: rest) ∧ p.isAlphanum = true ∧
      c.isAlphanum = true ∧ (∀ g ∈ gap, g.isAlphanum = false) ∧
      (front.filter Char.isAlphanum).length = k := by
  induction text generalizing k with
  | nil => simp at hk
  | cons d text ih =>
    cases hd : d.isAlphanum with
    | false =>
      rw [List.filter_cons_of_neg (by simp [hd])] at hk
      obtain ⟨front, p, gap, c, rest, rfl, hp, hc, hgap, hfront⟩ := ih hk
      exact ⟨d :: front, p, gap, c, rest, rfl, hp, hc, hgap, by simp [hd, hfront]⟩
    | true =>
      rw [List.filter_cons_of_pos hd, List.length_cons] at hk
      cases k with
      | zero =>
        have hsome : (text.find? Char.isAlphanum).isSome = true := by
          rw [List.find?_isSome]
          have hpos : 0 < (text.filter Char.isAlphanum).length := by omega
          obtain ⟨c, hc⟩ := List.exists_mem_of_length_pos hpos
          exact ⟨c, List.mem_filter.1 hc⟩
        obtain ⟨c, hfound⟩ := Option.isSome_iff_exists.1 hsome
        obtain ⟨hc, gap, rest, rfl, hgap⟩ := List.find?_eq_some_iff_append.1 hfound
        exact ⟨[], d, gap, c, rest, rfl, hd, hc, fun g hg => by simpa using hgap g hg, rfl⟩
      | succ k =>
        have hk' : k + 1 < (text.filter Char.isAlphanum).length := by omega
        obtain ⟨front, p, gap, c, rest, rfl, hp, hc, hgap, hfront⟩ := ih hk'
        exact ⟨d :: front, p, gap, c, rest, rfl, hp, hc, hgap, by simp [hd, hfront]⟩

/-- **A text has one segmentation.** -/
lemma IsSegmentation.unique {text : List Char} {ws vs : List (List Char)}
    (hws : IsSegmentation text ws) (hvs : IsSegmentation text vs) : ws = vs := by
  refine eq_of_cutAfter_iff hws.ne_nil hvs.ne_nil hws.flatten hvs.flatten fun k hk => ?_
  obtain ⟨front, p, gap, c, rest, htext, hp, hc, hgap, rfl⟩ := exists_neighbours hk
  rw [hws.cutAfter_iff front p gap c rest htext hp hc hgap,
    hvs.cutAfter_iff front p gap c rest htext hp hc hgap]

/-! ### Stretches -/

/-- A word that goes on is not affected by what stands behind a separator. -/
lemma continuesInto_append {g : Char} (hg : g.isAlphanum = false) (d : Char)
    (front back : List Char) : continuesInto d (front ++ g :: back) = continuesInto d front := by
  have hlower : g.isLower = false := by
    simp only [Char.isAlphanum, Char.isAlpha, Bool.or_eq_false_iff] at hg
    exact hg.1.2
  rcases front with _ | ⟨e, _ | ⟨n, more⟩⟩
  · exact continuesInto_of_gap hg back
  · simp [continuesInto, wordBreak, hlower]
  · rfl

/-- **No word reaches over a separator.** -/
lemma words_append_separator {g : Char} (hg : g.isAlphanum = false) (front back : List Char) :
    words (front ++ g :: back) = words front ++ words back := by
  induction front with
  | nil => exact words_cons_of_not_alphanum hg back
  | cons d front ih =>
    cases hd : d.isAlphanum with
    | false =>
      rw [List.cons_append, words_cons_of_not_alphanum hd, words_cons_of_not_alphanum hd, ih]
    | true =>
      rw [List.cons_append, words, words, if_pos hd, if_pos hd, continuesInto_append hg, ih]
      split
      · next hgoes =>
        -- the word goes on into a letter or digit, so there is a word to go on into
        cases front with
        | nil => cases hgoes
        | cons e more =>
          have he : e.isAlphanum = true := by
            rw [continuesInto, Bool.and_eq_true] at hgoes
            exact hgoes.1
          obtain ⟨w, ws, hwords⟩ := words_cons_of_alphanum he more
          rw [hwords]
          rfl
      · rfl

lemma flatMap_words_filter (pieces : List (List Char)) :
    (pieces.filter (· ≠ [])).flatMap words = pieces.flatMap words := by
  induction pieces with
  | nil => rfl
  | cons piece pieces ih =>
    rw [List.flatMap_cons, ← ih, List.filter_cons]
    by_cases hpiece : piece = []
    · simp [hpiece]
    · simp [hpiece]

/-- The words of a text are those of its stretches. -/
theorem words_eq_flatMap_runs (text : List Char) : words text = (runs text).flatMap words := by
  rw [runs, flatMap_words_filter]
  induction hlen : text.length using Nat.strong_induction_on generalizing text with
  | _ n ih =>
    by_cases hall : ∀ c ∈ text, c.isAlphanum = true
    · have hone : text.splitOnP (fun c => !c.isAlphanum) = [text] :=
        List.splitOnP_eq_singleton fun c hc => by simp [hall c hc]
      rw [hone, List.flatMap_singleton]
    · push Not at hall
      obtain ⟨g, hmem, hg⟩ := hall
      obtain ⟨front, back, rfl⟩ := List.append_of_mem hmem
      rw [List.length_append, List.length_cons] at hlen
      have hsep : g.isAlphanum = false := by simpa using hg
      have hsplit : (front ++ g :: back).splitOnP (fun c => !c.isAlphanum) =
          front.splitOnP (fun c => !c.isAlphanum) ++ back.splitOnP (fun c => !c.isAlphanum) :=
        List.splitOnP_append_cons front back (by simp [hsep])
      rw [hsplit, List.flatMap_append, words_append_separator hsep,
        ih front.length (by omega) front rfl, ih back.length (by omega) back rfl]

lemma isSegmentation_words (text : List Char) : IsSegmentation text (words text) where
  ne_nil w hw := ne_nil_of_mem_words hw
  alphanum w hw c hc := alphanum_of_mem_words hw hc
  flatten := flatten_words text
  cutAfter_iff := by
    intro front p gap c rest htext hp hc hgap
    rw [htext]
    exact cutAfter_words_iff front hp hc hgap

/-- **Exact segmentation.** The words of a text are the one row of words that holds its letters and
digits, each once and in order, and that parts two which follow each other exactly where something
stands between them or where there is a word break. Texts with the same stretches of letters and
digits have the same words, and the same name in Pascal case. -/
theorem words_exact (text : String) :
    (∀ ws, IsSegmentation text.toList ws ↔ ws = words text.toList) ∧
      ∀ other : String, runs other.toList = runs text.toList →
        words other.toList = words text.toList ∧ pascalCase other = pascalCase text := by
  constructor
  · intro ws
    constructor
    · intro h
      exact h.unique (isSegmentation_words text.toList)
    · rintro rfl
      exact isSegmentation_words text.toList
  · intro other hruns
    have hwords : words other.toList = words text.toList := by
      rw [words_eq_flatMap_runs, words_eq_flatMap_runs text.toList, hruns]
    refine ⟨hwords, ?_⟩
    rw [pascalCase, pascalCase, pascal, pascal, hwords]

/-- A title whose words part in each of the three ways, and its stretches between other separators.
Counted from 0, the letters 5 and 6 are the last two of a row of capitals, before a lower-case
letter. -/
theorem serverTitle_exact :
    CutAfter (words "myHTTPServer v2".toList) 5 ∧
      pascalCase "--myHTTPServer\u2003v2!" = pascalCase "myHTTPServer v2" := by
  obtain ⟨hwords, hsame⟩ := words_exact "myHTTPServer v2"
  have hparts : PartsFrom 'P' [] 'S' "erver v2".toList :=
    Or.inr (Or.inr ⟨by decide, by decide, 'e', by decide, by decide⟩)
  have hcut := ((hwords _).2 rfl).cutAfter_iff "myHTT".toList 'P' [] 'S' "erver v2".toList
    (by decide) (by decide) (by decide) (by simp)
  have hruns : runs "--myHTTPServer\u2003v2!".toList = runs "myHTTPServer v2".toList := by
    decide +kernel
  exact ⟨hcut.2 hparts, (hsame _ hruns).2⟩

end CmsTypings.Text
