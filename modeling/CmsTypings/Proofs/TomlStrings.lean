import CmsTypings.Toml.Writer
import Mathlib.Data.List.Basic

/-!
Strings written to a TOML document and read back.

A text is written in one of four forms: with escapes or without, on one line or on several. For
each form one step of its scan takes back what one character was written as; a text without escapes
must not hold what would close it. The scan of a whole text follows, whatever stands behind the
closing quotes, so long as it is no quote itself.
-/

namespace CmsTypings.Toml.Text

variable {c : Char} {text rest more : List Char}

/-- What follows a string: it goes on with no quote. -/
def Apart (rest : List Char) : Prop := rest.head? ≠ some '"' ∧ rest.head? ≠ some '\''

/-- A character that cannot stand for itself has few digits. -/
lemma toNat_lt_of_not_plain (h : isPlain c = false) : c.toNat < 128 := by
  by_contra hc
  have hblank : ' ' ≤ c := by
    rw [Char.le_def, UInt32.le_iff_toNat_le]
    change 32 ≤ c.toNat
    omega
  have hdelete : c ≠ '\x7f' := by
    rintro rfl
    exact hc (by decide)
  simp [isPlain, hblank, hdelete] at h

lemma coded?_hexDigits_of_lt : ∀ n < 128, (hexDigits n).length = 4 ∧
    coded? (hexDigits n) = some (Char.ofNat n) := by
  decide

/-- The digits of a character name it. -/
lemma exists_hexDigits (h : isPlain c = false) : ∃ d₁ d₂ d₃ d₄,
    hexDigits c.toNat = [d₁, d₂, d₃, d₄] ∧ coded? [d₁, d₂, d₃, d₄] = some c := by
  obtain ⟨hlength, hcoded⟩ := coded?_hexDigits_of_lt c.toNat (toNat_lt_of_not_plain h)
  obtain ⟨d₁, d₂, d₃, d₄, hds⟩ := List.length_eq_four.1 hlength
  rw [hds, Char.ofNat_toNat] at hcoded
  exact ⟨d₁, d₂, d₃, d₄, hds, hcoded⟩

/-! ### Between double quotes -/

/-- The characters with an escape of one letter; a line end has one on one line only. -/
def letters (lines : Bool) : List (Char × Char) :=
  [('\x08', 'b'), ('\t', 't'), ('\x0c', 'f'), ('\r', 'r'), ('"', '"'), ('\\', '\\')] ++
    if lines then [] else [('\n', 'n')]

/-- How a character is written between double quotes. -/
inductive Escape (lines : Bool) (c : Char) : List Char → Prop where
  | lineEnd (several : lines = true) (lineEnd : c = '\n') : Escape lines c ['\n']
  | letter {e : Char} (short : (c, e) ∈ letters lines) : Escape lines c ['\\', e]
  | plain (plain : isPlain c = true) (quote : c ≠ '"') (slash : c ≠ '\\') : Escape lines c [c]
  | code {d₁ d₂ d₃ d₄ : Char} (coded : coded? [d₁, d₂, d₃, d₄] = some c) :
    Escape lines c ['\\', 'u', d₁, d₂, d₃, d₄]

lemma escape_spec (lines : Bool) (c : Char) : Escape lines c (escape lines c) := by
  by_cases hspecial : c ∈ ['\n', '\x08', '\t', '\x0c', '\r', '"', '\\']
  · simp only [List.mem_cons, List.not_mem_nil, or_false] at hspecial
    obtain rfl | hspecial := hspecial
    · cases lines with
      | true => exact .lineEnd rfl rfl
      | false => exact .letter (by decide)
    · obtain rfl | rfl | rfl | rfl | rfl | rfl := hspecial <;>
        exact .letter (List.mem_append_left _ (by decide))
  · simp only [List.mem_cons, List.not_mem_nil, or_false, not_or] at hspecial
    obtain ⟨hline, hback, htab, hfeed, hreturn, hquote, hslash⟩ := hspecial
    cases hplain : isPlain c with
    | true =>
      have hescape : escape lines c = [c] := by
        simp [escape, hline, hback, htab, hfeed, hreturn, hquote, hslash, hplain]
      exact hescape ▸ .plain hplain hquote hslash
    | false =>
      obtain ⟨d₁, d₂, d₃, d₄, hds, hcoded⟩ := exists_hexDigits hplain
      have hescape : escape lines c = ['\\', 'u', d₁, d₂, d₃, d₄] := by
        simp [escape, hline, hback, htab, hfeed, hreturn, hquote, hslash, hplain, hds]
      exact hescape ▸ .code hcoded

/-- One character on one line. -/
lemma basic_step {written : List Char} (h : Escape false c written) (more : List Char) :
    basic (written ++ more) = before [c] (basic more) := by
  cases h with
  | lineEnd several => cases several
  | letter short =>
    simp only [letters, List.mem_append, List.mem_cons, Prod.mk.injEq, List.not_mem_nil, or_false,
      Bool.false_eq_true, if_false] at short
    obtain (⟨rfl, rfl⟩ | ⟨rfl, rfl⟩ | ⟨rfl, rfl⟩ | ⟨rfl, rfl⟩ | ⟨rfl, rfl⟩ | ⟨rfl, rfl⟩) |
      ⟨rfl, rfl⟩ := short <;> rfl
  | plain plain quote slash =>
    rw [List.singleton_append, basic.eq_def]
    split <;> simp_all
  | code coded =>
    simp only [List.cons_append, List.nil_append, basic, coded]
    rfl

lemma basic_flatMap_escape (text rest : List Char) :
    basic (text.flatMap (escape false) ++ '"' :: rest) = some (text, rest) := by
  induction text with
  | nil => rfl
  | cons c text ih =>
    rw [List.flatMap_cons, List.append_assoc, basic_step (escape_spec false c), ih]
    rfl

/-- One character on several lines. -/
lemma basicLines_step {written : List Char} (h : Escape true c written) (more : List Char) :
    basicLines false (written ++ more) = before [c] (basicLines false more) := by
  cases h with
  | lineEnd _ lineEnd =>
    subst lineEnd
    rfl
  | letter short =>
    simp only [letters, List.mem_append, List.mem_cons, Prod.mk.injEq, List.not_mem_nil, or_false,
      if_true] at short
    obtain ⟨rfl, rfl⟩ | ⟨rfl, rfl⟩ | ⟨rfl, rfl⟩ | ⟨rfl, rfl⟩ | ⟨rfl, rfl⟩ | ⟨rfl, rfl⟩ := short <;>
      rfl
  | plain plain quote slash =>
    have hreturn : c ≠ '\r' := by
      rintro rfl
      exact absurd plain (by decide)
    rw [List.singleton_append, basicLines.eq_def]
    split <;> simp_all
  | code coded =>
    simp only [List.cons_append, List.nil_append, basicLines, coded]
    rfl

lemma basicLines_flatMap_escape (text : List Char) (h : Apart rest) :
    basicLines false (text.flatMap (escape true) ++ ['"', '"', '"'] ++ rest) = some (text, rest) := by
  induction text with
  | nil =>
    cases rest with
    | nil => rfl
    | cons d rest =>
      have hquote : d ≠ '"' := by simpa using h.1
      simp [basicLines, hquote]
  | cons c text ih =>
    rw [List.flatMap_cons, List.append_assoc, List.append_assoc,
      basicLines_step (escape_spec true c), ← List.append_assoc, ih]
    rfl

/-! ### Between single quotes -/

lemma literal_append (htext : ∀ c ∈ text, isPlain c = true ∧ c ≠ '\'') (rest : List Char) :
    literal (text ++ '\'' :: rest) = some (text, rest) := by
  induction text with
  | nil => rfl
  | cons c text ih =>
    obtain ⟨⟨hplain, hquote⟩, htext⟩ := List.forall_mem_cons.1 htext
    rw [List.cons_append, literal, if_pos hplain, ih htext]
    · rfl
    · exact hquote

/-- Several lines without escapes hold no three single quotes and do not end in one. -/
structure Literal (text : List Char) : Prop where
  plain : ∀ c ∈ text, isPlain c = true ∨ c = '\n'
  noTriple : hasTripleQuote text = false
  last : text.getLast? ≠ some '\''

lemma Literal.tail (h : Literal (c :: text)) : Literal text where
  plain := (List.forall_mem_cons.1 h.plain).2
  noTriple := by
    have := h.noTriple
    simp only [hasTripleQuote, Bool.or_eq_false_iff] at this
    exact this.2
  last := by
    cases text with
    | nil => simp
    | cons d text => simpa using h.last

/-- A single quote in the text is not followed by two others, not even by the closing ones. -/
lemma Literal.not_quotes (h : Literal ('\'' :: text)) :
    text ++ ['\'', '\'', '\''] ++ rest ≠ '\'' :: '\'' :: more := by
  cases text with
  | nil => exact absurd rfl h.last
  | cons d text =>
    by_cases hfirst : d = '\''
    · subst hfirst
      cases text with
      | nil => exact absurd rfl h.last
      | cons e text =>
        have hsecond : e ≠ '\'' := by
          rintro rfl
          simpa [hasTripleQuote] using h.noTriple
        simp [hsecond]
    · simp [hfirst]

lemma literalLines_append (htext : Literal text) (h : Apart rest) :
    literalLines (text ++ ['\'', '\'', '\''] ++ rest) = some (text, rest) := by
  induction text with
  | nil =>
    cases rest with
    | nil => rfl
    | cons d rest =>
      have hquote : d ≠ '\'' := by simpa using h.2
      simp [literalLines, hquote]
  | cons c text ih =>
    have hstep : literalLines (c :: (text ++ ['\'', '\'', '\''] ++ rest)) =
        before [c] (literalLines (text ++ ['\'', '\'', '\''] ++ rest)) := by
      by_cases hline : c = '\n'
      · subst hline
        rfl
      have hplain : isPlain c = true := (htext.plain c List.mem_cons_self).resolve_right hline
      have hreturn : c ≠ '\r' := by
        rintro rfl
        exact absurd hplain (by decide)
      have hopen : c = '\'' → ∀ more, text ++ ['\'', '\'', '\''] ++ rest ≠ '\'' :: '\'' :: more := by
        rintro rfl more
        exact htext.not_quotes
      rw [literalLines.eq_def]
      split <;> simp_all
    rw [List.cons_append, List.cons_append, hstep, ih htext.tail]
    rfl

/-! ### All forms -/

lemma any?_double (h : ∀ more, text ≠ '"' :: '"' :: more) : any? ('"' :: text) = basic text := by
  rw [any?.eq_def]
  split <;> simp_all [line?]

lemma any?_single (h : ∀ more, text ≠ '\'' :: '\'' :: more) : any? ('\'' :: text) = literal text := by
  rw [any?.eq_def]
  split <;> simp_all [line?]

lemma afterLineEnd_of_plain (h : ∀ c ∈ text.head?, isPlain c = true) : afterLineEnd text = text := by
  cases text with
  | nil => rfl
  | cons c text =>
    have hplain : isPlain c = true := h c rfl
    have hline : c ≠ '\n' := by
      rintro rfl
      exact absurd hplain (by decide)
    have hreturn : c ≠ '\r' := by
      rintro rfl
      exact absurd hplain (by decide)
    rw [afterLineEnd.eq_def]
    split <;> simp_all

lemma literal_of_prefersLiteral (h : prefersLiteral text = true) : Literal text := by
  simp only [prefersLiteral, fitsLiteral, Bool.and_eq_true, List.all_eq_true, Bool.or_eq_true,
    decide_eq_true_eq, Bool.not_eq_true'] at h
  exact ⟨h.2.1.1, h.2.1.2, h.2.2⟩

lemma basic_body_ne (h : Apart rest) (text more : List Char) :
    text.flatMap (escape false) ++ '"' :: rest ≠ '"' :: '"' :: more := by
  cases text with
  | nil =>
    intro heq
    obtain ⟨-, hrest⟩ := List.cons.inj heq
    exact h.1 (by rw [hrest]; rfl)
  | cons c text =>
    have hspec := escape_spec false c
    rw [List.flatMap_cons, List.append_assoc]
    generalize escape false c = written at hspec
    cases hspec with
    | lineEnd several => cases several
    | letter => simp
    | plain _ quote => simp [quote]
    | code => simp

/-- **Every text is written so that it is read back**, in whichever form, and what follows is left. -/
lemma any?_encode (text : List Char) (h : Apart rest) :
    any? (encode text ++ rest) = some (text, rest) := by
  unfold encode
  simp only
  by_cases hliteral : prefersLiteral text = true
  · have htext := literal_of_prefersLiteral hliteral
    rw [if_pos hliteral]
    by_cases hlines : text.contains '\n' = true
    · rw [if_pos hlines]
      exact literalLines_append htext h
    have hplain : ∀ c ∈ text, isPlain c = true := by
      intro c hc
      refine (htext.plain c hc).resolve_right ?_
      rintro rfl
      exact hlines (List.contains_iff_mem.2 hc)
    rw [if_neg hlines]
    by_cases hquote : text.contains '\'' = true
    · rw [if_pos hquote]
      have hfirst : ∀ c ∈ (text ++ ['\'', '\'', '\''] ++ rest).head?, isPlain c = true := by
        cases text with
        | nil => cases hquote
        | cons c text => simpa using hplain c List.mem_cons_self
      have hread := literalLines_append htext h
      rw [← afterLineEnd_of_plain hfirst] at hread
      exact hread
    · rw [if_neg hquote]
      have hquotes : ∀ c ∈ text, c ≠ '\'' := by
        rintro c hc rfl
        exact hquote (List.contains_iff_mem.2 hc)
      have hopen : ∀ more, text ++ '\'' :: rest ≠ '\'' :: '\'' :: more := by
        cases text with
        | nil => cases hliteral
        | cons c text => simp [hquotes c List.mem_cons_self]
      rw [List.cons_append, List.cons_append, List.append_assoc, List.singleton_append,
        any?_single hopen]
      exact literal_append (fun c hc => ⟨hplain c hc, hquotes c hc⟩) rest
  · rw [if_neg hliteral]
    by_cases hlines : text.contains '\n' = true
    · rw [if_pos hlines]
      exact basicLines_flatMap_escape text h
    · rw [if_neg hlines, List.cons_append, List.cons_append, List.append_assoc,
        List.singleton_append, any?_double (basic_body_ne h text)]
      exact basic_flatMap_escape text rest

end CmsTypings.Toml.Text
