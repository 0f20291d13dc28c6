import CmsTypings.Json.Reader
import CmsTypings.Proofs.Outcome
import CmsTypings.Text.Blank
import Mathlib.Data.List.Basic

/-!
What sort of value a text holds.

The first token of a text says whether its value is an object. From then on the outermost frame of
the scan is a map or it is none, whatever is read, and it becomes the root when reading ends: at
its closing bracket or at a fault.
-/

namespace CmsTypings.Json

namespace Draft

def isObject : Draft → Bool
  | .object _ _ => true
  | _ => false

namespace Frame

def isObject : Frame → Bool
  | .list _ => false
  | .map _ | .member _ _ => true

end Frame

/-- Whether the outermost of some frames around a draft will be an object. -/
def rootIsObject (inner : Bool) : List Frame → Bool
  | [] => inner
  | f :: outer => rootIsObject f.isObject outer

namespace Scan

/-- A scan has begun once it has read a token. -/
def Begun : Scan → Prop
  | .reading frames _ => frames ≠ []
  | .complete _ | .overrun _ | .stopped _ => True

def isObject : Scan → Bool
  | .reading frames _ => rootIsObject false frames
  | .complete root | .overrun root | .stopped root => root.isObject

end Scan

variable {frames : List Frame}

lemma isObject_enclose (d : Draft) (frames : List Frame) :
    (enclose d frames).isObject = rootIsObject d.isObject frames := by
  induction frames generalizing d with
  | nil => rfl
  | cons f outer ih => cases f <;> simp only [enclose, ih, rootIsObject] <;> rfl

lemma isObject_cutOff (stop : Stop) (frames : List Frame) :
    (cutOff stop frames).isObject = rootIsObject false frames := by
  cases frames with
  | nil => rfl
  | cons f outer => cases f <;> exact isObject_enclose _ _

/-- A scan that has begun, and what it makes of the root. -/
def Scan.RootIs (object : Bool) (s : Scan) : Prop := s.Begun ∧ s.isObject = object

lemma rootIs_deliver (d : Draft) (frames : List Frame) :
    (deliver d frames).RootIs (rootIsObject d.isObject frames) := by
  cases frames with
  | nil => exact ⟨trivial, rfl⟩
  | cons f outer => cases f <;> exact ⟨List.cons_ne_nil _ _, rfl⟩

lemma rootIs_breakOff (stop : Stop) (frames : List Frame) :
    (breakOff stop frames).RootIs (rootIsObject false frames) :=
  ⟨trivial, isObject_enclose _ _⟩

lemma rootIs_cutOff (stop : Stop) (frames : List Frame) :
    (Scan.stopped (cutOff stop frames)).RootIs (rootIsObject false frames) :=
  ⟨trivial, isObject_cutOff _ _⟩

/-! ### One token -/

section Step

variable (token : Token)

lemma rootIs_beginValue (h : frames ≠ []) :
    (beginValue frames token).RootIs (rootIsObject false frames) := by
  obtain ⟨f, outer, rfl⟩ := List.exists_cons_of_ne_nil h
  cases token with
  | openList | openMap => exact ⟨List.cons_ne_nil _ _, rfl⟩
  | null | bool | number | string => exact rootIs_deliver _ (f :: outer)
  | broken | brokenString | closeList | closeMap | colon | comma =>
    exact rootIs_breakOff _ (f :: outer)

lemma rootIs_beginKey : (beginKey frames token).RootIs (rootIsObject false frames) := by
  fun_cases beginKey frames token with
  | case1 => exact ⟨List.cons_ne_nil _ _, rfl⟩
  | case2 => exact rootIs_breakOff _ _
  | case3 => exact rootIs_cutOff _ _

lemma rootIs_afterElement : (afterElement frames token).RootIs (rootIsObject false frames) := by
  fun_cases afterElement frames token with
  | case1 | case4 => exact rootIs_deliver _ _
  | case2 | case5 => exact ⟨List.cons_ne_nil _ _, rfl⟩
  | case3 | case6 => exact rootIs_cutOff _ _

/-- No token changes what the outermost frame is. -/
lemma rootIs_step {object : Bool} {s : Scan} (h : s.RootIs object) :
    (step s token).RootIs object := by
  obtain ⟨hbegun, rfl⟩ := h
  fun_cases step s token with
  | case1 | case3 | case5 => exact rootIs_beginValue _ hbegun
  | case2 | case7 => exact rootIs_deliver _ _
  | case4 | case9 => exact rootIs_cutOff _ _
  | case6 => exact rootIs_afterElement _
  | case8 | case10 => exact rootIs_beginKey _
  | case11 => exact ⟨hbegun, rfl⟩
  | case12 => exact rootIs_breakOff _ _
  | case13 | case14 | case15 => exact ⟨trivial, rfl⟩

end Step

/-! ### A whole text -/

lemma rootIs_run {object : Bool} {s : Scan} (h : s.RootIs object) (tokens : List Token) :
    (tokens.foldl step s).RootIs object := by
  induction tokens generalizing s with
  | nil => exact h
  | cons token rest ih => exact ih (rootIs_step token h)

lemma isObject_finish {object : Bool} {s : Scan} (h : s.RootIs object) :
    s.finish.root.isObject = object := by
  obtain ⟨hbegun, rfl⟩ := h
  cases s with
  | complete root | overrun root | stopped root => rfl
  | reading frames phase =>
    cases phase with
    | value | nextItem | colon => exact isObject_enclose _ _
    | firstItem | separator | firstKey | nextKey => exact isObject_cutOff _ _

lemma rootIs_first (token : Token) :
    (step (.reading [] .value) token).RootIs (token matches .openMap) := by
  cases token with
  | openList | openMap => exact ⟨List.cons_ne_nil _ _, rfl⟩
  | null | bool | number | string => exact ⟨trivial, rfl⟩
  | broken | brokenString | closeList | closeMap | colon | comma => exact rootIs_breakOff _ []

lemma run_stopped (root : Draft) (tokens : List Token) :
    tokens.foldl step (.stopped root) = .stopped root := by
  induction tokens with
  | nil => rfl
  | cons token rest ih => exact ih

end Draft

/-! ### The first token of a text -/

section Text

variable {text rest : List Char} {c : Char}

lemma stringToken_not_openMap (rest : List Char) :
    ((stringToken rest).1 matches .openMap) = false := by
  fun_cases stringToken rest <;> rfl

lemma wordToken_not_openMap {token : Token} (h : (token matches .openMap) = false)
    (word rest : List Char) : ((wordToken token word rest).1 matches .openMap) = false := by
  fun_induction wordToken token word rest with
  | case1 => exact h
  | case2 | case4 => rfl
  | case3 _ _ _ ih => exact ih

lemma numberToken_not_openMap (negative : Bool) (text : List Char) :
    ((numberToken negative text).1 matches .openMap) = false := by
  fun_cases numberToken negative text <;> rfl

/-- Only a brace opens a map. -/
lemma tokenAt_openMap (c : Char) (rest : List Char) :
    ((tokenAt c rest).1 matches .openMap) = (c == '\x7b') := by
  fun_cases tokenAt c rest with
  | case1 | case2 | case3 | case4 | case5 | case6 => rfl
  | case7 => exact stringToken_not_openMap _
  | case8 | case9 | case10 => exact wordToken_not_openMap rfl _ _
  | case11 => exact numberToken_not_openMap _ _
  | case12 c _ _ hbrace =>
    rw [numberToken_not_openMap, beq_eq_false_iff_ne.2 hbrace]
  | case13 c _ _ hbrace => exact (beq_eq_false_iff_ne.2 hbrace).symm

/-- No sound token begins with white space of any kind. -/
lemma tokenAt_of_isBlank (h : Text.isBlank c = true) :
    tokenAt c rest = (.broken (.both .valueExpected), []) := by
  rw [Text.isBlank_iff] at h
  fun_cases tokenAt c rest with
  | case12 c _ _ _ _ _ _ _ _ _ _ _ hdigit =>
    have hrange : 48 ≤ c.toNat ∧ c.toNat ≤ 57 := Char.isDigit_iff_toNat.1 hdigit
    simp at h
    omega
  | case13 => rfl
  | _ => simp at h

lemma text_isBlank_of_isBlank (h : isBlank c = true) : Text.isBlank c = true := by
  simp only [isBlank, Bool.or_eq_true, beq_iff_eq] at h
  rw [Text.isBlank_iff]
  obtain ((rfl | rfl) | rfl) | rfl := h <;> simp

lemma tokens_of_blank (h : text.dropWhile isBlank = []) : tokens text = [] := by
  cases text with
  | nil => rfl
  | cons c rest => simp only [tokens, List.length_cons, tokensWithin, h]

lemma exists_tokens (h : text.dropWhile isBlank = c :: rest) :
    ∃ more, tokens text = (tokenAt c rest).1 :: more := by
  cases text with
  | nil => cases h
  | cons d more =>
    simp only [tokens, List.length_cons, tokensWithin, h]
    exact ⟨_, rfl⟩

/-- A text that can be read as a value begins, after blanks, with what is no white space. -/
lemma exists_begin {src : Source} {text : String} {v : Json}
    (h : Reader.value src (Draft.Document.ofText text).root = .ok v) :
    ∃ c rest, text.toList.dropWhile isBlank = c :: rest ∧ Text.isBlank c = false := by
  cases hdrop : text.toList.dropWhile isBlank with
  | nil =>
    rw [Draft.Document.ofText, tokens_of_blank hdrop] at h
    cases h
  | cons c rest =>
    refine ⟨c, rest, rfl, Bool.eq_false_iff.2 fun hblank => ?_⟩
    obtain ⟨more, hmore⟩ := exists_tokens hdrop
    have hstop : Draft.Document.ofText text = ⟨.broken (.both .valueExpected), false⟩ := by
      rw [Draft.Document.ofText, hmore, tokenAt_of_isBlank hblank]
      exact congrArg Draft.Scan.finish (Draft.run_stopped _ more)
    rw [hstop] at h
    cases h

lemma isObject_root_ofText {text : String} (h : text.toList.dropWhile isBlank = c :: rest) :
    (Draft.Document.ofText text).root.isObject = (c == '\x7b') := by
  obtain ⟨more, hmore⟩ := exists_tokens h
  rw [Draft.Document.ofText, hmore, List.foldl_cons, ← tokenAt_openMap c rest]
  exact Draft.isObject_finish (Draft.rootIs_run (Draft.rootIs_first _) more)

lemma isObject_of_value {src : Source} {d : Draft} {v : Json} (h : Reader.value src d = .ok v) :
    v.isObject = d.isObject := by
  cases d with
  | null | bool =>
    obtain rfl := Except.ok.inj h
    rfl
  | number | string =>
    obtain ⟨_, -, h⟩ := bind_eq_ok.1 h
    obtain rfl := Except.ok.inj h
    rfl
  | array | object =>
    obtain ⟨_, -, h⟩ := bind_eq_ok.1 h
    obtain ⟨_, -, h⟩ := bind_eq_ok.1 h
    obtain ⟨_, -, h⟩ := bind_eq_ok.1 h
    obtain rfl := Except.ok.inj h
    rfl
  | broken => cases h

lemma dropWhile_dropWhile {α : Type} {p q : α → Bool} (h : ∀ a, q a = true → p a = true)
    (l : List α) : (l.dropWhile q).dropWhile p = l.dropWhile p := by
  induction l with
  | nil => rfl
  | cons a l ih =>
    cases hq : q a with
    | false => rw [List.dropWhile_cons_of_neg (by simp [hq])]
    | true => rw [List.dropWhile_cons_of_pos hq, ih, List.dropWhile_cons_of_pos (h a hq)]

/-- A text that holds a value begins with a brace exactly when the value is an object. -/
lemma head?_trimStart_eq_iff {src : Source} {text : String} {v : Json}
    (h : Reader.value src (Draft.Document.ofText text).root = .ok v) :
    (Text.trimStart text.toList).head? = some '\x7b' ↔ v.isObject = true := by
  obtain ⟨c, rest, hdrop, hblank⟩ := exists_begin h
  have htrim : Text.trimStart text.toList = c :: rest := by
    rw [Text.trimStart, ← dropWhile_dropWhile fun _ => text_isBlank_of_isBlank, hdrop,
      List.dropWhile_cons_of_neg (by simp [hblank])]
  rw [htrim, isObject_of_value h, isObject_root_ofText hdrop, List.head?_cons, Option.some_inj,
    beq_iff_eq]

end Text

end CmsTypings.Json
