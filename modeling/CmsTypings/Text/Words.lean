/-!
Words of a text and Pascal case.

A word is a stretch of ASCII letters and digits. Inside such a stretch a new word begins where a
lower-case letter or a digit meets an upper-case letter (foo|Bar), and before the last capital of
a row that a lower-case letter follows (HTTP|Server). What is neither letter nor digit belongs to
no word.
-/

namespace CmsTypings.Text

/-- Whether a new word begins at `c`, which stands right after `p` and right before `next`. -/
def wordBreak (p c : Char) (next : Option Char) : Bool :=
  ((p.isLower || p.isDigit) && c.isUpper) ||
    (p.isUpper && c.isUpper && next.any Char.isLower)

/-- Whether the word of `c` goes on into the text `rest` that follows it. -/
def continuesInto (c : Char) (rest : List Char) : Bool :=
  match rest with
  | [] => false
  | d :: more => d.isAlphanum && !wordBreak c d more.head?

/-- A character set before the first word. -/
def pushFront (c : Char) : List (List Char) → List (List Char)
  | [] => [[c]]
  | w :: ws => (c :: w) :: ws

/-- The words of a text, in order. -/
def words : List Char → List (List Char)
  | [] => []
  | c :: rest =>
    if c.isAlphanum then
      if continuesInto c rest then pushFront c (words rest) else [c] :: words rest
    else words rest

/-- A word with its first character in upper case and the others in lower case. -/
def capitalize : List Char → List Char
  | [] => []
  | c :: cs => c.toUpper :: cs.map Char.toLower

/-- A word that follows another: an underscore keeps a leading digit apart. -/
def capitalizeNext (word : List Char) : List Char :=
  if word.head?.any Char.isDigit then '_' :: capitalize word else capitalize word

/-- The words written as one name. -/
def joinWords : List (List Char) → List Char
  | [] => []
  | w :: ws => capitalize w ++ ws.flatMap capitalizeNext

/-- Pascal case, on characters. -/
def pascal (text : List Char) : List Char := joinWords (words text)

/-- Pascal case: `version 1.2` becomes `Version_1_2`. -/
def pascalCase (text : String) : String := String.ofList (pascal text.toList)

theorem toList_pascalCase (text : String) : (pascalCase text).toList = pascal text.toList := by
  simp [pascalCase]

@[simp] theorem words_nil : words [] = [] := rfl

theorem words_cons_of_not_alphanum {c : Char} (h : c.isAlphanum = false) (rest : List Char) :
    words (c :: rest) = words rest := by
  simp [words, h]

theorem flatten_pushFront (c : Char) (ws : List (List Char)) :
    (pushFront c ws).flatten = c :: ws.flatten := by
  cases ws <;> simp [pushFront]

/-- The words hold the letters and digits of the text, each once and in order. -/
theorem flatten_words (text : List Char) : (words text).flatten = text.filter Char.isAlphanum := by
  induction text with
  | nil => rfl
  | cons c rest ih =>
    simp only [words, List.filter_cons]
    split
    · split <;> simp [flatten_pushFront, ih]
    · exact ih

end CmsTypings.Text
