/-!
The inside of a single-quoted string literal.

A backslash and a quote are each written after a backslash. `scan` is the reader of such a
literal: a backslash makes the next character literal, the first quote that stands alone ends it.
What `escape` writes, `scan` reads back, whatever follows the closing quote.
-/

namespace CmsTypings.Text.Literal

def escapeChar (c : Char) : List Char :=
  if c = '\\' ∨ c = '\'' then ['\\', c] else [c]

def escapeChars (value : List Char) : List Char := value.flatMap escapeChar

/-- The text between the quotes of a literal that denotes `value`. -/
def escape (value : String) : String := String.ofList (escapeChars value.toList)

/-- Reads up to the closing quote: the value, and what follows the quote. -/
def scan : List Char → Option (List Char × List Char)
  | [] => none
  | '\\' :: c :: rest => (scan rest).map fun r => (c :: r.1, r.2)
  | c :: rest =>
    if c = '\'' then some ([], rest) else (scan rest).map fun r => (c :: r.1, r.2)

theorem toList_escape (value : String) : (escape value).toList = escapeChars value.toList := by
  simp [escape]

end CmsTypings.Text.Literal
