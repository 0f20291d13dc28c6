import CmsTypings.Unicode.CodeSet

/-!
Strings in a TOML document.

Of the four forms, two know escapes, between double quotes, and two do not, between single ones;
each has a form that may go over several lines, between triple quotes. All functions read from
after the opening quotes and answer the text and what follows the closing ones.
-/

namespace CmsTypings.Toml.Text

open Unicode (hexDigit?)

/-- Whether a character may stand for itself in a string. -/
def isPlain (c : Char) : Bool := c = '\t' || (' ' ≤ c && c ≠ '\x7f')

/-- The character with a code in hexadecimal digits. -/
def coded? (digits : List Char) : Option Char := do
  let ds ← digits.mapM hexDigit?
  let code := ds.foldl (fun n d => 16 * n + d) 0
  if h : code.isValidChar then some (Char.ofNatAux code h) else none

def escaped? : Char → Option Char
  | 'b' => some '\x08'
  | 't' => some '\t'
  | 'n' => some '\n'
  | 'f' => some '\x0c'
  | 'r' => some '\r'
  | '"' => some '"'
  | '\\' => some '\\'
  | _ => none

abbrev Scan := List Char → Option (List Char × List Char)

/-- Adds characters in front of what was read. -/
def before (cs : List Char) (read : Option (List Char × List Char)) :
    Option (List Char × List Char) :=
  read.map fun r => (cs ++ r.1, r.2)

def basic : Scan
  | [] => none
  | '"' :: rest => some ([], rest)
  | '\\' :: 'u' :: a :: b :: c :: d :: rest => do before [← coded? [a, b, c, d]] (basic rest)
  | '\\' :: 'U' :: a :: b :: c :: d :: e :: f :: g :: h :: rest => do
    before [← coded? [a, b, c, d, e, f, g, h]] (basic rest)
  | '\\' :: c :: rest => do before [← escaped? c] (basic rest)
  | c :: rest => if isPlain c && c ≠ '\\' then before [c] (basic rest) else none

def literal : Scan
  | [] => none
  | '\'' :: rest => some ([], rest)
  | c :: rest => if isPlain c then before [c] (literal rest) else none

/-- Whether nothing but blanks stands before the end of the line. -/
def endsLine : List Char → Bool
  | ' ' :: rest => endsLine rest
  | '\t' :: rest => endsLine rest
  | '\n' :: _ => true
  | '\r' :: '\n' :: _ => true
  | _ => false

/-- Several lines with escapes. Blanks and line ends are left out after a backslash at the end of
a line, which `skipping` says. -/
def basicLines (skipping : Bool) : Scan
  | [] => none
  | '"' :: '"' :: '"' :: '"' :: '"' :: rest => some (['"', '"'], rest)
  | '"' :: '"' :: '"' :: '"' :: rest => some (['"'], rest)
  | '"' :: '"' :: '"' :: rest => some ([], rest)
  | '\r' :: '\n' :: rest =>
    if skipping then basicLines true rest else before ['\n'] (basicLines false rest)
  | '\n' :: rest =>
    if skipping then basicLines true rest else before ['\n'] (basicLines false rest)
  | '\\' :: 'u' :: a :: b :: c :: d :: rest => do
    before [← coded? [a, b, c, d]] (basicLines false rest)
  | '\\' :: 'U' :: a :: b :: c :: d :: e :: f :: g :: h :: rest => do
    before [← coded? [a, b, c, d, e, f, g, h]] (basicLines false rest)
  | '\\' :: '\n' :: rest => basicLines true rest
  | '\\' :: '\r' :: '\n' :: rest => basicLines true rest
  | '\\' :: c :: rest =>
    if (c = ' ' || c = '\t') && endsLine rest then basicLines true rest
    else do before [← escaped? c] (basicLines false rest)
  | c :: rest =>
    if skipping && (c = ' ' || c = '\t') then basicLines true rest
    else if isPlain c && c ≠ '\\' then before [c] (basicLines false rest)
    else none

def literalLines : Scan
  | [] => none
  | '\'' :: '\'' :: '\'' :: '\'' :: '\'' :: rest => some (['\'', '\''], rest)
  | '\'' :: '\'' :: '\'' :: '\'' :: rest => some (['\''], rest)
  | '\'' :: '\'' :: '\'' :: rest => some ([], rest)
  | '\r' :: '\n' :: rest => before ['\n'] (literalLines rest)
  | '\n' :: rest => before ['\n'] (literalLines rest)
  | c :: rest => if isPlain c then before [c] (literalLines rest) else none

/-- A line end right behind opening quotes is not part of the text. -/
def afterLineEnd : List Char → List Char
  | '\n' :: rest => rest
  | '\r' :: '\n' :: rest => rest
  | rest => rest

/-- A string on one line, with its opening quote. -/
def line? : List Char → Option (List Char × List Char)
  | '"' :: rest => basic rest
  | '\'' :: rest => literal rest
  | _ => none

/-- A string of any form, with its opening quotes. -/
def any? : List Char → Option (List Char × List Char)
  | '"' :: '"' :: '"' :: rest => basicLines false (afterLineEnd rest)
  | '\'' :: '\'' :: '\'' :: rest => literalLines (afterLineEnd rest)
  | text => line? text

end CmsTypings.Toml.Text
