import CmsTypings.Settings.Number
import CmsTypings.Settings.Setting
import CmsTypings.Unicode.Category

/-!
Settings in JSON5: JSON with comments, trailing commas, names without quotes and more ways to
write strings and numbers.
-/

namespace CmsTypings.Settings.Json5

open Unicode (hexDigit?)

def isLineEnd (c : Char) : Bool := c = '\n' || c = '\r' || c = '\u2028' || c = '\u2029'

def isSpace (c : Char) : Bool :=
  isLineEnd c || c = '\t' || c = '\x0b' || c = '\x0c' || c = '\uFEFF' ||
    Unicode.Category.spaceSeparator.has c

/-- The text behind the end of a comment in stars. -/
def afterStars? : List Char → Option (List Char)
  | [] => none
  | '*' :: '/' :: rest => some rest
  | _ :: rest => afterStars? rest

/-- Passes over blanks and comments. The length of the text is enough fuel. -/
def skip : Nat → List Char → List Char
  | 0, text => text
  | _, [] => []
  | fuel + 1, '/' :: '/' :: rest => skip fuel (rest.dropWhile fun c => !isLineEnd c)
  | fuel + 1, '/' :: '*' :: rest =>
    match afterStars? rest with
    | some rest => skip fuel rest
    | none => '/' :: '*' :: rest
  | fuel + 1, c :: rest => if isSpace c then skip fuel rest else c :: rest

def next (text : List Char) : List Char := skip text.length text

/-! ### Strings and names -/

def escaped? (c : Char) : Option Char :=
  match c with
  | 'b' => some '\x08'
  | 'f' => some '\x0c'
  | 'n' => some '\n'
  | 'r' => some '\r'
  | 't' => some '\t'
  | 'v' => some '\x0b'
  | '0' => some '\x00'
  | c => if c.isDigit || c = 'x' || c = 'u' then none else some c

def coded? (digits : List Char) : Option Char := do
  let ds ← digits.mapM hexDigit?
  let code := ds.foldl (fun n d => 16 * n + d) 0
  if h : code.isValidChar then some (Char.ofNatAux code h) else none

/-- A string, from after its opening quote. -/
def string (quote : Char) : List Char → Option (List Char × List Char)
  | [] => none
  | '\\' :: '\r' :: '\n' :: rest => string quote rest
  | '\\' :: 'x' :: a :: b :: rest => do
    let c ← coded? [a, b]
    (string quote rest).map fun r => (c :: r.1, r.2)
  | '\\' :: 'u' :: a :: b :: c :: d :: rest => do
    let c ← coded? [a, b, c, d]
    (string quote rest).map fun r => (c :: r.1, r.2)
  | '\\' :: c :: rest =>
    if isLineEnd c then string quote rest
    else do
      let c ← escaped? c
      (string quote rest).map fun r => (c :: r.1, r.2)
  | c :: rest =>
    if c = quote then some ([], rest)
    else if isLineEnd c || c = '\\' then none
    else (string quote rest).map fun r => (c :: r.1, r.2)

def isNameStart (c : Char) : Bool :=
  c = '$' || c = '_' || Unicode.Category.letter.has c || Unicode.Category.letterNumber.has c

def isNamePart (c : Char) : Bool :=
  isNameStart c || c = '\u200c' || c = '\u200d' || Unicode.Category.mark.has c ||
    Unicode.Category.decimalNumber.has c || Unicode.Category.connectorPunctuation.has c

def key? : List Char → Option (String × List Char)
  | '"' :: rest => (string '"' rest).map fun r => (String.ofList r.1, r.2)
  | '\'' :: rest => (string '\'' rest).map fun r => (String.ofList r.1, r.2)
  | c :: rest =>
    if isNameStart c then
      some (String.ofList (c :: rest.takeWhile isNamePart), rest.dropWhile isNamePart)
    else none
  | [] => none

/-! ### Numbers -/

def isNumberPart (c : Char) : Bool := c.isAlphanum || c = '.'

/-- A number without its sign. A whole number fits into 64 bits, a hexadecimal one into 32. -/
def unsigned? (negative : Bool) (text : List Char) : Option Setting :=
  match text with
  | '0' :: x :: digits =>
    if x = 'x' ∨ x = 'X' then do
      let ds ← digits.mapM hexDigit?
      let n := ds.foldl (fun n d => 16 * n + d) 0
      if digits.isEmpty || Nat.pow 2 32 ≤ n || negative then none else some (.integer n)
    else if x.isDigit then none
    else decimal? negative text
  | _ => decimal? negative text
where
  decimal? (negative : Bool) (text : List Char) : Option Setting :=
    let sign := if negative then ['-'] else []
    if text.all Char.isDigit then (Setting.integer? (sign ++ text)).map .integer
    else
      match Setting.float? (sign ++ text) with
      | some x => if x.isFinite then some (.float x) else none
      | none => none

def number? (text : List Char) : Option (Setting × List Char) := do
  let (negative, rest) := Toml.Scalar.signed text
  let mantissa := rest.takeWhile isNumberPart
  let behind := rest.dropWhile isNumberPart
  -- an exponent may have a sign of its own
  let signedExponent :=
    match mantissa.getLast?, behind with
    | some c, s :: _ =>
      (c = 'e' || c = 'E') && (s = '+' || s = '-') && mantissa.take 2 ≠ ['0', 'x']
    | _, _ => false
  let (number, rest) :=
    if signedExponent then
      let digits := (behind.drop 1).takeWhile Char.isDigit
      (mantissa ++ behind.take 1 ++ digits, (behind.drop 1).dropWhile Char.isDigit)
    else (mantissa, behind)
  if number = "Infinity".toList then
    some (.float (if negative then -(1 / 0) else 1 / 0), rest)
  else if number = "NaN".toList then some (.float (0 / 0), rest)
  else if (number.head?.any fun c => c.isDigit || c = '.') then
    (unsigned? negative number).map (·, rest)
  else none

/-! ### Values -/

def words : List (String × Setting) :=
  [("null", .nothing), ("true", .boolean true), ("false", .boolean false)]

def word? (text : List Char) : Option (Setting × List Char) :=
  (words.find? fun w => w.1.toList.isPrefixOf text).map fun w => (w.2, text.drop w.1.length)

mutual

def value : Nat → List Char → Option (Setting × List Char)
  | 0, _ => none
  | fuel + 1, text =>
    match next text with
    | '[' :: rest => (items fuel rest).map fun r => (.list r.1, r.2)
    | '\x7b' :: rest => (pairs fuel rest).map fun r => (.table r.1, r.2)
    | '"' :: rest => (string '"' rest).map fun r => (.text (String.ofList r.1), r.2)
    | '\'' :: rest => (string '\'' rest).map fun r => (.text (String.ofList r.1), r.2)
    | text => (word? text).or (number? text)

def items : Nat → List Char → Option (List Setting × List Char)
  | 0, _ => none
  | fuel + 1, text => do
    match next text with
    | ']' :: rest => return ([], rest)
    | text =>
      let (s, rest) ← value fuel text
      match next rest with
      | ']' :: rest => return ([s], rest)
      | ',' :: rest =>
        let (more, rest) ← items fuel rest
        return (s :: more, rest)
      | _ => none

def pairs : Nat → List Char → Option (List (String × Setting) × List Char)
  | 0, _ => none
  | fuel + 1, text => do
    match next text with
    | '\x7d' :: rest => return ([], rest)
    | text =>
      let (key, rest) ← key? text
      match next rest with
      | ':' :: rest =>
        let (s, rest) ← value fuel rest
        match next rest with
        | '\x7d' :: rest => return ([(key, s)], rest)
        | ',' :: rest =>
          let (more, rest) ← pairs fuel rest
          return ((key, s) :: more, rest)
        | _ => none
      | _ => none

end

/-- The setting that a text writes. -/
def read? (text : String) : Option Setting := do
  let cs := text.toList
  let (s, rest) ← value (2 * cs.length + 2) cs
  if (next rest).isEmpty then some s else none

end CmsTypings.Settings.Json5
