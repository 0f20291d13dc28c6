import CmsTypings.Settings.Format.Json5

/-!
Settings in RON: records in parentheses, maps in braces and lists in brackets, with comments and
trailing commas.
-/

namespace CmsTypings.Settings.Ron

open Unicode (hexDigit?)

/-- The text behind a comment in stars, which may hold others. -/
def afterStars? (depth : Nat) : List Char → Option (List Char)
  | [] => none
  | '/' :: '*' :: rest => afterStars? (depth + 1) rest
  | '*' :: '/' :: rest => if depth = 0 then some rest else afterStars? (depth - 1) rest
  | _ :: rest => afterStars? depth rest

/-- Passes over blanks and comments. The length of the text is enough fuel. -/
def skip : Nat → List Char → List Char
  | 0, text => text
  | _, [] => []
  | fuel + 1, '/' :: '/' :: rest => skip fuel (rest.dropWhile (· ≠ '\n'))
  | fuel + 1, '/' :: '*' :: rest =>
    match afterStars? 0 rest with
    | some rest => skip fuel rest
    | none => '/' :: '*' :: rest
  | fuel + 1, c :: rest =>
    if c = ' ' || c = '\t' || c = '\n' || c = '\r' then skip fuel rest else c :: rest

def next (text : List Char) : List Char := skip text.length text

/-! ### Strings -/

def escaped? : Char → Option Char
  | 'n' => some '\n'
  | 't' => some '\t'
  | 'r' => some '\r'
  | '0' => some '\x00'
  | '\'' => some '\''
  | '"' => some '"'
  | '\\' => some '\\'
  | _ => none

/-- A string, from after its opening quote. `code` holds the digits of a code in braces. -/
def string (code : Option (List Char)) : List Char → Option (List Char × List Char)
  | [] => none
  | c :: rest =>
    match code with
    | some digits =>
      if c = '\x7d' then do
        let c ← Json5.coded? digits
        (string none rest).map fun r => (c :: r.1, r.2)
      else string (some (digits ++ [c])) rest
    | none =>
      if c = '"' then some ([], rest)
      else if c ≠ '\\' then (string none rest).map fun r => (c :: r.1, r.2)
      else
        match rest with
        | 'u' :: '\x7b' :: rest => string (some []) rest
        | 'x' :: a :: b :: rest => do
          let c ← Json5.coded? [a, b]
          (string none rest).map fun r => (c :: r.1, r.2)
        | c :: rest => do
          let c ← escaped? c
          (string none rest).map fun r => (c :: r.1, r.2)
        | [] => none

/-- A string without escapes, up to a quote with as many marks behind it as stood before it. -/
def rawString (ending : List Char) : List Char → Option (List Char × List Char)
  | [] => none
  | c :: rest =>
    if ending.isPrefixOf (c :: rest) then some ([], (c :: rest).drop ending.length)
    else (rawString ending rest).map fun r => (c :: r.1, r.2)

def raw? (text : List Char) : Option (List Char × List Char) :=
  let marks := text.takeWhile (· = '#')
  match text.dropWhile (· = '#') with
  | '"' :: rest => rawString ('"' :: marks) rest
  | _ => none

/-! ### Numbers and names -/

def inBase? (base : Nat) (digits : List Char) : Option Setting := do
  let ds ← (digits.filter (· ≠ '_')).mapM fun c => (hexDigit? c).filter (· < base)
  let n := ds.foldl (fun n d => base * n + d) 0
  if ds.isEmpty || !Toml.Scalar.fitsWord n then none else some (.integer n)

def number? (text : List Char) : Option (Setting × List Char) :=
  let isPart := fun c : Char => c.isAlphanum || c = '_' || c = '.' || c = '+' || c = '-'
  let number := text.takeWhile isPart
  let rest := text.dropWhile isPart
  match number with
  | '0' :: 'x' :: digits => (inBase? 16 digits).map (·, rest)
  | '0' :: 'b' :: digits => (inBase? 2 digits).map (·, rest)
  | '0' :: 'o' :: digits => (inBase? 8 digits).map (·, rest)
  | _ =>
    let plain := number.filter (· ≠ '_')
    match Setting.integer? plain with
    | some n => some (.integer n, rest)
    | none => (Setting.float? plain).map fun x => (.float x, rest)

def isNameStart (c : Char) : Bool := c.isAlpha || c = '_'

def isNamePart (c : Char) : Bool := c.isAlphanum || c = '_'

def name? : List Char → Option (List Char × List Char)
  | c :: rest =>
    if isNameStart c then some (c :: rest.takeWhile isNamePart, rest.dropWhile isNamePart)
    else none
  | [] => none

/-- The name of an entry, with the colon behind it. -/
def entryName? (text : List Char) : Option (String × List Char) := do
  let (name, rest) ← name? text
  match next rest with
  | ':' :: rest => return (String.ofList name, rest)
  | _ => none

/-! ### Values -/

mutual

def value : Nat → List Char → Option (Setting × List Char)
  | 0, _ => none
  | fuel + 1, text =>
    match next text with
    | '(' :: rest => group fuel rest
    | '[' :: rest => (items ']' fuel rest).map fun r => (.list r.1, r.2)
    | '\x7b' :: rest => (pairs fuel rest).map fun r => (.table r.1, r.2)
    | '"' :: rest => (string none rest).map fun r => (.text (String.ofList r.1), r.2)
    | '\'' :: c :: '\'' :: rest =>
      if c = '\\' then none else some (.text (String.ofList [c]), rest)
    | text =>
      let quoted := match text with
        | 'r' :: rest => raw? rest
        | _ => none
      match quoted with
      | some (cs, rest) => some (.text (String.ofList cs), rest)
      | none =>
        match name? text with
        | some (name, rest) => named fuel name rest
        | none => number? text

/-- A value that begins with a name: a word, something optional, or a named record. -/
def named : Nat → List Char → List Char → Option (Setting × List Char)
  | 0, _, _ => none
  | fuel + 1, name, rest =>
    match String.ofList name with
    | "true" => some (.boolean true, rest)
    | "false" => some (.boolean false, rest)
    | "None" => some (.nothing, rest)
    | "inf" => some (.float (1 / 0), rest)
    | "NaN" => some (.float (0 / 0), rest)
    | "Some" =>
      match next rest with
      | '(' :: rest => do
        let (s, rest) ← value fuel rest
        match next rest with
        | ')' :: rest => return (s, rest)
        | _ => none
      | _ => none
    | _ =>
      match next rest with
      | '(' :: rest => group fuel rest
      | rest => some (.nothing, rest)

/-- What stands in parentheses: nothing, entries with names, or items. -/
def group : Nat → List Char → Option (Setting × List Char)
  | 0, _ => none
  | fuel + 1, text =>
    match next text with
    | ')' :: rest => some (.nothing, rest)
    | text =>
      if (entryName? text).isSome then
        (entries fuel text).map fun r => (.table r.1, r.2)
      else (items ')' fuel text).map fun r => (.list r.1, r.2)

def items (closing : Char) : Nat → List Char → Option (List Setting × List Char)
  | 0, _ => none
  | fuel + 1, text => do
    let text := next text
    if text.head? = some closing then return ([], text.drop 1)
    let (s, rest) ← value fuel text
    let rest := next rest
    if rest.head? = some closing then return ([s], rest.drop 1)
    match rest with
    | ',' :: rest =>
      let (more, rest) ← items closing fuel rest
      return (s :: more, rest)
    | _ => none

/-- The entries of a record, to its closing parenthesis. -/
def entries : Nat → List Char → Option (List (String × Setting) × List Char)
  | 0, _ => none
  | fuel + 1, text => do
    match next text with
    | ')' :: rest => return ([], rest)
    | text =>
      let (name, rest) ← entryName? text
      let (s, rest) ← value fuel rest
      match next rest with
      | ')' :: rest => return ([(name, s)], rest)
      | ',' :: rest =>
        let (more, rest) ← entries fuel rest
        return ((name, s) :: more, rest)
      | _ => none

/-- The pairs of a map, to its closing brace. -/
def pairs : Nat → List Char → Option (List (String × Setting) × List Char)
  | 0, _ => none
  | fuel + 1, text => do
    match next text with
    | '\x7d' :: rest => return ([], rest)
    | text =>
      let (key, rest) ← value fuel text
      let .text name := key | none
      match next rest with
      | ':' :: rest =>
        let (s, rest) ← value fuel rest
        match next rest with
        | '\x7d' :: rest => return ([(name, s)], rest)
        | ',' :: rest =>
          let (more, rest) ← pairs fuel rest
          return ((name, s) :: more, rest)
        | _ => none
      | _ => none

end

/-- The setting that a text writes. -/
def read? (text : String) : Option Setting := do
  let cs := text.toList
  let (s, rest) ← value (4 * cs.length + 4) cs
  if (next rest).isEmpty then some s else none

end CmsTypings.Settings.Ron
