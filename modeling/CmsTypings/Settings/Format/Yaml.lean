import CmsTypings.Settings.Format.Json5

/-!
Settings in YAML, without anchors and tags.

Maps and lists go over several lines that are indented alike, or stand in brackets; a scalar is
plain, quoted, or a block of lines.
-/

namespace CmsTypings.Settings.Yaml

/-! ### Lines -/

/-- A line: how far it is indented, and what follows. -/
structure Line where
  indent : Nat
  text : List Char

def isBlank (c : Char) : Bool := c = ' ' || c = '\t'

def trimEnd (text : List Char) : List Char := (text.reverse.dropWhile isBlank).reverse

def trim (text : List Char) : List Char := trimEnd (text.dropWhile isBlank)

/-- Whether a quote after this character begins a string. -/
def opensString (before : Option Char) : Bool :=
  before.all fun c => isBlank c || [',', '[', ']', '\x7b', '\x7d', ':'].contains c

/-- What of a line stands before its comment. `quote` is the quote of an open string. -/
def uncommented (quote before : Option Char) : List Char → List Char
  | [] => []
  | c :: rest =>
    match quote with
    | some q =>
      if c = '\\' ∧ q = '"' then
        match rest with
        | d :: rest => c :: d :: uncommented quote (some d) rest
        | [] => [c]
      else c :: uncommented (if c = q then none else quote) (some c) rest
    | none =>
      if c = '#' ∧ before.all isBlank then []
      else
        let opens := (c = '"' || c = '\'') && opensString before
        c :: uncommented (if opens then some c else none) (some c) rest

def Line.body (l : Line) : List Char := trimEnd (uncommented none none l.text)

def linesOf (text : String) : List Line :=
  (text.splitOn "\n").map fun line =>
    let cs := line.toList
    let cs := if cs.getLast? = some '\r' then cs.dropLast else cs
    ⟨(cs.takeWhile (· = ' ')).length, cs.dropWhile (· = ' ')⟩

/-- The lines from the next one on that holds more than a comment. -/
def next : List Line → List Line
  | [] => []
  | l :: rest => if l.body.isEmpty then next rest else l :: rest

/-! ### Scalars -/

/-- What a plain scalar stands for; none if it is a float without digits. -/
def plain? (text : List Char) : Option Setting :=
  match String.ofList text with
  | "" | "~" | "null" => some .nothing
  | "true" => some (.boolean true)
  | "false" => some (.boolean false)
  | word =>
    if [".inf", "-.inf", "+.inf", ".nan"].contains word.toLower then none
    else
      let based := match text with
        | '0' :: 'x' :: digits => inBase? 16 digits
        | '0' :: 'o' :: digits => inBase? 8 digits
        | _ => none
      match based, Setting.integer? text, Setting.float? text with
      | some n, _, _ => some (.integer n)
      | none, some n, _ => some (.integer n)
      | none, none, some x => some (.float x)
      | none, none, none => some (.text word)
where
  inBase? (base : Nat) (digits : List Char) : Option Int := do
    let ds ← digits.mapM fun c => (Unicode.hexDigit? c).filter (· < base)
    let n : Nat := ds.foldl (fun n d => base * n + d) 0
    if ds.isEmpty || !Toml.Scalar.fitsWord n then none else some n

def escaped? (c : Char) : Option Char :=
  match c with
  | '0' => some '\x00'
  | 'a' => some '\x07'
  | 'b' => some '\x08'
  | 't' => some '\t'
  | 'n' => some '\n'
  | 'v' => some '\x0b'
  | 'f' => some '\x0c'
  | 'r' => some '\r'
  | 'e' => some '\x1b'
  | 'N' => some '\u0085'
  | '_' => some '\u00a0'
  | 'L' => some '\u2028'
  | 'P' => some '\u2029'
  | c => if [' ', '"', '/', '\\', '\t'].contains c then some c else none

/-- A string between double quotes, from after the first one. -/
def doubleQuoted : List Char → Option (List Char × List Char)
  | [] => none
  | '"' :: rest => some ([], rest)
  | '\\' :: 'x' :: a :: b :: rest => do
    let c ← Json5.coded? [a, b]
    (doubleQuoted rest).map fun r => (c :: r.1, r.2)
  | '\\' :: 'u' :: a :: b :: c :: d :: rest => do
    let c ← Json5.coded? [a, b, c, d]
    (doubleQuoted rest).map fun r => (c :: r.1, r.2)
  | '\\' :: 'U' :: a :: b :: c :: d :: e :: f :: g :: h :: rest => do
    let c ← Json5.coded? [a, b, c, d, e, f, g, h]
    (doubleQuoted rest).map fun r => (c :: r.1, r.2)
  | '\\' :: c :: rest => do
    let c ← escaped? c
    (doubleQuoted rest).map fun r => (c :: r.1, r.2)
  | c :: rest => (doubleQuoted rest).map fun r => (c :: r.1, r.2)

/-- A string between single quotes, from after the first one. -/
def singleQuoted : List Char → Option (List Char × List Char)
  | [] => none
  | '\'' :: '\'' :: rest => (singleQuoted rest).map fun r => ('\'' :: r.1, r.2)
  | '\'' :: rest => some ([], rest)
  | c :: rest => (singleQuoted rest).map fun r => (c :: r.1, r.2)

def quoted? : List Char → Option (List Char × List Char)
  | '"' :: rest => doubleQuoted rest
  | '\'' :: rest => singleQuoted rest
  | _ => none

/-! ### Values in brackets -/

def skip (text : List Char) : List Char := text.dropWhile isBlank

/-- A plain scalar inside brackets. -/
def flowPlain : List Char → List Char × List Char
  | [] => ([], [])
  | ':' :: [] => ([], [':'])
  | c :: d :: rest =>
    if [',', '[', ']', '\x7b', '\x7d'].contains c then ([], c :: d :: rest)
    else if c = ':' ∧ (isBlank d ∨ [',', ']', '\x7d'].contains d) then ([], c :: d :: rest)
    else
      let r := flowPlain (d :: rest)
      (c :: r.1, r.2)
  | c :: [] => if [',', ']', '\x7d'].contains c then ([], [c]) else ([c], [])

def flowKey? (text : List Char) : Option (String × List Char) :=
  match quoted? text with
  | some (key, rest) => some (String.ofList key, skip rest)
  | none =>
    let (key, rest) := flowPlain text
    if key.isEmpty then none else some (String.ofList (trimEnd key), skip rest)

mutual

def flow : Nat → List Char → Option (Setting × List Char)
  | 0, _ => none
  | fuel + 1, text =>
    match skip text with
    | '[' :: rest => (flowItems fuel rest).map fun r => (.list r.1, r.2)
    | '\x7b' :: rest => (flowPairs fuel rest).map fun r => (.table r.1, r.2)
    | text =>
      match quoted? text with
      | some (cs, rest) => some (.text (String.ofList cs), rest)
      | none =>
        let (cs, rest) := flowPlain text
        (plain? (trimEnd cs)).map (·, rest)

def flowItems : Nat → List Char → Option (List Setting × List Char)
  | 0, _ => none
  | fuel + 1, text => do
    match skip text with
    | ']' :: rest => return ([], rest)
    | ',' :: _ => none
    | text =>
      let (s, rest) ← flow fuel text
      let (s, rest) ← match skip rest, flowKey? text with
        | ':' :: rest, some (key, _) => do
          let (v, rest) ← flow fuel rest
          pure (Setting.table [(key, v)], rest)
        | rest, _ => pure (s, rest)
      match skip rest with
      | ']' :: rest => return ([s], rest)
      | ',' :: rest =>
        let (more, rest) ← flowItems fuel rest
        return (s :: more, rest)
      | _ => none

def flowPairs : Nat → List Char → Option (List (String × Setting) × List Char)
  | 0, _ => none
  | fuel + 1, text => do
    match skip text with
    | '\x7d' :: rest => return ([], rest)
    | text =>
      let (key, rest) ← flowKey? text
      let (s, rest) ← match rest with
        | ':' :: rest => flow fuel rest
        | rest => pure (.nothing, rest)
      match skip rest with
      | '\x7d' :: rest => return ([(key, s)], rest)
      | ',' :: rest =>
        let (more, rest) ← flowPairs fuel rest
        return ((key, s) :: more, rest)
      | _ => none

end

/-! ### Values on lines -/

/-- Whether brackets and strings that a text opens are closed in it. -/
def isClosed (quote before : Option Char) (depth : Nat) : List Char → Bool
  | [] => quote.isNone && depth = 0
  | c :: rest =>
    match quote with
    | some q =>
      if c = '\\' ∧ q = '"' then
        match rest with
        | d :: rest => isClosed quote (some d) depth rest
        | [] => false
      else isClosed (if c = q then none else quote) (some c) depth rest
    | none =>
      if (c = '"' || c = '\'') && opensString before then isClosed (some c) (some c) depth rest
      else if c = '[' || c = '\x7b' then isClosed none (some c) (depth + 1) rest
      else if c = ']' || c = '\x7d' then isClosed none (some c) (depth - 1) rest
      else isClosed none (some c) depth rest

/-- Joins lines to a text while something in it is open. -/
def gather (text : List Char) : List Line → Option (List Char × List Line)
  | [] => if isClosed none none 0 text then some (text, []) else none
  | l :: rest =>
    if isClosed none none 0 text then some (text, l :: rest)
    else gather (if l.body.isEmpty then text else text ++ ' ' :: l.body) rest

/-- The key that a line begins with, and what follows its colon. -/
def splitKey? (text : List Char) : Option (String × List Char) :=
  let afterColon : List Char → Option (List Char)
    | [':'] => some []
    | ':' :: c :: rest => if isBlank c then some (skip rest) else none
    | _ => none
  match quoted? text with
  | some (key, rest) => (afterColon (skip rest)).map fun rest => (String.ofList key, rest)
  | none =>
    if text.head?.all fun c => "[]\x7b\x7d,#&*!|>%@\x60\"'".toList.contains c then none
    else plainKey [] text
where
  plainKey (key : List Char) : List Char → Option (String × List Char)
    | [] => none
    | [':'] => some (String.ofList (trimEnd key), [])
    | ':' :: c :: rest =>
      if isBlank c then some (String.ofList (trimEnd key), skip rest)
      else plainKey (key ++ [':']) (c :: rest)
    | c :: rest => plainKey (key ++ [c]) rest

def afterDash? : List Char → Option (List Char)
  | ['-'] => some []
  | '-' :: c :: rest => if isBlank c then some (c :: rest) else none
  | _ => none

/-- The lines of a block, joined as its mark says, and the lines behind it. -/
def block (mark : List Char) (parent : Nat) (lines : List Line) : Setting × List Line :=
  let isInside := fun l : Line => parent < l.indent || (trim l.text).isEmpty
  let inside := lines.takeWhile isInside
  let rest := lines.dropWhile isInside
  let shown := inside.filter fun l => !(trim l.text).isEmpty
  let indent := (shown.head?.map (·.indent)).getD 0
  let texts := inside.map fun l =>
    if (trim l.text).isEmpty then [] else List.replicate (l.indent - indent) ' ' ++ l.text
  let kept := (texts.reverse.dropWhile (·.isEmpty)).reverse
  let joined :=
    if mark.head? = some '>' then
      kept.foldl (fun (acc : List Char × Bool) t =>
        if t.isEmpty then (acc.1 ++ ['\n'], true)
        else (acc.1 ++ (if acc.2 then [] else [' ']) ++ t, false)) ([], true) |>.1
    else "\n".intercalate (kept.map String.ofList) |>.toList
  let ending :=
    if mark.contains '-' || kept.isEmpty then []
    else if mark.contains '+' then List.replicate (1 + (texts.length - kept.length)) '\n'
    else ['\n']
  (.text (String.ofList (joined ++ ending)), rest)

/-- Fuel for a value in brackets that begins with a text and goes on in lines. -/
def flowFuel (text : List Char) (lines : List Line) : Nat :=
  2 * lines.foldl (fun n l => n + l.text.length + 1) text.length + 2

/-- A value that begins on a line and may go on in lines indented by at least `least`. -/
def inline (fuel least : Nat) (text : List Char) (lines : List Line) :
    Option (Setting × List Line) :=
  match text with
  | c :: _ =>
    if ['[', '\x7b', '"', '\''].contains c then do
      let (text, rest) ← gather text lines
      let (s, more) ← flow fuel text
      if (trim more).isEmpty then some (s, rest) else none
    else if "&*!%@\x60,]\x7d".toList.contains c || (splitKey? text).isSome then none
    else
      let isMore := fun l : Line => l.body.isEmpty || least ≤ l.indent
      let more := (lines.takeWhile isMore).filter fun l => !l.body.isEmpty
      if more.any fun l => (splitKey? l.body).isSome then none
      else
        let whole := more.foldl (fun t l => t ++ ' ' :: l.body) text
        (plain? whole).map (·, if more.isEmpty then lines else lines.dropWhile isMore)
  | [] => some (.nothing, lines)

mutual

/-- The value that stands on lines indented by at least `least`. -/
def node : Nat → Nat → List Line → Option (Setting × List Line)
  | 0, _, _ => none
  | fuel + 1, least, lines =>
    match next lines with
    | [] => some (.nothing, [])
    | l :: rest =>
      if l.indent < least then some (.nothing, l :: rest)
      else if (afterDash? l.body).isSome then
        (sequence fuel l.indent (l :: rest)).map fun r => (.list r.1, r.2)
      else if (splitKey? l.body).isSome then
        (mapping fuel l.indent (l :: rest)).map fun r => (.table r.1, r.2)
      else inline (flowFuel l.text rest) least l.body rest

/-- The items of a list at one indentation. -/
def sequence : Nat → Nat → List Line → Option (List Setting × List Line)
  | 0, _, _ => none
  | fuel + 1, indent, lines =>
    match next lines with
    | [] => some ([], [])
    | l :: rest =>
      match if l.indent = indent then afterDash? l.body else none with
      | none => if indent < l.indent then none else some ([], l :: rest)
      | some text => do
        let blanks := (text.takeWhile isBlank).length
        let text := skip text
        let (s, rest) ←
          if text.isEmpty then node fuel (indent + 1) rest
          else if text.head? = some '|' || text.head? = some '>' then
            some (block text indent rest)
          else node fuel (indent + 1) (⟨indent + 1 + blanks, text⟩ :: rest)
        let (more, rest) ← sequence fuel indent rest
        return (s :: more, rest)

/-- The entries of a map at one indentation. -/
def mapping : Nat → Nat → List Line → Option (List (String × Setting) × List Line)
  | 0, _, _ => none
  | fuel + 1, indent, lines =>
    match next lines with
    | [] => some ([], [])
    | l :: rest =>
      if l.indent < indent then some ([], l :: rest)
      else if indent < l.indent then none
      else do
        let (key, text) ← splitKey? l.body
        let (s, rest) ←
          if text.isEmpty then
            match next rest with
            | m :: _ =>
              if m.indent = indent && (afterDash? m.body).isSome then
                (sequence fuel indent rest).map fun r => (.list r.1, r.2)
              else node fuel (indent + 1) rest
            | [] => some (.nothing, [])
          else if text.head? = some '|' || text.head? = some '>' then
            some (block text indent rest)
          else inline (flowFuel text rest) (indent + 1) text rest
        let (more, rest) ← mapping fuel indent rest
        return ((key, s) :: more, rest)

end

/-! ### Documents -/

def startsDocument (l : Line) : Bool :=
  l.indent = 0 && ['-', '-', '-'].isPrefixOf l.text && (l.text.drop 3).head?.all isBlank

def endsDocument (l : Line) : Bool := l.indent = 0 && trim l.text = ['.', '.', '.']

/-- The lines of the only document; the text before a mark for its beginning is empty. -/
def document? (lines : List Line) : Option (Bool × List Line) :=
  let lines := next (lines.filter fun l => !(l.indent = 0 && l.text.head? = some '%'))
  let marked := lines.head?.any startsDocument
  let lines : List Line := match lines with
    | l :: rest => if marked then ⟨4, skip (l.text.drop 3)⟩ :: rest else l :: rest
    | [] => []
  let inside := lines.takeWhile fun l => !endsDocument l
  let behind := (lines.dropWhile fun l => !endsDocument l).drop 1
  if inside.any startsDocument || !(next behind).isEmpty then none else some (marked, inside)

/-- The setting that a text writes; a text without a document writes no entries. -/
def read? (text : String) : Option Setting := do
  let (marked, lines) ← document? (linesOf text)
  if !marked && (next lines).isEmpty then return .table []
  let (s, rest) ← node (2 * text.length + 4) 0 lines
  if (next rest).isEmpty then some s else none

end CmsTypings.Settings.Yaml
