import CmsTypings.Unicode.Category
import CmsTypings.Unicode.Property

/-!
Text shown between double quotes, so that every character can be told from what is printed.

A character that does not print alone, because it is a mark or a space other than U+0020 or has
no glyph, is written by its code point.
-/

namespace CmsTypings.Text.Quoted

open Unicode

/-- Characters without a glyph of their own. -/
def unprinted : CodeSet :=
  .unions [Category.other, Category.separator.diff (.single 0x20)]

def hexDigits (n : Nat) : List Char := Nat.toDigits 16 n

def byCode (c : Char) : List Char := ['\\', 'u', '{'] ++ hexDigits c.toNat ++ ['}']

def encodeChar (c : Char) : List Char :=
  match c with
  | '\x00' => ['\\', '0']
  | '\t' => ['\\', 't']
  | '\n' => ['\\', 'n']
  | '\r' => ['\\', 'r']
  | '\\' => ['\\', '\\']
  | '"' => ['\\', '"']
  | c =>
    if c.toNat < 0x7F ∧ 0x20 ≤ c.toNat then [c]
    else if Property.graphemeExtend.has c || unprinted.has c then byCode c
    else [c]

def encode (text : String) : String :=
  String.ofList ('"' :: text.toList.flatMap encodeChar ++ ['"'])

/-- A list of texts, each shown as `encode` shows it. -/
def encodeAll (texts : List String) : String :=
  "[" ++ ", ".intercalate (texts.map encode) ++ "]"

end CmsTypings.Text.Quoted
