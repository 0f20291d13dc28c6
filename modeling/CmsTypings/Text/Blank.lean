import CmsTypings.Unicode.Property

/-!
White space in the sense of the Unicode standard, and text without it at its ends.
-/

namespace CmsTypings.Text

def isBlank (c : Char) : Bool := Unicode.Property.whiteSpace.has c

theorem ranges_whiteSpace : Unicode.Property.whiteSpace.ranges =
    [(9, 13), (32, 32), (133, 133), (160, 160), (5760, 5760), (8192, 8202), (8232, 8233),
      (8239, 8239), (8287, 8287), (12288, 12288)] := by
  decide +kernel

theorem isBlank_iff {c : Char} : isBlank c = true ↔
    ∃ r ∈ [(9, 13), (32, 32), (133, 133), (160, 160), (5760, 5760), (8192, 8202), (8232, 8233),
      (8239, 8239), (8287, 8287), (12288, 12288)], r.1 ≤ c.toNat ∧ c.toNat ≤ r.2 := by
  rw [isBlank, Unicode.CodeSet.has, Unicode.CodeSet.contains, ranges_whiteSpace,
    List.any_eq_true]
  simp only [Bool.and_eq_true, decide_eq_true_eq]

def trimStart (text : List Char) : List Char := text.dropWhile isBlank

def trim (text : String) : String :=
  String.ofList (trimStart (trimStart text.toList).reverse).reverse

end CmsTypings.Text
