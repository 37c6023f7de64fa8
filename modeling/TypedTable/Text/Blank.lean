/-!
# Blank characters

`isBlank` is the Unicode property `White_Space`, the class that is cut from the ends of a text
before it is read as a number, a date or an instant, and that a date pattern skips.

`dropBlanks` cuts at the front, `trim` at both ends.
-/

namespace TypedTable.Text

/-- The characters with the Unicode property `White_Space`: tab to carriage return, the space, next
line, and the space and line separators. -/
def isBlank (c : Char) : Bool :=
  let n := c.toNat
  (9 ≤ n && n ≤ 13) || n == 0x20 || n == 0x85 || n == 0xA0 || n == 0x1680 ||
    (0x2000 ≤ n && n ≤ 0x200A) || n == 0x2028 || n == 0x2029 || n == 0x202F || n == 0x205F ||
    n == 0x3000

/-- The text after its leading blanks. -/
def dropBlanks (cs : List Char) : List Char := cs.dropWhile isBlank

/-- The text without the blanks at its two ends. -/
def trim (cs : List Char) : List Char := (dropBlanks (dropBlanks cs).reverse).reverse

@[simp] theorem dropBlanks_nil : dropBlanks [] = [] := rfl

theorem dropBlanks_cons_of_not_blank {c : Char} (cs : List Char) (h : isBlank c = false) :
    dropBlanks (c :: cs) = c :: cs := by
  simp [dropBlanks, h]

end TypedTable.Text
