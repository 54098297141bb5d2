import TreeScript.Text.CodeTable

/-! # Blank characters

White space in the sense of the Unicode bidirectional classes WS, B and S and the category Zs,
which also counts the four information separators.
-/

namespace TreeScript

def blankTable : CodeTable := [
  (0x9, 0xd), (0x1c, 0x20), (0x85, 0x85), (0xa0, 0xa0), (0x1680, 0x1680), (0x2000, 0x200a),
  (0x2028, 0x2029), (0x202f, 0x202f), (0x205f, 0x205f), (0x3000, 0x3000)]

def isBlank (c : Char) : Bool := blankTable.holds c

/-- Text without the blanks at its two ends. -/
def stripBlanks (cs : List Char) : List Char :=
  (((cs.dropWhile isBlank).reverse).dropWhile isBlank).reverse

end TreeScript
