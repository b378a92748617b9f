/-!
# Blank characters and trimming

Blank characters are those of the Unicode `White_Space` property: tab, line feed, vertical
tab, form feed, carriage return, space, next line, no-break space, ogham space mark, the
spaces from en quad to hair space, line and paragraph separator, narrow no-break space,
medium mathematical space and ideographic space. `trim` removes them from both ends of a
text; it is how parameters, operators and cell references are cleaned before they are
read.
-/

namespace Runbook.Text

/-- Whether a character has the Unicode `White_Space` property. -/
def isBlank (c : Char) : Bool :=
  let n := c.toNat
  (9 ≤ n && n ≤ 13) || n == 32 || n == 0x85 || n == 0xA0 || n == 0x1680 ||
    (0x2000 ≤ n && n ≤ 0x200A) || n == 0x2028 || n == 0x2029 || n == 0x202F ||
    n == 0x205F || n == 0x3000

/-- Every ASCII blank of core's class is a blank here. -/
theorem isBlank_of_isWhitespace {c : Char} (h : c.isWhitespace = true) : isBlank c = true := by
  simp only [Char.isWhitespace, Bool.or_eq_true, decide_eq_true_eq] at h
  simp only [isBlank, Bool.or_eq_true, Bool.and_eq_true, decide_eq_true_eq, beq_iff_eq]
  rcases h with ((h | h) | h) | h <;> subst h <;> decide

/-- The characters of a list without its leading and trailing blanks. -/
def trimList (cs : List Char) : List Char :=
  ((cs.dropWhile isBlank).reverse.dropWhile isBlank).reverse

/-- A text without its leading and trailing blanks. -/
def trim (s : String) : String := String.ofList (trimList s.toList)

/-- Whether a text is empty once trimmed. -/
def isBlankText (s : String) : Bool := s.toList.all isBlank

/-- Lowers the ASCII capitals of a text and keeps every other character. -/
def asciiLower (s : String) : String := String.ofList (s.toList.map Char.toLower)

end Runbook.Text
