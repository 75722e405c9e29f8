/-!
# Blanks and line breaks

Two character classes that descriptions and numbers are read with: the blanks that may surround a
text, and the characters that end a line. Every line break is a blank.

## Main definitions

* `isBlank`, `isLineBreak` — the two classes
* `trim` — a text without the blanks at its two ends
* `firstLine` — a text up to its first line break
-/

namespace Supergraph.Text

/-- The characters that may surround a text without belonging to it: the Unicode spaces, the
separators of lines and paragraphs, and the control characters that act as either. -/
def isBlank (c : Char) : Bool :=
  let n := c.toNat
  (9 ≤ n && n ≤ 13) || (28 ≤ n && n ≤ 32) || n == 0x85 || n == 0xA0 || n == 0x1680
    || (0x2000 ≤ n && n ≤ 0x200A) || n == 0x2028 || n == 0x2029 || n == 0x202F || n == 0x205F
    || n == 0x3000

/-- The characters after which a new line begins. -/
def isLineBreak (c : Char) : Bool :=
  let n := c.toNat
  (10 ≤ n && n ≤ 13) || (28 ≤ n && n ≤ 30) || n == 0x85 || n == 0x2028 || n == 0x2029

/-- Every line break is a blank. -/
theorem isBlank_of_isLineBreak {c : Char} (h : isLineBreak c = true) : isBlank c = true := by
  simp only [isLineBreak, isBlank, Bool.or_eq_true, Bool.and_eq_true, decide_eq_true_eq,
    beq_iff_eq] at h ⊢
  omega

/-- The text without the blanks at its end. -/
def trimEnd (cs : List Char) : List Char :=
  (cs.reverse.dropWhile isBlank).reverse

/-- The text without the blanks at its two ends. -/
def trim (cs : List Char) : List Char :=
  trimEnd (cs.dropWhile isBlank)

/-- The text up to its first line break. -/
def firstLine (cs : List Char) : List Char :=
  cs.takeWhile fun c => !isLineBreak c

end Supergraph.Text
