/-
# Blanks, words and lines

Text is a list of characters.  Blanks separate its words and newlines its
lines: with the words the blanks are lost, and with the lines nothing but the
newlines (`intercalate_lines`).
-/

namespace TuneEditor
namespace Text

/-- A blank is a character with the `White_Space` property: 25 characters, of which the space, five
controls and the line and paragraph separators are in daily use. -/
def isBlank (c : Char) : Bool :=
  let n := c.toNat
  (9 ≤ n && n ≤ 13) || n == 0x20 || n == 0x85 || n == 0xA0 || n == 0x1680 ||
    (0x2000 ≤ n && n ≤ 0x200A) || n == 0x2028 || n == 0x2029 || n == 0x202F || n == 0x205F ||
    n == 0x3000

/-- The lines of a text.  A newline at the end leaves an empty last line. -/
def lines (cs : List Char) : List (List Char) :=
  cs.splitOn '\n'

/-- The words of a text: what stands between blanks. -/
def words (cs : List Char) : List (List Char) :=
  (cs.splitOnP isBlank).filter (!·.isEmpty)

/-- A text without the blanks in front of it and behind it. -/
def trim (cs : List Char) : List Char :=
  ((cs.dropWhile isBlank).reverse.dropWhile isBlank).reverse

/-- A text with its ASCII capitals made small; every other character stays. -/
def lower (cs : List Char) : List Char :=
  cs.map Char.toLower

/-- **The lines with newlines between them are the text.** -/
theorem intercalate_lines (cs : List Char) : ['\n'].intercalate (lines cs) = cs :=
  List.intercalate_splitOn '\n'

end Text
end TuneEditor
