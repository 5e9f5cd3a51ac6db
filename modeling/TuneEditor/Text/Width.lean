/-
# Columns that a text takes

`charWidth` is the number of columns of one character, and a drawn row is
measured by adding these up.  `width` measures a text as a whole, where
neighbours join: a carriage return and a line feed are one control, an emoji
with its skin tone is one emoji, an Arabic lam and alef are one sign.

A joined group is recognised from its end, so `width` walks a text from right
to left.  `Next` is what the walk remembers of the text to the right: what it
begins with, as far as a character before it can join it, and whether a
variation selector stands in between.
-/

import TuneEditor.Text.WidthTables

namespace TuneEditor
namespace Text

/-- The columns of a single character.  A control takes one. -/
def charWidth (c : Char) : Nat :=
  if zeroWidth.holds c then 0
  else if wide.holds c then 2
  else if c == '\u17D8' then 3
  else 1

/-- The columns of a row whose characters stand for themselves. -/
def rowWidth : List Char → Nat
  | [] => 0
  | c :: cs => charWidth c + rowWidth cs

/-- Beginnings of a text that a character in front of it may join.  The names ending in `Joined`
have a zero-width joiner in front. -/
inductive Beginning
  /-- Nothing that joins. -/
  | other
  | lineFeed
  | skinTone
  /-- One regional indicator, and more than one. -/
  | flagHalf
  | flagHalves
  | emoji
  | emojiJoined
  /-- A combining keycap before a joined emoji. -/
  | keycapJoined
  /-- One regional indicator before a joined emoji, an even number of them, an odd one above. -/
  | flagHalfJoined
  | evenFlagHalvesJoined
  | oddFlagHalvesJoined
  /-- The end of a tag sequence before a joined emoji, with the letters and the digits seen. -/
  | tagLetters (count : Nat)
  | tagDigits (count : Nat)
  | kiratRaiE
  | kiratRaiAi
  | arabicAlef
  | hebrewLamed
  | hebrewLamedJoined
  | bugineseYa
  | bugineseYaJoined
  /-- A Buginese vowel sign before a joined ya. -/
  | bugineseVowelYa
  | tifinagh
  | tifinaghJoined
  /-- A Tifinagh consonant joiner before a consonant. -/
  | tifinaghJoiner
  | lisuTone
  | orkhonI
  | orkhonIJoined
  | khmerLetter
  deriving DecidableEq, Repr

namespace Beginning

/-- Beginnings of a letter ligature: a variation selector in front does not hide them. -/
def isLetter : Beginning → Bool
  | arabicAlef | hebrewLamed | hebrewLamedJoined | bugineseYa | bugineseYaJoined
  | bugineseVowelYa | tifinagh | tifinaghJoined | tifinaghJoiner | lisuTone | orkhonI
  | orkhonIJoined | khmerLetter => true
  | _ => false

/-- Joined emoji: an emoji in front, selector included, becomes part of them. -/
def absorbsEmoji : Beginning → Bool
  | emojiJoined | keycapJoined => true
  | _ => false

/-- The beginning with a zero-width joiner in front, for the letters that one may join. -/
def joined : Beginning → Beginning
  | hebrewLamed => hebrewLamedJoined
  | bugineseYa => bugineseYaJoined
  | tifinagh => tifinaghJoined
  | orkhonI => orkhonIJoined
  | b => b

end Beginning

/-- The two variation selectors, U+FE0E and U+FE0F. -/
inductive Selector
  | text
  | emoji
  deriving DecidableEq, Repr

/-- What stands to the right of a character. -/
structure Next where
  beginning : Beginning := .other
  selector : Option Selector := none
  deriving DecidableEq, Repr

namespace Next

/-- A selector in front of what is there. -/
def select (n : Next) (s : Selector) : Next :=
  if n.beginning.isLetter || (s == .emoji && n.beginning.absorbsEmoji) then ⟨n.beginning, some s⟩
  else ⟨.other, some s⟩

/-- A selector that the character in front of it has no use for. -/
def dropSelector (n : Next) : Next :=
  match n.selector with
  | none => n
  | some _ => if n.beginning.isLetter then ⟨n.beginning, none⟩ else {}

end Next

private def isTifinaghConsonant (c : Char) : Bool :=
  CodePoints.holds [(0x2D31, 0x2D65), (0x2D6F, 0x2D6F)] c

private def isArabicLam (c : Char) : Bool :=
  CodePoints.holds
    [(0x644, 0x644), (0x6B5, 0x6B8), (0x76A, 0x76A), (0x8A6, 0x8A6), (0x8C7, 0x8C7)] c

private def isArabicAlef (c : Char) : Bool :=
  CodePoints.holds
    [(0x622, 0x623), (0x625, 0x625), (0x627, 0x627), (0x671, 0x673), (0x675, 0x675),
      (0x773, 0x774), (0x870, 0x882)] c

def isKhmerLetter (c : Char) : Bool :=
  CodePoints.holds
    [(0x1780, 0x1782), (0x1784, 0x1787), (0x1789, 0x178C), (0x178E, 0x1793), (0x1795, 0x1798),
      (0x179B, 0x179D), (0x17A0, 0x17A0), (0x17A2, 0x17A2), (0x17A7, 0x17A7), (0x17AB, 0x17AC),
      (0x17AF, 0x17AF)] c

private def isFlagHalf (c : Char) : Bool :=
  CodePoints.holds [(0x1F1E6, 0x1F1FF)] c

private def isSkinTone (c : Char) : Bool :=
  CodePoints.holds [(0x1F3FB, 0x1F3FF)] c

private def isTagLetter (c : Char) : Bool :=
  CodePoints.holds [(0xE0061, 0xE007A)] c

private def isTagDigit (c : Char) : Bool :=
  CodePoints.holds [(0xE0030, 0xE0039)] c

/-- Marks without glyph or width that stand inside a ligature. -/
private def isLigatureMark (c : Char) : Bool :=
  CodePoints.holds
    [(0x34F, 0x34F), (0x17B4, 0x17B5), (0x180B, 0x180D), (0x180F, 0x180F), (0xFE00, 0xFE0F),
      (0xE0100, 0xE01EF)] c

/-- What a character begins when nothing to its right joins it. -/
def beginningOf (c : Char) : Next :=
  if c == '\uFE0E' then ⟨.other, some .text⟩
  else if c == '\uFE0F' then ⟨.other, some .emoji⟩
  else if isFlagHalf c then { beginning := .flagHalf }
  else if isSkinTone c then { beginning := .skinTone }
  else if emojiPresentation.holds c then { beginning := .emoji }
  else if isArabicAlef c then { beginning := .arabicAlef }
  else if c == '\u05DC' then { beginning := .hebrewLamed }
  else if isKhmerLetter c then { beginning := .khmerLetter }
  else if c == '\u1A10' then { beginning := .bugineseYa }
  else if isTifinaghConsonant c then { beginning := .tifinagh }
  else if c == '\uA4FC' || c == '\uA4FD' then { beginning := .lisuTone }
  else if c.toNat == 0x10C03 then { beginning := .orkhonI }
  else if c.toNat == 0x16D67 then { beginning := .kiratRaiE }
  else if c.toNat == 0x16D68 then { beginning := .kiratRaiAi }
  else {}

/-- How a character above U+00A0 joins what begins to its right: the columns it adds, which may
take one back, and what the two begin together.  Nothing if they do not join. -/
def join (b : Beginning) (c : Char) : Option (Int × Beginning) :=
  match b with
  | .arabicAlef =>
    if isArabicLam c then some (0, .other)
    else if joinTransparent.holds c then some (0, .arabicAlef) else none
  | .hebrewLamedJoined => if c == '\u05D0' then some (0, .other) else none
  | .khmerLetter => if c == '\u17D2' then some (-1, .other) else none
  | .bugineseYaJoined => if c == '\u1A17' then some (0, .bugineseVowelYa) else none
  | .bugineseVowelYa => if c == '\u1A15' then some (0, .other) else none
  | .tifinagh => if c == '\u2D7F' then some (1, .tifinaghJoiner) else none
  | .tifinaghJoined =>
    if c == '\u2D7F' then some (1, .tifinaghJoiner)
    else if isTifinaghConsonant c then some (0, .other) else none
  | .tifinaghJoiner => if isTifinaghConsonant c then some (-1, .other) else none
  | .lisuTone => if CodePoints.holds [(0xA4F8, 0xA4FB)] c then some (0, .other) else none
  | .orkhonIJoined => if c.toNat == 0x10C32 then some (0, .other) else none
  | .kiratRaiE =>
    if c.toNat == 0x16D63 || c.toNat == 0x16D69 then some (0, .other)
    else if c.toNat == 0x16D67 then some (0, .kiratRaiAi)
    else if c.toNat == 0x16D68 then some (1, .kiratRaiE) else none
  | .kiratRaiAi => if c.toNat == 0x16D63 then some (0, .other) else none
  | .skinTone =>
    if modifierBase.holds c then some (0, .emoji)
    else if c == '\u200D' then some (0, .emojiJoined) else none
  | .flagHalf => if isFlagHalf c then some (1, .flagHalves) else none
  | .flagHalves =>
    if isFlagHalf c then some (1, .flagHalves)
    else if c == '\u200D' then some (0, .emojiJoined) else none
  | .emoji => if c == '\u200D' then some (0, .emojiJoined) else none
  | .emojiJoined =>
    if c == '\u20E3' then some (0, .keycapJoined)
    else if isFlagHalf c then some (1, .flagHalfJoined)
    else if isSkinTone c then some (0, .skinTone)
    else if c.toNat == 0xE007F then some (0, .tagLetters 0)
    else if beginningOf c == { beginning := .emoji } then some (0, .emoji) else none
  | .flagHalfJoined => if isFlagHalf c then some (-1, .evenFlagHalvesJoined) else none
  | .oddFlagHalvesJoined =>
    if isFlagHalf c then some (-1, .evenFlagHalvesJoined)
    else if c == '\u200D' then some (0, .emojiJoined) else none
  | .evenFlagHalvesJoined =>
    if isFlagHalf c then some (3, .oddFlagHalvesJoined)
    else if c == '\u200D' then some (0, .emojiJoined) else none
  | .tagLetters n =>
    if isTagLetter c && n < 6 then some (0, .tagLetters (n + 1))
    else if isTagDigit c && n ≤ 4 then some (0, .tagDigits 1)
    else if c.toNat == 0x1F3F4 && 3 ≤ n then some (0, .emoji) else none
  | .tagDigits n =>
    if isTagDigit c && n < 3 then some (0, .tagDigits (n + 1))
    else if c.toNat == 0x1F3F4 && n == 3 then some (0, .emoji) else none
  | .other | .lineFeed | .keycapJoined | .hebrewLamed | .bugineseYa | .orkhonI => none

/-- A character by itself. -/
def alone (c : Char) : Int × Next :=
  (charWidth c, beginningOf c)

/-- A character above U+00A0 in front of a text that no selector begins. -/
def addLetter (b : Beginning) (c : Char) : Int × Next :=
  if b.isLetter && b != .arabicAlef && (c == '\u200D' || isLigatureMark c) then
    (0, { beginning := if c == '\u200D' then b.joined else b })
  else
    match join b c with
    | some (columns, b') => (columns, { beginning := b' })
    | none => alone c

/-- The columns that a character adds in front of a text, and what the two begin together. -/
def addChar (n : Next) (c : Char) : Int × Next :=
  if n.selector == some .emoji && variationBase.holds c then
    (if n.beginning.absorbsEmoji then 0 else 2, { beginning := .emoji })
  else
    let n := if n.selector == some .emoji then n.dropSelector else n
    if c ≤ '\u00A0' then
      if c == '\n' then (1, { beginning := .lineFeed })
      else if c == '\x0d' && n == { beginning := .lineFeed } then (0, {})
      else (1, {})
    else if n == {} then alone c
    else if c == '\uFE0F' then (0, n.select .emoji)
    else if c == '\uFE0E' then (0, n.select .text)
    else if n.selector == some .text && textVariationBase.holds c then (1, {})
    else addLetter n.dropSelector.beginning c

/-- The columns of a text, neighbours joined, and what it begins. -/
def measure : List Char → Int × Next
  | [] => (0, {})
  | c :: cs =>
    let (columns, n) := measure cs
    let (more, n') := addChar n c
    (columns + more, n')

/-- The columns of a text. -/
def width (cs : List Char) : Nat :=
  (measure cs).1.toNat

end Text
end TuneEditor
