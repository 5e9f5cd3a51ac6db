/-
# A tune cut into lexemes

`Lexeme.first` takes one lexeme off the front of a text and `lexemes` takes
them all.  A lexeme is either blank, without a tag, or what the first fitting
rule of `Rule.all` takes, or a single character tagged as plain.

The scan keeps two facts: the region it is in, which the key field `K:` turns
from header to body, and whether it stands at the start of a line.  No lexeme
is empty (`Lexeme.length_first_pos`), so the rest gets shorter with every one.

`Step` is a lexeme given by its position: `steps` counts bytes, as drawing
does, and `tokens` counts characters, as a selection does.
-/

import TuneEditor.Notation.Rule
import TuneEditor.Text.Utf8

namespace TuneEditor

/-- A part of a tune and its class; blanks have none. -/
structure Lexeme where
  chars : List Char
  tag : Option Tag
  /-- The region that the text behind it is in. -/
  after : Region
  deriving DecidableEq, Repr

namespace Lexeme

/-- How much of a text the first lexeme takes, and its tag. -/
def extent (p : Place) (c : Char) (cs : List Char) : Nat × Option Tag :=
  if Text.isBlank c then (Rule.run Text.isBlank (c :: cs), none)
  else
    match Rule.all.find? fun r => r.allowed p && 0 < r.taken (c :: cs) with
    | some r => (r.taken (c :: cs), some r.tag)
    | none => (1, some .plain)

/-- The region behind a lexeme: a key field ends the header. -/
def regionAfter (region : Region) (tag : Option Tag) (cs : List Char) : Region :=
  if tag = some .header ∧ cs = ['K', ':'] then .body else region

/-- The lexeme at the front of the text `c :: cs`. -/
def first (p : Place) (c : Char) (cs : List Char) : Lexeme :=
  let (n, tag) := extent p c cs
  let chars := (c :: cs).take n
  ⟨chars, tag, regionAfter p.region tag chars⟩

/-- Where the text behind a lexeme begins. -/
def next (l : Lexeme) : Place :=
  ⟨l.after, l.chars.getLast? == some '\n'⟩

/-- Every lexeme takes a character at least, so a scan comes to an end. -/
theorem extent_pos (p : Place) (c : Char) (cs : List Char) : 0 < (extent p c cs).1 := by
  unfold extent
  split
  · rename_i h
    simp [Rule.run, h]
  · split
    · rename_i r hr
      have := List.find?_some hr
      simp at this
      exact this.2
    · exact Nat.one_pos

/-- A lexeme is not empty. -/
theorem length_first_pos (p : Place) (c : Char) (cs : List Char) :
    0 < (first p c cs).chars.length := by
  have := extent_pos p c cs
  simp only [first, List.length_take, List.length_cons]
  omega

end Lexeme

/-- The lexemes of a text that begins at a place. -/
def lexemes (p : Place) : List Char → List Lexeme
  | [] => []
  | c :: cs =>
    let l := Lexeme.first p c cs
    l :: lexemes l.next ((c :: cs).drop l.chars.length)
termination_by cs => cs.length
decreasing_by
  have := Lexeme.length_first_pos p c cs
  simp only [List.length_drop, List.length_cons]
  omega

/-- A lexeme by its position. -/
structure Step where
  start : Nat
  stop : Nat
  tag : Option Tag
  /-- The region that the text behind it is in. -/
  after : Region
  deriving DecidableEq, Repr

namespace Step

/-- How much a step covers. -/
def length (s : Step) : Nat :=
  s.stop - s.start

/-- Whether a step covers nothing. -/
def isEmpty (s : Step) : Bool :=
  s.stop ≤ s.start

/-- The steps of lexemes that follow each other from `start` on, under a measure of text. -/
def ofLexemes (measure : List Char → Nat) (start : Nat) : List Lexeme → List Step
  | [] => []
  | l :: ls =>
    let stop := start + measure l.chars
    ⟨start, stop, l.tag, l.after⟩ :: ofLexemes measure stop ls

end Step

/-- A tagged part of a text, by its position. -/
structure Span where
  start : Nat
  stop : Nat
  tag : Tag
  deriving DecidableEq, Repr

namespace Span

/-- Whether a position lies in a span. -/
def contains (s : Span) (pos : Nat) : Bool :=
  s.start ≤ pos && pos < s.stop

/-- How much a span covers. -/
def length (s : Span) : Nat :=
  s.stop - s.start

/-- Whether a span covers nothing. -/
def isEmpty (s : Span) : Bool :=
  s.stop ≤ s.start

/-- The span of a step that has a tag. -/
def ofStep? (s : Step) : Option Span :=
  s.tag.map fun t => ⟨s.start, s.stop, t⟩

end Span

/-- The steps of a text that begins in a region, counted in bytes. -/
def steps (region : Region) (cs : List Char) : List Step :=
  Step.ofLexemes Utf8.size 0 (lexemes ⟨region, true⟩ cs)

/-- The tokens of a text, counted in characters. -/
def tokens (cs : List Char) : List Span :=
  (Step.ofLexemes List.length 0 (lexemes ⟨.header, true⟩ cs)).filterMap Span.ofStep?

/-- The step at a byte position of a text, when a scan comes there in a region.  It is empty where
no character starts. -/
def stepAt (region : Region) (cs : List Char) (pos : Nat) : Step :=
  match Utf8.splitAt? cs pos with
  | some (before, c :: rest) =>
    let atLineStart := before.isEmpty || before.getLast? == some '\n'
    let l := Lexeme.first ⟨region, atLineStart⟩ c rest
    ⟨pos, pos + Utf8.size l.chars, l.tag, l.after⟩
  | _ => ⟨pos, pos, none, region⟩

end TuneEditor
