/-
# What is known of the highlighting of a text

The region at the start of a line depends on every line above it, so an edit
spoils what is known of the lines from the edit on and of no other.  The cache
keeps an entry for each line and the first line from which the entries are out
of date; asked for a line, it computes the ones that are missing up to it.

The cache trusts its user to say where the text has changed.  Above the first
line that is out of date it answers from memory, whatever the lines are now.
-/

import TuneEditor.Highlight.Line

namespace TuneEditor

/-- Entries for the lines of a text. -/
structure HighlightCache where
  entries : List (Option LineHighlight) := []
  /-- The first line whose entry is out of date. -/
  invalidFrom : Nat := 0
  deriving DecidableEq, Repr

namespace HighlightCache

/-- Forgets the lines from one on. -/
def invalidateFrom (k : HighlightCache) (line : Nat) : HighlightCache where
  entries := k.entries.take line ++ List.replicate (k.entries.length - line) none
  invalidFrom := min k.invalidFrom line

/-- Forgets everything. -/
def invalidateAll (_ : HighlightCache) : HighlightCache :=
  {}

/-- Makes room for as many lines as there are, and for no more. -/
def resize (k : HighlightCache) (count : Nat) : HighlightCache where
  entries := k.entries.take count ++ List.replicate (count - k.entries.length) none
  invalidFrom := min k.invalidFrom count

/-- Sets the entry of a line, if there is room for it. -/
def store (k : HighlightCache) (line : Nat) (h : LineHighlight) : HighlightCache :=
  { k with entries := k.entries.set line (some h) }

/-- The region in which the first line that is out of date begins. -/
def region (k : HighlightCache) : Region :=
  if k.invalidFrom = 0 then .header
  else ((k.entries[k.invalidFrom - 1]?.join).map LineHighlight.after).getD .header

/-- Brings the lines up to one up to date, that line included. -/
def computeUpTo (k : HighlightCache) (lines : List (List Char)) (line : Nat) : HighlightCache :=
  let fresh := highlightLines k.region ((lines.take (line + 1)).drop k.invalidFrom)
  { entries := k.entries.take k.invalidFrom ++ fresh.map some ++
      k.entries.drop (k.invalidFrom + fresh.length)
    invalidFrom := max k.invalidFrom (line + 1) }

/-- The spans of a line; none if there is no entry for it. -/
def spans (k : HighlightCache) (line : Nat) : List Span :=
  ((k.entries[line]?.join).map LineHighlight.spans).getD []

end HighlightCache

/-- Highlighting that can be switched off, with what it remembers. -/
structure Highlighter where
  cache : HighlightCache := {}
  enabled : Bool := true
  deriving DecidableEq, Repr

namespace Highlighter

/-- Forgets the lines from one on; to be used after an edit. -/
def invalidateFrom (h : Highlighter) (line : Nat) : Highlighter :=
  { h with cache := h.cache.invalidateFrom line }

/-- Forgets everything; to be used after the text was replaced. -/
def invalidateAll (h : Highlighter) : Highlighter :=
  { h with cache := h.cache.invalidateAll }

/-- The highlighter once it has been asked for a line. -/
def advance (h : Highlighter) (lines : List (List Char)) (line : Nat) : Highlighter :=
  if h.enabled && line < lines.length then
    { h with cache := (h.cache.resize lines.length).computeUpTo lines line }
  else h

/-- The spans of a line.  There are none when highlighting is off or the line does not exist. -/
def lineSpans (h : Highlighter) (lines : List (List Char)) (line : Nat) : List Span :=
  if h.enabled && line < lines.length then (h.advance lines line).cache.spans line else []

end Highlighter
end TuneEditor
