/-
# Selections

A selection is the part of a text between two character offsets, a caret where
they are equal.  A host asks for a selection with numbers of its own, and
`Selection.checked` lets through those that lie in the text.
-/

namespace TuneEditor

/-- Two character offsets. -/
structure Selection where
  start : Nat := 0
  stop : Nat := 0
  deriving DecidableEq, Repr, Inhabited

/-- A selection as a host asks for it: any two numbers. -/
structure SelectionRequest where
  start : Int
  stop : Int
  deriving DecidableEq, Repr

/-- A request that does not fit the text, and the length of that text. -/
structure InvalidSelection where
  request : SelectionRequest
  length : Nat
  deriving DecidableEq, Repr

/-- The refusal in words. -/
def InvalidSelection.message (e : InvalidSelection) : String :=
  "Invalid selection " ++ toString e.request.start ++ ".." ++ toString e.request.stop ++
    " for document of length " ++ toString e.length

namespace Selection

/-- The selection between two offsets, whichever comes first. -/
def between (a b : Nat) : Selection :=
  ⟨min a b, max a b⟩

/-- A caret. -/
def caret (pos : Nat) : Selection :=
  ⟨pos, pos⟩

/-- The selection that a request asks for in a text of some length.  Offsets below zero, out of
order or past the end are refused. -/
def checked (r : SelectionRequest) (length : Nat) : Except InvalidSelection Selection :=
  if r.start < 0 ∨ r.stop < 0 ∨ r.start > r.stop then .error ⟨r, length⟩
  else if r.stop.toNat > length then .error ⟨r, length⟩
  else .ok ⟨r.start.toNat, r.stop.toNat⟩

/-- The number of characters selected. -/
def length (s : Selection) : Nat :=
  s.stop - s.start

/-- Whether a selection is a caret. -/
def isEmpty (s : Selection) : Bool :=
  s.start == s.stop

/-- A selection with both offsets moved into a text of some length. -/
def clamped (s : Selection) (length : Nat) : Selection :=
  ⟨min s.start length, min s.stop length⟩

/-- Whether a selection covers the character at an offset. -/
def covers (s : Selection) (offset : Nat) : Bool :=
  s.start ≤ offset && offset < s.stop

end Selection
end TuneEditor
