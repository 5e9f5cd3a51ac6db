/-
# Tables as they are written

A settings file builds its tables piece by piece, and how a table came to be
decides whether more may be added to it.  `Tree` keeps that: a table was named
by a header, stands on the way to one, was made by a key with dots, or was
written between braces and is closed.

`assign` adds an entry under a key with dots, `defineTable` and
`defineElement` carry out headers; each gives nothing where the file says
something twice.  `Tree.value?` forgets how the tables came to be and puts
their entries in order.
-/

import TuneEditor.Toml.Value

namespace TuneEditor
namespace Toml

/-- How a table came to be. -/
inductive Origin
  /-- Its own header names it. -/
  | header
  /-- It is on the way to a table that a header names. -/
  | passed
  /-- A key with dots made it. -/
  | dotted
  /-- It stands between braces. -/
  | braces
  deriving DecidableEq, Repr

/-- A value, or tables that may still grow. -/
inductive Tree
  | leaf (v : Value)
  | array (ts : List Tree)
  | table (o : Origin) (entries : List (List Char × Tree))
  /-- Tables that one header names again and again. -/
  | tables (ts : List (List (List Char × Tree)))

/-- Entries in the order in which they were written. -/
abbrev Entries :=
  List (List Char × Tree)

namespace Entries

/-- What stands under a key. -/
def get? (es : Entries) (key : List Char) : Option Tree :=
  (es.find? (·.1 == key)).map Prod.snd

/-- The entries with something else under a key that is there. -/
def set (es : Entries) (key : List Char) (t : Tree) : Entries :=
  es.map fun e => if e.1 == key then (key, t) else e

/-- The entries without a key. -/
def erase (es : Entries) (key : List Char) : Entries :=
  es.filter (·.1 != key)

/-- The entries with one more at the end. -/
def add (es : Entries) (key : List Char) (t : Tree) : Entries :=
  es ++ [(key, t)]

end Entries

/-- Something done to the last of some tables. -/
def changeLast (f : Entries → Option Entries) (ts : List Entries) : Option (List Entries) :=
  match ts.getLast? with
  | some es => (f es).map fun es => ts.dropLast ++ [es]
  | none => none

/-- Adds an entry to the table that the front of a key with dots leads to.  The key must be new, and
a table with a header of its own, or in braces, gets no entries in this way. -/
def assign (key : List Char) (t : Tree) : List (List Char) → Entries → Option Entries
  | [], es => if (es.get? key).isSome then none else some (es.add key t)
  | k :: path, es =>
    match es.get? k with
    | none => (assign key t path []).map fun inner => es.add k (.table .dotted inner)
    | some (.table .dotted inner) =>
      (assign key t path inner).map fun inner => es.set k (.table .dotted inner)
    | some (.table .passed inner) =>
      if path.isEmpty then none
      else (assign key t path inner).map fun inner => es.set k (.table .passed inner)
    | some (.tables ts) =>
      if path.isEmpty then none
      else (changeLast (assign key t path) ts).map fun ts => es.set k (.tables ts)
    | some _ => none

/-- An entry to be added: the keys that lead to it, its own key and what it holds. -/
structure Assignment where
  path : List (List Char)
  key : List Char
  tree : Tree

/-- Adds entries one after another. -/
def assignAll (es : Entries) (as : List Assignment) : Option Entries :=
  as.foldlM (fun es a => assign a.key a.tree a.path es) es

/-- Does something to the table that the front of a header leads to. -/
def within (f : Entries → Option Entries) : List (List Char) → Entries → Option Entries
  | [], es => f es
  | k :: path, es =>
    match es.get? k with
    | none => (within f path []).map fun inner => es.add k (.table .passed inner)
    | some (.table .braces _) => none
    | some (.table o inner) => (within f path inner).map fun inner => es.set k (.table o inner)
    | some (.tables ts) => (changeLast (within f path) ts).map fun ts => es.set k (.tables ts)
    | some _ => none

/-- Carries out the header of a table: the table is new, or was passed on the way to another. -/
def defineTable (key : List Char) (as : List Assignment) (es : Entries) : Option Entries :=
  match es.get? key with
  | none => (assignAll [] as).map fun inner => es.add key (.table .header inner)
  | some (.table .passed inner) =>
    (assignAll inner as).map fun inner => (es.erase key).add key (.table .header inner)
  | some _ => none

/-- Carries out the header of one more table among those of its name. -/
def defineElement (key : List Char) (as : List Assignment) (es : Entries) : Option Entries :=
  match es.get? key with
  | none => (assignAll [] as).map fun inner => es.add key (.tables [inner])
  | some (.tables ts) => (assignAll [] as).map fun inner => es.set key (.tables (ts ++ [inner]))
  | some _ => none

/-- Entries in the order of their keys. -/
def inKeyOrder (es : Table) : Table :=
  es.mergeSort fun a b => !List.lex b.1 a.1 fun c d => c < d

/-- A table as a value.  One whose first key is that of a moment stands for the moment. -/
def tableValue? (es : Table) : Option Value :=
  match es with
  | (key, v) :: _ =>
    if key = momentKey then
      match v with
      | .string cs => (Moment.ofText? cs).map Value.moment
      | _ => none
    else some (.table (inKeyOrder es))
  | [] => some (.table [])

mutual

/-- A tree as a value. -/
def Tree.value? : Tree → Option Value
  | .leaf v => some v
  | .array ts => (arrayValues? ts).map Value.array
  | .table _ es => (entryValues? es).bind tableValue?
  | .tables ts => (tableValues? ts).map Value.array

/-- The members of an array as values. -/
def arrayValues? : List Tree → Option (List Value)
  | [] => some []
  | t :: ts => do
    let v ← t.value?
    let vs ← arrayValues? ts
    some (v :: vs)

/-- Entries with their values. -/
def entryValues? : List (List Char × Tree) → Option Table
  | [] => some []
  | (key, t) :: es => do
    let v ← t.value?
    let vs ← entryValues? es
    some ((key, v) :: vs)

/-- Tables as values. -/
def tableValues? : List (List (List Char × Tree)) → Option (List Value)
  | [] => some []
  | es :: ts => do
    let vs ← entryValues? es
    let v ← tableValue? vs
    let vs ← tableValues? ts
    some (v :: vs)

end

end Toml
end TuneEditor
