/-
# Reading a settings file

A settings file is a list of statements, one on a line: an entry, the header
of a table, or the header of one more table of a name.  Blank lines and
comments do not count.  The entries in front of the first header belong to the
file itself, those behind a header to its table.

Arrays, braces and keys with dots nest up to a depth; what is deeper is
refused.  Everything is read by taking it off the front of the text, and
reading goes on behind it, so it ends with the text.
-/

import TuneEditor.Toml.Scalar
import TuneEditor.Toml.Tree

namespace TuneEditor
namespace Toml

/-- The number of brackets that may be open, and of parts that a key may have. -/
def depthLimit : Nat := 79

/-- The text behind blanks, newlines and comments.  `comment` tells whether a comment has begun. -/
def skipTrivia (comment : Bool) : List Char → List Char
  | [] => []
  | '\n' :: cs => skipTrivia false cs
  | '\x0d' :: '\n' :: cs => skipTrivia false cs
  | c :: cs =>
    if comment then if isPlain c then skipTrivia true cs else c :: cs
    else if c = '#' then skipTrivia true cs
    else if isGap c then skipTrivia false cs
    else c :: cs

/-- The text behind the end of a line, which may hold blanks and a comment. -/
def lineEnd? (cs : List Char) : Option (List Char) :=
  let cs := skipGap cs
  let cs := if cs.head? = some '#' then cs.dropWhile isPlain else cs
  if cs.isEmpty then some [] else newline? cs

/-- Items with a mark between them, at least one. -/
def readSeparated {α : Type} (mark : Char) (item : List Char → Option (α × List Char))
    (cs : List Char) : Option (List α × List Char) :=
  match item cs with
  | none => none
  | some (x, []) => some ([x], [])
  | some (x, m :: rest) =>
    if m = mark ∧ rest.length < cs.length then
      (readSeparated mark item rest).map fun (xs, rest) => (x :: xs, rest)
    else some ([x], m :: rest)
termination_by cs.length
decreasing_by
  rename_i h
  exact h.2

/-- A key without dots. -/
def readSimpleKey (cs : List Char) : Option (List Char × List Char) :=
  match cs with
  | '"' :: cs => readBasic false false cs
  | '\'' :: cs => readLiteral false cs
  | cs =>
    let key := cs.takeWhile isBareKeyChar
    if key.isEmpty then none else some (key, cs.dropWhile isBareKeyChar)

/-- A key: its parts have dots between them and blanks around them. -/
def readKey (cs : List Char) : Option (List (List Char) × List Char) := do
  let part (cs : List Char) : Option (List Char × List Char) :=
    (readSimpleKey (skipGap cs)).map fun (key, rest) => (key, skipGap rest)
  let (parts, rest) ← readSeparated '.' part cs
  if parts.length ≤ depthLimit then some (parts, rest) else none

/-- An entry, whose value is read by `value`. -/
def readAssignment (value : List Char → Option (Tree × List Char)) (cs : List Char) :
    Option (Assignment × List Char) := do
  let (parts, rest) ← readKey cs
  let rest ← expect ['='] rest
  let (tree, rest) ← value (skipGap rest)
  let key ← parts.getLast?
  some (⟨parts.dropLast, key, tree⟩, rest)

/-- The members of an array, behind its opening bracket. -/
def readMembers (value : List Char → Option (Tree × List Char)) (cs : List Char) :
    Option (List Tree × List Char) :=
  match skipTrivia false cs with
  | [] => none
  | c :: rest =>
    if c = ']' then some ([], rest)
    else
      match value (c :: rest) with
      | none => none
      | some (t, rest) =>
        match skipTrivia false rest with
        | [] => none
        | m :: rest =>
          if m = ']' then some ([t], rest)
          else if m = ',' ∧ rest.length < cs.length then
            (readMembers value rest).map fun (ts, rest) => (t :: ts, rest)
          else none
termination_by cs.length
decreasing_by
  rename_i h
  exact h.2

/-- The entries of a table in braces, behind the opening one. -/
def readBraces (value : List Char → Option (Tree × List Char)) (cs : List Char) :
    Option (Tree × List Char) :=
  let item (cs : List Char) : Option (Assignment × List Char) :=
    (readAssignment value cs).map fun (a, rest) => (a, skipGap rest)
  match skipGap cs with
  | '\x7d' :: rest => some (.table .braces [], rest)
  | cs => do
    let (as, rest) ← readSeparated ',' item cs
    let rest ← expect ['\x7d'] rest
    let es ← assignAll [] as
    some (.table .braces es, rest)

/-- A value in which at most `depth` brackets are open at once. -/
def readValue : Nat → List Char → Option (Tree × List Char)
  | depth + 1, '[' :: cs => (readMembers (readValue depth) cs).map fun (ts, r) => (.array ts, r)
  | depth + 1, '\x7b' :: cs => readBraces (readValue depth) cs
  | _, cs => (readScalar cs).map fun (v, r) => (.leaf v, r)

/-- A line of the file that says something. -/
inductive Statement
  | entry (a : Assignment)
  /-- The header of a table, and that of one more table. -/
  | header (path : List (List Char))
  | element (path : List (List Char))

/-- A statement without the end of its line. -/
def readStatement (cs : List Char) : Option (Statement × List Char) :=
  match cs with
  | '[' :: '[' :: cs => do
    let (path, rest) ← readKey cs
    let rest ← expect [']'] rest
    let rest ← expect [']'] rest
    some (.element path, rest)
  | '[' :: cs => do
    let (path, rest) ← readKey cs
    let rest ← expect [']'] rest
    some (.header path, rest)
  | cs => (readAssignment (readValue depthLimit) cs).map fun (a, rest) => (.entry a, rest)

/-- Every statement of a text. -/
def readStatements (cs : List Char) : Option (List Statement) :=
  match lineEnd? cs with
  | some rest =>
    if rest.length < cs.length then readStatements rest else some []
  | none => do
    let (s, rest) ← readStatement (skipGap cs)
    let rest ← lineEnd? rest
    if rest.length < cs.length then
      let ss ← readStatements rest
      some (s :: ss)
    else none
termination_by cs.length

/-- The entries at the front of some statements, and the statements from the first header on. -/
def takeEntries : List Statement → List Assignment × List Statement
  | .entry a :: ss =>
    let (as, rest) := takeEntries ss
    (a :: as, rest)
  | ss => ([], ss)

/-- What is left behind the entries is no longer than the statements, so the sections of a file are
built in finitely many steps. -/
theorem length_takeEntries_le (ss : List Statement) :
    (takeEntries ss).2.length ≤ ss.length := by
  fun_induction takeEntries ss with
  | case1 a ss as rest h ih =>
    rw [h] at ih
    simp only [List.length_cons]
    exact Nat.le_succ_of_le ih
  | case2 ss h => exact Nat.le_refl _

/-- Carries out headers, each with the entries behind it. -/
def buildSections (es : Entries) : List Statement → Option Entries
  | [] => some es
  | .entry _ :: _ => none
  | .header path :: ss => do
    let key ← path.getLast?
    let es ← within (defineTable key (takeEntries ss).1) path.dropLast es
    buildSections es (takeEntries ss).2
  | .element path :: ss => do
    let key ← path.getLast?
    let es ← within (defineElement key (takeEntries ss).1) path.dropLast es
    buildSections es (takeEntries ss).2
termination_by ss => ss.length
decreasing_by
  all_goals
    have := length_takeEntries_le ss
    simp only [List.length_cons]
    omega

/-- The table that statements build. -/
def build (ss : List Statement) : Option Table := do
  let es ← assignAll [] (takeEntries ss).1
  let es ← buildSections es (takeEntries ss).2
  (entryValues? es).map inKeyOrder

/-- The table of a settings file, if the file has the form of one.  A byte order mark in front does
not count. -/
def read? (cs : List Char) : Option Table :=
  let cs := if cs.head? = some '\uFEFF' then cs.tail else cs
  readStatements cs >>= build

end Toml
end TuneEditor
