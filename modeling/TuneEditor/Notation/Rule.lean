/-
# What a lexeme of a tune looks like

Ten rules say how a lexeme may begin that is not blank.  They are tried in the
order of `Rule.all`, the first that takes anything wins, and it takes as much
as its form allows.  A character that no rule takes is a lexeme by itself.

| rule | form | tag |
|---|---|---|
| `field` | a letter and a colon, at the start of a line of the header | header |
| `keyField` | `K:`, anywhere | header |
| `comment` | `%` up to the end of the line | comment |
| `bar` | one of `|`, `:`, `[`, `]` | bar |
| `note` | a letter from A to G in either case, then `'` and `,` | note |
| `accidental` | one or two of `^`, `=`, `_` | accidental |
| `duration` | digits, which may follow a `/` | duration |
| `rest` | one of `z`, `x`, `Z` | rest |
| `chord` | a quotation mark up to the next, or to the end of the text | chord |
| `slur` | one of `(`, `)`, `-` | slur |

The header of a tune lasts up to its key field: `Region` tells the two parts
apart, and a scan leaves the header for good.
-/

import TuneEditor.Notation.Tag

namespace TuneEditor

/-- The two parts of a tune. -/
inductive Region
  | header
  | body
  deriving DecidableEq, Repr, Inhabited

/-- Where a lexeme begins. -/
structure Place where
  region : Region
  atLineStart : Bool
  deriving DecidableEq, Repr

/-- A way for a lexeme to begin. -/
inductive Rule
  | field
  | keyField
  | comment
  | bar
  | note
  | accidental
  | duration
  | rest
  | chord
  | slur
  deriving DecidableEq, Repr

namespace Rule

/-- Every rule, the first to be tried first. -/
def all : List Rule :=
  [field, keyField, comment, bar, note, accidental, duration, rest, chord, slur]

/-- No rule is left out of the list that is tried. -/
theorem mem_all (r : Rule) : r ∈ all := by
  cases r <;> decide

/-- The tag of what a rule takes. -/
def tag : Rule → Tag
  | field => .header
  | keyField => .header
  | comment => .comment
  | bar => .bar
  | note => .note
  | accidental => .accidental
  | duration => .duration
  | rest => .rest
  | chord => .chord
  | slur => .slur

/-- Where a rule may be used: a field begins a line of the header. -/
def allowed (p : Place) : Rule → Bool
  | field => p.atLineStart && p.region == .header
  | _ => true

/-- Bar lines and repeat brackets. -/
def isBar (c : Char) : Bool :=
  c == '|' || c == ':' || c == '[' || c == ']'

/-- The letters of the seven notes, high and low. -/
def isNoteLetter (c : Char) : Bool :=
  ('A' ≤ c && c ≤ 'G') || ('a' ≤ c && c ≤ 'g')

/-- An apostrophe raises a note by an octave, a comma lowers it. -/
def isOctaveMark (c : Char) : Bool :=
  c == '\'' || c == ','

/-- Sharp, natural and flat. -/
def isAccidental (c : Char) : Bool :=
  c == '^' || c == '=' || c == '_'

/-- The rests, two of them for one voice and one for whole bars. -/
def isRest (c : Char) : Bool :=
  c == 'z' || c == 'x' || c == 'Z'

/-- The two ends of a slur, and a tie. -/
def isSlur (c : Char) : Bool :=
  c == '(' || c == ')' || c == '-'

/-- The number of characters at the front of a text that a class holds of. -/
def run (p : Char → Bool) (cs : List Char) : Nat :=
  (cs.takeWhile p).length

section Run

variable {p : Char → Bool} {cs : List Char}

/-- A run is part of the text that it begins. -/
theorem run_le_length (p : Char → Bool) (cs : List Char) : run p cs ≤ cs.length :=
  (List.takeWhile_sublist p).length_le

/-- The characters of a run are those that are taken while the class holds. -/
theorem take_run (p : Char → Bool) (cs : List Char) : cs.take (run p cs) = cs.takeWhile p :=
  (List.prefix_iff_eq_take.1 (List.takeWhile_prefix p)).symm

/-- A run is not empty just if its first character is of the class. -/
theorem run_pos_iff {c : Char} : 0 < run p (c :: cs) ↔ p c = true := by
  cases h : p c <;> simp [run, h]

/-- A run does not get past a character that is not of its class. -/
theorem run_lt_of_mem {c : Char} (h : c ∈ cs) (hc : p c = false) : run p cs < cs.length := by
  refine Nat.lt_of_le_of_ne (run_le_length p cs) fun he => ?_
  have hall : cs.all p = true := by
    rw [← (List.takeWhile_prefix p).eq_of_length he]
    exact List.all_takeWhile
  rw [List.all_eq_true.1 hall c h] at hc
  cases hc

/-- A run takes what is of its class at the front of a text. -/
theorem length_le_run {ds : List Char} (h : ∀ d ∈ ds, p d = true) (rest : List Char) :
    ds.length ≤ run p (ds ++ rest) := by
  rw [run, List.takeWhile_append_of_pos h, List.length_append]
  exact Nat.le_add_right _ _

/-- A run ends in front of the first character that is not of its class. -/
theorem run_append_cons {ds : List Char} (h : ∀ d ∈ ds, p d = true) {c : Char} (hc : p c = false)
    (rest : List Char) : run p (ds ++ c :: rest) = ds.length := by
  rw [run, List.takeWhile_append_of_pos h, List.takeWhile_cons_of_neg (by simp [hc]),
    List.append_nil]

/-- A run that ends in a text ends there whatever stands behind the text. -/
theorem run_append_of_lt (h : run p cs < cs.length) (more : List Char) :
    run p (cs ++ more) = run p cs := by
  unfold run at h ⊢
  rw [List.takeWhile_append, if_neg (Nat.ne_of_lt h)]

/-- A text in which a character does not stand is of the class of the others. -/
theorem bne_of_notMem {c : Char} (h : c ∉ cs) : ∀ d ∈ cs, (d != c) = true := by
  intro d hd
  rw [bne_iff_ne]
  rintro rfl
  exact h hd

end Run

/-- How many characters a rule takes from the front of a text; none if the text does not have its
form. -/
def taken : Rule → List Char → Nat
  | _, [] => 0
  | field, c :: cs => if c.isAlpha && cs.head? == some ':' then 2 else 0
  | keyField, c :: cs => if c == 'K' && cs.head? == some ':' then 2 else 0
  | comment, c :: cs => if c == '%' then 1 + run (· != '\n') cs else 0
  | bar, c :: _ => if isBar c then 1 else 0
  | note, c :: cs => if isNoteLetter c then 1 + run isOctaveMark cs else 0
  | accidental, c :: cs =>
    if isAccidental c then if cs.head?.any isAccidental then 2 else 1 else 0
  | duration, c :: cs =>
    if c == '/' then if run Char.isDigit cs = 0 then 0 else 1 + run Char.isDigit cs
    else run Char.isDigit (c :: cs)
  | rest, c :: _ => if isRest c then 1 else 0
  | chord, c :: cs =>
    if c == '"' then
      if '"' ∈ cs then run (· != '"') cs + 2 else cs.length + 1
    else 0
  | slur, c :: _ => if isSlur c then 1 else 0

/-- A rule takes no more than there is. -/
theorem taken_le (r : Rule) (cs : List Char) : r.taken cs ≤ cs.length := by
  cases cs with
  | nil => cases r <;> simp [taken]
  | cons c cs =>
    cases r <;> simp only [taken, List.length_cons]
    case chord =>
      split
      · split
        · next hmem =>
          have hrun : run (· != '"') cs < cs.length := run_lt_of_mem hmem (by rfl)
          omega
        · omega
      · omega
    case duration =>
      have hlength := run_le_length Char.isDigit (c :: cs)
      have hbehind := run_le_length Char.isDigit cs
      rw [List.length_cons] at hlength
      split
      · split <;> omega
      · omega
    case comment =>
      have hrun := run_le_length (· != '\n') cs
      split <;> omega
    case note =>
      have hrun := run_le_length isOctaveMark cs
      split <;> omega
    case accidental =>
      cases cs with
      | nil => simp only [List.head?_nil, Option.any_none]; split <;> simp
      | cons d ds =>
        by_cases hc : isAccidental c <;> by_cases hd : isAccidental d <;> simp [hc, hd]
    case field =>
      cases cs <;> simp
      split <;> omega
    case keyField =>
      cases cs <;> simp
      split <;> omega
    all_goals split <;> omega

end Rule
end TuneEditor
