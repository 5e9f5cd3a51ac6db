/-
# Dates and times

A moment is a day, a time of day, or both, and with both it may name its
distance from universal time.  Reading checks that the day exists; a second
may be a leap second.  A fraction of a second counts to the ninth digit.
-/

import TuneEditor.Text.Integer

namespace TuneEditor
namespace Toml

/-- A day of a year. -/
structure Date where
  year : Nat
  month : Nat
  day : Nat
  deriving DecidableEq, Repr

/-- A time of day. -/
structure Time where
  hour : Nat
  minute : Nat
  second : Nat
  nanosecond : Nat
  deriving DecidableEq, Repr

/-- The distance from universal time. -/
inductive Zone
  | universal
  /-- Minutes ahead. -/
  | ahead (minutes : Int)
  deriving DecidableEq, Repr

/-- A day, a time, or both. -/
inductive Moment
  | date (d : Date)
  | time (t : Time)
  | dateTime (d : Date) (t : Time) (zone : Option Zone)
  deriving DecidableEq, Repr

namespace Date

/-- Every fourth year is a leap year, and of the full hundreds every fourth. -/
def isLeap (year : Nat) : Bool :=
  year % 4 == 0 && (year % 100 != 0 || year % 400 == 0)

/-- The number of days of a month. -/
def daysIn (year month : Nat) : Nat :=
  if month = 2 then if isLeap year then 29 else 28
  else if month = 4 ∨ month = 6 ∨ month = 9 ∨ month = 11 then 30
  else 31

end Date

/-- A number of exactly `count` digits at the front of a text, and the rest. -/
def readExactly (count : Nat) (cs : List Char) : Option (Nat × List Char) :=
  let front := cs.take count
  if front.length = count then
    (front.foldlM (fun n c => (Text.digit? c).map (10 * n + ·)) 0).map fun n => (n, cs.drop count)
  else none

/-- A number of exactly `count` digits between two bounds. -/
def readBetween (count least most : Nat) (cs : List Char) : Option (Nat × List Char) := do
  let (n, cs) ← readExactly count cs
  if least ≤ n ∧ n ≤ most then some (n, cs) else none

/-- One of some characters at the front of a text. -/
def expect (allowed : List Char) : List Char → Option (List Char)
  | [] => none
  | c :: cs => if c ∈ allowed then some cs else none

/-- A day, as in `1979-05-27`. -/
def readDate (cs : List Char) : Option (Date × List Char) := do
  let (year, cs) ← readExactly 4 cs
  let cs ← expect ['-'] cs
  let (month, cs) ← readBetween 2 1 12 cs
  let cs ← expect ['-'] cs
  let (day, cs) ← readBetween 2 1 (Date.daysIn year month) cs
  some (⟨year, month, day⟩, cs)

/-- The nanoseconds of a fraction that may follow a second. -/
def readFraction (cs : List Char) : Nat × List Char :=
  match cs with
  | '.' :: rest =>
    let ds := rest.takeWhile Char.isDigit
    match readExactly 9 (ds.take 9 ++ List.replicate (9 - ds.length) '0') with
    | some (n, _) => if ds.isEmpty then (0, cs) else (n, rest.drop ds.length)
    | none => (0, cs)
  | _ => (0, cs)

/-- A time of day, as in `07:32:00.5`. -/
def readTime (cs : List Char) : Option (Time × List Char) := do
  let (hour, cs) ← readBetween 2 0 23 cs
  let cs ← expect [':'] cs
  let (minute, cs) ← readBetween 2 0 59 cs
  let cs ← expect [':'] cs
  let (second, cs) ← readBetween 2 0 60 cs
  let (nanosecond, cs) := readFraction cs
  some (⟨hour, minute, second, nanosecond⟩, cs)

/-- A distance from universal time, as in `Z` or `-07:00`. -/
def readZone (cs : List Char) : Option (Zone × List Char) :=
  match cs with
  | [] => none
  | sign :: rest =>
    if sign = 'Z' ∨ sign = 'z' then some (.universal, rest)
    else if sign = '+' ∨ sign = '-' then do
      let (hour, rest) ← readBetween 2 0 23 rest
      let rest ← expect [':'] rest
      let (minute, rest) ← readBetween 2 0 59 rest
      let minutes : Int := 60 * hour + minute
      some (.ahead (if sign = '-' then -minutes else minutes), rest)
    else none

/-- A moment.  The time behind a day is missing if what is there is none. -/
def readMoment (cs : List Char) : Option (Moment × List Char) :=
  match readDate cs with
  | some (d, rest) =>
    match expect ['T', 't', ' '] rest >>= readTime with
    | some (t, rest) =>
      match readZone rest with
      | some (z, rest) => some (.dateTime d t (some z), rest)
      | none => some (.dateTime d t none, rest)
    | none => some (.date d, rest)
  | none => (readTime cs).map fun (t, rest) => (.time t, rest)

/-- The moment that a whole text gives. -/
def Moment.ofText? (cs : List Char) : Option Moment :=
  match readMoment cs with
  | some (m, []) => some m
  | _ => none

/-- A number with zeros in front, so that it takes `width` digits at least. -/
def zeroPadded (width n : Nat) : List Char :=
  let ds := Text.ofNat n
  List.replicate (width - ds.length) '0' ++ ds

/-- A day in digits. -/
def Date.chars (d : Date) : List Char :=
  zeroPadded 4 d.year ++ '-' :: zeroPadded 2 d.month ++ '-' :: zeroPadded 2 d.day

/-- A time in digits, without zeros at the end of the fraction. -/
def Time.chars (t : Time) : List Char :=
  zeroPadded 2 t.hour ++ ':' :: zeroPadded 2 t.minute ++ ':' :: zeroPadded 2 t.second ++
    if t.nanosecond = 0 then []
    else '.' :: ((zeroPadded 9 t.nanosecond).reverse.dropWhile (· == '0')).reverse

/-- A distance from universal time: `Z`, or a sign, hours and minutes. -/
def Zone.chars : Zone → List Char
  | universal => ['Z']
  | ahead minutes =>
    (if minutes < 0 then '-' else '+') :: zeroPadded 2 (minutes.natAbs / 60) ++
      ':' :: zeroPadded 2 (minutes.natAbs % 60)

/-- A moment in digits. -/
def Moment.chars : Moment → List Char
  | date d => d.chars
  | time t => t.chars
  | dateTime d t zone => d.chars ++ 'T' :: t.chars ++ (zone.map Zone.chars).getD []

end Toml
end TuneEditor
