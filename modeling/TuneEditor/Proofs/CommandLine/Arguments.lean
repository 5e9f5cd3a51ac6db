/-
# Arguments with and without a selection

The value of an argument is looked at late: when the next flag, option or file is
read, or at the end.  Looking at it sooner makes no difference if it is in order
(`finish_of_settle`), and if it is not there is no way back (`finish_ne_ok`).

So `--select` and the word behind it can be taken out of arguments that the program
runs on.  The word is two numbers, they are the selection that is asked for, and what
is left asks for everything else and for no selection (`readArguments_select`).
-/

import TuneEditor.CommandLine.Arguments

namespace TuneEditor
namespace CommandLine

/-- Two steps that succeed one after the other both succeed. -/
theorem exists_of_bind_eq_ok {ε α β : Type} {x : Except ε α} {f : α → Except ε β} {b : β}
    (h : x.bind f = .ok b) : ∃ a, x = .ok a ∧ f a = .ok b := by
  cases x with
  | error e => cases h
  | ok a => exact ⟨a, rfl, h⟩

/-! ### Slots and their values -/

/-- Whether a slot has its value. -/
def Options.isGiven (o : Options) : Slot → Bool
  | .file => o.file.isSome
  | .select => o.select.isSome
  | .height => o.height.isSome
  | .config => o.config.isSome

/-- The options with a value in a slot, if it is a value for that slot. -/
def Options.put (o : Options) (s : Slot) (value : List Char) : Except Mistake Options :=
  match s with
  | .file => if value.isEmpty then .error (.missingValue s) else .ok { o with file := some value }
  | .config =>
    if value.isEmpty then .error (.missingValue s) else .ok { o with config := some value }
  | .select =>
    match readRange value with
    | .ok range => .ok { o with select := some range }
    | .error e => .error (.invalidValue value s e.message)
  | .height =>
    match Text.readCount value with
    | .ok n => .ok { o with height := some n }
    | .error e => .error (.invalidValue value s e.message.toList)

/-- A value that is put in a slot fills it, and the others are as they were. -/
theorem Options.isSome_file_put {o o' : Options} {s : Slot} {value : List Char}
    (h : o.put s value = .ok o') : o'.file.isSome = (o.file.isSome || s == .file) := by
  cases s <;> simp only [put] at h <;> split at h <;> cases h <;> simp

/-- What is put in another slot does not depend on the selection, and leaves it alone. -/
theorem Options.exists_put_of_range {o o' : Options} {s : Slot} {value : List Char}
    {range : SelectionRequest} (hs : s ≠ .select) (hnone : o.select = none)
    (h : put { o with select := some range } s value = .ok o') :
    ∃ o₀, o.put s value = .ok o₀ ∧ o₀.select = none ∧ o' = { o₀ with select := some range } := by
  cases s with
  | select => exact absurd rfl hs
  | file =>
    simp only [put] at h ⊢
    split at h
    · cases h
    · next hvalue => exact ⟨_, if_neg hvalue, hnone, (Except.ok.inj h).symm⟩
  | config =>
    simp only [put] at h ⊢
    split at h
    · cases h
    · next hvalue => exact ⟨_, if_neg hvalue, hnone, (Except.ok.inj h).symm⟩
  | height =>
    simp only [put] at h ⊢
    cases hn : Text.readCount value with
    | error e =>
      rw [hn] at h
      cases h
    | ok n =>
      rw [hn] at h
      exact ⟨_, rfl, hnone, (Except.ok.inj h).symm⟩

namespace Reading

variable {r r' : Reading} {o : Options}

/-- What comes of the arguments that are still to be read. -/
def finish (r : Reading) (args : List (List Char)) : Except Stop Options := do
  let r ← args.foldlM readArgument r
  let r ← r.settle
  .ok r.options

/-- At the end of the arguments the last value is looked at. -/
theorem finish_nil (r : Reading) : r.finish [] = r.settle.map Reading.options := rfl

/-- The rest of the arguments is read behind the first one. -/
theorem finish_cons (r : Reading) (arg : List Char) (args : List (List Char)) :
    r.finish (arg :: args) = (r.readArgument arg).bind fun r => r.finish args := by
  unfold finish
  rw [List.foldlM_cons]
  cases r.readArgument arg with
  | error e => rfl
  | ok r' => rfl

/-- Arguments can be read in two parts. -/
theorem finish_append (r : Reading) (args args' : List (List Char)) :
    r.finish (args ++ args') = (args.foldlM readArgument r).bind fun r => r.finish args' := by
  unfold finish
  rw [List.foldlM_append]
  cases args.foldlM readArgument r with
  | error e => rfl
  | ok r' => rfl

/-! ### Looking at a value -/

/-- Every slot is set in one way: it takes no second value, and the value is looked at only then. -/
theorem setSlot_eq (r : Reading) (s : Slot) (value : List Char) :
    r.setSlot s value =
      if r.options.isGiven s then .error (.mistake (.repeatedSlot s))
      else
        match r.options.put s value with
        | .ok o => .ok { r with options := o }
        | .error m => .error (.mistake m) := by
  cases s <;> rfl

/-- A value is taken in by its slot, which takes no second one. -/
theorem setSlot_eq_ok_iff {s : Slot} {value : List Char} :
    r.setSlot s value = .ok r' ↔
      r.options.isGiven s = false ∧
        ∃ o, r.options.put s value = .ok o ∧ r' = { r with options := o } := by
  rw [setSlot_eq]
  cases r.options.isGiven s with
  | true => simp
  | false =>
    cases r.options.put s value with
    | error m => simp
    | ok o => simp [eq_comm]

/-- Once a pending value was looked at, nothing is pending, and there is a file if there was one or
one was pending.  It comes to the same whether the words behind it are all files or not. -/
theorem of_settle (h : r.settle = .ok r') :
    (∀ s, r.pending ≠ some (s, none)) ∧ r'.pending = none ∧ r'.filesOnly = r.filesOnly ∧
      r'.options.file.isSome = (r.options.file.isSome || r.pending.map Prod.fst == some .file) ∧
      ∀ b, settle { r with filesOnly := b } = .ok { r' with filesOnly := b } := by
  unfold settle at h ⊢
  dsimp only
  cases hp : r.pending with
  | none =>
    rw [hp] at h
    obtain rfl : r = r' := Except.ok.inj h
    exact ⟨fun s => nofun, hp, rfl, (Bool.or_false _).symm, fun b => by rw [hp]⟩
  | some p =>
    obtain ⟨s, value⟩ := p
    rw [hp] at h
    cases value with
    | none => cases h
    | some value =>
      obtain ⟨hfree, o, ho, rfl⟩ := setSlot_eq_ok_iff.1 h
      refine ⟨fun s => nofun, rfl, rfl, ?_, fun b => setSlot_eq_ok_iff.2 ⟨hfree, o, ho, rfl⟩⟩
      exact Options.isSome_file_put ho

/-- Reads an argument that is no value. -/
def readWord (r : Reading) (arg : List Char) : Except Stop Reading :=
  if r.filesOnly then r.readFile arg
  else
    match arg with
    | ['-', '-'] => .ok { r with filesOnly := true }
    | '-' :: '-' :: body => r.readLong body
    | '-' :: c :: _ => r.readShort c
    | arg => r.readFile arg

/-- An argument is a value only where a slot waits for one. -/
theorem readArgument_eq_readWord (h : ∀ s, r.pending ≠ some (s, none)) (arg : List Char) :
    r.readArgument arg = r.readWord arg := by
  unfold readArgument readWord
  -- The two patterns for a value that is to come are out of the question.
  grind

/-- Where no value is to come, an argument makes files of the words behind it, or what is pending is
looked at first. -/
theorem readWord_of_settle (h : r.settle = .ok r') (arg : List Char) :
    r.readWord arg = r'.readWord arg ∨
      r.readWord arg = .ok { r with filesOnly := true } ∧
        r'.readWord arg = .ok { r' with filesOnly := true } := by
  obtain ⟨-, hnone, hfiles, hfile, -⟩ := of_settle h
  have hsettle : r'.settle = .ok r' := by simp only [settle, hnone]
  have hname : ∀ n v, r.readName n v = r'.readName n v := fun n v => by
    cases n <;> cases v <;> simp only [readName, h, hsettle]
  have hlong : ∀ body, r.readLong body = r'.readLong body := fun body => by
    simp only [readLong, hname]
  have hshort : ∀ c, r.readShort c = r'.readShort c := fun c => by
    simp only [readShort, hname]
  have hgiven : (r'.options.file.isSome || r'.pending.map Prod.fst == some .file) =
      (r.options.file.isSome || r.pending.map Prod.fst == some .file) := by
    rw [hfile, hnone]
    exact Bool.or_false _
  have hread : r.readFile arg = r'.readFile arg := by
    simp only [readFile, hgiven, h, hsettle]
  unfold readWord
  rw [hfiles]
  split
  · exact .inl hread
  · split
    · exact .inr ⟨rfl, rfl⟩
    · exact .inl (hlong _)
    · exact .inl (hshort _)
    · exact .inl hread

/-- An argument that is read makes files of the words behind it, or what was pending was in
order. -/
theorem exists_settle_of_readWord {arg : List Char} (h : r.readWord arg = .ok r') :
    r' = { r with filesOnly := true } ∨ ∃ q, r.settle = .ok q := by
  have hname : ∀ n v, r.readName n v = .ok r' → ∃ q, r.settle = .ok q := by
    intro n v h
    cases n <;> cases v <;> simp only [readName] at h
    all_goals first
      | cases h
      | obtain ⟨q, hq, -⟩ := exists_of_bind_eq_ok h
        exact ⟨q, hq⟩
  have hread : ∀ arg, r.readFile arg = .ok r' → ∃ q, r.settle = .ok q := by
    intro arg h
    simp only [readFile] at h
    split at h
    · cases h
    · obtain ⟨q, hq, -⟩ := exists_of_bind_eq_ok h
      exact ⟨q, hq⟩
  unfold readWord at h
  split at h
  · exact .inr (hread arg h)
  · split at h
    · exact .inl (Except.ok.inj h).symm
    · simp only [readLong] at h
      split at h
      · exact .inr (hname _ _ h)
      · cases h
    · simp only [readShort] at h
      split at h
      · exact .inr (hname _ _ h)
      · split at h
        · exact .inr (hname _ _ h)
        · cases h
    · exact .inr (hread _ h)

/-- **A value that is in order might as well be looked at before the rest of the arguments is
read.** -/
theorem finish_of_settle (h : r.settle = .ok r') (args : List (List Char)) :
    r.finish args = r'.finish args := by
  -- Only `--` leaves a value pending, and the two readings stay a look apart then.
  induction args generalizing r r' with
  | nil =>
    obtain ⟨-, hnone, -⟩ := of_settle h
    have hsettle : r'.settle = .ok r' := by simp only [settle, hnone]
    rw [finish_nil, finish_nil, h, hsettle]
  | cons arg args ih =>
    obtain ⟨hvalue, hnone, -, -, hsettle⟩ := of_settle h
    have hvalue' : ∀ s, r'.pending ≠ some (s, none) := fun s => by
      rw [hnone]
      nofun
    rw [finish_cons, finish_cons, readArgument_eq_readWord hvalue, readArgument_eq_readWord hvalue']
    rcases readWord_of_settle h arg with hsame | ⟨hfiles, hfiles'⟩
    · rw [hsame]
    · rw [hfiles, hfiles']
      exact ih (hsettle true)

/-- No arguments mend a value that is not in order. -/
theorem finish_ne_ok (hvalue : ∀ s, r.pending ≠ some (s, none)) (hbad : ∀ q, r.settle ≠ .ok q)
    (args : List (List Char)) (o : Options) : r.finish args ≠ .ok o := by
  induction args generalizing r with
  | nil =>
    intro h
    obtain ⟨q, hq, -⟩ := exists_of_bind_eq_ok h
    exact hbad q hq
  | cons arg args ih =>
    intro h
    rw [finish_cons, readArgument_eq_readWord hvalue] at h
    obtain ⟨r', hr', hrest⟩ := exists_of_bind_eq_ok h
    rcases exists_settle_of_readWord hr' with rfl | ⟨q, hq⟩
    · refine ih (r := { r with filesOnly := true }) hvalue (fun q hq => ?_) hrest
      obtain ⟨-, -, -, -, hsettle⟩ := of_settle hq
      exact hbad _ (hsettle r.filesOnly)
    · exact hbad q hq

/-! ### Readings that differ in the selection -/

/-- The reading with a selection asked for. -/
def withRange (r : Reading) (range : SelectionRequest) : Reading :=
  { r with options := { r.options with select := some range } }

/-- Whatever is read where a selection is asked for is read as well where none is, with the same
result but for the selection. -/
def Follows (range : SelectionRequest) (x y : Except Stop Reading) : Prop :=
  ∀ q, x = .ok q → ∃ r, y = .ok r ∧ r.options.select = none ∧ q = r.withRange range

variable {range : SelectionRequest}

/-- Readings that follow each other step by step do so to the end. -/
theorem Follows.bind {x y : Except Stop Reading} {f g : Reading → Except Stop Reading}
    (h : Follows range x y)
    (hfg : ∀ r, r.options.select = none → Follows range (f (r.withRange range)) (g r)) :
    Follows range (x.bind f) (y.bind g) := by
  intro q hq
  obtain ⟨a, ha, hfa⟩ := exists_of_bind_eq_ok hq
  obtain ⟨r, hr, hnone, rfl⟩ := h a ha
  rw [hr]
  exact hfg r hnone q hfa

/-- A reading without a selection is followed by the same reading with one. -/
theorem Follows.ok (h : r.options.select = none) :
    Follows range (.ok (r.withRange range)) (.ok r) := by
  intro q hq
  exact ⟨r, rfl, h, (Except.ok.inj hq).symm⟩

/-- Where a reading with a selection fails, there is nothing to follow. -/
theorem Follows.error (e : Stop) (y : Except Stop Reading) : Follows range (.error e) y := by
  intro q hq
  cases hq

/-- A check that both readings make may stop both of them. -/
theorem Follows.guard {x y : Except Stop Reading} (b : Bool) (e : Stop)
    (h : Follows range x y) :
    Follows range (if b then .error e else x) (if b then .error e else y) := by
  cases b with
  | true => exact .error _ _
  | false => exact h

/-- A flag is set whether a selection is asked for or not. -/
theorem follows_setFlag (h : r.options.select = none) (f : Flag) :
    Follows range ((r.withRange range).setFlag f) (r.setFlag f) := by
  have hput : ∀ (o : Options), o.select = none → ∀ given : Bool,
      Follows range
        (if given then .error (.mistake (.repeatedFlag f))
          else .ok { r with options := { o with select := some range } })
        (if given then .error (.mistake (.repeatedFlag f)) else .ok { r with options := o }) :=
    fun o ho given => .guard given _ (.ok (r := { r with options := o }) ho)
  cases f with
  | noColor => exact hput { r.options with noColor := true } h _
  | lineNumbers => exact hput { r.options with lineNumbers := true } h _
  | readOnly => exact hput { r.options with readOnly := true } h _
  | tokens => exact hput { r.options with tokens := true } h _

/-- A slot takes the same value. Only the slot of the selection looks at the selection, and that one
is full already on the one side. -/
theorem follows_setSlot (h : r.options.select = none) (s : Slot) (value : List Char) :
    Follows range ((r.withRange range).setSlot s value) (r.setSlot s value) := by
  intro q hq
  obtain ⟨hfree, o, ho, rfl⟩ := setSlot_eq_ok_iff.1 hq
  have hs : s ≠ .select := by
    rintro rfl
    cases hfree
  have hfree' : r.options.isGiven s = false := by
    rw [← hfree]
    cases s with
    | select => exact absurd rfl hs
    | _ => rfl
  obtain ⟨o', ho', hnone, rfl⟩ := Options.exists_put_of_range hs h ho
  exact ⟨{ r with options := o' }, setSlot_eq_ok_iff.2 ⟨hfree', o', ho', rfl⟩, hnone, rfl⟩

/-- A pending value is looked at with the same result. -/
theorem follows_settle (h : r.options.select = none) :
    Follows range (r.withRange range).settle r.settle := by
  obtain ⟨options, pending, filesOnly⟩ := r
  cases pending with
  | none => exact .ok h
  | some p =>
    obtain ⟨s, value⟩ := p
    cases value with
    | none => exact .error _ _
    | some value => exact follows_setSlot (r := ⟨options, none, filesOnly⟩) h s value

/-- A name is read alike: none of them looks at more than its own flag or slot. -/
theorem follows_readName (h : r.options.select = none) (n : Name) (value : Option (List Char)) :
    Follows range ((r.withRange range).readName n value) (r.readName n value) := by
  have hsettle : Follows range (r.withRange range).settle r.settle := follows_settle h
  cases n with
  | slot s =>
    cases value with
    | none =>
      exact hsettle.bind fun q hq => .ok (r := { q with pending := some (s, none) }) hq
    | some value => exact hsettle.bind fun q hq => follows_setSlot hq s value
  | flag f =>
    cases value with
    | none => exact hsettle.bind fun q hq => follows_setFlag hq f
    | some value => exact .error _ _
  | help =>
    cases value with
    | none => exact hsettle.bind fun q hq => .error _ _
    | some value => exact .error _ _
  | version =>
    cases value with
    | none => exact hsettle.bind fun q hq => .error _ _
    | some value => exact .error _ _

/-- A file is read alike. -/
theorem follows_readFile (h : r.options.select = none) (arg : List Char) :
    Follows range ((r.withRange range).readFile arg) (r.readFile arg) :=
  .guard _ _ ((follows_settle h).bind fun q hq => .ok (r := q.readValue .file arg) hq)

/-- **An argument does the same whether a selection is asked for or not**, unless it asks for one
itself. -/
theorem follows_readArgument (h : r.options.select = none) (arg : List Char) :
    Follows range ((r.withRange range).readArgument arg) (r.readArgument arg) := by
  have hlong : ∀ body, Follows range ((r.withRange range).readLong body) (r.readLong body) := by
    intro body
    simp only [readLong]
    split
    · exact follows_readName h _ _
    · exact .error _ _
  have hshort : ∀ c, Follows range ((r.withRange range).readShort c) (r.readShort c) := by
    intro c
    simp only [readShort]
    split
    · exact follows_readName h _ _
    · split
      · exact follows_readName h _ _
      · exact .error _ _
  have hpending : (r.withRange range).pending = r.pending := rfl
  have hfiles : (r.withRange range).filesOnly = r.filesOnly := rfl
  unfold readArgument
  rw [hpending, hfiles]
  split
  · exact follows_readFile h arg
  · split
    · exact .ok (r := r.readValue .select _) h
    · exact .ok (r := { r with filesOnly := true }) h
    · exact hlong _
    · exact hshort _
    · exact .ok (r := r.readValue _ _) h
    · exact follows_readFile h _

/-- Where a selection was asked for and the arguments read on to the end, that selection is the one
in the options, and the same arguments read without it give the other options as they are. -/
theorem finish_withRange (h : r.options.select = none) {args : List (List Char)}
    (ho : (r.withRange range).finish args = .ok o) :
    o.select = some range ∧ r.finish args = .ok { o with select := none } := by
  induction args generalizing r with
  | nil =>
    obtain ⟨q, hq, ho⟩ := exists_of_bind_eq_ok ho
    obtain ⟨r', hr', hnone, rfl⟩ := follows_settle h q hq
    obtain rfl := Except.ok.inj ho
    refine ⟨rfl, ?_⟩
    rw [finish_nil, hr', ← hnone]
    rfl
  | cons arg args ih =>
    rw [finish_cons] at ho ⊢
    obtain ⟨q, hq, ho⟩ := exists_of_bind_eq_ok ho
    obtain ⟨r', hr', hnone, rfl⟩ := follows_readArgument h arg q hq
    rw [hr']
    exact ih hnone ho

/-! ### The selection taken out -/

/-- A selection is looked at: there was none, and its value is two numbers. -/
theorem of_settle_select {value : List Char} (hnone : r.pending = none)
    (h : settle { r with pending := some (.select, some value) } = .ok r') :
    r.options.select = none ∧
      ∃ range, readRange value = .ok range ∧ r' = r.withRange range := by
  have hset : setSlot { r with pending := none } .select value = .ok r' := h
  obtain ⟨hfree, o, ho, rfl⟩ := setSlot_eq_ok_iff.1 hset
  refine ⟨Option.isNone_iff_eq_none.1 (Option.isSome_eq_false_iff.1 hfree), ?_⟩
  simp only [Options.put] at ho
  split at ho
  · next range hrange =>
    obtain rfl := Except.ok.inj ho
    refine ⟨range, hrange, ?_⟩
    rw [withRange, hnone]
  · cases ho

/-- The reading of `--select` itself as a value comes to nothing. -/
theorem finish_select_select_ne_ok (r : Reading) (args : List (List Char)) (o : Options) :
    finish { r with pending := some (.select, some "--select".toList) } args ≠ .ok o := by
  refine finish_ne_ok (fun s hs => by cases hs) (fun q hq => ?_) args o
  obtain ⟨-, range, hrange, -⟩ := of_settle_select (r := { r with pending := none }) rfl hq
  cases hrange

/-- The reading of a second file comes to nothing. -/
theorem finish_file_ne_ok (hfiles : r.filesOnly = true) (file arg : List Char)
    (args : List (List Char)) (o : Options) :
    (r.readValue .file file).finish (arg :: args) ≠ .ok o := by
  have hread : (r.readValue .file file).readArgument arg =
      .error (.mistake (.unexpectedArgument arg)) := by
    unfold readArgument readFile
    rw [if_pos (show (r.readValue .file file).filesOnly = true from hfiles)]
    exact if_pos (Bool.or_true _)
  rw [finish_cons, hread]
  nofun

/-- Behind `--select` the next word is its value, even if that is `--select` again. -/
theorem readArgument_select_of_pending (hfiles : r.filesOnly = false)
    (hpending : r.pending = some (.select, none)) (arg : List Char) :
    r.readArgument arg = .ok (r.readValue .select arg) := by
  unfold readArgument
  rw [hfiles, hpending]
  rfl

/-- Elsewhere `--select` has what is pending looked at, and waits for its value. -/
theorem readArgument_select (hfiles : r.filesOnly = false)
    (hpending : r.pending ≠ some (.select, none)) :
    r.readArgument "--select".toList =
      r.settle.bind fun q => .ok { q with pending := some (.select, none) } := by
  obtain ⟨options, pending, filesOnly⟩ := r
  obtain rfl : filesOnly = false := hfiles
  cases pending with
  | none => rfl
  | some p =>
    obtain ⟨s, value⟩ := p
    cases s <;> cases value
    case select.none => exact absurd rfl hpending
    all_goals rfl

/-- Where the reading of `--select` and a word goes on, what was pending is in order and the word is
the value. -/
theorem exists_of_finish_select {value : List Char} {after : List (List Char)}
    (h : r.finish ("--select".toList :: value :: after) = .ok o) :
    ∃ q, r.settle = .ok q ∧
      finish { q with pending := some (.select, some value) } after = .ok o := by
  rw [finish_cons] at h
  obtain ⟨q, hq, h⟩ := exists_of_bind_eq_ok h
  cases hfiles : r.filesOnly with
  | true =>
    -- Both words are files, and one of them is too many.
    have hread : r.readFile "--select".toList = .ok q := by
      rw [← hq]
      exact (if_pos hfiles).symm
    simp only [readFile] at hread
    split at hread
    · cases hread
    · obtain ⟨r', hr', hread⟩ := exists_of_bind_eq_ok hread
      obtain rfl := Except.ok.inj hread
      obtain ⟨-, -, hfiles', -⟩ := of_settle hr'
      exact absurd h (finish_file_ne_ok (hfiles'.trans hfiles) _ value after o)
  | false =>
    by_cases hpending : r.pending = some (.select, none)
    · rw [readArgument_select_of_pending hfiles hpending] at hq
      obtain rfl := Except.ok.inj hq
      exact absurd h (finish_select_select_ne_ok r _ o)
    · rw [readArgument_select hfiles hpending] at hq
      obtain ⟨r', hr', hq⟩ := exists_of_bind_eq_ok hq
      obtain rfl := Except.ok.inj hq
      obtain ⟨-, -, hfiles', -⟩ := of_settle hr'
      have hread := readArgument_select_of_pending
        (r := { r' with pending := some (.select, none) }) (hfiles'.trans hfiles) rfl value
      rw [finish_cons, hread] at h
      exact ⟨r', hr', h⟩

end Reading

/-- **A selection is asked for by `--select` and a word of two numbers, and by nothing else.**  If
the program runs on arguments in which `--select` stands in front of some word, then that word is
two numbers and they are the selection asked for, and without the two the arguments ask for the same
but for no selection. -/
theorem readArguments_select {before after : List (List Char)} {value : List Char} {o : Options}
    (h : readArguments (before ++ "--select".toList :: value :: after) = .ok o) :
    (∃ range, readRange value = .ok range ∧ o.select = some range) ∧
      readArguments (before ++ after) = .ok { o with select := none } := by
  change Reading.finish {} _ = _ at h
  change _ ∧ Reading.finish {} _ = _
  rw [Reading.finish_append] at h ⊢
  obtain ⟨r, hr, h⟩ := exists_of_bind_eq_ok h
  rw [hr]
  change _ ∧ r.finish after = _
  obtain ⟨q, hq, h⟩ := Reading.exists_of_finish_select h
  obtain ⟨-, hnone, -⟩ := Reading.of_settle hq
  rw [Reading.finish_of_settle hq]
  cases hlook : Reading.settle { q with pending := some (.select, some value) } with
  | error e =>
    have hbad : ∀ q', Reading.settle { q with pending := some (.select, some value) } ≠ .ok q' := by
      intro q' hq'
      rw [hlook] at hq'
      cases hq'
    exact absurd h (Reading.finish_ne_ok (fun s hs => by cases hs) hbad after o)
  | ok w =>
    obtain ⟨hselect, range, hrange, rfl⟩ := Reading.of_settle_select hnone hlook
    rw [Reading.finish_of_settle hlook] at h
    obtain ⟨hasked, hwithout⟩ := Reading.finish_withRange hselect h
    exact ⟨⟨range, hrange, hasked⟩, hwithout⟩

end CommandLine
end TuneEditor
