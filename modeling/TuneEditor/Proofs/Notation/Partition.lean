/-
# The steps of a scan cut the text into parts

A scan can be watched from outside: it stands at a byte of the text in a region,
is asked for one step after the other, and has come to its end when there is no
next one (`Scan.next?`).  What it hands out is `steps`, after no more questions
than the text has characters (`Scan.take_eq_steps`).

The steps are a partition of the text (`IsPartition`): they follow each other
without a gap from the first byte to the last, each of them takes whole
characters, no two that follow each other are without a tag, and each character
that is no blank is in exactly one that has a tag (`isPartition_steps`).

All of it comes from how a list of lexemes can be taken apart at one of them
(`lexemes_eq_append`) or at a character (`exists_append_of_flatMap`).
-/

import Mathlib.Data.List.Chain
import Mathlib.Data.List.TakeWhile
import TuneEditor.Proofs.Notation.Lexemes
import TuneEditor.Proofs.Text.Bytes

namespace TuneEditor

/-! ### Lexemes taken apart -/

namespace Lexeme

/-- The place at which a text goes on behind some lexemes, of which the first begins at a place. -/
def placeBehind (p : Place) (ls : List Lexeme) : Place :=
  (ls.getLast?.map next).getD p

@[simp] theorem placeBehind_nil (p : Place) : placeBehind p [] = p := rfl

/-- The place behind some lexemes is that behind all but the first, begun behind that one. -/
@[simp] theorem placeBehind_cons (p : Place) (l : Lexeme) (ls : List Lexeme) :
    placeBehind p (l :: ls) = placeBehind l.next ls := by
  unfold placeBehind
  rw [List.getLast?_cons]
  cases ls.getLast? with
  | none => rfl
  | some l' => rfl

/-- A scan takes something at every character. -/
theorem first_ne_nil (p : Place) (c : Char) (cs : List Char) : (first p c cs).chars ≠ [] :=
  List.ne_nil_of_length_pos (length_first_pos p c cs)

/-- A line starts behind some lexemes just if their text ends with a newline, or if it is empty and
one starts in front of them. -/
theorem atLineStart_placeBehind (p : Place) {ls : List Lexeme} (h : ∀ l ∈ ls, l.chars ≠ []) :
    (placeBehind p ls).atLineStart =
      if ls.flatMap chars = [] then p.atLineStart
      else (ls.flatMap chars).getLast? == some '\n' := by
  rcases List.eq_nil_or_concat ls with rfl | ⟨init, l, rfl⟩
  · rfl
  · rw [List.concat_eq_append] at h ⊢
    have hl : l.chars ≠ [] := h l (by simp)
    have hne : (init ++ [l]).flatMap chars ≠ [] := by simp [hl]
    have hlast : ((init ++ [l]).flatMap chars).getLast? = l.chars.getLast? := by
      rw [List.flatMap_append, List.flatMap_singleton, List.getLast?_append_of_ne_nil _ hl]
    rw [if_neg hne, hlast, placeBehind, List.getLast?_concat]
    rfl

end Lexeme

/-- In front of one of its lexemes a text is the text of those before it, and the lexeme is the
first of what follows. -/
theorem lexemes_eq_append {p : Place} {cs : List Char} {pre post : List Lexeme} {l : Lexeme}
    (h : lexemes p cs = pre ++ l :: post) :
    ∃ c rest, cs = pre.flatMap Lexeme.chars ++ c :: rest ∧
      l = Lexeme.first (Lexeme.placeBehind p pre) c rest ∧
        post = lexemes l.next ((c :: rest).drop l.chars.length) := by
  induction pre generalizing p cs with
  | nil =>
    cases cs with
    | nil => simp [lexemes] at h
    | cons c rest =>
      rw [lexemes_cons] at h
      obtain ⟨rfl, hpost⟩ := List.cons.inj h
      exact ⟨c, rest, rfl, rfl, hpost.symm⟩
  | cons l₀ pre ih =>
    cases cs with
    | nil => simp [lexemes] at h
    | cons c₀ cs =>
      rw [lexemes_cons] at h
      obtain ⟨hl₀, htail⟩ := List.cons.inj h
      obtain ⟨c, rest, hcs, hl, hpost⟩ := ih htail
      refine ⟨c, rest, ?_, ?_, hpost⟩
      · rw [List.flatMap_cons, List.append_assoc, ← hcs, ← hl₀, Lexeme.first_append_drop]
      · rw [Lexeme.placeBehind_cons, ← hl₀]
        exact hl

/-- A lexeme of a text is not empty. -/
theorem chars_ne_nil_of_mem {p : Place} {cs : List Char} {l : Lexeme} (h : l ∈ lexemes p cs) :
    l.chars ≠ [] := by
  obtain ⟨pre, post, hls⟩ := List.append_of_mem h
  obtain ⟨c, rest, -, rfl, -⟩ := lexemes_eq_append hls
  exact Lexeme.first_ne_nil _ c rest

/-- A character of a text is in one of the lexemes that make it up. -/
theorem exists_append_of_flatMap {ls : List Lexeme} {before after : List Char} {c : Char}
    (h : ls.flatMap Lexeme.chars = before ++ c :: after) :
    ∃ pre l post u v, ls = pre ++ l :: post ∧ before = pre.flatMap Lexeme.chars ++ u ∧
      l.chars = u ++ c :: v ∧ after = v ++ post.flatMap Lexeme.chars := by
  induction ls generalizing before with
  | nil => simp at h
  | cons l₀ ls ih =>
    -- The character is in the first lexeme, or in those behind it.
    have hlater : ∀ gap, before = l₀.chars ++ gap → ls.flatMap Lexeme.chars = gap ++ c :: after →
        ∃ pre l post u v, l₀ :: ls = pre ++ l :: post ∧ before = pre.flatMap Lexeme.chars ++ u ∧
          l.chars = u ++ c :: v ∧ after = v ++ post.flatMap Lexeme.chars := by
      intro gap hbefore hgap
      obtain ⟨pre, l, post, u, v, rfl, rfl, hl, hafter⟩ := ih hgap
      exact ⟨l₀ :: pre, l, post, u, v, rfl, by rw [hbefore, List.flatMap_cons, List.append_assoc],
        hl, hafter⟩
    rw [List.flatMap_cons] at h
    rcases List.append_eq_append_iff.1 h with ⟨gap, hbefore, hgap⟩ | ⟨gap, hl₀, hgap⟩
    · exact hlater gap hbefore hgap
    · cases gap with
      | nil =>
        rw [List.append_nil] at hl₀
        exact hlater [] (by rw [hl₀, List.append_nil]) hgap.symm
      | cons d v =>
        obtain ⟨rfl, hafter⟩ := List.cons.inj hgap
        exact ⟨[], l₀, ls, before, v, rfl, rfl, hl₀, hafter⟩

/-- There are no more lexemes than characters. -/
theorem length_lexemes_le (p : Place) (cs : List Char) : (lexemes p cs).length ≤ cs.length := by
  induction p, cs using lexemes.induct with
  | case1 p => simp [lexemes]
  | case2 p c cs l ih =>
    have hpos : 0 < l.chars.length := Lexeme.length_first_pos p c cs
    have hlexemes : lexemes p (c :: cs) = l :: lexemes l.next ((c :: cs).drop l.chars.length) :=
      lexemes_cons p c cs
    rw [List.length_drop, List.length_cons] at ih
    rw [hlexemes, List.length_cons, List.length_cons]
    omega

/-! ### Lexemes without a tag -/

namespace Lexeme

/-- The first lexeme of a text has no tag just if a blank begins the text. -/
theorem tag_first_eq_none_iff (p : Place) (c : Char) (cs : List Char) :
    (first p c cs).tag = none ↔ Text.isBlank c = true := by
  have htag : (first p c cs).tag = (extent p c cs).2 := rfl
  rw [htag, extent]
  split
  · next h => simp [h]
  · next h =>
    split
    · simp [h]
    · simp [h]

/-- A lexeme without a tag is all the blanks at the front of its text. -/
theorem first_of_tag_eq_none {p : Place} {c : Char} {cs : List Char}
    (h : (first p c cs).tag = none) :
    (first p c cs).chars = c :: cs.takeWhile Text.isBlank ∧
      (c :: cs).drop (first p c cs).chars.length = cs.dropWhile Text.isBlank := by
  have hlexemes := lexemes_of_blank p ((tag_first_eq_none_iff p c cs).1 h) cs
  rw [lexemes_cons] at hlexemes
  have hchars : (first p c cs).chars = c :: cs.takeWhile Text.isBlank :=
    congrArg chars (List.cons.inj hlexemes).1
  refine ⟨hchars, ?_⟩
  have hsplit := first_append_drop p c cs
  conv at hsplit => rhs; rw [← List.takeWhile_append_dropWhile (p := Text.isBlank) (l := cs)]
  rw [← List.cons_append, ← hchars] at hsplit
  exact List.append_cancel_left hsplit

/-- Blanks are all that a lexeme without a tag has in it. -/
theorem isBlank_of_mem_first {p : Place} {c : Char} {cs : List Char}
    (h : (first p c cs).tag = none) {d : Char} (hd : d ∈ (first p c cs).chars) :
    Text.isBlank d = true := by
  rw [(first_of_tag_eq_none h).1] at hd
  rcases List.mem_cons.1 hd with rfl | hd
  · exact (tag_first_eq_none_iff p d cs).1 h
  · exact List.mem_takeWhile_imp hd

end Lexeme

/-- No two lexemes that follow each other are without a tag. -/
theorem isChain_tag_lexemes (p : Place) (cs : List Char) :
    (lexemes p cs).IsChain fun l l' => l.tag.isSome ∨ l'.tag.isSome := by
  induction p, cs using lexemes.induct with
  | case1 p => simp [lexemes]
  | case2 p c cs l ih =>
    have hlexemes : lexemes p (c :: cs) = l :: lexemes l.next ((c :: cs).drop l.chars.length) :=
      lexemes_cons p c cs
    rw [hlexemes]
    refine List.IsChain.cons ih fun l' hl' => ?_
    cases htag : l.tag with
    | some t => exact .inl rfl
    | none =>
      -- What stands behind the blanks is no blank.
      have hdrop : (c :: cs).drop l.chars.length = cs.dropWhile Text.isBlank :=
        (Lexeme.first_of_tag_eq_none htag).2
      have hstop := List.head?_dropWhile_not Text.isBlank cs
      rw [hdrop] at hl'
      cases hrest : cs.dropWhile Text.isBlank with
      | nil => simp [hrest, lexemes] at hl'
      | cons d ds =>
        have hd : Text.isBlank d = false := by
          rw [hrest] at hstop
          exact hstop
        rw [hrest, lexemes_cons, List.head?_cons] at hl'
        obtain rfl := Option.some.inj hl'
        refine .inr (Option.isSome_iff_ne_none.2 fun hnone => ?_)
        rw [(Lexeme.tag_first_eq_none_iff _ d ds).1 hnone] at hd
        cases hd

/-! ### The places of lexemes -/

/-- More lexemes stand behind the text of those in front of them. -/
theorem placed_append (start : Nat) (ls ls' : List Lexeme) :
    placed start (ls ++ ls') =
      placed start ls ++ placed (start + Utf8.size (ls.flatMap Lexeme.chars)) ls' := by
  induction ls generalizing start with
  | nil => rfl
  | cons l ls ih =>
    rw [List.cons_append, placed, placed, ih, List.flatMap_cons, Utf8.size_append, Nat.add_assoc]
    rfl

/-- A lexeme that has a place is inside of the text. -/
theorem bounds_of_mem_placed {start : Nat} {ls : List Lexeme} {m : Nat × Lexeme}
    (h : m ∈ placed start ls) :
    start ≤ m.1 ∧
      m.1 + Utf8.size m.2.chars ≤ start + Utf8.size (ls.flatMap Lexeme.chars) := by
  obtain ⟨before, after, hchars, hstart⟩ := eq_append_of_mem_placed h
  rw [hchars, Utf8.size_append, Utf8.size_append]
  omega

/-- Nothing but the lexemes is placed. -/
theorem mem_of_mem_placed {start : Nat} {ls : List Lexeme} {m : Nat × Lexeme}
    (h : m ∈ placed start ls) : m.2 ∈ ls := by
  rw [← map_snd_placed start ls]
  exact List.mem_map_of_mem h

/-- The steps of a text are its lexemes with their places, from the first byte on. -/
theorem steps_eq_map_placed (region : Region) (cs : List Char) :
    steps region cs = (placed 0 (lexemes ⟨region, true⟩ cs)).map Step.ofPlaced :=
  ofLexemes_eq_map_placed 0 _

/-- The text of a lexeme stands in the text from its first byte up to its last. -/
theorem slice?_of_mem_placed {region : Region} {cs : List Char} {m : Nat × Lexeme}
    (h : m ∈ placed 0 (lexemes ⟨region, true⟩ cs)) :
    Utf8.slice? cs m.1 (m.1 + Utf8.size m.2.chars) = some m.2.chars ∧
      ∃ rest, Utf8.At cs (m.1 + Utf8.size m.2.chars) rest := by
  obtain ⟨before, after, hchars, hstart⟩ := eq_append_of_mem_placed h
  rw [flatMap_chars_lexemes, List.append_assoc] at hchars
  rw [Nat.zero_add] at hstart
  rw [hchars, hstart]
  exact ⟨Utf8.slice?_append .., after, (Utf8.At.append before _).add⟩

/-! ### One step after the other -/

/-- The step at the start of a character is the first lexeme of what follows. -/
theorem stepAt_size (region : Region) (before : List Char) (c : Char) (rest : List Char) :
    stepAt region (before ++ c :: rest) (Utf8.size before) =
      .ofPlaced (Utf8.size before,
        .first ⟨region, before.isEmpty || before.getLast? == some '\n'⟩ c rest) := by
  unfold stepAt
  rw [Utf8.splitAt?_size]
  rfl

/-- Where no character starts there is an empty step. -/
theorem stepAt_of_not_at {cs : List Char} {pos : Nat}
    (h : ¬ ∃ c rest, Utf8.At cs pos (c :: rest)) (region : Region) :
    stepAt region cs pos = ⟨pos, pos, none, region⟩ := by
  unfold stepAt
  split
  · next before c rest hsplit =>
    exact absurd ⟨c, rest, before, Utf8.eq_append_of_splitAt? hsplit⟩ h
  · rfl

/-- A scan on its way through a text: the byte where it stands and the region that it is in. -/
structure Scan where
  position : Nat
  region : Region
  deriving DecidableEq, Repr

namespace Scan

/-- The next step of a scan and the scan behind it; nothing at the end of the text. -/
def next? (cs : List Char) (k : Scan) : Option (Step × Scan) :=
  if k.position < Utf8.size cs then
    let s := stepAt k.region cs k.position
    if s.isEmpty then none else some (s, ⟨s.stop, s.after⟩)
  else none

/-- The steps that a scan hands out when it is asked so many times, or until there is no more. -/
def take (cs : List Char) : Nat → Scan → List Step
  | 0, _ => []
  | n + 1, k =>
    match k.next? cs with
    | some (s, k') => s :: take cs n k'
    | none => []

/-- At the end of a text there is no further step. -/
theorem next?_size (cs : List Char) (region : Region) :
    next? cs ⟨Utf8.size cs, region⟩ = none :=
  if_neg (Nat.lt_irrefl _)

/-- In front of a character there is a next step, which is the first lexeme of what follows. -/
theorem next?_append {p : Place} {before : List Char}
    (hp : p.atLineStart = (before.isEmpty || before.getLast? == some '\n')) (c : Char)
    (rest : List Char) :
    next? (before ++ c :: rest) ⟨Utf8.size before, p.region⟩ =
      some (.ofPlaced (Utf8.size before, .first p c rest),
        ⟨Utf8.size before + Utf8.size (Lexeme.first p c rest).chars,
          (Lexeme.first p c rest).after⟩) := by
  have hlt : Utf8.size before < Utf8.size (before ++ c :: rest) :=
    (Utf8.At.append before (c :: rest)).lt_size
  have hstep : stepAt p.region (before ++ c :: rest) (Utf8.size before) =
      .ofPlaced (Utf8.size before, .first p c rest) := by
    rw [stepAt_size, ← hp]
  have hpos := Utf8.size_pos (Lexeme.first_ne_nil p c rest)
  have hempty : (Step.ofPlaced (Utf8.size before, .first p c rest)).isEmpty = false :=
    decide_eq_false (Nat.not_le.2 (Nat.lt_add_of_pos_right hpos))
  unfold next?
  rw [if_pos hlt]
  dsimp only
  rw [hstep, hempty]
  rfl

/-- A scan that is asked often enough hands out the lexemes of what is left. -/
theorem take_eq_map_placed {p : Place} {before rest : List Char} {n : Nat}
    (hp : p.atLineStart = (before.isEmpty || before.getLast? == some '\n'))
    (hn : rest.length ≤ n) :
    take (before ++ rest) n ⟨Utf8.size before, p.region⟩ =
      (placed (Utf8.size before) (lexemes p rest)).map Step.ofPlaced := by
  induction n generalizing p before rest with
  | zero =>
    obtain rfl : rest = [] := List.eq_nil_of_length_eq_zero (Nat.le_zero.1 hn)
    rw [lexemes]
    rfl
  | succ n ih =>
    cases rest with
    | nil =>
      rw [lexemes, List.append_nil, take, next?_size]
      rfl
    | cons c rest =>
      have hsplit := Lexeme.first_append_drop p c rest
      have hl := Lexeme.first_ne_nil p c rest
      have hnext : (Lexeme.first p c rest).next.atLineStart =
          ((before ++ (Lexeme.first p c rest).chars).isEmpty ||
            (before ++ (Lexeme.first p c rest).chars).getLast? == some '\n') := by
        rw [List.getLast?_append_of_ne_nil _ hl]
        simp [hl, Lexeme.next]
      have hlength : ((c :: rest).drop (Lexeme.first p c rest).chars.length).length ≤ n := by
        have hpos := List.length_pos_iff.2 hl
        rw [List.length_drop]
        omega
      have hrest := ih hnext hlength
      rw [List.append_assoc, hsplit, Utf8.size_append] at hrest
      rw [take, next?_append hp, lexemes_cons, placed, List.map_cons, ← hrest]
      rfl

/-- **A scan comes to its end**, after no more steps than there are characters, and what it has
handed out by then are the steps of the text. -/
theorem take_eq_steps (region : Region) (cs : List Char) {n : Nat} (hn : cs.length ≤ n) :
    take cs n ⟨0, region⟩ = steps region cs := by
  rw [steps_eq_map_placed]
  exact @take_eq_map_placed ⟨region, true⟩ [] cs n rfl hn

end Scan

/-! ### The partition -/

/-- Whether a step takes a part of what is between two bytes. -/
def Step.overlaps (s : Step) (start stop : Nat) : Bool :=
  s.start < stop && start < s.stop

/-- A step takes a part of what is between two bytes just if it starts in front of the second and
stops behind the first. -/
theorem Step.overlaps_iff {s : Step} {start stop : Nat} :
    s.overlaps start stop = true ↔ s.start < stop ∧ start < s.stop := by
  simp [Step.overlaps]

/-- Steps that cut a text into parts, blanks and tokens. -/
structure IsPartition (cs : List Char) (ss : List Step) : Prop where
  /-- There is a step unless there is no text, and there are no more than it has characters. -/
  eq_nil_iff : ss = [] ↔ cs = []
  length_le : ss.length ≤ cs.length
  /-- The first starts at the first byte, each other where the one before it stops, and the last
  stops at the last byte. -/
  start_head : ∀ s ∈ ss.head?, s.start = 0
  contiguous : ss.IsChain fun s t => t.start = s.stop
  stop_last : ∀ s ∈ ss.getLast?, s.stop = Utf8.size cs
  /-- Each takes something, and whole characters. -/
  start_lt_stop : ∀ s ∈ ss, s.start < s.stop
  at_stop : ∀ s ∈ ss, ∃ rest, Utf8.At cs s.stop rest
  /-- What they take, put together, is the text. -/
  flatten_slices : ∃ parts : List (List Char),
    ss.map (fun s => Utf8.slice? cs s.start s.stop) = parts.map some ∧ parts.flatten = cs
  /-- No two that follow each other are without a tag. -/
  tagged : ss.IsChain fun s t => s.tag.isSome ∨ t.tag.isSome
  /-- One without a tag is all blanks. -/
  blank : ∀ s ∈ ss, s.tag = none →
    ∃ part, Utf8.slice? cs s.start s.stop = some part ∧ ∀ c ∈ part, Text.isBlank c = true
  /-- A character that is no blank is in exactly one that has a tag, and in full. -/
  token : ∀ pos c rest, Utf8.At cs pos (c :: rest) → Text.isBlank c = false →
    ∃ s, s.start ≤ pos ∧ pos + c.utf8Size ≤ s.stop ∧
      ss.filter (fun t => t.tag.isSome && t.overlaps pos (pos + c.utf8Size)) = [s]

/-- The first step starts where the lexemes do. -/
theorem start_head_placed (start : Nat) (ls : List Lexeme) :
    ∀ s ∈ ((placed start ls).map Step.ofPlaced).head?, s.start = start := by
  cases ls with
  | nil => simp [placed]
  | cons l ls => simp [placed, Step.ofPlaced]

/-- Each step starts where the one before it stops. -/
theorem contiguous_placed (start : Nat) (ls : List Lexeme) :
    ((placed start ls).map Step.ofPlaced).IsChain fun s t => t.start = s.stop := by
  induction ls generalizing start with
  | nil => exact .nil
  | cons l ls ih =>
    rw [placed, List.map_cons]
    exact List.IsChain.cons (ih _) (start_head_placed _ ls)

/-- The last step stops where the text of the lexemes does. -/
theorem stop_last_placed (start : Nat) (ls : List Lexeme) :
    ∀ s ∈ ((placed start ls).map Step.ofPlaced).getLast?,
      s.stop = start + Utf8.size (ls.flatMap Lexeme.chars) := by
  rcases List.eq_nil_or_concat ls with rfl | ⟨init, l, rfl⟩
  · simp [placed]
  · rw [List.concat_eq_append]
    intro s hs
    rw [placed_append, placed, placed, List.map_append, List.map_singleton, List.getLast?_concat]
      at hs
    obtain rfl := Option.some.inj hs
    simp [Step.ofPlaced, Nat.add_assoc]

/-- Steps have the tags of their lexemes. -/
theorem map_tag_placed (start : Nat) (ls : List Lexeme) :
    ((placed start ls).map Step.ofPlaced).map Step.tag = ls.map Lexeme.tag := by
  conv => rhs; rw [← map_snd_placed start ls, List.map_map]
  rw [List.map_map]
  rfl

/-- Of the steps of a text only one takes a part of what is in a lexeme, the step of that lexeme. -/
theorem filter_overlaps_steps {region : Region} {cs : List Char} {pre post : List Lexeme}
    {l : Lexeme} (h : lexemes ⟨region, true⟩ cs = pre ++ l :: post) {start stop : Nat}
    (hlt : start < stop) (hstart : Utf8.size (pre.flatMap Lexeme.chars) ≤ start)
    (hstop : stop ≤ Utf8.size (pre.flatMap Lexeme.chars) + Utf8.size l.chars) :
    (steps region cs).filter (·.overlaps start stop) =
      [.ofPlaced (Utf8.size (pre.flatMap Lexeme.chars), l)] := by
  let n := Utf8.size (pre.flatMap Lexeme.chars)
  have hsteps : steps region cs = (placed 0 pre).map Step.ofPlaced ++
      .ofPlaced (n, l) :: (placed (n + Utf8.size l.chars) post).map Step.ofPlaced := by
    rw [steps_eq_map_placed, h, placed_append, placed, List.map_append, List.map_cons, Nat.zero_add]
  have hbefore : ((placed 0 pre).map Step.ofPlaced).filter (·.overlaps start stop) = [] := by
    rw [List.filter_eq_nil_iff]
    intro s hs
    obtain ⟨m, hm, rfl⟩ := List.mem_map.1 hs
    have hbounds := (bounds_of_mem_placed hm).2
    rw [Step.overlaps_iff, Step.start_ofPlaced, Step.stop_ofPlaced]
    omega
  have hbehind : ((placed (n + Utf8.size l.chars) post).map Step.ofPlaced).filter
      (·.overlaps start stop) = [] := by
    rw [List.filter_eq_nil_iff]
    intro s hs
    obtain ⟨m, hm, rfl⟩ := List.mem_map.1 hs
    have hbounds := (bounds_of_mem_placed hm).1
    rw [Step.overlaps_iff, Step.start_ofPlaced, Step.stop_ofPlaced]
    omega
  have hhere : (Step.ofPlaced (n, l)).overlaps start stop = true := by
    rw [Step.overlaps_iff, Step.start_ofPlaced, Step.stop_ofPlaced]
    exact ⟨Nat.lt_of_le_of_lt hstart hlt, Nat.lt_of_lt_of_le hlt hstop⟩
  rw [hsteps, List.filter_append, hbefore, List.nil_append, List.filter_cons, if_pos hhere, hbehind]

/-- The lexeme that has a character of a text in it, with the text before it and behind it. -/
theorem exists_lexeme_of_at (region : Region) {cs rest : List Char} {pos : Nat} {c : Char}
    (h : Utf8.At cs pos (c :: rest)) :
    ∃ pre l post u v, lexemes ⟨region, true⟩ cs = pre ++ l :: post ∧ l.chars = u ++ c :: v ∧
      pos = Utf8.size (pre.flatMap Lexeme.chars) + Utf8.size u ∧
        rest = v ++ post.flatMap Lexeme.chars := by
  obtain ⟨before, hcs, hsize⟩ := h
  have hchars : (lexemes ⟨region, true⟩ cs).flatMap Lexeme.chars = before ++ c :: rest := by
    rw [flatMap_chars_lexemes, hcs]
  obtain ⟨pre, l, post, u, v, hls, rfl, hl, hrest⟩ := exists_append_of_flatMap hchars
  rw [Utf8.size_append] at hsize
  exact ⟨pre, l, post, u, v, hls, hl, hsize.symm, hrest⟩

/-- A character that is no blank is in exactly one step that has a tag, and in full. -/
theorem exists_token_of_at (region : Region) {cs rest : List Char} {pos : Nat} {c : Char}
    (h : Utf8.At cs pos (c :: rest)) (hc : Text.isBlank c = false) :
    ∃ s, s.start ≤ pos ∧ pos + c.utf8Size ≤ s.stop ∧
      (steps region cs).filter (fun t => t.tag.isSome && t.overlaps pos (pos + c.utf8Size)) =
        [s] := by
  obtain ⟨pre, l, post, u, v, hls, hl, hpos, -⟩ := exists_lexeme_of_at region h
  have hsize : Utf8.size l.chars = Utf8.size u + c.utf8Size + Utf8.size v := by
    rw [hl, Utf8.size_append, Utf8.size_cons, Nat.add_assoc]
  have hwidth := c.utf8Size_pos
  -- The lexeme has a tag, as it is not all blank.
  have htag : l.tag.isSome = true := by
    obtain ⟨d, ds, -, rfl, -⟩ := lexemes_eq_append hls
    refine Option.isSome_iff_ne_none.2 fun hnone => ?_
    have hmem : c ∈ (Lexeme.first (Lexeme.placeBehind ⟨region, true⟩ pre) d ds).chars := by
      rw [hl]
      simp
    rw [Lexeme.isBlank_of_mem_first hnone hmem] at hc
    cases hc
  refine ⟨.ofPlaced (Utf8.size (pre.flatMap Lexeme.chars), l), ?_, ?_, ?_⟩
  · change Utf8.size (pre.flatMap Lexeme.chars) ≤ pos
    omega
  · change pos + c.utf8Size ≤ Utf8.size (pre.flatMap Lexeme.chars) + Utf8.size l.chars
    omega
  · rw [← List.filter_filter, filter_overlaps_steps hls (by omega) (by omega) (by omega)]
    exact List.filter_cons_of_pos htag

/-- The steps of a text are a partition of it. -/
theorem isPartition_steps (region : Region) (cs : List Char) :
    IsPartition cs (steps region cs) := by
  have hsteps := steps_eq_map_placed region cs
  have htext := flatMap_chars_lexemes ⟨region, true⟩ cs
  have hlength : (steps region cs).length = (lexemes ⟨region, true⟩ cs).length := by
    rw [hsteps, List.length_map, ← List.length_map Prod.snd, map_snd_placed]
  constructor
  case eq_nil_iff =>
    constructor
    · intro hnil
      rw [hnil] at hlength
      rw [← htext, List.eq_nil_of_length_eq_zero hlength.symm]
      rfl
    · rintro rfl
      rw [hsteps, lexemes]
      rfl
  case length_le =>
    rw [hlength]
    exact length_lexemes_le _ cs
  case start_head =>
    rw [hsteps]
    exact start_head_placed 0 _
  case contiguous =>
    rw [hsteps]
    exact contiguous_placed 0 _
  case stop_last =>
    have hlast := stop_last_placed 0 (lexemes ⟨region, true⟩ cs)
    rw [htext, Nat.zero_add, ← hsteps] at hlast
    exact hlast
  case start_lt_stop =>
    intro s hs
    rw [hsteps] at hs
    obtain ⟨m, hm, rfl⟩ := List.mem_map.1 hs
    exact Nat.lt_add_of_pos_right (Utf8.size_pos (chars_ne_nil_of_mem (mem_of_mem_placed hm)))
  case at_stop =>
    intro s hs
    rw [hsteps] at hs
    obtain ⟨m, hm, rfl⟩ := List.mem_map.1 hs
    exact (slice?_of_mem_placed hm).2
  case flatten_slices =>
    refine ⟨(lexemes ⟨region, true⟩ cs).map Lexeme.chars, ?_, htext⟩
    conv => rhs; rw [← map_snd_placed 0 (lexemes ⟨region, true⟩ cs)]
    rw [hsteps, List.map_map, List.map_map, List.map_map]
    exact List.map_congr_left fun m hm => (slice?_of_mem_placed hm).1
  case tagged =>
    have hchain := isChain_tag_lexemes ⟨region, true⟩ cs
    rw [← List.isChain_map Lexeme.tag (R := fun t u => t.isSome ∨ u.isSome), ← map_tag_placed 0,
      ← hsteps, List.isChain_map] at hchain
    exact hchain
  case blank =>
    intro s hs hnone
    rw [hsteps] at hs
    obtain ⟨m, hm, rfl⟩ := List.mem_map.1 hs
    refine ⟨m.2.chars, (slice?_of_mem_placed hm).1, fun c hc => ?_⟩
    obtain ⟨pre, post, hls⟩ := List.append_of_mem (mem_of_mem_placed hm)
    obtain ⟨d, ds, -, hfirst, -⟩ := lexemes_eq_append hls
    rw [Step.tag_ofPlaced, hfirst] at hnone
    rw [hfirst] at hc
    exact Lexeme.isBlank_of_mem_first hnone hc
  case token => exact fun pos c rest h hc => exists_token_of_at region h hc

/-- **A text is cut into steps, and a step is never cut wrong.**  A scan hands the steps out and
comes to its end, whatever the text and the region in which it begins; the steps are a partition of
the text.  Asked for the step at any byte, it takes whole characters from there on, one at least, if a
character starts there, and otherwise nothing, in the region that it was in. -/
theorem scan_partitions (region : Region) (cs : List Char) :
    (∀ n, cs.length ≤ n → Scan.take cs n ⟨0, region⟩ = steps region cs) ∧
      IsPartition cs (steps region cs) ∧
        ∀ pos,
          (∀ c rest, Utf8.At cs pos (c :: rest) →
            ∃ taken rest', c :: rest = taken ++ rest' ∧ taken ≠ [] ∧
              (stepAt region cs pos).start = pos ∧
                (stepAt region cs pos).stop = pos + Utf8.size taken) ∧
          (stepAt region cs pos = ⟨pos, pos, none, region⟩ ↔
            ¬ ∃ c rest, Utf8.At cs pos (c :: rest)) := by
  have htakes : ∀ pos c rest, Utf8.At cs pos (c :: rest) →
      ∃ taken rest', c :: rest = taken ++ rest' ∧ taken ≠ [] ∧
        (stepAt region cs pos).start = pos ∧
          (stepAt region cs pos).stop = pos + Utf8.size taken := by
    rintro pos c rest ⟨before, rfl, rfl⟩
    rw [stepAt_size]
    exact ⟨_, _, (Lexeme.first_append_drop _ c rest).symm, Lexeme.first_ne_nil _ c rest, rfl, rfl⟩
  refine ⟨fun n hn => Scan.take_eq_steps region cs hn, isPartition_steps region cs, fun pos =>
    ⟨htakes pos, ?_, fun h => stepAt_of_not_at h region⟩⟩
  rintro hempty ⟨c, rest, hat⟩
  obtain ⟨taken, rest', -, hne, -, hstop⟩ := htakes pos c rest hat
  have hpos := Utf8.size_pos hne
  rw [hempty] at hstop
  dsimp only at hstop
  omega

/-- A key field, a blank, an open chord with a character of two bytes in it, and a byte inside that
character. -/
example :
    steps .header ['K', ':', ' ', '"', 'é'] =
        [⟨0, 2, some .header, .body⟩, ⟨2, 3, none, .body⟩, ⟨3, 6, some .chord, .body⟩] ∧
      stepAt .header ['K', ':', ' ', '"', 'é'] 5 = ⟨5, 5, none, .header⟩ := by
  constructor
  · cbv
  · cbv

end TuneEditor
