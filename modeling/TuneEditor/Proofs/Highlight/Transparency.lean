/-
# The cache cannot be told from computing everything anew

A host holds the lines of a text and a highlighter.  It edits the lines, says
from where on they have changed, switches highlighting on and off and asks for
the spans of a line; `Act` is one of these, and `answers` are the answers that
it gets.  `plainAnswers` are those of a highlighter that remembers nothing, and
`checkedAnswers?` those of one that keeps two vectors and fails if a place is out
of bounds.

A host is careful if before every question it has said of each edit since that
the lines changed from some line on, and not too far down (`Careful`).  A careful
host gets the plain answers (`answers_eq_plainAnswers`).  What carries this over
the acts is that the entries are right up to some line, and that the lines from
there on are out of date or will be said to have changed (`Trusted`).

No place is out of bounds, whether the host is careful or not
(`checkedAnswers?_vectors`).
-/

import TuneEditor.Proofs.Highlight.Lines
import TuneEditor.Proofs.Highlight.Vectors

namespace TuneEditor
namespace Highlighter

/-- What a host does with its lines and its highlighter. -/
inductive Act
  /-- The text has other lines now; so many at its start are what they were. -/
  | edit (lines : List (List Char)) (kept : Nat)
  | invalidateFrom (line : Nat)
  | invalidateAll
  | enable (enabled : Bool)
  /-- Asks for the spans of a line. -/
  | ask (line : Nat)
  deriving DecidableEq, Repr

/-- What a host gets to hear of its questions. -/
def answers (h : Highlighter) (lines : List (List Char)) : List Act → List (List Span)
  | [] => []
  | .edit lines' _ :: acts => h.answers lines' acts
  | .invalidateFrom line :: acts => (h.invalidateFrom line).answers lines acts
  | .invalidateAll :: acts => h.invalidateAll.answers lines acts
  | .enable enabled :: acts => answers { h with enabled } lines acts
  | .ask line :: acts => h.lineSpans lines line :: (h.advance lines line).answers lines acts

/-- The spans of a line, computed from the first line of the text on; none if highlighting is off
or the line does not exist. -/
def plainSpans (enabled : Bool) (lines : List (List Char)) (line : Nat) : List Span :=
  if enabled && line < lines.length then (lastHighlight .header (lines.take (line + 1))).spans
  else []

/-- What a host would hear if nothing was remembered. -/
def plainAnswers (enabled : Bool) (lines : List (List Char)) : List Act → List (List Span)
  | [] => []
  | .edit lines' _ :: acts => plainAnswers enabled lines' acts
  | .enable enabled :: acts => plainAnswers enabled lines acts
  | .ask line :: acts => plainSpans enabled lines line :: plainAnswers enabled lines acts
  | _ :: acts => plainAnswers enabled lines acts

/-- The spans of a line by way of two vectors, and the vectors afterwards; nothing if a place is
out of bounds. -/
def checkedSpans? (enabled : Bool) (v : LineVectors) (lines : List (List Char)) (line : Nat) :
    Option (List Span × LineVectors) :=
  if enabled && line < lines.length then do
    let v ← (v.resize lines.length).computeUpTo? lines line
    let spans ← v.spans? line
    some (spans, v)
  else some ([], v)

/-- What a host would hear by way of two vectors; nothing if a place is ever out of bounds. -/
def checkedAnswers? (enabled : Bool) (v : LineVectors) (lines : List (List Char)) :
    List Act → Option (List (List Span))
  | [] => some []
  | .edit lines' _ :: acts => checkedAnswers? enabled v lines' acts
  | .invalidateFrom line :: acts => do
    let v ← v.invalidateFrom? line
    checkedAnswers? enabled v lines acts
  | .invalidateAll :: acts => checkedAnswers? enabled {} lines acts
  | .enable enabled :: acts => checkedAnswers? enabled v lines acts
  | .ask line :: acts => do
    let (spans, v) ← checkedSpans? enabled v lines line
    let rest ← checkedAnswers? enabled v lines acts
    some (spans :: rest)

/-- A question switches nothing on or off. -/
theorem enabled_advance (h : Highlighter) (lines : List (List Char)) (line : Nat) :
    (h.advance lines line).enabled = h.enabled := by
  unfold advance
  split
  · rfl
  · rfl

/-! ### No place is out of bounds -/

/-- A question is answered from the vectors as from the cache, and no place is out of bounds: there
are as many as lines once there is room for all of them. -/
theorem checkedSpans?_vectors (h : Highlighter) (lines : List (List Char)) (line : Nat) :
    checkedSpans? h.enabled h.cache.vectors lines line =
      some (h.lineSpans lines line, (h.advance lines line).cache.vectors) := by
  by_cases hask : (h.enabled && decide (line < lines.length)) = true
  · obtain ⟨hsize, hle⟩ := h.cache.bounds_resize lines.length
    have hadvance : h.advance lines line =
        { h with cache := (h.cache.resize lines.length).computeUpTo lines line } := if_pos hask
    have hline : line < (h.advance lines line).cache.entries.length := by
      rw [hadvance, HighlightCache.length_computeUpTo line hsize hle]
      exact of_decide_eq_true (Bool.and_eq_true_iff.1 hask).2
    have hspans : h.lineSpans lines line = (h.advance lines line).cache.spans line := if_pos hask
    unfold checkedSpans?
    rw [if_pos hask, HighlightCache.resize_vectors, HighlightCache.computeUpTo?_vectors hsize hle,
      hspans]
    rw [hadvance] at hline ⊢
    change ((((h.cache.resize lines.length).computeUpTo lines line).vectors.spans? line).bind
      fun spans => some (spans, _)) = _
    rw [HighlightCache.spans?_vectors hline]
    rfl
  · have hadvance : h.advance lines line = h := if_neg hask
    have hspans : h.lineSpans lines line = [] := if_neg hask
    rw [hadvance, hspans]
    exact if_neg hask

/-- Whatever a host does, the vectors give the answers of the highlighter. -/
theorem checkedAnswers?_vectors (h : Highlighter) (lines : List (List Char)) (acts : List Act) :
    checkedAnswers? h.enabled h.cache.vectors lines acts = some (h.answers lines acts) := by
  induction acts generalizing h lines with
  | nil => rfl
  | cons act acts ih =>
    cases act with
    | edit lines' kept => exact ih h lines'
    | invalidateFrom line =>
      unfold checkedAnswers?
      rw [HighlightCache.invalidateFrom?_vectors]
      exact ih (h.invalidateFrom line) lines
    | invalidateAll => exact ih h.invalidateAll lines
    | enable enabled => exact ih { h with enabled } lines
    | ask line =>
      have hrest := ih (h.advance lines line) lines
      rw [enabled_advance] at hrest
      unfold checkedAnswers?
      rw [checkedSpans?_vectors]
      change ((checkedAnswers? h.enabled (h.advance lines line).cache.vectors lines acts).bind
        fun rest => some (h.lineSpans lines line :: rest)) = _
      rw [hrest]
      rfl

/-! ### A careful host gets the plain answers -/

/-- Before the next question it is said that the lines changed from one on that is not below the
given one. -/
def Followed (kept : Nat) : List Act → Prop
  | [] => True
  | .ask _ :: _ => False
  | .invalidateAll :: _ => True
  | .invalidateFrom line :: acts => line ≤ kept ∨ Followed kept acts
  | _ :: acts => Followed kept acts

/-- Every edit leaves the lines that it is said to leave, and is followed by word of it before the
next question. -/
def Careful (lines : List (List Char)) : List Act → Prop
  | [] => True
  | .edit lines' kept :: acts =>
    lines'.take kept = lines.take kept ∧ Followed kept acts ∧ Careful lines' acts
  | _ :: acts => Careful lines acts

end Highlighter

namespace HighlightCache

/-- The entries of the first lines are those of the text. -/
def RightUpTo (k : HighlightCache) (lines : List (List Char)) (m : Nat) : Prop :=
  m ≤ lines.length ∧ k.entries.take m = (highlightLines .header (lines.take m)).map some

namespace RightUpTo

variable {k : HighlightCache} {lines lines' : List (List Char)} {m line : Nat}

/-- Of no lines everything is right. -/
theorem zero (k : HighlightCache) (lines : List (List Char)) : k.RightUpTo lines 0 :=
  ⟨Nat.zero_le _, rfl⟩

/-- What is right is there. -/
theorem le_length (h : k.RightUpTo lines m) : m ≤ k.entries.length := by
  obtain ⟨hm, hentries⟩ := h
  have hlength := congrArg List.length hentries
  rw [List.length_map, length_highlightLines, List.length_take, List.length_take] at hlength
  omega

/-- Where more lines are right, fewer are. -/
theorem mono (h : k.RightUpTo lines m) {n : Nat} (hn : n ≤ m) : k.RightUpTo lines n := by
  obtain ⟨hm, hentries⟩ := h
  refine ⟨Nat.le_trans hn hm, ?_⟩
  calc k.entries.take n = (k.entries.take m).take n := by rw [List.take_take, Nat.min_eq_left hn]
    _ = (highlightLines .header ((lines.take m).take n)).map some := by
      rw [hentries, ← List.map_take, take_highlightLines]
    _ = (highlightLines .header (lines.take n)).map some := by
      rw [List.take_take, Nat.min_eq_left hn]

/-- An edit leaves right what is right of the lines that it leaves. -/
theorem of_edit (h : k.RightUpTo lines m) {kept : Nat} (hm : m ≤ kept)
    (hkept : lines'.take kept = lines.take kept) : k.RightUpTo lines' m := by
  have htake : lines'.take m = lines.take m := by
    rw [← Nat.min_eq_left hm, ← List.take_take, ← List.take_take, hkept]
  have hlength := congrArg List.length htake
  rw [List.length_take, List.length_take, Nat.min_eq_left h.1] at hlength
  refine ⟨by omega, ?_⟩
  rw [htake]
  exact h.2

/-- Entries in front of a place stay right when something else stands from there on. -/
theorem of_take (h : k.RightUpTo lines m) {count : Nat} (hm : m ≤ count) {k' : HighlightCache}
    {rest : List (Option LineHighlight)} (hk' : k'.entries = k.entries.take count ++ rest) :
    k'.RightUpTo lines m := by
  have hle : m ≤ (k.entries.take count).length := by
    have := h.le_length
    rw [List.length_take]
    omega
  refine ⟨h.1, ?_⟩
  rw [hk', List.take_append_of_le_length hle, List.take_take, Nat.min_eq_left hm]
  exact h.2

/-- Word of a change further down touches nothing that is right. -/
theorem invalidateFrom (h : k.RightUpTo lines m) (hm : m ≤ line) :
    (k.invalidateFrom line).RightUpTo lines m :=
  h.of_take hm rfl

/-- Making room for all lines drops none that is right. -/
theorem resize (h : k.RightUpTo lines m) : (k.resize lines.length).RightUpTo lines m :=
  h.of_take h.1 rfl

/-- The entry of a line that is right is what the whole text up to that line gives. -/
theorem getElem? (h : k.RightUpTo lines m) {i : Nat} (hi : i < m) :
    k.entries[i]? = some (some (lastHighlight .header (lines.take (i + 1)))) := by
  obtain ⟨hm, hentries⟩ := h
  have hlt : i < (lines.take m).length := by
    rw [List.length_take]
    omega
  rw [← List.getElem?_take_of_lt hi, hentries, List.getElem?_map,
    getElem?_highlightLines .header hlt, List.take_take, Nat.min_eq_left (Nat.succ_le_of_lt hi)]
  rfl

/-- So are its spans. -/
theorem spans (h : k.RightUpTo lines m) {i : Nat} (hi : i < m) :
    k.spans i = (lastHighlight .header (lines.take (i + 1))).spans := by
  unfold HighlightCache.spans
  rw [h.getElem? hi]
  rfl

/-- The first line that is out of date begins where the line before it ended. -/
theorem region (h : k.RightUpTo lines k.invalidFrom) :
    k.region = (lastHighlight .header (lines.take k.invalidFrom)).after := by
  unfold HighlightCache.region
  by_cases h₀ : k.invalidFrom = 0
  · rw [if_pos h₀, h₀]
    rfl
  · have hlt : k.invalidFrom - 1 < k.invalidFrom := by omega
    have hsucc : k.invalidFrom - 1 + 1 = k.invalidFrom := by omega
    rw [if_neg h₀, h.getElem? hlt, hsucc]
    rfl

/-- What is computed for a line is right, and what was right before stays so. -/
theorem computeUpTo (h : k.RightUpTo lines k.invalidFrom) (hline : line < lines.length) :
    (k.computeUpTo lines line).RightUpTo lines (k.computeUpTo lines line).invalidFrom := by
  obtain ⟨hm, hentries⟩ := id h
  let n := max k.invalidFrom (line + 1)
  have hn : n ≤ lines.length := by omega
  -- The lines that are worked out anew; none, if the one asked for is known.
  have hmissing : (lines.take (line + 1)).drop k.invalidFrom =
      (lines.take n).drop k.invalidFrom := by
    rcases Nat.le_total (line + 1) k.invalidFrom with hle | hle
    · have hmax : n = k.invalidFrom := Nat.max_eq_left hle
      rw [hmax, List.drop_of_length_le (by rw [List.length_take]; omega),
        List.drop_of_length_le (by rw [List.length_take]; omega)]
    · have hmax : n = line + 1 := Nat.max_eq_right hle
      rw [hmax]
  have hlines : lines.take n = lines.take k.invalidFrom ++ (lines.take n).drop k.invalidFrom := by
    conv => lhs; rw [← List.take_append_drop k.invalidFrom (lines.take n), List.take_take]
    rw [Nat.min_eq_left (Nat.le_max_left _ _)]
  let fresh := highlightLines k.region ((lines.take (line + 1)).drop k.invalidFrom)
  have hfront : k.entries.take k.invalidFrom ++ fresh.map some =
      (highlightLines .header (lines.take n)).map some := by
    rw [hlines, highlightLines_append, List.map_append, ← hentries, ← h.region, ← hmissing]
  refine ⟨hn, ?_⟩
  change (k.entries.take k.invalidFrom ++ fresh.map some ++ _).take n = _
  rw [hfront]
  refine List.take_left' ?_
  rw [List.length_map, length_highlightLines, List.length_take, Nat.min_eq_left hn]

end RightUpTo
end HighlightCache

namespace Highlighter

/-- The entries are right up to some line, and from there on the lines are out of date or it will
be said before the next question that they changed. -/
def Trusted (h : Highlighter) (lines : List (List Char)) (acts : List Act) : Prop :=
  ∃ m ≤ h.cache.invalidFrom,
    h.cache.RightUpTo lines m ∧ (m < h.cache.invalidFrom → Followed m acts)

variable {h : Highlighter} {lines lines' : List (List Char)} {acts : List Act}

/-- An edit is trusted again once it is said from where on the lines changed: what is right in front
of that place is not touched by the edit. -/
theorem trusted_edit {kept : Nat} (ht : Trusted h lines (.edit lines' kept :: acts))
    (hkept : lines'.take kept = lines.take kept) (hf : Followed kept acts) :
    Trusted h lines' acts := by
  obtain ⟨m, hle, hright, hfollowed⟩ := ht
  rcases Nat.le_total m kept with hm | hm
  · exact ⟨m, hle, hright.of_edit hm hkept, hfollowed⟩
  · exact ⟨kept, Nat.le_trans hm hle, (hright.mono hm).of_edit (Nat.le_refl kept) hkept,
      fun _ => hf⟩

/-- Word of a change leaves right what is in front of the line, and puts the rest out of date. -/
theorem trusted_invalidateFrom {line : Nat}
    (ht : Trusted h lines (.invalidateFrom line :: acts)) :
    Trusted (h.invalidateFrom line) lines acts := by
  obtain ⟨m, hle, hright, hfollowed⟩ := ht
  have hinvalid : (h.invalidateFrom line).cache.invalidFrom = min h.cache.invalidFrom line := rfl
  rcases Nat.lt_or_ge m line with hm | hm
  · refine ⟨m, by omega, hright.invalidateFrom (Nat.le_of_lt hm), ?_⟩
    intro hlt
    rcases hfollowed (by omega) with hline | hf
    · exact absurd hline (Nat.not_le_of_lt hm)
    · exact hf
  · refine ⟨line, by omega, (hright.mono hm).invalidateFrom (Nat.le_refl line), ?_⟩
    intro hlt
    omega

/-- A highlighter that has forgotten everything can be trusted, whatever it remembered before. -/
theorem trusted_invalidateAll (h : Highlighter) (lines : List (List Char)) (acts : List Act) :
    Trusted h.invalidateAll lines acts :=
  ⟨0, Nat.le_refl 0, .zero _ lines, fun hlt => absurd hlt (Nat.lt_irrefl 0)⟩

/-- When a question is asked, all that is not out of date is right. -/
theorem rightUpTo_of_ask {line : Nat} (ht : Trusted h lines (.ask line :: acts)) :
    h.cache.RightUpTo lines h.cache.invalidFrom := by
  obtain ⟨m, hle, hright, hfollowed⟩ := ht
  rcases Nat.lt_or_ge m h.cache.invalidFrom with hm | hm
  · exact absurd (hfollowed hm) id
  · rwa [Nat.le_antisymm hle hm] at hright

/-- A question leaves everything right that is not out of date, and is answered as if nothing was
remembered. -/
theorem rightUpTo_advance (hright : h.cache.RightUpTo lines h.cache.invalidFrom) (line : Nat) :
    (h.advance lines line).cache.RightUpTo lines (h.advance lines line).cache.invalidFrom ∧
      h.lineSpans lines line = plainSpans h.enabled lines line := by
  by_cases hask : (h.enabled && decide (line < lines.length)) = true
  · have hline : line < lines.length := of_decide_eq_true (Bool.and_eq_true_iff.1 hask).2
    have hadvance : h.advance lines line =
        { h with cache := (h.cache.resize lines.length).computeUpTo lines line } := if_pos hask
    have hresize : (h.cache.resize lines.length).RightUpTo lines
        (h.cache.resize lines.length).invalidFrom := hright.resize.mono (Nat.min_le_left _ _)
    have hcompute := hresize.computeUpTo hline
    have hspans : h.lineSpans lines line = (h.advance lines line).cache.spans line := if_pos hask
    have hplain : plainSpans h.enabled lines line =
        (lastHighlight .header (lines.take (line + 1))).spans := if_pos hask
    rw [hspans, hplain, hadvance]
    exact ⟨hcompute, hcompute.spans (Nat.lt_of_lt_of_le (Nat.lt_succ_self line)
      (Nat.le_max_right _ _))⟩
  · have hadvance : h.advance lines line = h := if_neg hask
    have hspans : h.lineSpans lines line = [] := if_neg hask
    have hplain : plainSpans h.enabled lines line = [] := if_neg hask
    rw [hadvance, hspans, hplain]
    exact ⟨hright, rfl⟩

/-- A careful host gets the plain answers from a highlighter that can be trusted. -/
theorem answers_of_trusted (hc : Careful lines acts) (ht : Trusted h lines acts) :
    h.answers lines acts = plainAnswers h.enabled lines acts := by
  induction acts generalizing h lines with
  | nil => rfl
  | cons act acts ih =>
    cases act with
    | edit lines' kept =>
      obtain ⟨hkept, hf, hrest⟩ := hc
      exact ih hrest (trusted_edit ht hkept hf)
    | invalidateFrom line => exact ih (h := h.invalidateFrom line) hc (trusted_invalidateFrom ht)
    | invalidateAll => exact ih (h := h.invalidateAll) hc (trusted_invalidateAll h lines acts)
    | enable enabled => exact ih (h := { h with enabled }) hc ht
    | ask line =>
      obtain ⟨hright, hspans⟩ := rightUpTo_advance (rightUpTo_of_ask ht) line
      have htrusted : Trusted (h.advance lines line) lines acts :=
        ⟨_, Nat.le_refl _, hright, fun hlt => absurd hlt (Nat.lt_irrefl _)⟩
      have hrest := ih hc htrusted
      rw [enabled_advance] at hrest
      rw [answers, plainAnswers, hspans, hrest]

/-- **The cache cannot be told from computing everything anew, and no place of it is out of
bounds.**  A careful host that begins with a fresh highlighter gets the plain answers to all its
questions, and the two vectors give them without a failure. -/
theorem answers_eq_plainAnswers (lines : List (List Char)) {acts : List Act}
    (hc : Careful lines acts) :
    answers {} lines acts = plainAnswers true lines acts ∧
      checkedAnswers? true {} lines acts = some (plainAnswers true lines acts) := by
  have htrusted : Trusted {} lines acts :=
    ⟨0, Nat.le_refl 0, .zero _ lines, fun hlt => absurd hlt (Nat.lt_irrefl 0)⟩
  have hplain : answers {} lines acts = plainAnswers true lines acts :=
    answers_of_trusted hc htrusted
  have hchecked : checkedAnswers? true {} lines acts = some (answers {} lines acts) :=
    checkedAnswers?_vectors {} lines acts
  rw [hplain] at hchecked
  exact ⟨hplain, hchecked⟩

/-- The header goes on in the third line once the key is edited away in the second. -/
theorem answers_eq_plainAnswers_of_header :
    let tune := ["X:1".toList, "K:D".toList, "T:".toList]
    let tune' := ["X:1".toList, "M:6/8".toList, "T:".toList]
    let acts : List Act := [.ask 2, .edit tune' 1, .invalidateFrom 1, .ask 2, .ask 3]
    Careful tune acts ∧
      answers {} tune acts = [[⟨0, 1, .plain⟩, ⟨1, 2, .bar⟩], [⟨0, 2, .header⟩], []] := by
  intro tune tune' acts
  have hc : Careful tune acts := ⟨rfl, .inl (Nat.le_refl 1), trivial⟩
  have hplain : plainAnswers true tune acts = [[⟨0, 1, .plain⟩, ⟨1, 2, .bar⟩], [⟨0, 2, .header⟩], []] := by
    decide +kernel
  exact ⟨hc, (answers_eq_plainAnswers tune hc).1.trans hplain⟩

/-- A host that does not say that a line has changed is told of the line as it was. -/
example :
    answers {} [['A']] [.ask 0, .edit [['%']] 0, .ask 0] =
      [[⟨0, 1, .note⟩], [⟨0, 1, .note⟩]] := by
  decide +kernel

end Highlighter
end TuneEditor
