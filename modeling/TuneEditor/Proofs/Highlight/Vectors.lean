/-
# The cache as two vectors with checked places

A cache can keep what it knows of the lines in two vectors of equal length: one
of the regions behind the lines, and one of their spans.  `LineVectors` is such a
cache.  Here every access to a place of a vector can fail, and the functions
give nothing if one of them does.

None does.  `HighlightCache.vectors` takes the entries of a cache apart, and on
vectors that come of a cache each function does what the function on the cache
does (`invalidateFrom?_vectors`, `resize_vectors`, `computeUpTo?_vectors`,
`spans?_vectors`).  The one place that could be out of bounds, the line before
the first that is out of date, is in bounds since the cache is cut to the size
of the text before it is looked at.
-/

import TuneEditor.Highlight.Cache

namespace TuneEditor

/-- A vector with another value at a place; nothing if there is no such place. -/
def write? {α : Type} (xs : List α) (i : Nat) (x : α) : Option (List α) :=
  if i < xs.length then some (xs.set i x) else none

/-- A vector of another size: cut off, or filled up with empty places. -/
def resized {α : Type} (xs : List (Option α)) (count : Nat) : List (Option α) :=
  xs.take count ++ List.replicate (count - xs.length) none

/-- What is known of the lines of a text. -/
structure LineVectors where
  /-- The regions behind the lines. -/
  regions : List (Option Region) := []
  spans : List (Option (List Span)) := []
  /-- The first line of which anything known is out of date. -/
  invalidFrom : Nat := 0
  deriving DecidableEq, Repr

namespace LineVectors

/-- Puts into both vectors what is known of a line. -/
def put? (v : LineVectors) (i : Nat) (h : Option LineHighlight) : Option LineVectors := do
  let spans ← write? v.spans i (h.map LineHighlight.spans)
  let regions ← write? v.regions i (h.map LineHighlight.after)
  some { v with regions, spans }

/-- Puts in what is known of lines that follow each other, place by place. -/
def putAll? (v : LineVectors) (i : Nat) : List (Option LineHighlight) → Option LineVectors
  | [] => some v
  | h :: hs => do
    let v ← v.put? i h
    v.putAll? (i + 1) hs

/-- Forgets the lines from one on. -/
def invalidateFrom? (v : LineVectors) (line : Nat) : Option LineVectors :=
  putAll? { v with invalidFrom := min v.invalidFrom line } line
    (List.replicate (v.spans.length - line) none)

/-- Makes room for as many lines as there are, and for no more. -/
def resize (v : LineVectors) (count : Nat) : LineVectors where
  regions := resized v.regions count
  spans := resized v.spans count
  invalidFrom := min v.invalidFrom count

/-- The region in which the first line that is out of date begins. -/
def region? (v : LineVectors) : Option Region :=
  if v.invalidFrom = 0 then some .header
  else v.regions[v.invalidFrom - 1]?.map fun r => r.getD .header

/-- Brings the lines up to one up to date, that line included. -/
def computeUpTo? (v : LineVectors) (lines : List (List Char)) (line : Nat) :
    Option LineVectors := do
  let region ← v.region?
  let fresh := highlightLines region ((lines.take (line + 1)).drop v.invalidFrom)
  let v' ← v.putAll? v.invalidFrom (fresh.map some)
  some { v' with invalidFrom := max v.invalidFrom (line + 1) }

/-- The spans of a line; a line of which nothing is known has none. -/
def spans? (v : LineVectors) (line : Nat) : Option (List Span) :=
  v.spans[line]?.map fun s => s.getD []

end LineVectors

/-- A vector with other values from a place on. -/
def overwritten {α : Type} (xs : List α) (i : Nat) (ys : List α) : List α :=
  xs.take i ++ ys ++ xs.drop (i + ys.length)

/-- Values are written one after the other, each behind the one before. -/
theorem overwritten_set {α : Type} {xs : List α} {i : Nat} (h : i < xs.length) (y : α)
    (ys : List α) : overwritten (xs.set i y) (i + 1) ys = overwritten xs i (y :: ys) := by
  have hi : i < (xs.set i y).length := by rwa [List.length_set]
  have htake : (xs.set i y).take (i + 1) = xs.take i ++ [y] := by
    rw [List.take_succ_eq_append_getElem hi, List.getElem_set_self, List.take_set_of_le (Nat.le_refl i)]
  have hdrop : (xs.set i y).drop (i + 1 + ys.length) = xs.drop (i + (ys.length + 1)) := by
    rw [List.drop_set_of_lt (by omega)]
    congr 1
    omega
  unfold overwritten
  rw [htake, hdrop, List.length_cons, List.append_assoc (xs.take i) [y] ys]
  rfl

namespace HighlightCache

/-- The two vectors of a cache. -/
def vectors (k : HighlightCache) : LineVectors where
  regions := k.entries.map (Option.map LineHighlight.after)
  spans := k.entries.map (Option.map LineHighlight.spans)
  invalidFrom := k.invalidFrom

/-- What is known of a line is put into both vectors where there is a place for it. -/
theorem put?_vectors {k : HighlightCache} {i : Nat} (hi : i < k.entries.length)
    (h : Option LineHighlight) :
    k.vectors.put? i h = some (vectors { k with entries := k.entries.set i h }) := by
  have hspans : i < k.vectors.spans.length := by rwa [vectors, List.length_map]
  have hregions : i < k.vectors.regions.length := by rwa [vectors, List.length_map]
  unfold LineVectors.put? write?
  rw [if_pos hspans, if_pos hregions]
  simp [vectors]

/-- So it is for lines that follow each other, if there are places for all of them. -/
theorem putAll?_vectors {k : HighlightCache} {i : Nat} {hs : List (Option LineHighlight)}
    (h : i + hs.length ≤ k.entries.length) :
    k.vectors.putAll? i hs = some (vectors { k with entries := overwritten k.entries i hs }) := by
  induction hs generalizing k i with
  | nil => simp [LineVectors.putAll?, overwritten]
  | cons h₀ hs ih =>
    rw [List.length_cons] at h
    have hi : i < k.entries.length := by omega
    have hrest : i + 1 + hs.length ≤ (k.entries.set i h₀).length := by
      rw [List.length_set]
      omega
    rw [LineVectors.putAll?, put?_vectors hi]
    exact (ih (k := { k with entries := k.entries.set i h₀ }) hrest).trans
      (by rw [overwritten_set hi])

/-- Places are forgotten as far as there are any. -/
theorem invalidateFrom?_vectors (k : HighlightCache) (line : Nat) :
    k.vectors.invalidateFrom? line = some (k.invalidateFrom line).vectors := by
  have hlength : k.vectors.spans.length = k.entries.length := List.length_map _
  unfold LineVectors.invalidateFrom?
  rw [hlength]
  rcases Nat.le_total line k.entries.length with h | h
  · have hfits : line + (List.replicate (k.entries.length - line)
        (none : Option LineHighlight)).length ≤ k.entries.length := by
      rw [List.length_replicate]
      omega
    refine (putAll?_vectors (k := { k with invalidFrom := min k.invalidFrom line }) hfits).trans ?_
    have hdrop : k.entries.drop (line + (k.entries.length - line)) = [] :=
      List.drop_of_length_le (by omega)
    rw [overwritten, List.length_replicate, hdrop, List.append_nil]
    rfl
  · -- There is no such line, and nothing to be forgotten.
    have hnone : k.entries.length - line = 0 := by omega
    unfold invalidateFrom vectors
    rw [hnone, List.take_of_length_le h]
    simp [LineVectors.putAll?]

/-- Filling up or cutting off takes no notice of what the values are. -/
theorem resized_map {α β : Type} (f : α → β) (xs : List (Option α)) (count : Nat) :
    resized (xs.map (Option.map f)) count = (resized xs count).map (Option.map f) := by
  simp [resized]

/-- Room is made in the vectors as in the cache. -/
theorem resize_vectors (k : HighlightCache) (count : Nat) :
    k.vectors.resize count = (k.resize count).vectors := by
  have hentries : (k.resize count).entries = resized k.entries count := rfl
  unfold vectors
  rw [hentries, ← resized_map, ← resized_map]
  rfl

/-- The line before the first that is out of date is there. -/
theorem region?_vectors {k : HighlightCache} (h : k.invalidFrom ≤ k.entries.length) :
    k.vectors.region? = some k.region := by
  by_cases h₀ : k.invalidFrom = 0
  · have hregion : k.region = .header := if_pos h₀
    rw [hregion]
    exact if_pos h₀
  · have hlt : k.invalidFrom - 1 < k.entries.length := by omega
    unfold region
    refine (if_neg h₀).trans ?_
    rw [if_neg h₀]
    simp [vectors, hlt]

/-- With a place for every line the vectors are brought up to date as the cache is, and no place is
out of bounds on the way. -/
theorem computeUpTo?_vectors {k : HighlightCache} {lines : List (List Char)} {line : Nat}
    (hsize : k.entries.length = lines.length) (h : k.invalidFrom ≤ lines.length) :
    k.vectors.computeUpTo? lines line = some (k.computeUpTo lines line).vectors := by
  have hle : k.invalidFrom ≤ k.entries.length := by omega
  let fresh := highlightLines k.region ((lines.take (line + 1)).drop k.invalidFrom)
  have hfits : k.invalidFrom + (fresh.map some).length ≤ k.entries.length := by
    rw [List.length_map, length_highlightLines, List.length_drop, List.length_take]
    omega
  have hput := putAll?_vectors hfits
  unfold LineVectors.computeUpTo?
  rw [region?_vectors hle]
  change ((k.vectors.putAll? k.invalidFrom (fresh.map some)).bind fun v' =>
    some { v' with invalidFrom := max k.invalidFrom (line + 1) }) = _
  rw [hput, overwritten, List.length_map]
  rfl

/-- The cache that a question is answered from has room for the lines, and what is not out of date
in it is of lines that exist. -/
theorem bounds_resize (k : HighlightCache) (count : Nat) :
    (k.resize count).entries.length = count ∧ (k.resize count).invalidFrom ≤ count := by
  refine ⟨?_, Nat.min_le_right _ _⟩
  unfold resize
  rw [List.length_append, List.length_take, List.length_replicate]
  omega

/-- There is still a place for every line afterwards. -/
theorem length_computeUpTo {k : HighlightCache} {lines : List (List Char)} (line : Nat)
    (hsize : k.entries.length = lines.length) (h : k.invalidFrom ≤ lines.length) :
    (k.computeUpTo lines line).entries.length = lines.length := by
  unfold computeUpTo
  dsimp only
  simp only [List.length_append, List.length_take, List.length_drop, List.length_map,
    length_highlightLines]
  omega

/-- The spans of a line with a place are those of the cache. -/
theorem spans?_vectors {k : HighlightCache} {line : Nat} (h : line < k.entries.length) :
    k.vectors.spans? line = some (k.spans line) := by
  unfold LineVectors.spans? spans
  simp [vectors, h]

end HighlightCache
end TuneEditor
