/-
# What a lexeme can have in it

Behind its first character a lexeme goes on with characters of a class that its
rule has (`Rule.goesOn`), and a lexeme without a tag with blanks
(`Lexeme.of_mem_tail`).  So a character of the text says something about the
lexeme that it is in: a letter `K` that is not its first is in a comment or in a
chord (`Lexeme.tag_of_key_mem_tail`), and a newline in a chord, if not among
blanks (`Lexeme.tag_of_newline_mem`).

The two rules for header fields take the same, a letter and a colon
(`Lexeme.chars_of_tag_header`), and between them they take every key field and
every field at the start of a line of the header (`Lexeme.tag_first_of_key`,
`Lexeme.tag_first_of_field`).
-/

import TuneEditor.Proofs.Notation.Partition

namespace TuneEditor

namespace Rule

/-- The characters with which a lexeme of a rule goes on behind its first. -/
def goesOn : Rule → Char → Bool
  | field | keyField => (· == ':')
  | comment => (· != '\n')
  | note => isOctaveMark
  | accidental => isAccidental
  | duration => Char.isDigit
  | chord => fun _ => true
  | bar | rest | slur => fun _ => false

/-- All characters of a run are of its class. -/
theorem mem_take_run {p : Char → Bool} {cs : List Char} {d : Char} (h : d ∈ cs.take (run p cs)) :
    p d = true := by
  rw [take_run] at h
  exact List.mem_takeWhile_imp h

/-- Where one character is taken, it is the first. -/
theorem eq_of_mem_take_one {cs : List Char} {d : Char} (h : d ∈ cs.take 1) : cs.head? = some d := by
  cases cs with
  | nil => cases h
  | cons c cs =>
    rw [List.take_succ_cons, List.take_zero, List.mem_singleton] at h
    rw [h]
    rfl

/-- What a rule takes behind the first character is of its class. -/
theorem goesOn_of_mem_take (r : Rule) {c d : Char} {cs : List Char}
    (h : d ∈ cs.take (r.taken (c :: cs) - 1)) : r.goesOn d = true := by
  cases r with
  | field =>
    rw [taken] at h
    split at h
    · next hc =>
      rw [Bool.and_eq_true] at hc
      rw [eq_of_mem_take_one h] at hc
      exact hc.2
    · cases h
  | keyField =>
    rw [taken] at h
    split at h
    · next hc =>
      rw [Bool.and_eq_true] at hc
      rw [eq_of_mem_take_one h] at hc
      exact hc.2
    · cases h
  | comment =>
    rw [taken] at h
    split at h
    · rw [Nat.add_sub_cancel_left] at h
      exact mem_take_run h
    · cases h
  | note =>
    rw [taken] at h
    split at h
    · rw [Nat.add_sub_cancel_left] at h
      exact mem_take_run h
    · cases h
  | accidental =>
    rw [taken] at h
    split at h
    · split at h
      · next hc =>
        rw [eq_of_mem_take_one h] at hc
        exact hc
      · cases h
    · cases h
  | duration =>
    rw [taken] at h
    split at h
    · split at h
      · cases h
      · rw [Nat.add_sub_cancel_left] at h
        exact mem_take_run h
    · by_cases hc : c.isDigit = true
      · rw [run, List.takeWhile_cons_of_pos hc, List.length_cons, Nat.add_sub_cancel] at h
        exact mem_take_run h
      · rw [run, List.takeWhile_cons_of_neg hc] at h
        cases h
  | chord => rfl
  | _ =>
    rw [taken] at h
    split at h
    · cases h
    · cases h

end Rule

namespace Lexeme

/-- A lexeme that is not blank is what the first fitting rule takes, or a single plain character. -/
theorem first_of_not_blank (p : Place) {c : Char} (cs : List Char)
    (hc : Text.isBlank c = false) :
    (∃ r, Rule.all.find? (fun r => r.allowed p && 0 < r.taken (c :: cs)) = some r ∧
      (first p c cs).chars = (c :: cs).take (r.taken (c :: cs)) ∧
        (first p c cs).tag = some r.tag) ∨
    (Rule.all.find? (fun r => r.allowed p && 0 < r.taken (c :: cs)) = none ∧
      (first p c cs).chars = [c] ∧ (first p c cs).tag = some .plain) := by
  have hblank : ¬ Text.isBlank c = true := by simp [hc]
  cases hfind : Rule.all.find? (fun r => r.allowed p && 0 < r.taken (c :: cs)) with
  | some r =>
    have hextent : extent p c cs = (r.taken (c :: cs), some r.tag) := by
      rw [extent, if_neg hblank, hfind]
    exact .inl ⟨r, rfl, by rw [first, hextent], by rw [first, hextent]⟩
  | none =>
    have hextent : extent p c cs = (1, some .plain) := by
      rw [extent, if_neg hblank, hfind]
    exact .inr ⟨rfl, by rw [first, hextent]; rfl, by rw [first, hextent]⟩

/-- Behind its first character a lexeme goes on with characters of the class of its rule, or with
blanks. -/
theorem of_mem_tail {p : Place} {c d : Char} {cs : List Char}
    (h : d ∈ (first p c cs).chars.tail) :
    ((first p c cs).tag = none ∧ Text.isBlank d = true) ∨
      ∃ r : Rule, (first p c cs).tag = some r.tag ∧ r.goesOn d = true := by
  cases hc : Text.isBlank c with
  | true =>
    have hnone := (tag_first_eq_none_iff p c cs).2 hc
    exact .inl ⟨hnone, isBlank_of_mem_first hnone (List.mem_of_mem_tail h)⟩
  | false =>
    rcases first_of_not_blank p cs hc with ⟨r, hfind, hchars, htag⟩ | ⟨-, hchars, -⟩
    · have hpos : 0 < r.taken (c :: cs) := by
        have := List.find?_some hfind
        rw [Bool.and_eq_true] at this
        exact of_decide_eq_true this.2
      obtain ⟨n, hn⟩ : ∃ n, r.taken (c :: cs) = n + 1 := ⟨_, (Nat.succ_pred_eq_of_pos hpos).symm⟩
      rw [hchars, hn, List.take_succ_cons, List.tail_cons] at h
      have htake : d ∈ cs.take (r.taken (c :: cs) - 1) := by
        rw [hn, Nat.add_sub_cancel]
        exact h
      exact .inr ⟨r, htag, r.goesOn_of_mem_take htake⟩
    · rw [hchars] at h
      cases h

/-- A letter `K` that does not begin its lexeme is in a comment or in a chord. -/
theorem tag_of_key_mem_tail {p : Place} {c : Char} {cs : List Char}
    (h : 'K' ∈ (first p c cs).chars.tail) :
    (first p c cs).tag = some .comment ∨ (first p c cs).tag = some .chord := by
  rcases of_mem_tail h with ⟨-, hblank⟩ | ⟨r, htag, hr⟩
  · cases hblank
  · rw [htag]
    cases r with
    | comment => exact .inl rfl
    | chord => exact .inr rfl
    | _ => cases hr

/-- A lexeme begins with the character that it is found at. -/
theorem exists_chars_eq_cons (p : Place) (c : Char) (cs : List Char) :
    ∃ ds, (first p c cs).chars = c :: ds := by
  obtain ⟨d, ds, hchars⟩ := List.exists_cons_of_ne_nil (first_ne_nil p c cs)
  have hsplit := first_append_drop p c cs
  conv at hsplit => lhs; lhs; rw [hchars]
  obtain ⟨rfl, -⟩ := List.cons.inj hsplit
  exact ⟨ds, hchars⟩

/-- A newline is in a chord, or among blanks. -/
theorem tag_of_newline_mem {p : Place} {c : Char} {cs : List Char}
    (h : '\n' ∈ (first p c cs).chars) :
    (first p c cs).tag = none ∨ (first p c cs).tag = some .chord := by
  obtain ⟨ds, hchars⟩ := exists_chars_eq_cons p c cs
  rw [hchars] at h
  rcases List.mem_cons.1 h with rfl | h
  · exact .inl ((tag_first_eq_none_iff p _ cs).2 rfl)
  · have htail : '\n' ∈ (first p c cs).chars.tail := by
      rw [hchars]
      exact h
    rcases of_mem_tail htail with ⟨hnone, -⟩ | ⟨r, htag, hr⟩
    · exact .inl hnone
    · cases r with
      | chord => exact .inr htag
      | _ => cases hr

/-! ### Header fields -/

/-- The code points of ASCII letters, capital and small. -/
theorem toNat_of_isAlpha {c : Char} (h : c.isAlpha = true) :
    65 ≤ c.toNat ∧ c.toNat ≤ 90 ∨ 97 ≤ c.toNat ∧ c.toNat ≤ 122 := by
  rcases Bool.or_eq_true_iff.1 h with hupper | hlower
  · exact .inl (of_decide_eq_true hupper)
  · obtain ⟨hfirst, hlast⟩ := Bool.and_eq_true_iff.1 hlower
    exact .inr ⟨of_decide_eq_true hfirst, of_decide_eq_true hlast⟩

/-- A letter is no blank. -/
theorem isBlank_of_isAlpha {c : Char} (h : c.isAlpha = true) : Text.isBlank c = false := by
  have hc := toNat_of_isAlpha h
  simp [Text.isBlank]
  omega

/-- A letter has one byte. -/
theorem utf8Size_of_isAlpha {c : Char} (h : c.isAlpha = true) : c.utf8Size = 1 := by
  have hc := toNat_of_isAlpha h
  have hle : c.val.toNat ≤ 127 := by
    change c.toNat ≤ 127
    omega
  exact if_pos (UInt32.le_iff_toNat_le.2 hle)

/-- A header field is a letter and a colon, the letter `K` or at the start of a line of the
header. -/
theorem chars_of_tag_header {p : Place} {c : Char} {cs : List Char}
    (h : (first p c cs).tag = some .header) :
    c.isAlpha = true ∧ cs.head? = some ':' ∧ (first p c cs).chars = [c, ':'] ∧
      (c = 'K' ∨ p.atLineStart = true ∧ p.region = .header) := by
  have hblank : Text.isBlank c = false := by
    rw [← Bool.not_eq_true, ← tag_first_eq_none_iff p c cs, h]
    exact Option.some_ne_none _
  -- Both rules take two characters.
  have htwo : ∀ {n : Nat}, n = 2 → cs.head? = some ':' → (c :: cs).take n = [c, ':'] := by
    rintro n rfl hhead
    obtain ⟨rest, rfl⟩ := List.head?_eq_some_iff.1 hhead
    rfl
  rcases first_of_not_blank p cs hblank with ⟨r, hfind, hchars, htag⟩ | ⟨-, -, htag⟩
  · have hfits := List.find?_some hfind
    rw [Bool.and_eq_true, decide_eq_true_eq] at hfits
    obtain ⟨hallowed, hpos⟩ := hfits
    rw [h] at htag
    rw [hchars]
    cases r with
    | field =>
      have hform : (c.isAlpha && cs.head? == some ':') = true := by
        by_contra hno
        rw [Rule.taken, if_neg hno] at hpos
        cases hpos
      have hforms := hform
      rw [Bool.and_eq_true, beq_iff_eq] at hforms
      rw [Rule.allowed, Bool.and_eq_true, beq_iff_eq] at hallowed
      exact ⟨hforms.1, hforms.2, htwo (if_pos hform) hforms.2, .inr hallowed⟩
    | keyField =>
      have hform : (c == 'K' && cs.head? == some ':') = true := by
        by_contra hno
        rw [Rule.taken, if_neg hno] at hpos
        cases hpos
      have hforms := hform
      rw [Bool.and_eq_true, beq_iff_eq, beq_iff_eq] at hforms
      obtain ⟨rfl, hhead⟩ := hforms
      exact ⟨rfl, hhead, htwo (if_pos hform) hhead, .inl rfl⟩
    | _ => cases htag
  · rw [h] at htag
    cases htag

/-- Where one of the first two rules fits there is a header field. -/
theorem tag_first_of_fits {p : Place} {c : Char} {cs : List Char} (hc : Text.isBlank c = false)
    {r : Rule} (hr : r = .field ∨ r = .keyField)
    (hfits : (r.allowed p && decide (0 < r.taken (c :: cs))) = true) :
    (first p c cs).tag = some .header := by
  let fits : Rule → Bool := fun r => r.allowed p && decide (0 < r.taken (c :: cs))
  have hheader : ∀ r', Rule.all.find? fits = some r' → r'.tag = .header := by
    intro r' hfind
    by_cases hfield : fits .field = true
    · have hfirst : Rule.all.find? fits = some .field := List.find?_cons_of_pos hfield
      rw [hfirst] at hfind
      obtain rfl := Option.some.inj hfind
      rfl
    · have hkey : fits .keyField = true := by
        rcases hr with rfl | rfl
        · exact absurd hfits hfield
        · exact hfits
      have hsecond : Rule.all.find? fits = some .keyField :=
        (List.find?_cons_of_neg hfield).trans (List.find?_cons_of_pos hkey)
      rw [hsecond] at hfind
      obtain rfl := Option.some.inj hfind
      rfl
  cases hfind : Rule.all.find? fits with
  | some r' =>
    rw [first, extent, if_neg (by simp [hc]), hfind, ← hheader r' hfind]
  | none => exact absurd hfits (List.find?_eq_none.1 hfind r r.mem_all)

/-- A letter and a colon at the start of a line of the header are a header field. -/
theorem tag_first_of_field {p : Place} (hline : p.atLineStart = true) (hregion : p.region = .header)
    {c : Char} (hc : c.isAlpha = true) (cs : List Char) :
    (first p c (':' :: cs)).tag = some .header := by
  refine tag_first_of_fits (isBlank_of_isAlpha hc) (.inl rfl) ?_
  simp [Rule.allowed, Rule.taken, hline, hregion, hc]

/-- A letter `K` and a colon are a header field, wherever they stand. -/
theorem tag_first_of_key (p : Place) (cs : List Char) :
    (first p 'K' (':' :: cs)).tag = some .header :=
  tag_first_of_fits rfl (.inr rfl) rfl

end Lexeme
end TuneEditor
