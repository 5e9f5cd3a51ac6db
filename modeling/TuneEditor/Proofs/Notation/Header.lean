/-
# Where the header of a tune ends

A key field is a letter `K` and a colon anywhere, and other fields count only at
the start of a line of the header.  What looks like one in a comment or in a
chord is none: such a byte is `Covered`.  So the text alone says where the header
fields are, once it is known which bytes are covered, and a scan is in the header
as long as it has not come by a key field that is not covered
(`header_fields_and_region`).

A byte at which a header field may start is not inside of a lexeme: a letter `K`
inside of one is covered (`exists_lexeme_of_keyAt`), and a letter at the start of a
line has a newline in front of it, which with a letter behind it is covered too
(`exists_lexeme_of_lineStartAt`).  A lexeme itself does not start at a covered byte
(`not_covered`).  What remains is to say in which region the scan comes to a
lexeme (`region_placeBehind_iff_covered`).
-/

import TuneEditor.Proofs.Notation.Shape

namespace TuneEditor

/-- A byte of a text is in a comment or in a chord, and not the first of it. -/
def Covered (region : Region) (cs : List Char) (pos : Nat) : Prop :=
  ∃ s ∈ steps region cs,
    (s.tag = some .comment ∨ s.tag = some .chord) ∧ s.start < pos ∧ pos < s.stop

/-- At a byte of a text a key field is spelled. -/
def KeyAt (cs : List Char) (pos : Nat) : Prop :=
  ∃ rest, Utf8.At cs pos ('K' :: ':' :: rest)

/-- At a byte of a text a letter and a colon are spelled. -/
def FieldAt (cs : List Char) (pos : Nat) : Prop :=
  ∃ c rest, c.isAlpha = true ∧ Utf8.At cs pos (c :: ':' :: rest)

/-- A byte is the first of a text, or the one in front of it is a newline. -/
def LineStartAt (cs : List Char) (pos : Nat) : Prop :=
  pos = 0 ∨ ∃ before rest, cs = before ++ '\n' :: rest ∧ Utf8.size before + 1 = pos

/-- A line starts behind a part of a text just if that part is empty or ends with a newline. -/
theorem lineStartAt_append_iff {front rest : List Char} :
    LineStartAt (front ++ rest) (Utf8.size front) ↔
      front = [] ∨ ∃ before, front = before ++ ['\n'] := by
  constructor
  · rintro (hzero | ⟨before, rest', hcs, hsize⟩)
    · exact .inl (Utf8.eq_nil_of_size hzero)
    · rw [List.append_cons] at hcs
      refine .inr ⟨before, (Utf8.append_inj_of_size hcs ?_).1⟩
      rw [← hsize, Utf8.size_append]
      rfl
  · rintro (rfl | ⟨before, rfl⟩)
    · exact .inl rfl
    · refine .inr ⟨before, rest, (List.append_cons ..).symm, ?_⟩
      rw [Utf8.size_append]
      rfl

/-- A step is a key field. -/
def Step.IsKey (cs : List Char) (s : Step) : Prop :=
  s.tag = some .header ∧ Utf8.slice? cs s.start s.stop = some ['K', ':']

/-- The region in which a scan is after some steps, if it began in a region. -/
def Step.behind (region : Region) (ss : List Step) : Region :=
  (ss.getLast?.map after).getD region

/-! ### The region -/

namespace Lexeme

/-- A lexeme is a key field. -/
def IsKey (l : Lexeme) : Prop :=
  l.tag = some .header ∧ l.chars = ['K', ':']

/-- Only a key field takes a scan out of the header, and nothing takes it back. -/
theorem after_first_iff (p : Place) (c : Char) (cs : List Char) :
    (first p c cs).after = .header ↔ p.region = .header ∧ ¬ (first p c cs).IsKey := by
  have hafter : (first p c cs).after =
      regionAfter p.region (first p c cs).tag (first p c cs).chars := rfl
  rw [hafter, regionAfter, IsKey]
  split
  · next h => simp [h]
  · next h => simp [h]

/-- A scan is in the header as long as it has come by no key field. -/
theorem region_placeBehind_iff {p : Place} {cs : List Char} {pre post : List Lexeme}
    (h : lexemes p cs = pre ++ post) :
    (placeBehind p pre).region = .header ↔ p.region = .header ∧ ∀ l ∈ pre, ¬ l.IsKey := by
  induction pre generalizing p cs with
  | nil => simp
  | cons l pre ih =>
    cases cs with
    | nil => simp [lexemes] at h
    | cons c cs =>
      rw [lexemes_cons] at h
      obtain ⟨rfl, hrest⟩ := List.cons.inj h
      rw [placeBehind_cons, ih hrest, List.forall_mem_cons, ← and_assoc]
      exact and_congr_left fun _ => after_first_iff p c cs

end Lexeme

/-! ### Lexemes and the bytes at which they start -/

section Places

variable {region : Region} {cs : List Char} {pre post : List Lexeme} {l : Lexeme} {pos : Nat}

/-- A text is the text of the lexemes in front of one, that lexeme, and those behind it. -/
theorem eq_append_of_lexemes (h : lexemes ⟨region, true⟩ cs = pre ++ l :: post) :
    cs = pre.flatMap Lexeme.chars ++ (l.chars ++ post.flatMap Lexeme.chars) := by
  rw [← flatMap_chars_lexemes ⟨region, true⟩ cs, h, List.flatMap_append, List.flatMap_cons]

/-- A lexeme of a text is a step, which starts behind the lexemes in front of it. -/
theorem mem_steps_of_lexemes (h : lexemes ⟨region, true⟩ cs = pre ++ l :: post) :
    Step.ofPlaced (Utf8.size (pre.flatMap Lexeme.chars), l) ∈ steps region cs := by
  rw [steps_eq_map_placed, h, placed_append, placed, Nat.zero_add, List.map_append, List.map_cons]
  exact List.mem_append_right _ List.mem_cons_self

/-- Inside of a comment or a chord a byte is covered. -/
theorem covered_of_lexemes (h : lexemes ⟨region, true⟩ cs = pre ++ l :: post)
    (htag : l.tag = some .comment ∨ l.tag = some .chord)
    (hstart : Utf8.size (pre.flatMap Lexeme.chars) < pos)
    (hstop : pos < Utf8.size (pre.flatMap Lexeme.chars) + Utf8.size l.chars) :
    Covered region cs pos :=
  ⟨_, mem_steps_of_lexemes h, htag, hstart, hstop⟩

/-- Where a lexeme starts a byte is not covered. -/
theorem not_covered (h : lexemes ⟨region, true⟩ cs = pre ++ l :: post) :
    ¬ Covered region cs (Utf8.size (pre.flatMap Lexeme.chars)) := by
  rintro ⟨s, hs, -, hstart, hstop⟩
  have hmem : l ∈ lexemes ⟨region, true⟩ cs := by
    rw [h]
    simp
  have hpos := Utf8.size_pos (chars_ne_nil_of_mem hmem)
  have honly := filter_overlaps_steps h (Nat.lt_add_one (Utf8.size (pre.flatMap Lexeme.chars)))
    (Nat.le_refl _) (by omega)
  have hin : s ∈ (steps region cs).filter (·.overlaps (Utf8.size (pre.flatMap Lexeme.chars))
      (Utf8.size (pre.flatMap Lexeme.chars) + 1)) :=
    List.mem_filter.2 ⟨hs, Step.overlaps_iff.2 ⟨by omega, hstop⟩⟩
  rw [honly, List.mem_singleton] at hin
  rw [hin] at hstart
  exact Nat.lt_irrefl _ hstart

/-- A key field that is not covered is a lexeme. -/
theorem exists_lexeme_of_keyAt (h : KeyAt cs pos) (hpos : ¬ Covered region cs pos) :
    ∃ pre l post, lexemes ⟨region, true⟩ cs = pre ++ l :: post ∧ l.IsKey ∧
      pos = Utf8.size (pre.flatMap Lexeme.chars) := by
  obtain ⟨rest, hat⟩ := h
  obtain ⟨pre, l, post, u, v, hls, hl, hstart, -⟩ := exists_lexeme_of_at region hat
  obtain ⟨c, cs', hcs, hfirst, -⟩ := lexemes_eq_append hls
  have hplace : Utf8.At cs (Utf8.size (pre.flatMap Lexeme.chars)) (c :: cs') :=
    ⟨_, hcs.symm ▸ rfl, rfl⟩
  cases u with
  | nil =>
    rw [Utf8.size_nil, Nat.add_zero] at hstart
    obtain ⟨rfl, rfl⟩ := List.cons.inj (hplace.unique (hstart ▸ hat))
    have htag : l.tag = some .header := by
      rw [hfirst]
      exact Lexeme.tag_first_of_key _ rest
    refine ⟨pre, l, post, hls, ⟨htag, ?_⟩, hstart⟩
    rw [hfirst] at htag ⊢
    exact (Lexeme.chars_of_tag_header htag).2.2.1
  | cons d u =>
    -- The letter is inside of the lexeme, so it is covered.
    have htail : 'K' ∈ l.chars.tail := by
      rw [hl]
      simp
    rw [hfirst] at htail
    have htag := Lexeme.tag_of_key_mem_tail htail
    rw [← hfirst] at htag
    have hd := d.utf8Size_pos
    have hk := Char.utf8Size_pos 'K'
    refine absurd (covered_of_lexemes hls htag ?_ ?_) hpos
    · rw [hstart, Utf8.size_cons]
      omega
    · rw [hstart, hl, Utf8.size_append, Utf8.size_cons 'K']
      omega

/-- The first lexeme behind some others starts a line just if a line starts there in the text. -/
theorem atLineStart_placeBehind_iff (h : lexemes ⟨region, true⟩ cs = pre ++ l :: post) :
    (Lexeme.placeBehind ⟨region, true⟩ pre).atLineStart = true ↔
      LineStartAt cs (Utf8.size (pre.flatMap Lexeme.chars)) := by
  have hpre : ∀ l' ∈ pre, l'.chars ≠ [] := by
    intro l' hl'
    have hmem : l' ∈ lexemes ⟨region, true⟩ cs := by
      rw [h]
      exact List.mem_append_left _ hl'
    exact chars_ne_nil_of_mem hmem
  rw [Lexeme.atLineStart_placeBehind _ hpre, eq_append_of_lexemes h, lineStartAt_append_iff]
  split
  · next hnil => simp [hnil]
  · next hne =>
    rw [beq_iff_eq, List.getLast?_eq_some_iff]
    exact ⟨.inr, fun hline => hline.resolve_left hne⟩

/-- A letter at the start of a line that is not covered is the first of a lexeme. -/
theorem exists_lexeme_of_lineStartAt {c : Char} {rest : List Char}
    (hat : Utf8.At cs pos (c :: rest)) (hc : c.isAlpha = true) (hline : LineStartAt cs pos) (hpos : ¬ Covered region cs pos) :
    ∃ pre l post, lexemes ⟨region, true⟩ cs = pre ++ l :: post ∧
      pos = Utf8.size (pre.flatMap Lexeme.chars) := by
  obtain ⟨pre, l, post, u, v, hls, hl, hstart, -⟩ := exists_lexeme_of_at region hat
  by_cases hu : u = []
  · rw [hu, Utf8.size_nil, Nat.add_zero] at hstart
    exact ⟨pre, l, post, hls, hstart⟩
  · -- The newline in front of the letter is in the lexeme of the letter.
    have hnewline : '\n' ∈ l.chars := by
      have hcs := eq_append_of_lexemes hls
      rw [hl, List.append_assoc, ← List.append_assoc] at hcs
      rw [hcs, hstart, ← Utf8.size_append, lineStartAt_append_iff] at hline
      rcases hline with hnil | ⟨before, hbefore⟩
      · exact absurd (List.append_eq_nil_iff.1 hnil).2 hu
      · have hlast := congrArg List.getLast? hbefore
        rw [List.getLast?_append_of_ne_nil _ hu, List.getLast?_concat] at hlast
        rw [hl]
        exact List.mem_append_left _ (List.mem_of_getLast? hlast)
    obtain ⟨d, ds, -, hfirst, -⟩ := lexemes_eq_append hls
    have hmem : c ∈ l.chars := by
      rw [hl]
      simp
    rw [hfirst] at hnewline hmem
    rcases Lexeme.tag_of_newline_mem hnewline with hnone | hchord
    · have hblank := Lexeme.isBlank_of_mem_first hnone hmem
      rw [Lexeme.isBlank_of_isAlpha hc] at hblank
      cases hblank
    · have hu' := Utf8.size_pos hu
      have hc' := c.utf8Size_pos
      rw [← hfirst] at hchord
      refine absurd (covered_of_lexemes hls (.inr hchord) ?_ ?_) hpos
      · omega
      · rw [hl, Utf8.size_append, Utf8.size_cons]
        omega

/-- A scan comes to a byte in the header if it began there and if every key field in front of that
byte is covered. -/
theorem region_placeBehind_iff_covered (h : lexemes ⟨region, true⟩ cs = pre ++ post) :
    (Lexeme.placeBehind ⟨region, true⟩ pre).region = .header ↔
      region = .header ∧
        ∀ q < Utf8.size (pre.flatMap Lexeme.chars), KeyAt cs q → Covered region cs q := by
  rw [Lexeme.region_placeBehind_iff h]
  refine and_congr_right fun _ => ⟨fun hno q hq hkey => ?_, fun hcovered k hk hkey => ?_⟩
  · by_contra hnot
    obtain ⟨pre', k, post', hls, hk, rfl⟩ := exists_lexeme_of_keyAt hkey hnot
    -- The key field starts in front of the end of `pre`, so it is one of its lexemes.
    rw [h] at hls
    rcases List.append_eq_append_iff.1 hls with ⟨gap, hpre, -⟩ | ⟨gap, hpre, hpost⟩
    · rw [hpre, List.flatMap_append, Utf8.size_append] at hq
      omega
    · cases gap with
      | nil =>
        rw [hpre, List.append_nil] at hq
        exact Nat.lt_irrefl _ hq
      | cons k' gap =>
        obtain ⟨rfl, -⟩ := List.cons.inj hpost
        refine hno k ?_ hk
        rw [hpre]
        simp
  · obtain ⟨pre', post', rfl⟩ := List.append_of_mem hk
    rw [List.append_assoc, List.cons_append] at h
    refine not_covered h (hcovered _ ?_ ?_)
    · rw [List.flatMap_append, Utf8.size_append, List.flatMap_cons, Utf8.size_append, hkey.2]
      have hpos := Char.utf8Size_pos 'K'
      rw [Utf8.size_cons]
      omega
    · refine ⟨(post' ++ post).flatMap Lexeme.chars, _, eq_append_of_lexemes h |>.trans ?_, rfl⟩
      rw [hkey.2]
      rfl

/-- Which lexemes are header fields. -/
theorem tag_eq_header_iff (h : lexemes ⟨region, true⟩ cs = pre ++ l :: post)
    (hpos : pos = Utf8.size (pre.flatMap Lexeme.chars)) :
    l.tag = some .header ↔
      KeyAt cs pos ∨ (region = .header ∧ LineStartAt cs pos ∧ FieldAt cs pos ∧
        ∀ q < pos, KeyAt cs q → Covered region cs q) := by
  subst hpos
  obtain ⟨c, rest, hcs, hfirst, -⟩ := lexemes_eq_append h
  have hat : Utf8.At cs (Utf8.size (pre.flatMap Lexeme.chars)) (c :: rest) := ⟨_, hcs, rfl⟩
  have hline := atLineStart_placeBehind_iff h
  have hregion := region_placeBehind_iff_covered h
  rw [hfirst]
  constructor
  · intro htag
    obtain ⟨hc, hhead, -, hplace⟩ := Lexeme.chars_of_tag_header htag
    obtain ⟨rest', rfl⟩ := List.head?_eq_some_iff.1 hhead
    rcases hplace with rfl | ⟨hstart, hheader⟩
    · exact .inl ⟨rest', hat⟩
    · obtain ⟨hregion', hcovered⟩ := hregion.1 hheader
      exact .inr ⟨hregion', hline.1 hstart, ⟨c, rest', hc, hat⟩, hcovered⟩
  · rintro (⟨rest', hkey⟩ | ⟨hregion', hstart, ⟨d, rest', hd, hfield⟩, hcovered⟩)
    · obtain ⟨rfl, rfl⟩ := List.cons.inj (hat.unique hkey)
      exact Lexeme.tag_first_of_key _ rest'
    · obtain ⟨rfl, rfl⟩ := List.cons.inj (hat.unique hfield)
      exact Lexeme.tag_first_of_field (hline.2 hstart) (hregion.2 ⟨hregion', hcovered⟩) hd rest'

end Places

/-! ### Steps -/

/-- The first of some lexemes stand where they stand among all of them. -/
theorem take_placed (start n : Nat) (ls : List Lexeme) :
    (placed start ls).take n = placed start (ls.take n) := by
  induction ls generalizing start n with
  | nil => simp [placed]
  | cons l ls ih =>
    cases n with
    | zero => rfl
    | succ n => rw [placed, List.take_succ_cons, List.take_succ_cons, placed, ih]

/-- The first steps of a text come of its first lexemes. -/
theorem exists_lexemes_of_prefix {region : Region} {cs : List Char} {ss : List Step}
    (h : ss <+: steps region cs) :
    ∃ pre post, lexemes ⟨region, true⟩ cs = pre ++ post ∧
      ss = (placed 0 pre).map Step.ofPlaced := by
  refine ⟨_, _, (List.take_append_drop ss.length _).symm, ?_⟩
  rw [← take_placed, List.map_take, ← steps_eq_map_placed]
  exact List.prefix_iff_eq_take.1 h

/-- The region behind the steps is that of the place behind the lexemes. -/
theorem behind_map_placed (region : Region) (start : Nat) (ls : List Lexeme) :
    Step.behind region ((placed start ls).map Step.ofPlaced) =
      (Lexeme.placeBehind ⟨region, true⟩ ls).region := by
  have hlast : (placed start ls).getLast?.map Prod.snd = ls.getLast? := by
    rw [← List.getLast?_map, map_snd_placed]
  unfold Step.behind Lexeme.placeBehind
  rw [List.getLast?_map, ← hlast]
  cases (placed start ls).getLast? with
  | none => rfl
  | some m => rfl

/-- A scan is in the header just if it began there and has come by no key field. -/
theorem behind_eq_header_iff {region : Region} {cs : List Char} {ss : List Step}
    (h : ss <+: steps region cs) :
    Step.behind region ss = .header ↔ region = .header ∧ ∀ s ∈ ss, ¬ s.IsKey cs := by
  obtain ⟨pre, post, hls, rfl⟩ := exists_lexemes_of_prefix h
  have hkey : ∀ m ∈ placed 0 pre, (Step.ofPlaced m).IsKey cs ↔ m.2.IsKey := by
    intro m hm
    have hmem : m ∈ placed 0 (lexemes ⟨region, true⟩ cs) := by
      rw [hls, placed_append]
      exact List.mem_append_left _ hm
    unfold Step.IsKey Lexeme.IsKey
    rw [Step.start_ofPlaced, Step.stop_ofPlaced, (slice?_of_mem_placed hmem).1, Option.some_inj]
    rfl
  rw [behind_map_placed, Lexeme.region_placeBehind_iff hls, List.forall_mem_map]
  refine and_congr_right fun _ => ?_
  conv => lhs; rw [← map_snd_placed 0 pre, List.forall_mem_map]
  exact forall₂_congr fun m hm => not_congr (hkey m hm).symm

/-- Which bytes header fields start at. -/
theorem exists_header_step_iff (region : Region) (cs : List Char) (pos : Nat) :
    (∃ s ∈ steps region cs, s.tag = some .header ∧ s.start = pos) ↔
      ¬ Covered region cs pos ∧
        (KeyAt cs pos ∨ (region = .header ∧ LineStartAt cs pos ∧ FieldAt cs pos ∧
          ∀ q < pos, KeyAt cs q → Covered region cs q)) := by
  constructor
  · rintro ⟨s, hs, htag, rfl⟩
    rw [steps_eq_map_placed] at hs
    obtain ⟨m, hm, rfl⟩ := List.mem_map.1 hs
    obtain ⟨pre, post, hls, hstart⟩ := exists_append_of_mem_placed hm
    rw [Nat.zero_add] at hstart
    rw [Step.start_ofPlaced]
    refine ⟨?_, (tag_eq_header_iff hls hstart).1 htag⟩
    rw [hstart]
    exact not_covered hls
  · rintro ⟨hpos, hfield⟩
    -- Whatever is spelled there begins a lexeme.
    obtain ⟨pre, l, post, hls, hstart⟩ : ∃ pre l post,
        lexemes ⟨region, true⟩ cs = pre ++ l :: post ∧
          pos = Utf8.size (pre.flatMap Lexeme.chars) := by
      rcases hfield with hkey | ⟨-, hline, ⟨c, rest, hc, hat⟩, -⟩
      · obtain ⟨pre, l, post, hls, -, hstart⟩ := exists_lexeme_of_keyAt hkey hpos
        exact ⟨pre, l, post, hls, hstart⟩
      · exact exists_lexeme_of_lineStartAt hat hc hline hpos
    exact ⟨_, mem_steps_of_lexemes hls, (tag_eq_header_iff hls hstart).2 hfield, hstart.symm⟩

/-- A header field is a letter and a colon. -/
theorem slice?_of_tag_header {region : Region} {cs : List Char} {s : Step}
    (hs : s ∈ steps region cs) (htag : s.tag = some .header) :
    s.stop = s.start + 2 ∧
      ∃ c : Char, c.isAlpha = true ∧ Utf8.slice? cs s.start s.stop = some [c, ':'] := by
  rw [steps_eq_map_placed] at hs
  obtain ⟨m, hm, rfl⟩ := List.mem_map.1 hs
  obtain ⟨pre, post, hls, -⟩ := exists_append_of_mem_placed hm
  obtain ⟨c, rest, -, hfirst, -⟩ := lexemes_eq_append hls
  rw [Step.tag_ofPlaced, hfirst] at htag
  obtain ⟨hc, -, hchars, -⟩ := Lexeme.chars_of_tag_header htag
  rw [← hfirst] at hchars
  rw [Step.start_ofPlaced, Step.stop_ofPlaced, (slice?_of_mem_placed hm).1, hchars]
  refine ⟨?_, c, hc, rfl⟩
  rw [Utf8.size_cons, Lexeme.utf8Size_of_isAlpha hc]
  rfl

/-- A scan is in the header at the end just if it began there and all key fields are covered. -/
theorem behind_steps_eq_header_iff (region : Region) (cs : List Char) :
    Step.behind region (steps region cs) = .header ↔
      region = .header ∧ ∀ pos, KeyAt cs pos → Covered region cs pos := by
  have hall : lexemes ⟨region, true⟩ cs = lexemes ⟨region, true⟩ cs ++ [] :=
    (List.append_nil _).symm
  rw [steps_eq_map_placed, behind_map_placed, region_placeBehind_iff_covered hall,
    flatMap_chars_lexemes]
  refine and_congr_right fun _ => ⟨fun h pos hkey => h pos ?_ hkey, fun h pos _ => h pos⟩
  obtain ⟨rest, hat⟩ := hkey
  exact hat.lt_size

/-- **The text says where the header fields are and where the header ends**, once it is known which
bytes are covered.  A header field starts at a byte that is not covered just if a key field is
spelled there, or a letter and a colon at the start of a line in front of which all key fields are
covered, in a scan that began in the header.  Each header field is those two bytes.  A scan is in
the header until it has come by a key field, never again after that, and to the end if every key
field is covered. -/
theorem header_fields_and_region (region : Region) (cs : List Char) :
    (∀ pos,
      (∃ s ∈ steps region cs, s.tag = some .header ∧ s.start = pos) ↔
        ¬ Covered region cs pos ∧
          (KeyAt cs pos ∨ (region = .header ∧ LineStartAt cs pos ∧ FieldAt cs pos ∧
            ∀ q < pos, KeyAt cs q → Covered region cs q))) ∧
    (∀ s ∈ steps region cs, s.tag = some .header →
      s.stop = s.start + 2 ∧
        ∃ c : Char, c.isAlpha = true ∧ Utf8.slice? cs s.start s.stop = some [c, ':']) ∧
    (∀ ss, ss <+: steps region cs →
      (Step.behind region ss = .header ↔ region = .header ∧ ∀ s ∈ ss, ¬ s.IsKey cs)) ∧
    (Step.behind region (steps region cs) = .header ↔
      region = .header ∧ ∀ pos, KeyAt cs pos → Covered region cs pos) ∧
    (∀ ss ss', ss <+: ss' → ss' <+: steps region cs →
      Step.behind region ss' = .header → Step.behind region ss = .header) := by
  refine ⟨exists_header_step_iff region cs, fun s => slice?_of_tag_header,
    fun ss => behind_eq_header_iff, behind_steps_eq_header_iff region cs, ?_⟩
  intro ss ss' hle hss' hheader
  obtain ⟨hregion, hno⟩ := (behind_eq_header_iff hss').1 hheader
  refine (behind_eq_header_iff (hle.trans hss')).2 ⟨hregion, fun s hs => ?_⟩
  exact hno s (hle.subset hs)

/-- A key field in a comment does not end the header, and one behind a note does. -/
example :
    (steps .header "%K:\nT:".toList).map Step.tag = [some .comment, none, some .header] ∧
      (steps .header "aK:\nT:".toList).map Step.tag =
        [some .note, some .header, none, some .plain, some .bar] := by
  constructor
  · cbv
  · cbv

end TuneEditor
