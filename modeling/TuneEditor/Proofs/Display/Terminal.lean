/-
# What a terminal makes of the text it is sent

A terminal that is sent text shows its characters one behind the other, each with
the attributes of the moment.  Escapes are not shown: the numbers in them change
the attributes of what comes next.

| numbers | what comes next is |
|---|---|
| `0` | plain |
| `1`, `2`, `3`, `4`, `7` | bold, dim, italic, underlined, reversed |
| `22` | neither bold nor dim |
| `27` | not reversed |
| `38;5;n` | in colour `n` of the palette |
| `48;5;n` | on colour `n` of the palette |

`Terminal.put` is what the terminal does with one character, and `Terminal.feed`
what it does with a text.

A text that begins and ends outside of an escape has an effect that can be told
without the rest (`Terminal.Shows`): what is shown, and the attributes it begins
and ends with.  Effects of texts that follow each other are joined
(`Shows.append`), so each piece that a screen is sent is looked at by itself: an
escape does what its numbers say (`shows_escape`), and a text in a style is shown
in that style and in no other, with no attribute left behind it (`shows_styled`).
-/

import TuneEditor.Display.Screen

namespace TuneEditor

/-- How a character looks on a terminal. -/
structure Attributes where
  /-- The colours by their numbers in the palette, if they are not the terminal's own. -/
  foreground : Option Nat := none
  background : Option Nat := none
  bold : Bool := false
  dim : Bool := false
  italic : Bool := false
  underline : Bool := false
  reverse : Bool := false
  deriving DecidableEq, Repr

/-- No two colours have one number. -/
theorem Color.index?_inj {c d : Color} (h : c.index? = d.index?) : c = d := by
  have hinverse : ∀ c : Color, Color.ofNat (c.index?.elim 0 (· + 1)) = c := by
    intro c
    cases c <;> rfl
  rw [← hinverse c, h, hinverse]

namespace Attributes

/-- The attributes of text by itself, of dim text and of text with its colours reversed. -/
def plain : Attributes := {}

def dimmed : Attributes := { dim := true }

def reversed : Attributes := { reverse := true }

/-- What becomes of the attributes by one number; most numbers mean nothing. -/
def change (a : Attributes) : Nat → Attributes
  | 0 => plain
  | 1 => { a with bold := true }
  | 2 => { a with dim := true }
  | 3 => { a with italic := true }
  | 4 => { a with underline := true }
  | 7 => { a with reverse := true }
  | 22 => { a with bold := false, dim := false }
  | 27 => { a with reverse := false }
  | _ => a

/-- What becomes of the attributes by the numbers of an escape.  A colour takes three of them. -/
def obey (a : Attributes) : List Nat → Attributes
  | [] => a
  | 38 :: 5 :: n :: codes => obey { a with foreground := some n } codes
  | 48 :: 5 :: n :: codes => obey { a with background := some n } codes
  | code :: codes => obey (a.change code) codes

/-- The attributes that a style asks for. -/
def ofStyle (s : Style) : Attributes where
  foreground := s.foreground.index?
  background := s.background.index?
  bold := s.bold
  italic := s.italic
  underline := s.underline
  reverse := s.reverse

/-- No two styles have the same attributes. -/
theorem ofStyle_inj {s t : Style} (h : ofStyle s = ofStyle t) : s = t := by
  obtain ⟨foreground, background, bold, italic, underline, reverse⟩ := s
  obtain ⟨foreground', background', bold', italic', underline', reverse'⟩ := t
  simp only [ofStyle, mk.injEq] at h
  obtain ⟨hforeground, hbackground, rfl, -, rfl, rfl, rfl⟩ := h
  rw [Color.index?_inj hforeground, Color.index?_inj hbackground]

/-- The escapes of a style, one after the other, bring its attributes about. -/
theorem obey_escapes (s : Style) :
    s.escapes.foldl (fun a e => a.obey e.codes) plain = ofStyle s := by
  have hforeground : ∀ (a : Attributes) (color : Option Nat), a.foreground = none →
      (color.map Escape.foreground).toList.foldl (fun a e => a.obey e.codes) a =
        { a with foreground := color } := by
    rintro ⟨_, _, _, _, _, _, _⟩ (_ | n) rfl
    · rfl
    · rfl
  have hbackground : ∀ (a : Attributes) (color : Option Nat), a.background = none →
      (color.map Escape.background).toList.foldl (fun a e => a.obey e.codes) a =
        { a with background := color } := by
    rintro ⟨_, _, _, _, _, _, _⟩ (_ | n) rfl
    · rfl
    · rfl
  obtain ⟨foreground, background, bold, italic, underline, reverse⟩ := s
  simp only [Style.escapes, List.foldl_append]
  rw [hforeground plain _ rfl, hbackground _ _ rfl]
  cases bold <;> cases italic <;> cases underline <;> cases reverse <;> rfl

end Attributes

namespace Terminal

/-- What a terminal is in the middle of. -/
inductive Mode
  | text
  /-- Behind the character that begins an escape. -/
  | escape
  /-- Among the numbers of an escape: those before, and what there is of the next one. -/
  | numbers (codes : List Nat) (code : Nat)
  deriving DecidableEq, Repr

end Terminal

/-- A terminal, with all that it has shown. -/
structure Terminal where
  attributes : Attributes := .plain
  mode : Terminal.Mode := .text
  shown : List (Char × Attributes) := []
  deriving DecidableEq, Repr

namespace Terminal

/-- Takes one character.  An escape that is not of the known form is given up. -/
def put (t : Terminal) (c : Char) : Terminal :=
  match t.mode with
  | .text =>
    if c = '\x1b' then { t with mode := .escape }
    else { t with shown := t.shown ++ [(c, t.attributes)] }
  | .escape => { t with mode := if c = '[' then .numbers [] 0 else .text }
  | .numbers codes code =>
    if c.isDigit then { t with mode := .numbers codes (10 * code + (c.toNat - '0'.toNat)) }
    else if c = ';' then { t with mode := .numbers (codes ++ [code]) 0 }
    else if c = 'm' then
      { t with mode := .text, attributes := t.attributes.obey (codes ++ [code]) }
    else { t with mode := .text }

/-- Takes a text. -/
def feed (t : Terminal) (cs : List Char) : Terminal :=
  cs.foldl put t

@[simp] theorem feed_nil (t : Terminal) : t.feed [] = t := rfl

@[simp] theorem feed_cons (t : Terminal) (c : Char) (cs : List Char) :
    t.feed (c :: cs) = (t.put c).feed cs := rfl

/-- A terminal reads two texts one after the other as it reads both together. -/
theorem feed_append (t : Terminal) (cs ds : List Char) :
    t.feed (cs ++ ds) = (t.feed cs).feed ds :=
  List.foldl_append

/-! ### Escapes -/

section

variable {a : Attributes} {shown : List (Char × Attributes)}

/-- Digits add to the number that is being read. -/
theorem feed_digits (codes : List Nat) (code : Nat) {ds : List Char}
    (h : ∀ d ∈ ds, d.isDigit = true) :
    feed ⟨a, .numbers codes code, shown⟩ ds =
      ⟨a, .numbers codes (Nat.ofDigitChars 10 ds code), shown⟩ := by
  induction ds generalizing code with
  | nil => rfl
  | cons d ds ih =>
    have hput : put ⟨a, .numbers codes code, shown⟩ d =
        ⟨a, .numbers codes (10 * code + (d.toNat - '0'.toNat)), shown⟩ :=
      if_pos (h d List.mem_cons_self)
    rw [feed_cons, hput, ih _ fun d' hd' => h d' (List.mem_cons_of_mem _ hd'),
      Nat.ofDigitChars_cons]

/-- A number is read as it was written. -/
theorem feed_ofNat (codes : List Nat) (n : Nat) :
    feed ⟨a, .numbers codes 0, shown⟩ (Text.ofNat n) = ⟨a, .numbers codes n, shown⟩ := by
  have hdigits : ∀ d ∈ Text.ofNat n, d.isDigit = true :=
    fun d hd => Nat.isDigit_of_mem_toDigits (by decide) (by decide) hd
  rw [feed_digits codes 0 hdigits, Text.ofNat, Nat.ofDigitChars_toDigits (by decide) (by decide)]

/-- The numbers of an escape are obeyed at its final letter. -/
theorem feed_codes (before : List Nat) {codes : List Nat} (h : codes ≠ []) :
    feed ⟨a, .numbers before 0, shown⟩
        (((codes.map Text.ofNat).intersperse [';']).flatten ++ ['m']) =
      ⟨a.obey (before ++ codes), .text, shown⟩ := by
  induction codes generalizing before with
  | nil => exact absurd rfl h
  | cons n codes ih =>
    cases codes with
    | nil =>
      rw [List.map_singleton, List.intersperse_singleton, List.flatten_singleton, feed_append,
        feed_ofNat]
      rfl
    | cons m codes =>
      have hrest := ih (before ++ [n]) (List.cons_ne_nil m codes)
      rw [List.map_cons] at hrest
      rw [List.map_cons, List.map_cons, List.intersperse_cons_cons, List.flatten_cons,
        List.flatten_cons, List.append_assoc, List.append_assoc, feed_append, feed_ofNat,
        List.singleton_append, feed_cons]
      rw [List.append_assoc, List.singleton_append] at hrest
      exact hrest

/-- An escape is obeyed once its last letter is there, and shows nothing. -/
theorem feed_escape (e : Escape) :
    feed ⟨a, .text, shown⟩ e.chars = ⟨a.obey e.codes, .text, shown⟩ := by
  have hcodes : e.codes ≠ [] := by
    cases e <;> exact List.cons_ne_nil _ _
  exact feed_codes [] hcodes

end

/-! ### Effects -/

/-- From attributes `a` on a text shows some characters, and leaves attributes `b`. -/
def Shows (a : Attributes) (cs : List Char) (cells : List (Char × Attributes)) (b : Attributes) :
    Prop :=
  ∀ shown, feed ⟨a, .text, shown⟩ cs = ⟨b, .text, shown ++ cells⟩

/-- The characters of a text, all with the same attributes. -/
def cellsOf (a : Attributes) (cs : List Char) : List (Char × Attributes) :=
  cs.map (·, a)

section

variable {a b c : Attributes} {cs ds : List Char} {cells cells' : List (Char × Attributes)}

/-- Nothing that is sent changes nothing. -/
theorem Shows.nil (a : Attributes) : Shows a [] [] a :=
  fun shown => by rw [List.append_nil, feed_nil]

/-- What two texts show stands side by side, where the second finds the attributes that the first
leaves. -/
theorem Shows.append (h : Shows a cs cells b) (h' : Shows b ds cells' c) :
    Shows a (cs ++ ds) (cells ++ cells') c := by
  intro shown
  rw [feed_append, h, h', List.append_assoc]

/-- Pieces that leave no attributes behind show what each of them shows. -/
theorem Shows.flatMap {α : Type} {pieces : List α} {text : α → List Char}
    {shown : α → List (Char × Attributes)} (h : ∀ p ∈ pieces, Shows a (text p) (shown p) a) :
    Shows a (pieces.flatMap text) (pieces.flatMap shown) a := by
  induction pieces with
  | nil => exact .nil a
  | cons p pieces ih =>
    rw [List.flatMap_cons, List.flatMap_cons]
    exact (h p List.mem_cons_self).append (ih fun q hq => h q (List.mem_cons_of_mem _ hq))

/-- A text without escapes is shown with the attributes of the moment. -/
theorem shows_text (a : Attributes) (h : '\x1b' ∉ cs) : Shows a cs (cellsOf a cs) a := by
  induction cs with
  | nil => exact .nil a
  | cons d cs ih =>
    have hd : d ≠ '\x1b' := fun heq => h (heq ▸ List.mem_cons_self)
    have hfirst : Shows a [d] [(d, a)] a := fun shown => if_neg hd
    exact hfirst.append (ih fun hmem => h (List.mem_cons_of_mem _ hmem))

/-- An escape shows nothing and is obeyed. -/
theorem shows_escape (a : Attributes) (e : Escape) : Shows a e.chars [] (a.obey e.codes) :=
  fun shown => by rw [feed_escape, List.append_nil]

/-- Escapes are obeyed one after the other. -/
theorem shows_escapes (a : Attributes) (es : List Escape) :
    Shows a (es.flatMap Escape.chars) [] (es.foldl (fun a e => a.obey e.codes) a) := by
  induction es generalizing a with
  | nil => exact .nil a
  | cons e es ih =>
    rw [List.flatMap_cons]
    exact (shows_escape a e).append (ih _)

/-- **A text in a style is shown in that style**, and plain text goes on behind it. -/
theorem shows_styled {s : Screen} (hs : s.color = true) (style : Style) (h : '\x1b' ∉ cs) :
    Shows .plain (s.styled style cs) (cellsOf (.ofStyle style) cs) .plain := by
  unfold Screen.styled
  split
  · next hplain =>
    have hstyle : style = .plain := by
      rw [hs] at hplain
      exact eq_of_beq hplain
    rw [hstyle]
    exact shows_text .plain h
  · have hbegin : Shows .plain (style.escapes.flatMap Escape.chars) [] (.ofStyle style) := by
      rw [← Attributes.obey_escapes]
      exact shows_escapes .plain style.escapes
    have hreset := shows_escape (.ofStyle style) .reset
    have hall := (hbegin.append (shows_text (.ofStyle style) h)).append hreset
    rw [List.nil_append, List.append_nil] at hall
    exact hall

/-- A text between two escapes of which the second undoes the first. -/
theorem shows_between {s : Screen} (hs : s.color = true) (e e' : Escape)
    (hundo : (Attributes.plain.obey e.codes).obey e'.codes = .plain) (h : '\x1b' ∉ cs) :
    Shows .plain (s.escape e ++ cs ++ s.escape e')
      (cellsOf (Attributes.plain.obey e.codes) cs) .plain := by
  have hescape : ∀ e, s.escape e = e.chars := fun e => if_pos hs
  have hend := shows_escape (Attributes.plain.obey e.codes) e'
  rw [hundo] at hend
  have hall := ((shows_escape .plain e).append (shows_text _ h)).append hend
  rw [List.nil_append, List.append_nil] at hall
  rw [hescape, hescape]
  exact hall

/-- Between the escapes for dim text a text is dim, and what follows is plain. -/
theorem shows_dim {s : Screen} (hs : s.color = true) (h : '\x1b' ∉ cs) :
    Shows .plain (s.dim true ++ cs ++ s.dim false) (cellsOf .dimmed cs) .plain :=
  shows_between hs .dim .normalIntensity rfl h

/-- Between the escapes for reversed text a text is reversed, and what follows is plain. -/
theorem shows_reverse {s : Screen} (hs : s.color = true) (h : '\x1b' ∉ cs) :
    Shows .plain (s.reverse true ++ cs ++ s.reverse false) (cellsOf .reversed cs) .plain :=
  shows_between hs .reverse .noReverse rfl h

end

end Terminal
end TuneEditor
