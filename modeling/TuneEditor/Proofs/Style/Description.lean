/-
# What a description of a style says

A colour has names in small letters with hyphens (`Color.labels`), and `Word.Means` tells what a
word in small letters means.  A description is understood just if each of its words means
something; its attributes are those that are named, and of each kind of colour the last one
stays (`description_words`).

So of two words neither of which is a colour, or only one a background and only one a foreground,
it makes no difference which is in front.  Words that keep those of one kind in their order are
`Reordered`.

The first name of a colour says the foreground only if no name of another colour is the last
(`foreground_first_iff`).
-/

import TuneEditor.Proofs.Text.Words
import TuneEditor.Style.Basic

namespace TuneEditor

/-! ### Members that give something -/

section

variable {α β : Type}

/-- What the last member of a list that gives something gives, or a default if none does. -/
def LastGives (gives : α → β → Prop) (as : List α) (default b : β) : Prop :=
  (∃ before a after, as = before ++ a :: after ∧ gives a b ∧ ∀ a' ∈ after, ∀ b', ¬ gives a' b') ∨
    (∀ a ∈ as, ∀ b', ¬ gives a b') ∧ b = default

/-- The first member counts only where none behind it gives anything: it takes the place of the
default. -/
theorem getD_getLast?_filterMap_cons (given : α → Option β) (a : α) (as : List α) (b : β) :
    ((a :: as).filterMap given).getLast?.getD b =
      (as.filterMap given).getLast?.getD ((given a).getD b) := by
  cases h : given a with
  | none => rw [List.filterMap_cons_none h, Option.getD_none]
  | some b' =>
    rw [List.filterMap_cons_some h, List.getLast?_cons, Option.getD_some, Option.getD_some]

/-- What is found from the end is what the last member that gives something gives. -/
theorem lastGives_getLast? (given : α → Option β) (as : List α) (default : β) :
    LastGives (fun a b => given a = some b) as default
      ((as.filterMap given).getLast?.getD default) := by
  induction as generalizing default with
  | nil => exact .inr ⟨fun _ h => absurd h List.not_mem_nil, rfl⟩
  | cons a as ih =>
    rw [getD_getLast?_filterMap_cons]
    rcases ih ((given a).getD default) with ⟨before, a', after, hsplit, hgives⟩ | ⟨hnone, hlast⟩
    · exact .inl ⟨a :: before, a', after, by rw [hsplit, List.cons_append], hgives⟩
    · rw [hlast]
      cases hgiven : given a with
      | none =>
        refine .inr ⟨List.forall_mem_cons.2 ⟨fun b h => ?_, hnone⟩, rfl⟩
        exact Option.some_ne_none b (h.symm.trans hgiven)
      | some b => exact .inl ⟨[], a, as, rfl, hgiven, hnone⟩

/-- Members that give nothing give an empty list. -/
theorem filterMap_eq_nil_of {given : α → Option β} {as : List α}
    (h : ∀ a ∈ as, ∀ b, ¬ given a = some b) : as.filterMap given = [] :=
  List.filterMap_eq_nil_iff.2 fun a ha => Option.eq_none_iff_forall_ne_some.2 (h a ha)

/-- What the last such member gives is found from the end, so there is only one. -/
theorem lastGives_iff {given : α → Option β} {as : List α} {default b : β} :
    LastGives (fun a b => given a = some b) as default b ↔
      (as.filterMap given).getLast?.getD default = b := by
  constructor
  · rintro (⟨before, a, after, rfl, hgiven, hnone⟩ | ⟨hnone, rfl⟩)
    · rw [List.filterMap_append, List.filterMap_cons_some hgiven, filterMap_eq_nil_of hnone,
        List.getLast?_concat, Option.getD_some]
    · rw [filterMap_eq_nil_of hnone, List.getLast?_nil, Option.getD_none]
  · rintro rfl
    exact lastGives_getLast? given as default

/-- A list of partial values all has values just if each of its members has one. -/
theorem mapM_eq_some_iff {f : α → Option β} {as : List α} {bs : List β} :
    as.mapM f = some bs ↔ (∀ a ∈ as, ∃ b, f a = some b) ∧ as.filterMap f = bs := by
  induction as generalizing bs with
  | nil => simp
  | cons a as ih =>
    rw [List.mapM_cons, List.forall_mem_cons]
    cases hf : f a with
    | none => simp
    | some b =>
      rw [List.filterMap_cons_some hf]
      change (as.mapM f).bind (fun bs => some (b :: bs)) = some bs ↔ _
      constructor
      · intro h
        obtain ⟨bs', hbs', hcons⟩ := Option.bind_eq_some_iff.1 h
        obtain ⟨hall, rfl⟩ := ih.1 hbs'
        exact ⟨⟨⟨b, rfl⟩, hall⟩, Option.some.inj hcons⟩
      · rintro ⟨⟨-, hall⟩, rfl⟩
        exact Option.bind_eq_some_iff.2 ⟨_, ih.2 ⟨hall, rfl⟩, rfl⟩

/-- What the members of a list give is given by those of a kind, if others give nothing. -/
theorem filterMap_filter_of {given : α → Option β} {kind : α → Bool} {as : List α}
    (h : ∀ a ∈ as, ∀ b, given a = some b → kind a = true) :
    (as.filter kind).filterMap given = as.filterMap given := by
  induction as with
  | nil => rfl
  | cons a as ih =>
    obtain ⟨ha, has⟩ := List.forall_mem_cons.1 h
    cases hkind : kind a with
    | true => rw [List.filter_cons_of_pos hkind, List.filterMap_cons, List.filterMap_cons, ih has]
    | false =>
      have hnone : given a = none := by
        refine Option.eq_none_iff_forall_ne_some.2 fun b hb => ?_
        rw [ha b hb] at hkind
        cases hkind
      rw [List.filter_cons_of_neg (by rw [hkind]; decide), List.filterMap_cons_none hnone, ih has]

end

/-! ### Colours -/

namespace Color

/-- Every colour. -/
def all : List Color :=
  [unset, black, red, green, yellow, blue, magenta, cyan, white, brightBlack, brightRed,
    brightGreen, brightYellow, brightBlue, brightMagenta, brightCyan, brightWhite]

/-- No colour is left out. -/
theorem mem_all (c : Color) : c ∈ all := by
  cases c <;> decide

/-- What a colour is called, in small letters and with hyphens. -/
def labels : Color → List String
  | unset => ["default"]
  | black => ["black"]
  | red => ["red"]
  | green => ["green"]
  | yellow => ["yellow"]
  | blue => ["blue"]
  | magenta => ["magenta"]
  | cyan => ["cyan"]
  | white => ["white"]
  | brightBlack => ["bright-black", "gray", "grey"]
  | brightRed => ["bright-red"]
  | brightGreen => ["bright-green"]
  | brightYellow => ["bright-yellow"]
  | brightBlue => ["bright-blue"]
  | brightMagenta => ["bright-magenta"]
  | brightCyan => ["bright-cyan"]
  | brightWhite => ["bright-white"]

/-- Whether a text in small letters is the name of a colour; underscores may stand for hyphens. -/
def isCalled (c : Color) (name : List Char) : Bool :=
  c.labels.any (·.toList == name.map hyphenated)

/-- **A text names a colour just if the colour is called so in small letters.** -/
theorem ofName?_eq_some_iff {cs : List Char} {c : Color} :
    ofName? cs = some c ↔ c.isCalled (Text.lower cs) = true := by
  have hnames : ∀ entry ∈ names, entry.1 ∈ entry.2.labels := by decide
  have hlabels : ∀ c ∈ all, ∀ label ∈ c.labels,
      names.find? (fun entry => entry.1.toList == label.toList) = some (label, c) := by decide
  unfold ofName? isCalled
  rw [List.any_eq_true]
  constructor
  · intro h
    obtain ⟨entry, hfind, rfl⟩ := Option.map_eq_some_iff.1 h
    have hname := List.find?_some hfind
    exact ⟨entry.1, hnames entry (List.mem_of_find?_eq_some hfind), hname⟩
  · rintro ⟨label, hlabel, hname⟩
    rw [← eq_of_beq hname, hlabels c (mem_all c) label hlabel]
    rfl

/-- Whether a text in small letters is the name of some colour. -/
def isName (name : List Char) : Bool :=
  all.any (·.isCalled name)

/-- A text is a name just if some colour is called so. -/
theorem isName_iff {name : List Char} :
    isName name = true ↔ ∃ c : Color, c.isCalled name = true := by
  unfold isName
  rw [List.any_eq_true]
  exact ⟨fun ⟨c, _, hc⟩ => ⟨c, hc⟩, fun ⟨c, hc⟩ => ⟨c, mem_all c, hc⟩⟩

/-- No colour has a name that begins as a background does. -/
theorem not_isName_on (name : List Char) : isName ("on-".toList ++ name) = false := by
  have hlabels : ∀ c ∈ all, ∀ label ∈ c.labels, ¬ "on-".toList <+: label.toList := by decide
  rw [← Bool.not_eq_true, isName_iff]
  rintro ⟨c, hc⟩
  obtain ⟨label, hlabel, hname⟩ := List.any_eq_true.1 hc
  refine hlabels c (mem_all c) label hlabel ?_
  rw [eq_of_beq hname, List.map_append]
  exact List.prefix_append _ _

end Color

/-! ### Words -/

namespace Style
namespace Word

/-- What a word in small letters means. -/
inductive Means : List Char → Word → Prop
  | bold : Means "bold".toList .bold
  | italic : Means "italic".toList .italic
  | underline : Means "underline".toList .underline
  | reverse : Means "reverse".toList .reverse
  | background {name : List Char} {c : Color} :
    c.isCalled name = true → Means ("on-".toList ++ name) (.background c)
  | foreground {name : List Char} {c : Color} :
    c.isCalled name = true → Means name (.foreground c)

variable {w : List Char} {x : Word}

/-- A word in small letters that is understood means what it is understood as. -/
theorem means_of_ofLower? (hlower : Text.lower w = w) (h : ofLower? w = some x) : Means w x := by
  unfold ofLower? at h
  split at h
  · next hw =>
    obtain rfl := Option.some.inj h
    rw [eq_of_beq hw]
    exact .bold
  split at h
  · next hw =>
    obtain rfl := Option.some.inj h
    rw [eq_of_beq hw]
    exact .italic
  split at h
  · next hw =>
    obtain rfl := Option.some.inj h
    rw [eq_of_beq hw]
    exact .underline
  split at h
  · next hw =>
    obtain rfl := Option.some.inj h
    rw [eq_of_beq hw]
    exact .reverse
  split at h
  · next name _ _ _ _ =>
    obtain ⟨c, hc, rfl⟩ := Option.map_eq_some_iff.1 h
    have hname : Text.lower name = name := (List.append_right_inj "on-".toList).1 hlower
    rw [Color.ofName?_eq_some_iff, hname] at hc
    exact .background hc
  · obtain ⟨c, hc, rfl⟩ := Option.map_eq_some_iff.1 h
    rw [Color.ofName?_eq_some_iff, hlower] at hc
    exact .foreground hc

/-- The name of a colour is no other word. -/
theorem ofLower?_of_isName (h : Color.isName w = true) :
    ofLower? w = (Color.ofName? w).map foreground := by
  -- the attributes and backgrounds are tried first, and none of them is the name of a colour
  have hne : ∀ v, Color.isName v = false → ¬ (w == v) = true := by
    intro v hv heq
    rw [eq_of_beq heq, hv] at h
    exact Bool.false_ne_true h
  unfold ofLower?
  rw [if_neg (hne _ (by decide)), if_neg (hne _ (by decide)), if_neg (hne _ (by decide)),
    if_neg (hne _ (by decide))]
  split
  · next name =>
    exact absurd (h.symm.trans (Color.not_isName_on name)) (by decide)
  · rfl

/-- A word in small letters that means something is understood. A foreground is tried last, and none
of those tried first takes the name of a colour. -/
theorem ofLower?_of_means (hlower : Text.lower w = w) (h : Means w x) : ofLower? w = some x := by
  cases h with
  | bold => rfl
  | italic => rfl
  | underline => rfl
  | reverse => rfl
  | @background name c hc =>
    have hname : Text.lower name = name := (List.append_right_inj "on-".toList).1 hlower
    change (Color.ofName? name).map background = some (background c)
    rw [Color.ofName?_eq_some_iff.2 (by rwa [hname])]
    rfl
  | @foreground _ c hc =>
    rw [ofLower?_of_isName (Color.isName_iff.2 ⟨c, hc⟩),
      Color.ofName?_eq_some_iff.2 (by rwa [hlower])]
    rfl

/-- **A word is understood just if it means something in small letters**, and as that. -/
theorem ofText?_eq_some_iff : ofText? w = some x ↔ Means (Text.lower w) x :=
  ⟨means_of_ofLower? (Text.lower_lower w), ofLower?_of_means (Text.lower_lower w)⟩

/-- How a word that names an attribute is written in small letters. -/
def attribute? : Word → Option (List Char)
  | bold => some "bold".toList
  | italic => some "italic".toList
  | underline => some "underline".toList
  | reverse => some "reverse".toList
  | _ => none

/-- The colour that a word sets behind the text, and that of the text. -/
def background? : Word → Option Color
  | background c => some c
  | _ => none

def foreground? : Word → Option Color
  | foreground c => some c
  | _ => none

end Word

/-! ### Styles -/

/-- **Words that are obeyed leave the last colour of each kind and every attribute that is
named**, and what nothing was said about as it was. -/
theorem foldl_obey (ws : List Word) (s : Style) :
    ws.foldl Word.obey s =
      { foreground := (ws.filterMap Word.foreground?).getLast?.getD s.foreground
        background := (ws.filterMap Word.background?).getLast?.getD s.background
        bold := s.bold || ws.contains .bold
        italic := s.italic || ws.contains .italic
        underline := s.underline || ws.contains .underline
        reverse := s.reverse || ws.contains .reverse } := by
  induction ws generalizing s with
  | nil => simp
  | cons w ws ih =>
    rw [List.foldl_cons, ih, getD_getLast?_filterMap_cons, getD_getLast?_filterMap_cons]
    cases w <;> simp [Word.obey, Word.foreground?, Word.background?]

/-- The attributes and colours of a style that words describe. -/
theorem ofWords_eq (ws : List Word) :
    ofWords ws =
      { foreground := (ws.filterMap Word.foreground?).getLast?.getD .unset
        background := (ws.filterMap Word.background?).getLast?.getD .unset
        bold := ws.contains .bold
        italic := ws.contains .italic
        underline := ws.contains .underline
        reverse := ws.contains .reverse } := by
  unfold ofWords
  rw [foldl_obey]
  simp [plain]

/-- A description is understood just if each of its words is, and it describes what they say
together. -/
theorem ofText?_eq_some_iff {cs : List Char} {s : Style} :
    ofText? cs = some s ↔
      (∀ w ∈ Text.words cs, ∃ x, Word.Means (Text.lower w) x) ∧
        ofWords ((Text.words cs).filterMap Word.ofText?) = s := by
  unfold ofText?
  rw [Option.map_eq_some_iff]
  simp only [mapM_eq_some_iff, Word.ofText?_eq_some_iff, and_assoc]
  constructor
  · rintro ⟨ws, hmeans, rfl, hs⟩
    exact ⟨hmeans, hs⟩
  · rintro ⟨hmeans, hs⟩
    exact ⟨_, hmeans, rfl, hs⟩

/-! ### What the words of a description say -/

namespace Word

variable {w : List Char} {c : Color}

/-- Only the word of a foreground sets the colour of the text. -/
theorem foreground?_eq_some_iff {x : Word} : foreground? x = some c ↔ x = foreground c := by
  cases x <;> simp [foreground?]

/-- Only the word of a background sets the colour behind it. -/
theorem background?_eq_some_iff {x : Word} : background? x = some c ↔ x = background c := by
  cases x <;> simp [background?]

/-- A word is a foreground just if it is the name of a colour. -/
theorem means_foreground_iff : Means w (foreground c) ↔ c.isCalled w = true := by
  constructor
  · rintro ⟨⟩
    assumption
  · exact Means.foreground

/-- An attribute is written in one way. -/
theorem means_attribute_iff {x : Word} {label : List Char} (h : x.attribute? = some label) :
    Means w x ↔ w = label := by
  constructor
  · rintro ⟨⟩ <;> cases h <;> rfl
  · rintro rfl
    cases x <;> cases h
    · exact .bold
    · exact .italic
    · exact .underline
    · exact .reverse

/-- A word sets the colour of the text just if it is a name of that colour. -/
theorem bind_foreground?_eq_some_iff :
    (ofText? w).bind foreground? = some c ↔ c.isCalled (Text.lower w) = true := by
  simp [Option.bind_eq_some_iff, foreground?_eq_some_iff, ofText?_eq_some_iff,
    means_foreground_iff]

/-- A word sets the colour behind the text just if it means that background. -/
theorem bind_background?_eq_some_iff :
    (ofText? w).bind background? = some c ↔ Means (Text.lower w) (background c) := by
  simp [Option.bind_eq_some_iff, background?_eq_some_iff, ofText?_eq_some_iff]

end Word

variable {cs : List Char} {s : Style}

/-- The background of a style is the last one that a word of its description sets. -/
theorem background_eq (h : ofText? cs = some s) :
    ((Text.words cs).filterMap fun w => (Word.ofText? w).bind Word.background?).getLast?.getD
      .unset = s.background := by
  obtain ⟨-, rfl⟩ := ofText?_eq_some_iff.1 h
  rw [ofWords_eq, ← List.filterMap_filterMap]

/-- So is the foreground. -/
theorem foreground_eq (h : ofText? cs = some s) :
    ((Text.words cs).filterMap fun w => (Word.ofText? w).bind Word.foreground?).getLast?.getD
      .unset = s.foreground := by
  obtain ⟨-, rfl⟩ := ofText?_eq_some_iff.1 h
  rw [ofWords_eq, ← List.filterMap_filterMap]

/-- **The background is that of the last word that means one.** -/
theorem lastGives_background (h : ofText? cs = some s) :
    LastGives (fun w c => Word.Means (Text.lower w) (.background c)) (Text.words cs) .unset
      s.background := by
  simpa only [Word.bind_background?_eq_some_iff] using lastGives_iff.2 (background_eq h)

/-- **The foreground is that of the last word that is the name of a colour.** -/
theorem lastGives_foreground (h : ofText? cs = some s) :
    LastGives (fun w c => c.isCalled (Text.lower w) = true) (Text.words cs) .unset
      s.foreground := by
  simpa only [Word.bind_foreground?_eq_some_iff] using lastGives_iff.2 (foreground_eq h)

/-- An attribute is named just if the word for it is there. -/
theorem contains_filterMap_iff {ws : List (List Char)} {x : Word} {label : List Char}
    (h : x.attribute? = some label) :
    (ws.filterMap Word.ofText?).contains x = true ↔ label ∈ ws.map Text.lower := by
  simp [List.mem_filterMap, Word.ofText?_eq_some_iff, Word.means_attribute_iff h]

/-! ### The order of the words -/

/-- Whether a word in small letters means a background. -/
def Word.isBackground (w : List Char) : Bool :=
  "on-".toList.isPrefixOf w && Color.isName (w.drop 3)

/-- The same words in another order, in which the names of colours follow each other as before, and
so do the backgrounds. -/
structure Reordered (ws ws' : List (List Char)) : Prop where
  perm : ws.Perm ws'
  foregrounds : ws.filter Color.isName = ws'.filter Color.isName
  backgrounds : ws.filter Word.isBackground = ws'.filter Word.isBackground

/-- Words that are left where they are count as reordered. -/
theorem Reordered.refl (ws : List (List Char)) : Reordered ws ws :=
  ⟨.refl ws, rfl, rfl⟩

instance (ws ws' : List (List Char)) : Decidable (Reordered ws ws') :=
  decidable_of_iff (ws.Perm ws' ∧ ws.filter Color.isName = ws'.filter Color.isName ∧
    ws.filter Word.isBackground = ws'.filter Word.isBackground)
    ⟨fun ⟨h₁, h₂, h₃⟩ => ⟨h₁, h₂, h₃⟩, fun ⟨h₁, h₂, h₃⟩ => ⟨h₁, h₂, h₃⟩⟩

/-- A word that means a background looks like one. -/
theorem Word.isBackground_of_means {w : List Char} {c : Color} (h : Means w (.background c)) :
    isBackground w = true := by
  cases h with
  | @background name _ hc =>
    change (true && Color.isName name) = true
    exact Color.isName_iff.2 ⟨c, hc⟩

/-- Capitals make no difference to what a word is understood as. -/
theorem Word.ofText?_lower (w : List Char) : ofText? (Text.lower w) = ofText? w := by
  unfold ofText?
  rw [Text.lower_lower]

section

variable {vs vs' : List (List Char)} (hsmall : ∀ v ∈ vs, Text.lower v = v)
include hsmall

/-- The foregrounds of some words are those of the words that name colours. -/
theorem filterMap_foreground? :
    (vs.filterMap Word.ofText?).filterMap Word.foreground? =
      (vs.filter Color.isName).filterMap fun v => (Word.ofText? v).bind Word.foreground? := by
  rw [List.filterMap_filterMap]
  refine (filterMap_filter_of fun v hv c hc => ?_).symm
  rw [Word.bind_foreground?_eq_some_iff, hsmall v hv] at hc
  exact Color.isName_iff.2 ⟨c, hc⟩

/-- The backgrounds of some words are those of the words that look like one. -/
theorem filterMap_background? :
    (vs.filterMap Word.ofText?).filterMap Word.background? =
      (vs.filter Word.isBackground).filterMap fun v => (Word.ofText? v).bind Word.background? := by
  rw [List.filterMap_filterMap]
  refine (filterMap_filter_of fun v hv c hc => ?_).symm
  rw [Word.bind_background?_eq_some_iff, hsmall v hv] at hc
  exact Word.isBackground_of_means hc

/-- Colours count in the order of their kind, and attributes in no order. -/
theorem ofWords_of_reordered (h : Reordered vs vs') :
    ofWords (vs'.filterMap Word.ofText?) = ofWords (vs.filterMap Word.ofText?) := by
  have hsmall' : ∀ v ∈ vs', Text.lower v = v := fun v hv => hsmall v (h.perm.mem_iff.2 hv)
  have hcontains : ∀ x, (vs'.filterMap Word.ofText?).contains x =
      (vs.filterMap Word.ofText?).contains x :=
    fun x => (h.perm.symm.filterMap _).contains_eq
  rw [ofWords_eq, ofWords_eq, filterMap_foreground? hsmall, filterMap_foreground? hsmall',
    filterMap_background? hsmall, filterMap_background? hsmall', h.foregrounds, h.backgrounds]
  simp only [hcontains]

end

/-- **Neither capitals nor blanks nor the order of words that are not alike matter.** -/
theorem ofText?_of_reordered {cs cs' : List Char}
    (h : Reordered ((Text.words cs).map Text.lower) ((Text.words cs').map Text.lower)) :
    ofText? cs' = ofText? cs := by
  have hsmall : ∀ v ∈ (Text.words cs).map Text.lower, Text.lower v = v := by
    intro v hv
    obtain ⟨w, -, rfl⟩ := List.mem_map.1 hv
    exact Text.lower_lower w
  have hread : ∀ ws : List (List Char),
      (ws.map Text.lower).filterMap Word.ofText? = ws.filterMap Word.ofText? := by
    intro ws
    rw [List.filterMap_map]
    exact congrArg (List.filterMap · ws) (funext Word.ofText?_lower)
  have hsame := ofWords_of_reordered hsmall h
  rw [hread, hread] at hsame
  have hmeans : (∀ w ∈ Text.words cs', ∃ x, Word.Means (Text.lower w) x) ↔
      ∀ w ∈ Text.words cs, ∃ x, Word.Means (Text.lower w) x := by
    have hall (ws : List (List Char)) : (∀ w ∈ ws, ∃ x, Word.Means (Text.lower w) x) ↔
        ∀ v ∈ ws.map Text.lower, ∃ x, Word.Means v x :=
      (List.forall_mem_map (f := Text.lower) (P := fun v => ∃ x, Word.Means v x)).symm
    rw [hall, hall]
    exact forall_congr' fun v => imp_congr_left h.perm.symm.mem_iff
  ext s
  rw [ofText?_eq_some_iff, ofText?_eq_some_iff, hsame, hmeans]

/-! ### Descriptions -/

/-- **A description is understood just if each of its words is**, where capitals do not count: an
attribute, the name of a colour, or such a name behind `on-`.  The style has the attributes that are
named and the background that is named last; without the name of a colour it has no foreground.
Capitals make no difference, and neither do the blanks between the words, nor the order of the
words as long as the names of colours follow each other as before and so do the backgrounds. -/
theorem description_words (cs : List Char) :
    ∃ ws, Text.Spaced ws cs ∧
      ((∃ s, ofText? cs = some s) ↔ ∀ w ∈ ws, ∃ x, Word.Means (Text.lower w) x) ∧
      (∀ s, ofText? cs = some s →
        (s.bold = true ↔ "bold".toList ∈ ws.map Text.lower) ∧
        (s.italic = true ↔ "italic".toList ∈ ws.map Text.lower) ∧
        (s.underline = true ↔ "underline".toList ∈ ws.map Text.lower) ∧
        (s.reverse = true ↔ "reverse".toList ∈ ws.map Text.lower) ∧
        LastGives (fun w c => Word.Means (Text.lower w) (.background c)) ws .unset s.background ∧
        ((∀ w ∈ ws, Color.isName (Text.lower w) = false) → s.foreground = .unset)) ∧
      (∀ cs', Text.lower cs' = Text.lower cs → ofText? cs' = ofText? cs) ∧
      ∀ cs' ws', Text.Spaced ws' cs' → Reordered (ws.map Text.lower) (ws'.map Text.lower) →
        ofText? cs' = ofText? cs := by
  refine ⟨Text.words cs, Text.spaced_iff.2 rfl, ?_, fun s hs => ?_, fun cs' hcs' => ?_,
    fun cs' ws' hws' h => ?_⟩
  · constructor
    · rintro ⟨s, hs⟩
      exact (ofText?_eq_some_iff.1 hs).1
    · exact fun hmeans => ⟨_, ofText?_eq_some_iff.2 ⟨hmeans, rfl⟩⟩
  · have hback := lastGives_background hs
    have hfore := lastGives_foreground hs
    obtain ⟨-, rfl⟩ := ofText?_eq_some_iff.1 hs
    rw [ofWords_eq] at hback hfore ⊢
    refine ⟨contains_filterMap_iff rfl, contains_filterMap_iff rfl, contains_filterMap_iff rfl,
      contains_filterMap_iff rfl, hback, fun hnone => ?_⟩
    rcases hfore with ⟨before, w, after, hsplit, hw, -⟩ | ⟨-, hunset⟩
    · have hmem : w ∈ Text.words cs := by
        rw [hsplit]
        exact List.mem_append_right before List.mem_cons_self
      exact absurd (hnone w hmem) (by rw [Color.isName_iff.2 ⟨_, hw⟩]; decide)
    · exact hunset
  · refine ofText?_of_reordered ?_
    rw [← Text.words_lower, ← Text.words_lower, hcs']
    exact .refl _
  · obtain rfl := hws'.words_eq
    exact ofText?_of_reordered h

/-- Blanks, capitals and the places of attributes and backgrounds differ; the colours of each kind
keep their order. -/
theorem description_words_of_shuffled :
    ofText? "\tBOLD on-bright_blue\u3000Red on-black Gray".toList =
      ofText? "red  on-Bright_Blue grAY bold\non-black".toList := by
  obtain ⟨ws, hws, -, -, -, hsame⟩ :=
    description_words "red  on-Bright_Blue grAY bold\non-black".toList
  have hws' : Text.Spaced _ "\tBOLD on-bright_blue\u3000Red on-black Gray".toList :=
    Text.spaced_iff.2 rfl
  obtain rfl := hws.words_eq
  exact hsame _ _ hws' (by decide)

/-! ### The first colour -/

/-- **The first name of a colour is that of the foreground just if the last one names the same
colour**: what the first one says stands only as long as no other name follows. -/
theorem foreground_first_iff {before after : List (List Char)} {w : List Char} {c : Color}
    (hws : Text.Spaced (before ++ w :: after) cs) (hs : ofText? cs = some s)
    (hbefore : ∀ v ∈ before, Color.isName (Text.lower v) = false)
    (hw : c.isCalled (Text.lower w) = true) :
    LastGives (fun v d => d.isCalled (Text.lower v) = true) after c s.foreground ∧
      (s.foreground = c ↔
        LastGives (fun v d => d.isCalled (Text.lower v) = true) after c c) := by
  have hnone : ∀ v ∈ before, ∀ d, ¬ (Word.ofText? v).bind Word.foreground? = some d := by
    intro v hv d hd
    rw [Word.bind_foreground?_eq_some_iff] at hd
    exact absurd (hbefore v hv) (by rw [Color.isName_iff.2 ⟨d, hd⟩]; decide)
  have hlast : (after.filterMap fun v => (Word.ofText? v).bind Word.foreground?).getLast?.getD c =
      s.foreground := by
    rw [← foreground_eq hs, hws.words_eq, List.filterMap_append, filterMap_eq_nil_of hnone,
      List.nil_append, getD_getLast?_filterMap_cons, Word.bind_foreground?_eq_some_iff.2 hw,
      Option.getD_some]
  simp only [← Word.bind_foreground?_eq_some_iff, lastGives_iff, hlast, true_and]

/-- With one more name of another colour behind it, and an attribute and a background between. -/
theorem foreground_first_iff_of_two :
    LastGives (fun v d => d.isCalled (Text.lower v) = true)
      ["bold".toList, "on-red".toList, "GREY".toList] Color.red .brightBlack ∧
    (Color.brightBlack = .red ↔ LastGives (fun v d => d.isCalled (Text.lower v) = true)
      ["bold".toList, "on-red".toList, "GREY".toList] Color.red .red) := by
  have hws : Text.Spaced (["reverse".toList] ++
      "Red".toList :: ["bold".toList, "on-red".toList, "GREY".toList])
      "reverse Red bold on-red GREY".toList := Text.spaced_iff.2 (by decide)
  have hs : ofText? "reverse Red bold on-red GREY".toList =
      some { foreground := .brightBlack, background := .red, bold := true, reverse := true } := by
    decide
  exact foreground_first_iff hws hs (by decide) (by decide)

/-- A second colour takes the place of the first. -/
theorem foreground_ne_first_of_two :
    Text.Spaced ["red".toList, "blue".toList] "red blue".toList ∧
      Color.red.isCalled (Text.lower "red".toList) = true ∧
      ofText? "red blue".toList = some { foreground := .blue } ∧
      Style.foreground { foreground := .blue } ≠ .red :=
  ⟨Text.spaced_iff.2 (by decide), by decide, by decide, by decide⟩

end Style
end TuneEditor
