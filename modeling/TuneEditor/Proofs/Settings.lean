/-
# What a table of settings gives

The tables `editor` and `theme` have to be tables if they are there, and nothing else is refused
(`Misplaced`).  Every setting of the editor is up to its own key.  The style of a tag, and that of
the selection, is up to the entries whose key is its name, where capitals do not count; the last of
those that describe a style counts (`Follows`).

Whatever else the tables hold makes no difference (`ofText_follows_entries`).  All this is said of
tables in order, and every text that can be read gives one.
-/

import TuneEditor.Proofs.Toml.Reading
import TuneEditor.Settings

namespace TuneEditor

/-- A text names a tag just if it is the name of that tag, where capitals do not count. -/
theorem Tag.ofName?_eq_some_iff {cs : List Char} {tag : Tag} :
    Tag.ofName? cs = some tag ↔ Text.lower cs = Text.lower tag.name.toList := by
  have hlabels : ∀ t ∈ Tag.all, ∀ u ∈ Tag.all,
      Text.lower t.name.toList = Text.lower u.name.toList → t = u := by decide
  unfold Tag.ofName?
  constructor
  · intro h
    have hnamed := List.find?_some h
    exact (eq_of_beq hnamed).symm
  · intro h
    cases hfind : Tag.all.find? (·.isNamed cs) with
    | none =>
      refine absurd ?_ (List.find?_eq_none.1 hfind tag (Tag.mem_all tag))
      exact beq_iff_eq.2 h.symm
    | some other =>
      have hnamed := List.find?_some hfind
      rw [hlabels other (Tag.mem_all other) tag (Tag.mem_all tag) ((eq_of_beq hnamed).trans h)]

/-! ### The parts of a theme -/

namespace Theme

/-- The style of a tag, or that of the selection. -/
def part (t : Theme) : Option Tag → Style
  | none => t.selection
  | some tag => t.style tag

/-- The name of a tag, or that of the selection. -/
def label : Option Tag → String
  | none => "selection"
  | some tag => tag.name

end Theme

namespace Settings

/-- The style that an entry describes for a name. -/
def describedBy (name : String) : List Char × Toml.Value → Option Style
  | (key, .string description) =>
    if Text.lower key = Text.lower name.toList then Style.ofText? description else none
  | _ => none

/-- A name is not that of the selection and of a tag. -/
theorem lower_name_ne (tag : Tag) : Text.lower tag.name.toList ≠ "selection".toList := by
  have hall : ∀ t ∈ Tag.all, Text.lower t.name.toList ≠ "selection".toList := by decide
  exact hall tag (Tag.mem_all tag)

/-- A theme in which an accepted style stands under a key. -/
theorem part_applyStyle_of_some {th : Theme} {key description : List Char} {style : Style}
    (hstyle : Style.ofText? description = some style) (p : Option Tag) :
    (applyStyle th (key, .string description)).1.part p =
      if Text.lower key = Text.lower (Theme.label p).toList then style else th.part p := by
  unfold applyStyle
  simp only [hstyle]
  cases p with
  | none =>
    change _ = if Text.lower key = "selection".toList then style else th.part none
    split
    · rfl
    · split <;> rfl
  | some tag =>
    change _ = if Text.lower key = Text.lower tag.name.toList then style else th.style tag
    split
    · next hselection =>
      -- the name of the selection is that of no tag
      rw [if_neg fun htag => lower_name_ne tag (htag.symm.trans hselection)]
      rfl
    split
    · next other hother =>
      change (if tag = other then style else th.style tag) = _
      refine if_congr ⟨?_, fun htag => ?_⟩ rfl rfl
      · rintro rfl
        exact Tag.ofName?_eq_some_iff.1 hother
      · rw [Tag.ofName?_eq_some_iff.2 htag] at hother
        exact Option.some.inj hother
    · next hnone =>
      rw [if_neg fun htag => ?_]
      · rfl
      rw [Tag.ofName?_eq_some_iff.2 htag] at hnone
      cases hnone

/-- An entry of the theme sets the style that it describes, and changes nothing else. -/
theorem part_applyStyle (th : Theme) (entry : List Char × Toml.Value) (p : Option Tag) :
    (applyStyle th entry).1.part p = (describedBy (Theme.label p) entry).getD (th.part p) := by
  obtain ⟨key, v⟩ := entry
  cases v with
  | string description =>
    cases hstyle : Style.ofText? description with
    | none => simp only [applyStyle, describedBy, hstyle, ite_self, Option.getD_none]
    | some style =>
      simp only [part_applyStyle_of_some hstyle, describedBy, hstyle,
        apply_ite (Option.getD · (th.part p)), Option.getD_some, Option.getD_none]
  | _ => rfl

/-- The last entry that describes a style for a name counts. -/
theorem part_applyStyles (th : Theme) (es : Toml.Table) (p : Option Tag) :
    (applyStyles th es).1.part p =
      (es.filterMap (describedBy (Theme.label p))).getLast?.getD (th.part p) := by
  induction es generalizing th with
  | nil => rfl
  | cons entry es ih =>
    rw [getD_getLast?_filterMap_cons, ← part_applyStyle]
    exact ih _

/-! ### What entries mean -/

/-- The number that an entry under a key gives, moved between two bounds. -/
def Bounded (key : String) (least most : Nat) (k : List Char) (v : Toml.Value) (x : Nat) : Prop :=
  k = key.toList ∧ ∃ n, v = .integer n ∧ (x : Int) = max (least : Int) (min most n)

/-- The boolean that an entry under a key gives. -/
def Flag (key : String) (k : List Char) (v : Toml.Value) (b : Bool) : Prop :=
  k = key.toList ∧ v = .boolean b

/-- The style that an entry describes for a name, where capitals do not count. -/
def Described (name : String) (k : List Char) (v : Toml.Value) (s : Style) : Prop :=
  Text.lower k = Text.lower name.toList ∧
    ∃ description, v = .string description ∧ Style.ofText? description = some s

/-- Settings that the tables `editor` and `theme` give.  Each setting of the editor is up to its own
key, and each style to the keys that are its name. -/
structure Follows (editor theme : Toml.Table) (s : Settings) : Prop where
  scrollMargin : editor.Says (Bounded "scroll-margin" 0 50) 5 s.scrollMargin
  focusDelay : editor.Says (Bounded "focus-delay-ms" 0 1000) 10 s.focusDelay
  lineNumbers : editor.Says (Flag "line-numbers") false s.lineNumbers
  highlight : editor.Says (Flag "highlight") true s.highlight
  height : editor.Says (Bounded "height" 1 500) 24 s.height
  style : ∀ tag : Tag, theme.Says (Described tag.name) tag.style (s.theme.style tag)
  selection : theme.Says (Described "selection") { reverse := true } s.theme.selection

variable {editor theme : Toml.Table} {s s' : Settings}

/-- A number that is moved between two bounds, said with integers. -/
theorem clampTo_eq {least most : Nat} (h : least ≤ most) (n : Int) :
    (clampTo least most n : Int) = max (least : Int) (min most n) := by
  unfold clampTo
  omega

/-- The number that a value gives between two bounds. -/
def boundedIn (least most : Nat) : Toml.Value → Option Nat
  | .integer n => some (clampTo least most n)
  | _ => none

/-- Only an integer gives a number, and the nearest one between the bounds. -/
theorem boundedIn_eq_some_iff {least most : Nat} (h : least ≤ most) {v : Toml.Value} {x : Nat} :
    boundedIn least most v = some x ↔
      ∃ n, v = .integer n ∧ (x : Int) = max (least : Int) (min most n) := by
  cases v with
  | integer n =>
    simp only [boundedIn, Option.some.injEq, Toml.Value.integer.injEq, exists_eq_left',
      ← clampTo_eq h, Int.natCast_inj, eq_comm]
  | _ => simp [boundedIn]

/-- The boolean that a value gives. -/
def flagIn : Toml.Value → Option Bool
  | .boolean b => some b
  | _ => none

/-- Only a boolean gives one. -/
theorem flagIn_eq_some_iff {v : Toml.Value} {b : Bool} : flagIn v = some b ↔ v = .boolean b := by
  cases v <;> simp [flagIn]

/-- A setting that is a number is up to its own key, and keeps its default where the entry is
missing or no number. -/
theorem says_integerEntry (h : editor.InOrder) (key : String) {least most : Nat}
    (hbounds : least ≤ most) (default : Nat) :
    editor.Says (Bounded key least most) default
      (((integerEntry editor key).value.map (clampTo least most)).getD default) := by
  have hvalue : (integerEntry editor key).value.map (clampTo least most) =
      (editor.get? key.toList).bind (boundedIn least most) := by
    unfold integerEntry
    rcases editor.get? key.toList with - | (_ | _ | _ | _ | _ | _ | _) <;> rfl
  rw [hvalue]
  have hsays := h.says_get? key.toList (boundedIn least most) default
  simp only [boundedIn_eq_some_iff hbounds] at hsays
  exact hsays

/-- So it is with a setting that is a boolean. -/
theorem says_booleanEntry (h : editor.InOrder) (key : String) (default : Bool) :
    editor.Says (Flag key) default ((booleanEntry editor key).value.getD default) := by
  have hvalue : (booleanEntry editor key).value = (editor.get? key.toList).bind flagIn := by
    unfold booleanEntry
    rcases editor.get? key.toList with - | (_ | _ | _ | _ | _ | _ | _) <;> rfl
  rw [hvalue]
  have hsays := h.says_get? key.toList flagIn default
  simp only [flagIn_eq_some_iff] at hsays
  exact hsays

/-- An entry describes a style for a name just if its key is that name and its text can be read as a
style. -/
theorem describedBy_eq_some_iff {name : String} {entry : List Char × Toml.Value} {style : Style} :
    describedBy name entry = some style ↔ Described name entry.1 entry.2 style := by
  obtain ⟨key, v⟩ := entry
  cases v with
  | string description => simp [describedBy, Described]
  | _ => simp [describedBy, Described]

/-- The last entry that describes a style for a name decides, and the theme keeps the others. -/
theorem says_applyStyles (h : theme.InOrder) (th : Theme) (p : Option Tag) :
    theme.Says (Described (Theme.label p)) (th.part p) ((applyStyles th theme).1.part p) := by
  refine h.says_of_lastGives ?_
  rw [part_applyStyles]
  simpa only [describedBy_eq_some_iff] using
    lastGives_getLast? (describedBy (Theme.label p)) theme (th.part p)

/-- The settings that two tables give. -/
def ofSections (editor theme : Toml.Table) : Settings :=
  { (applyEditor {} editor).1 with theme := (applyStyles {} theme).1 }

/-- The settings that are made of two tables follow them, key by key. -/
theorem follows_ofSections (he : editor.InOrder) (ht : theme.InOrder) :
    Follows editor theme (ofSections editor theme) where
  scrollMargin := says_integerEntry he "scroll-margin" (by decide) 5
  focusDelay := says_integerEntry he "focus-delay-ms" (by decide) 10
  lineNumbers := says_booleanEntry he "line-numbers" false
  highlight := says_booleanEntry he "highlight" true
  height := says_integerEntry he "height" (by decide) 24
  style tag := says_applyStyles ht {} (some tag)
  selection := says_applyStyles ht {} none

/-- An entry gives one number at most. -/
theorem Bounded.unique {key : String} {least most : Nat} (k : List Char) (v : Toml.Value)
    (x y : Nat) (hx : Bounded key least most k v x) (hy : Bounded key least most k v y) :
    x = y := by
  obtain ⟨-, n, rfl, hx⟩ := hx
  obtain ⟨-, m, hm, hy⟩ := hy
  cases hm
  exact Int.natCast_inj.1 (hx.trans hy.symm)

/-- An entry gives one boolean at most. -/
theorem Flag.unique {key : String} (k : List Char) (v : Toml.Value) (b c : Bool)
    (hb : Flag key k v b) (hc : Flag key k v c) : b = c := by
  obtain ⟨-, rfl⟩ := hb
  obtain ⟨-, hc⟩ := hc
  cases hc
  rfl

/-- An entry describes one style at most. -/
theorem Described.unique {name : String} (k : List Char) (v : Toml.Value) (x y : Style)
    (hx : Described name k v x) (hy : Described name k v y) : x = y := by
  obtain ⟨-, description, rfl, hx⟩ := hx
  obtain ⟨-, _, hdescription, hy⟩ := hy
  cases hdescription
  exact Option.some.inj (hx.symm.trans hy)

/-- Two tables give one thing. -/
theorem Follows.unique (he : editor.InOrder) (ht : theme.InOrder) (h : Follows editor theme s)
    (h' : Follows editor theme s') : s = s' := by
  have htheme : s.theme = s'.theme := Theme.eq_iff.2
    ⟨fun tag _ => (h.style tag).unique ht Described.unique (h'.style tag),
      h.selection.unique ht Described.unique h'.selection⟩
  have hmargin := h.scrollMargin.unique he Bounded.unique h'.scrollMargin
  have hdelay := h.focusDelay.unique he Bounded.unique h'.focusDelay
  have hnumbers := h.lineNumbers.unique he Flag.unique h'.lineNumbers
  have hhighlight := h.highlight.unique he Flag.unique h'.highlight
  have hheight := h.height.unique he Bounded.unique h'.height
  cases s
  cases s'
  simp only [mk.injEq]
  exact ⟨hmargin, hdelay, hnumbers, hhighlight, hheight, htheme⟩

/-! ### The two tables -/

/-- What stands under a key is no table. -/
def Misplaced (t : Toml.Table) (key : String) : Prop :=
  ∃ v, (key.toList, v) ∈ t ∧ ∀ es, v ≠ .table es

/-- The entries under a key: those of the table that is there, or none if nothing is. -/
def Under (t : Toml.Table) (key : String) (es : Toml.Table) : Prop :=
  (key.toList, .table es) ∈ t ∨ (∀ v, (key.toList, v) ∉ t) ∧ es = []

/-- The entries of a section, which has none if it is not there. -/
def entriesUnder (t : Toml.Table) (key : String) : Except Error Toml.Table :=
  (section? t key).map (·.getD [])

variable {t : Toml.Table} {key : String}

/-- The entries under a key are in order if the whole table is. -/
theorem Under.inOrder {es : Toml.Table} (ht : t.Sorted) (h : Under t key es) : es.InOrder := by
  rcases h with h | ⟨-, rfl⟩
  · exact ht.entries _ h
  · exact .nil

/-- The entries under a key are found just if a table stands there, or nothing. -/
theorem entriesUnder_eq_ok_iff (ht : t.InOrder) {es : Toml.Table} :
    entriesUnder t key = .ok es ↔ Under t key es := by
  unfold entriesUnder section? Under
  rw [← ht.get?_eq_some_iff, ← Toml.Table.get?_eq_none_iff]
  rcases t.get? key.toList with - | (_ | _ | _ | _ | _ | _ | _) <;> simp [Except.map, eq_comm]

/-- The only mistake is that something else stands there, and the error names the key. -/
theorem entriesUnder_eq_error_iff (ht : t.InOrder) {e : Error} :
    entriesUnder t key = .error e ↔ e = .notATable key ∧ Misplaced t key := by
  unfold entriesUnder section? Misplaced
  simp only [← ht.get?_eq_some_iff]
  rcases t.get? key.toList with - | (_ | _ | _ | _ | _ | _ | _) <;> simp [Except.map, eq_comm]

/-- The settings of a file are made of its tables `editor` and `theme`, looked up in that order. -/
theorem fst_ofTable (t : Toml.Table) :
    (ofTable t).1 = (do
      let editor ← entriesUnder t "editor"
      let theme ← entriesUnder t "theme"
      return ofSections editor theme) := by
  unfold ofTable entriesUnder
  rcases section? t "editor" with e | (- | editor)
  · rfl
  all_goals
    rcases section? t "theme" with e | (- | theme) <;> rfl

/-- Settings are refused for one of two reasons, and the one in `editor` comes first. -/
theorem fst_ofTable_eq_error_iff (ht : t.InOrder) {e : Error} :
    (ofTable t).1 = .error e ↔
      e = .notATable "editor" ∧ Misplaced t "editor" ∨
        e = .notATable "theme" ∧ Misplaced t "theme" ∧ ¬ Misplaced t "editor" := by
  rw [fst_ofTable]
  cases heditor : entriesUnder t "editor" with
  | error e' =>
    obtain ⟨rfl, hmisplaced⟩ := (entriesUnder_eq_error_iff ht).1 heditor
    change Except.error (Error.notATable "editor") = .error e ↔ _
    simp [hmisplaced, eq_comm]
  | ok editor =>
    have hplaced : ¬ Misplaced t "editor" := by
      intro hmisplaced
      rw [(entriesUnder_eq_error_iff ht).2 ⟨rfl, hmisplaced⟩] at heditor
      cases heditor
    have htheme : (e = .notATable "theme" ∧ Misplaced t "theme") ↔
        entriesUnder t "theme" = .error e := (entriesUnder_eq_error_iff ht).symm
    simp only [hplaced, not_false_eq_true, and_false, and_true, false_or, htheme]
    cases entriesUnder t "theme" with
    | error e' =>
      change Except.error e' = .error e ↔ _
      rw [Except.error.injEq, Except.error.injEq]
    | ok theme => exact ⟨nofun, nofun⟩

/-- Settings come of a file just if both tables can be found, and they are made of their entries. -/
theorem fst_ofTable_eq_ok_iff (ht : t.InOrder) :
    (ofTable t).1 = .ok s ↔
      ∃ editor theme, Under t "editor" editor ∧ Under t "theme" theme ∧
        ofSections editor theme = s := by
  rw [fst_ofTable]
  simp only [← entriesUnder_eq_ok_iff ht]
  cases entriesUnder t "editor" with
  | error e => exact ⟨nofun, nofun⟩
  | ok editor =>
    cases entriesUnder t "theme" with
    | error e => exact ⟨nofun, nofun⟩
    | ok theme =>
      constructor
      · intro h
        exact ⟨editor, theme, rfl, rfl, Except.ok.inj h⟩
      · rintro ⟨_, _, ⟨⟩, ⟨⟩, rfl⟩
        rfl

/-- **Settings are those that their tables give.** -/
theorem fst_ofTable_eq_ok_iff_follows (ht : t.Sorted) :
    (ofTable t).1 = .ok s ↔
      ∃ editor theme, Under t "editor" editor ∧ Under t "theme" theme ∧
        Follows editor theme s := by
  rw [fst_ofTable_eq_ok_iff ht.inOrder]
  constructor
  · rintro ⟨editor, theme, he, hth, rfl⟩
    exact ⟨editor, theme, he, hth, follows_ofSections (he.inOrder ht) (hth.inOrder ht)⟩
  · rintro ⟨editor, theme, he, hth, h⟩
    exact ⟨editor, theme, he, hth,
      (follows_ofSections (he.inOrder ht) (hth.inOrder ht)).unique (he.inOrder ht)
        (hth.inOrder ht) h⟩

/-! ### Entries that count -/

/-- An entry of the table `editor` that counts. -/
inductive EditorEntry : List Char → Toml.Value → Prop
  | number {key : String} {n : Int} :
    key ∈ ["scroll-margin", "focus-delay-ms", "height"] → EditorEntry key.toList (.integer n)
  | flag {key : String} {b : Bool} :
    key ∈ ["line-numbers", "highlight"] → EditorEntry key.toList (.boolean b)

/-- An entry of the table `theme` that counts. -/
def ThemeEntry (k : List Char) (v : Toml.Value) : Prop :=
  ∃ p style, Described (Theme.label p) k v style

/-- Entries that do not count may come and go. -/
theorem Follows.congr {editor' theme' : Toml.Table} (h : Follows editor theme s)
    (heditor : ∀ k v, EditorEntry k v → ((k, v) ∈ editor ↔ (k, v) ∈ editor'))
    (htheme : ∀ k v, ThemeEntry k v → ((k, v) ∈ theme ↔ (k, v) ∈ theme')) :
    Follows editor' theme' s := by
  have hnumber {key : String} {least most : Nat}
      (hkey : key ∈ ["scroll-margin", "focus-delay-ms", "height"]) k v x
      (hx : Bounded key least most k v x) : (k, v) ∈ editor ↔ (k, v) ∈ editor' := by
    obtain ⟨rfl, n, rfl, -⟩ := hx
    exact heditor _ _ (.number hkey)
  have hflag {key : String} (hkey : key ∈ ["line-numbers", "highlight"]) k v b
      (hb : Flag key k v b) : (k, v) ∈ editor ↔ (k, v) ∈ editor' := by
    obtain ⟨rfl, rfl⟩ := hb
    exact heditor _ _ (.flag hkey)
  have hstyle (p : Option Tag) k v style (hs : Described (Theme.label p) k v style) :
      (k, v) ∈ theme ↔ (k, v) ∈ theme' := htheme k v ⟨p, style, hs⟩
  exact {
    scrollMargin := h.scrollMargin.congr (hnumber (by decide))
    focusDelay := h.focusDelay.congr (hnumber (by decide))
    lineNumbers := h.lineNumbers.congr (hflag (by decide))
    highlight := h.highlight.congr (hflag (by decide))
    height := h.height.congr (hnumber (by decide))
    style := fun tag => (h.style tag).congr (hstyle (some tag))
    selection := h.selection.congr (hstyle none) }

/-- **Each entry counts for itself.**  The table of a text is in order, and the text gives what its
table does.  The settings are refused just if `editor` or `theme` is there and no table, the first
of them first.  If they are not, each setting of the editor is up to its own key and each style to
the keys that are its name, whatever else the tables hold; and with the same entries that count they
are the same. -/
theorem ofText_follows_entries :
    (∀ cs t, Toml.read? cs = some t → t.Sorted ∧ ofText cs = ofTable t) ∧
    ∀ t : Toml.Table, t.Sorted →
      (∀ e, (ofTable t).1 = .error e ↔
        e = .notATable "editor" ∧ Misplaced t "editor" ∨
          e = .notATable "theme" ∧ Misplaced t "theme" ∧ ¬ Misplaced t "editor") ∧
      (∀ s, (ofTable t).1 = .ok s ↔
        ∃ editor theme, Under t "editor" editor ∧ Under t "theme" theme ∧
          Follows editor theme s) ∧
      ∀ t' : Toml.Table, t'.Sorted → ∀ editor theme editor' theme',
        Under t "editor" editor → Under t "theme" theme →
        Under t' "editor" editor' → Under t' "theme" theme' →
        (∀ k v, EditorEntry k v → ((k, v) ∈ editor ↔ (k, v) ∈ editor')) →
        (∀ k v, ThemeEntry k v → ((k, v) ∈ theme ↔ (k, v) ∈ theme')) →
        (ofTable t').1 = (ofTable t).1 := by
  refine ⟨fun cs t hread => ⟨Toml.sorted_of_read? hread, ?_⟩, fun t ht =>
    ⟨fun e => fst_ofTable_eq_error_iff ht.inOrder, fun s => fst_ofTable_eq_ok_iff_follows ht, ?_⟩⟩
  · unfold ofText
    rw [hread]
  · intro t' ht' editor theme editor' theme' he hth he' hth' heditor htheme
    have h := follows_ofSections (he.inOrder ht) (hth.inOrder ht)
    rw [(fst_ofTable_eq_ok_iff_follows ht).2 ⟨editor, theme, he, hth, h⟩,
      (fst_ofTable_eq_ok_iff_follows ht').2 ⟨editor', theme', he', hth', h.congr heditor htheme⟩]

/-- Entries of the wrong kind, with unknown keys or bad descriptions are left out; of the others two
name one tag. -/
theorem ofText_follows_entries_of_mixed :
    let editor : Toml.Table :=
      [("Height".toList, .integer 7), ("focus-delay-ms".toList, .string "soon".toList),
        ("height".toList, .integer 9223372036854775807), ("highlight".toList, .boolean false),
        ("line-numbers".toList, .integer 1), ("scroll-margin".toList, .integer (-3))]
    let theme : Toml.Table :=
      [("NOTE".toList, .string "red".toList), ("Note".toList, .string "blue bold".toList),
        ("SELECTION".toList, .string "on-blue".toList), ("bar".toList, .boolean true),
        ("note".toList, .string "bluish".toList), ("tempo".toList, .string "red".toList)]
    let editor' : Toml.Table :=
      [("height".toList, .integer 9223372036854775807), ("highlight".toList, .boolean false),
        ("scroll-margin".toList, .integer (-3))]
    let theme' : Toml.Table :=
      [("NOTE".toList, .string "red".toList), ("Note".toList, .string "blue bold".toList),
        ("SELECTION".toList, .string "on-blue".toList)]
    let t : Toml.Table :=
      [("editor".toList, .table editor), ("theme".toList, .table theme),
        ("title".toList, .integer 1)]
    let t' : Toml.Table := [("editor".toList, .table editor'), ("theme".toList, .table theme')]
    let s := ofSections editor theme
    t.Sorted ∧ (ofTable t').1 = (ofTable t).1 ∧ (ofTable t).1 = .ok s ∧
      (s.scrollMargin, s.focusDelay, s.lineNumbers, s.highlight, s.height) =
        (0, 10, false, false, 500) ∧
      s.theme.style .note = { foreground := .blue, bold := true } ∧
      s.theme.style .bar = Tag.bar.style ∧
      s.theme.selection = { background := .blue } := by
  intro editor theme editor' theme' t t' s
  have ht : t.Sorted := by decide +kernel
  have ht' : t'.Sorted := by decide +kernel
  refine ⟨ht, (ofText_follows_entries.2 t ht).2.2 t' ht' editor theme editor' theme'
    (.inl List.mem_cons_self) (.inl (List.mem_cons_of_mem _ List.mem_cons_self))
    (.inl List.mem_cons_self) (.inl (List.mem_cons_of_mem _ List.mem_cons_self)) ?_ ?_, rfl,
    by decide +kernel, by decide +kernel, by decide +kernel, by decide +kernel⟩
  · rintro _ _ (⟨hkey⟩ | ⟨hkey⟩)
    · simp only [List.mem_cons, List.not_mem_nil, or_false] at hkey
      rcases hkey with rfl | rfl | rfl <;> simp [editor, editor']
    · simp only [List.mem_cons, List.not_mem_nil, or_false] at hkey
      rcases hkey with rfl | rfl <;> simp [editor, editor']
  · rintro k v ⟨p, style, hname, description, rfl, hstyle⟩
    have hdescription : description ≠ "bluish".toList := by
      rintro rfl
      rw [show Style.ofText? "bluish".toList = none by decide] at hstyle
      cases hstyle
    have hkey : k ≠ "tempo".toList := by
      rintro rfl
      have hnone : Text.lower "tempo".toList ≠ "selection".toList ∧
          ∀ tag ∈ Tag.all, Text.lower "tempo".toList ≠ Text.lower tag.name.toList := by decide
      cases p with
      | none => exact hnone.1 hname
      | some tag => exact hnone.2 tag (Tag.mem_all tag) hname
    simp only [theme, theme', List.mem_cons, Prod.mk.injEq, Toml.Value.string.injEq,
      List.not_mem_nil, hdescription, hkey, reduceCtorEq, false_and, and_false, or_false]

end Settings
end TuneEditor
