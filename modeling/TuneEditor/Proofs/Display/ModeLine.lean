/-
# How far the mode line reaches

The dashes that fill up the mode line are counted by the bytes that are missing, while
a screen counts columns.  A character takes no more columns than bytes, so there are never
too many dashes, and one is missing for each byte that is no column
(`rowWidth_modeLine_add`).

| characters of the name | bytes | columns | dashes missing |
|---|---|---|---|
| ASCII | 1 | 1 | 0 |
| accented letters | 2 | 1 | 1 |
| Chinese signs | 3 | 2 | 1 |
| combining accents | 2 | 0 | 2 |

All that stands around the name is ASCII.  So the mode line fills the screen if the bytes
of the name are its columns, and otherwise only if there was nothing to fill
(`modeLine_fills_iff`).
-/

import TuneEditor.Proofs.Display.Appearance

namespace TuneEditor

open Text (charWidth rowWidth)

section

variable {columns : Nat} {status : List Char}

/-- A dash takes one column. -/
theorem rowWidth_dashes (n : Nat) : rowWidth (List.replicate n '-') = n := by
  have hdashes : ∀ c ∈ List.replicate n '-', Text.IsLabel c := by
    intro c hc
    rw [(List.mem_replicate.1 hc).2]
    decide
  rw [Text.rowWidth_of_isLabel hdashes, List.length_replicate]

/-- **The mode line is never wider than the screen.** -/
theorem rowWidth_modeLine_le (columns : Nat) (status : List Char) :
    rowWidth (modeLine columns status) ≤ columns := by
  have hstatus := Text.rowWidth_le_size status
  unfold modeLine
  split
  · rw [Text.rowWidth_append, rowWidth_dashes]
    omega
  · exact rowWidth_fitting_le columns status

/-- A status that fits is written whole, with as many dashes behind it as bytes are missing. -/
theorem modeLine_of_le (h : rowWidth status ≤ columns) :
    modeLine columns status =
      status ++ List.replicate (columns - Utf8.size status) '-' := by
  unfold modeLine
  split
  · rfl
  · next hsize =>
    rw [fitting_of_le h, Nat.sub_eq_zero_of_le (Nat.le_of_not_lt hsize), List.replicate_zero,
      List.append_nil]

/-- **A dash is missing for each byte that is no column**, as far as there is room for dashes. -/
theorem rowWidth_modeLine_add (h : rowWidth status ≤ columns) :
    rowWidth (modeLine columns status) +
      min (Utf8.size status - rowWidth status) (columns - rowWidth status) = columns := by
  have hstatus := Text.rowWidth_le_size status
  rw [modeLine_of_le h, Text.rowWidth_append, rowWidth_dashes]
  omega

end

/-- The bytes of a status that are no columns are those of the name. -/
theorem View.size_status_sub (v : View) (name : List Char) :
    Utf8.size (v.status name) - rowWidth (v.status name) = Utf8.size name - rowWidth name := by
  obtain ⟨before, behind, hlabels, hstatus⟩ := exists_status_eq v
  obtain ⟨hbefore, hbehind⟩ := List.forall_mem_append.1 hlabels
  have hsize : ∀ cs : List Char, (∀ c ∈ cs, Text.IsLabel c) → rowWidth cs = Utf8.size cs :=
    fun cs h => Text.rowWidth_eq_size_iff.2 fun c hc => Text.charWidth_of_isLabel (h c hc)
  rw [hstatus, Utf8.size_append, Utf8.size_append, Text.rowWidth_append, Text.rowWidth_append,
    hsize before hbefore, hsize behind hbehind]
  omega

namespace Renderer

/-- A drawing ends with the mode line, between the escapes that reverse it, behind the rows and
their newlines. -/
theorem exists_render_eq (r : Renderer) (s : Screen) (v : View) (name : List Char) :
    ∃ rows : List (List Char),
      (r.render s v name).1 =
        rows.flatMap (· ++ ['\n']) ++
          (s.reverse true ++ modeLine s.columns (v.status name) ++ s.reverse false) ++ ['\n'] := by
  have hrow : ∀ row, ∃ text, Row.print s row = text ++ ['\n'] := fun row => ⟨_, rfl⟩
  choose text htext using hrow
  refine ⟨(r.draw s.columns v name).1.rows.map text, ?_⟩
  rw [List.flatMap_map, ← funext htext]
  exact Frame.print_eq s _

/-- **The mode line fills the screen just if the bytes of the name are its columns**, or if there
is nothing to fill.  Whenever what it says of a view has room on the screen, all of it is written,
and dashes behind it.  They end where the screen does but for the bytes of the name that are no
columns. -/
theorem modeLine_fills_iff (r : Renderer) (s : Screen) (v : View) {name : List Char}
    (hname : '\n' ∉ name) (hfits : rowWidth (v.status name) ≤ s.columns) :
    ∃ (rows : List (List Char)) (mode : List Char) (dashes : Nat),
      (r.render s v name).1 =
        rows.flatMap (· ++ ['\n']) ++ (s.reverse true ++ mode ++ s.reverse false) ++ ['\n'] ∧
      '\n' ∉ mode ∧ mode = v.status name ++ List.replicate dashes '-' ∧
      rowWidth mode +
        min (Utf8.size name - rowWidth name) (s.columns - rowWidth (v.status name)) =
          s.columns ∧
      (rowWidth mode = s.columns ↔
        (∀ c ∈ name, charWidth c = c.utf8Size) ∨ rowWidth (v.status name) = s.columns) := by
  obtain ⟨rows, hrender⟩ := r.exists_render_eq s v name
  have hlacks := rowWidth_modeLine_add hfits
  rw [v.size_status_sub] at hlacks
  refine ⟨rows, modeLine s.columns (v.status name), s.columns - Utf8.size (v.status name), hrender,
    fun h => hname (mem_name_of_mem_modeLine h (by decide)), modeLine_of_le hfits, hlacks, ?_⟩
  have hsize := Text.rowWidth_le_size name
  rw [← Text.rowWidth_eq_size_iff]
  omega

/-- There is room for a name of one column and two bytes and for eleven dashes, and ten are
written. -/
theorem modeLine_short_of_accent :
    let v := View.new [] 1
    let mode := "-- abcedit: é L1 C1 sel 0..0 ----------".toList
    rowWidth (v.status ['é']) = 29 ∧
      ((new {} false true).render ⟨40, false⟩ v ['é']).1 = '\n' :: mode ++ ['\n'] ∧
      rowWidth mode = 39 := by
  decide +kernel

/-- The same drawing by the general law. -/
theorem modeLine_fills_iff_of_accent :
    let v := View.new [] 1
    '\n' ∉ ['é'] ∧ rowWidth (v.status ['é']) ≤ 40 ∧
      ∃ (rows : List (List Char)) (mode : List Char) (dashes : Nat),
        ((new {} false true).render ⟨40, false⟩ v ['é']).1 =
          rows.flatMap (· ++ ['\n']) ++ mode ++ ['\n'] ∧
        mode = v.status ['é'] ++ List.replicate dashes '-' ∧ rowWidth mode = 39 := by
  intro v
  have hname : '\n' ∉ ['é'] := by decide
  have hstatus : rowWidth (v.status ['é']) = 29 := by decide +kernel
  have hbytes : Utf8.size ['é'] - rowWidth ['é'] = 1 := by decide +kernel
  have hfits : rowWidth (v.status ['é']) ≤ 40 := by omega
  obtain ⟨rows, mode, dashes, hrender, -, hmode, hlacks, -⟩ :=
    modeLine_fills_iff (new {} false true) ⟨40, false⟩ v hname hfits
  rw [hbytes, hstatus] at hlacks
  change rowWidth mode + min 1 (40 - 29) = 40 at hlacks
  refine ⟨hname, hfits, rows, mode, dashes, ?_, hmode, by omega⟩
  rw [hrender]
  simp [Screen.reverse, Screen.escape]

end Renderer
end TuneEditor
