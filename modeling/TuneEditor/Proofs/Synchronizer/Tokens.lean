/-
# Tokens can be asked for as selections

A scan reports its steps by the bytes that they take.  Tokens are the steps that
have a tag, counted in characters as selections are.  Both are places of the same
lexemes, and each lexeme stands behind the text of those before it: so a token
and its step are the same part of the text (`forall₂_tokens_steps`), and the
document finds the bytes of the one by the characters of the other.  A count of
the characters that the steps pass over goes with them and never drifts
(`tokens_eq_countedFrom`).

No token is empty, and they follow each other.  All of them lie in the text, so
whoever has that text in an editor that is alive gets a token selected by asking
for its two offsets (`tokens_selectable`).
-/

import Mathlib.Data.List.Forall2
import TuneEditor.Proofs.Notation.Partition
import TuneEditor.Proofs.Synchronizer.Reconciling

namespace TuneEditor

/-! ### Tokens and steps -/

/-- A span counted in characters and a step counted in bytes are the same part of a text, with the
same tag. -/
def SamePart (cs : List Char) (t : Span) (s : Step) : Prop :=
  s.tag = some t.tag ∧
    ∃ before part after,
      cs = before ++ (part ++ after) ∧ part ≠ [] ∧
        t.start = before.length ∧ t.stop = before.length + part.length ∧
          s.start = Utf8.size before ∧ s.stop = Utf8.size before + Utf8.size part

/-- Counted in characters or in bytes, the lexemes of a text are the same parts of it, one by one:
both counts stand at the end of the same front. -/
theorem forall₂_samePart {cs : List Char} (before : List Char) {ls : List Lexeme}
    (hcs : cs = before ++ ls.flatMap Lexeme.chars) (hne : ∀ l ∈ ls, l.chars ≠ []) :
    List.Forall₂ (SamePart cs)
      ((Step.ofLexemes List.length before.length ls).filterMap Span.ofStep?)
      ((Step.ofLexemes Utf8.size (Utf8.size before) ls).filter fun s => s.tag.isSome) := by
  induction ls generalizing before with
  | nil => exact .nil
  | cons l ls ih =>
    rw [List.forall_mem_cons] at hne
    rw [List.flatMap_cons] at hcs
    have hrest := ih (before ++ l.chars) (by rw [hcs, List.append_assoc]) hne.2
    rw [List.length_append, Utf8.size_append] at hrest
    rw [Step.ofLexemes, Step.ofLexemes]
    cases htag : l.tag with
    | none => exact hrest
    | some tag =>
      exact .cons ⟨rfl, before, l.chars, _, hcs, hne.1, rfl, rfl, rfl, rfl⟩ hrest

/-- **The tokens of a text are its steps that have a tag**, one for one and in order. -/
theorem forall₂_tokens_steps (cs : List Char) :
    List.Forall₂ (SamePart cs) (tokens cs)
      ((steps .header cs).filter fun s => s.tag.isSome) :=
  forall₂_samePart [] (flatMap_chars_lexemes ⟨.header, true⟩ cs).symm fun _ hl =>
    chars_ne_nil_of_mem hl

/-- The spans of the steps that have a tag, by a count of the characters that the steps so far have
passed over. -/
def Span.countedFrom (cs : List Char) (offset : Nat) : List Step → List Span
  | [] => []
  | s :: ss =>
    let stop := offset + ((Utf8.slice? cs s.start s.stop).getD []).length
    (s.tag.map fun tag => ⟨offset, stop, tag⟩).toList ++ countedFrom cs stop ss

/-- The offsets of tokens are those that are counted while the scan goes along. -/
theorem filterMap_ofLexemes_eq_countedFrom {cs : List Char} (before : List Char)
    {ls : List Lexeme} (hcs : cs = before ++ ls.flatMap Lexeme.chars) :
    (Step.ofLexemes List.length before.length ls).filterMap Span.ofStep? =
      Span.countedFrom cs before.length (Step.ofLexemes Utf8.size (Utf8.size before) ls) := by
  induction ls generalizing before with
  | nil => rfl
  | cons l ls ih =>
    rw [List.flatMap_cons] at hcs
    have hrest := ih (before ++ l.chars) (by rw [hcs, List.append_assoc])
    have hslice : Utf8.slice? cs (Utf8.size before) (Utf8.size before + Utf8.size l.chars) =
        some l.chars := by
      rw [hcs]
      exact Utf8.slice?_append _ _ _
    rw [List.length_append, Utf8.size_append] at hrest
    rw [Step.ofLexemes, Step.ofLexemes, Span.countedFrom, hslice, Option.getD_some, ← hrest]
    cases htag : l.tag with
    | none => rfl
    | some tag => rfl

/-- **Counting the characters of the steps as they pass finds the tokens**, the steps without a tag
counted too. -/
theorem tokens_eq_countedFrom (cs : List Char) :
    tokens cs = Span.countedFrom cs 0 (steps .header cs) :=
  filterMap_ofLexemes_eq_countedFrom [] (flatMap_chars_lexemes ⟨.header, true⟩ cs).symm

/-- A token is a part of the text that is not empty. -/
theorem exists_part_of_mem_tokens {cs : List Char} {t : Span} (h : t ∈ tokens cs) :
    ∃ before part after,
      cs = before ++ (part ++ after) ∧ part ≠ [] ∧
        t.start = before.length ∧ t.stop = before.length + part.length := by
  obtain ⟨hlength, hget⟩ := List.forall₂_iff_get.1 (forall₂_tokens_steps cs)
  obtain ⟨i, hi, rfl⟩ := List.mem_iff_getElem.1 h
  obtain ⟨-, before, part, after, hcs, hne, hstart, hstop, -⟩ := hget i hi (hlength ▸ hi)
  exact ⟨before, part, after, hcs, hne, hstart, hstop⟩

/-- Tokens follow each other and do not overlap. -/
theorem pairwise_tokens (cs : List Char) :
    (tokens cs).Pairwise fun t t' => t.stop ≤ t'.start :=
  pairwise_filterMap_ofLexemes List.length 0 _

/-- What a document answers about a token is what a scan says about its step. -/
theorem SamePart.addresses {cs : List Char} {t : Span} {s : Step} (h : SamePart cs t s) :
    s.tag = some t.tag ∧
      (Document.ofChars cs).byteOffset? t.start = some s.start ∧
        (Document.ofChars cs).byteOffset? t.stop = some s.stop ∧
          ∃ part, (Document.ofChars cs).slice? t.start t.stop = some part ∧
            Utf8.slice? cs s.start s.stop = some part := by
  obtain ⟨htag, before, part, after, rfl, -, hstart, hstop, hstart', hstop'⟩ := h
  rw [hstart, hstop, hstart', hstop']
  refine ⟨htag, Document.byteOffset?_length _ _, ?_, part, Document.slice?_length _ _ _,
    Utf8.slice?_append _ _ _⟩
  have hbytes := Document.byteOffset?_length (before ++ part) after
  rwa [List.append_assoc, List.length_append, Utf8.size_append] at hbytes

/-! ### Tokens and selections -/

namespace Synchronizer

variable {s : Synchronizer View}

/-- A request that fits the text of a view that is alive is accepted, and afterwards the view shows
the same text and the selection asked for. -/
theorem shown_setSelection (halive : s.widget.alive = true) {r : SelectionRequest}
    (h : r.Fits s.widget.text.length) (now : Nat) :
    (s.setSelection now r).2 = .ok () ∧
      (s.setSelection now r).1.widget.shown =
        ⟨s.widget.text, ⟨r.start.toNat, r.stop.toNat⟩⟩ := by
  have hlength : Widget.length s.widget = s.widget.text.length := s.widget.document.size_eq
  rw [← hlength] at h
  have hgrant := grant?_of_fits (w := s.widget) halive h
  obtain ⟨h₁, h₂⟩ := Selection.bounds_of_checked_ok (of_grant? hgrant).2
  obtain ⟨-, -, hshown⟩ := View.handOver_of_empty (v := (Widget.drain s.widget).2) rfl halive h₁ h₂
    s.options.scroll
  have hwidget : (s.setSelection now r).1.widget =
      (handOver (Widget.drain s.widget).2 ⟨r.start.toNat, r.stop.toNat⟩ s.options.scroll).2 := by
    obtain ⟨phase, heard, log, hbefore⟩ := s.exists_processEvents_eq
    obtain ⟨phase', heard', log', hafter⟩ := exists_processEvents_eq
      (s.processEvents.beginSelection ⟨r.start.toNat, r.stop.toNat⟩)
    rw [setSelection_of_some hgrant, hafter, hbefore]
    rfl
  rw [hwidget]
  exact ⟨congrArg Prod.snd (setSelection_of_some hgrant now), hshown⟩

/-- **Tokens are addressed as selections are.**  Token for token, the steps of a scan that have a
tag have the tags of the tokens, and the document finds their bytes by the offsets of the tokens and
the same text between them.  No token is empty, and each ends before the next one starts.  Whoever
asks for a token by its two offsets, of a view that is alive and holds the text, is granted the
request and gets just that token selected. -/
theorem tokens_selectable (cs : List Char) :
    List.Forall₂
        (fun t step =>
          step.tag = some t.tag ∧
            (Document.ofChars cs).byteOffset? t.start = some step.start ∧
              (Document.ofChars cs).byteOffset? t.stop = some step.stop ∧
                ∃ part, (Document.ofChars cs).slice? t.start t.stop = some part ∧
                  Utf8.slice? cs step.start step.stop = some part)
        (tokens cs) ((steps .header cs).filter fun step => step.tag.isSome) ∧
      (∀ t ∈ tokens cs, t.start < t.stop) ∧
      (tokens cs).Pairwise (fun t t' => t.stop ≤ t'.start) ∧
      ∀ (s : Synchronizer View) (now : Nat), s.widget.alive = true → s.widget.text = cs →
        ∀ t ∈ tokens cs,
          let asked := s.setSelection now ⟨t.start, t.stop⟩
          let selection := asked.1.widget.selection
          asked.2 = .ok () ∧ selection = ⟨t.start, t.stop⟩ ∧
            asked.1.widget.document.slice? selection.start selection.stop =
              (Document.ofChars cs).slice? t.start t.stop := by
  refine ⟨(forall₂_tokens_steps cs).imp fun t step h => h.addresses, fun t ht => ?_,
    pairwise_tokens cs, fun s now halive htext t ht => ?_⟩
  · obtain ⟨before, part, after, -, hne, hstart, hstop⟩ := exists_part_of_mem_tokens ht
    have hlength := List.length_pos_of_ne_nil hne
    omega
  · obtain ⟨before, part, after, hcs, -, hstart, hstop⟩ := exists_part_of_mem_tokens ht
    have hfits : SelectionRequest.Fits ⟨t.start, t.stop⟩ s.widget.text.length := by
      refine ⟨Int.natCast_nonneg _, ?_, ?_⟩
      · dsimp only
        omega
      · rw [htext, hcs, List.length_append, List.length_append]
        dsimp only
        omega
    obtain ⟨hanswer, hshown⟩ := shown_setSelection halive hfits now
    have hselection := congrArg Mirror.selection hshown
    intro asked selection
    have hselected : selection = ⟨t.start, t.stop⟩ := hselection
    have hdocument : asked.1.widget.document = .ofChars cs := by
      have hchars : asked.1.widget.document.chars = cs := (congrArg Mirror.text hshown).trans htext
      rw [← asked.1.widget.document.ofChars_chars, hchars]
    refine ⟨hanswer, hselected, ?_⟩
    rw [hselected, hdocument]

example :
    tokens ['"', 'é', '"', ' ', 'A'] = [⟨0, 3, .chord⟩, ⟨4, 5, .note⟩] ∧
      ((steps .header ['"', 'é', '"', ' ', 'A']).filter fun s => s.tag.isSome) =
        [⟨0, 4, some .chord, .header⟩, ⟨5, 6, some .note, .header⟩] := by
  constructor <;> cbv

end Synchronizer
end TuneEditor
