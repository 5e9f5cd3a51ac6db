/-
# A document kept as bytes

A document can be kept as the bytes of its text in UTF-8 and the number of its
characters.  `ByteText` is kept so.  It finds a place by looking for the bytes that
begin a character, and it does not count its characters again after an edit.

| what | how it comes about |
|---|---|
| the place of an offset | that of the byte that begins the character, or the end |
| a part of the text | the bytes between two places |
| an edit | other bytes between two places; the number goes down and up by the characters |

Bytes are cut in front of a character or at the end, and a cut elsewhere gives
nothing (`Utf8.cut?`).  That never happens: what a document does and what its bytes do
is the same (`byteOffset?_stored`, `slice?_stored`, `replace?_stored`).  Both do what
is done to a list of characters, whatever edits were made or refused before
(`replacements_refine`).
-/

import Mathlib.Data.List.Basic
import TuneEditor.Proofs.Document

namespace TuneEditor

/-! ### Bytes -/

namespace Utf8

/-- The bytes of a text. -/
def bytes (cs : List Char) : List UInt8 :=
  cs.flatMap String.utf8EncodeChar

/-- Whether a byte begins a character. -/
def begins (b : UInt8) : Bool :=
  b.IsUTF8FirstByte

/-- Whether a place among bytes is in front of a character or at the end. -/
def isBoundary (bs : List UInt8) (place : Nat) : Bool :=
  place == bs.length || bs[place]?.any begins

/-- Bytes cut at two places: those in front, those between and those behind.  The places
have to be in order and boundaries. -/
def cut? (bs : List UInt8) (start stop : Nat) : Option (List UInt8 × List UInt8 × List UInt8) :=
  if start ≤ stop ∧ isBoundary bs start ∧ isBoundary bs stop then
    some (bs.take start, (bs.take stop).drop start, bs.drop stop)
  else none

/-- Texts that are put together are stored one behind the other. -/
theorem bytes_append (a b : List Char) : bytes (a ++ b) = bytes a ++ bytes b :=
  List.flatMap_append

/-- A text is stored character by character. -/
theorem bytes_cons (c : Char) (cs : List Char) :
    bytes (c :: cs) = String.utf8EncodeChar c ++ bytes cs :=
  List.flatMap_cons

/-- The size of a text is the number of its bytes. -/
theorem length_bytes (cs : List Char) : (bytes cs).length = size cs := by
  induction cs with
  | nil => rfl
  | cons c cs ih => rw [bytes_cons, List.length_append, String.length_utf8EncodeChar, ih, size_cons]

/-- Only the first byte of a character begins it. -/
theorem exists_utf8EncodeChar_eq (c : Char) :
    ∃ b bs, String.utf8EncodeChar c = b :: bs ∧ begins b = true ∧ ∀ x ∈ bs, begins x = false := by
  have hfirst : ∀ i (hi : i < (String.utf8EncodeChar c).length),
      begins (String.utf8EncodeChar c)[i] = true ↔ i = 0 := by
    intro i hi
    rw [begins, decide_eq_true_iff]
    exact UInt8.isUTF8FirstByte_getElem_utf8EncodeChar
  cases hbytes : String.utf8EncodeChar c with
  | nil => exact absurd hbytes String.utf8EncodeChar_ne_nil
  | cons b bs =>
    rw [hbytes] at hfirst
    refine ⟨b, bs, rfl, (hfirst 0 (Nat.succ_pos _)).2 rfl, fun x hx => ?_⟩
    obtain ⟨i, hi, rfl⟩ := List.getElem_of_mem hx
    rw [← Bool.not_eq_true]
    exact fun hbegins => Nat.succ_ne_zero i ((hfirst (i + 1) (Nat.succ_lt_succ hi)).1 hbegins)

/-- **The bytes that begin a character are found where the text in front of the character ends.** -/
theorem getElem?_findIdxs_begins (cs : List Char) (start offset : Nat) :
    ((bytes cs).findIdxs begins start)[offset]? =
      if offset < cs.length then some (start + size (cs.take offset)) else none := by
  induction cs generalizing start offset with
  | nil => rfl
  | cons c cs ih =>
    obtain ⟨b, bs, hbytes, hb, hbs⟩ := exists_utf8EncodeChar_eq c
    have hchar : (String.utf8EncodeChar c).findIdxs begins start = [start] := by
      rw [hbytes, List.findIdxs_cons, if_pos hb, List.findIdxs_eq_nil_iff.2 hbs]
    rw [bytes_cons, List.findIdxs_append, hchar, List.singleton_append,
      String.length_utf8EncodeChar]
    cases offset with
    | zero => rfl
    | succ offset =>
      rw [List.getElem?_cons_succ, ih, List.take_succ_cons, size_cons, Nat.add_assoc]
      simp only [List.length_cons, Nat.add_lt_add_iff_right]

/-- Between two texts that are stored one behind the other is a boundary, also where the second one
is empty. -/
theorem isBoundary_append (before after : List Char) :
    isBoundary (bytes before ++ bytes after) (size before) = true := by
  unfold isBoundary
  rw [Bool.or_eq_true, beq_iff_eq]
  cases after with
  | nil =>
    left
    rw [List.length_append, length_bytes]
    rfl
  | cons c after =>
    right
    obtain ⟨b, bs, hbytes, hb, -⟩ := exists_utf8EncodeChar_eq c
    rw [bytes_cons, hbytes, List.cons_append, ← length_bytes,
      List.getElem?_append_right (Nat.le_refl _), Nat.sub_self]
    exact hb

/-- Cut where characters begin, bytes are those of the parts of the text. -/
theorem cut?_bytes (before part after : List Char) :
    cut? (bytes (before ++ (part ++ after))) (size before) (size before + size part) =
      some (bytes before, bytes part, bytes after) := by
  have hbytes :
      bytes (before ++ (part ++ after)) = bytes before ++ (bytes part ++ bytes after) := by
    rw [bytes_append, bytes_append]
  have hstart : isBoundary (bytes (before ++ (part ++ after))) (size before) = true := by
    rw [bytes_append]
    exact isBoundary_append before (part ++ after)
  have hstop : isBoundary (bytes (before ++ (part ++ after))) (size before + size part) = true := by
    rw [← List.append_assoc, bytes_append, ← size_append]
    exact isBoundary_append (before ++ part) after
  unfold cut?
  rw [if_pos ⟨Nat.le_add_right _ _, hstart, hstop⟩, hbytes, ← length_bytes before,
    ← length_bytes part, List.take_length_add_append, List.take_left, List.take_left,
    List.drop_left, ← List.append_assoc, ← List.length_append, List.drop_left]

end Utf8

/-! ### Documents as bytes -/

/-- A text as its bytes and the number of its characters. -/
structure ByteText where
  bytes : List UInt8
  size : Nat
  deriving DecidableEq

namespace ByteText

/-- The bytes of a text, whose characters are counted. -/
def ofChars (cs : List Char) : ByteText :=
  ⟨Utf8.bytes cs, cs.length⟩

/-- The place of a character offset.  The number of characters is the offset of the end. -/
def byteOffset? (t : ByteText) (offset : Nat) : Option Nat :=
  if offset = t.size then some t.bytes.length else (t.bytes.findIdxs Utf8.begins)[offset]?

/-- The bytes between two offsets in order. -/
def slice? (t : ByteText) (start stop : Nat) : Option (List UInt8) :=
  if start ≤ stop then do
    let startByte ← t.byteOffset? start
    let stopByte ← t.byteOffset? stop
    let (_, part, _) ← Utf8.cut? t.bytes startByte stopByte
    some part
  else none

/-- The bytes of a text in place of those between two offsets, and the characters of it in place of
those between them in the count. -/
def replace? (t : ByteText) (start stop : Nat) (text : List Char) : Option ByteText :=
  if start ≤ stop ∧ stop ≤ t.size then do
    let startByte ← t.byteOffset? start
    let stopByte ← t.byteOffset? stop
    let (before, _, after) ← Utf8.cut? t.bytes startByte stopByte
    some
      { bytes := before ++ Utf8.bytes text ++ after
        size := t.size - (stop - start) + text.length }
  else none

end ByteText

namespace Document

/-- A document as its bytes. -/
def stored (d : Document) : ByteText :=
  .ofChars d.chars

/-- **Bytes find an offset where the text in front of it ends.** -/
theorem byteOffset?_stored (d : Document) (offset : Nat) :
    d.stored.byteOffset? offset = d.byteOffset? offset := by
  rw [byteOffset?_eq, d.size_eq]
  change (if offset = d.chars.length then some (Utf8.bytes d.chars).length
    else ((Utf8.bytes d.chars).findIdxs Utf8.begins)[offset]?) = _
  split
  · next hend => rw [if_pos (Nat.le_of_eq hend), hend, List.take_length, Utf8.length_bytes]
  · next hend =>
    have hlt : offset < d.chars.length ↔ offset ≤ d.chars.length := by omega
    rw [Utf8.getElem?_findIdxs_begins, Nat.zero_add]
    simp only [hlt]

/-- The places of the offsets around a part are in front of its bytes and behind them. -/
theorem byteOffset?_stored_parts (before part after : List Char) :
    (ofChars (before ++ (part ++ after))).stored.byteOffset? before.length =
        some (Utf8.size before) ∧
      (ofChars (before ++ (part ++ after))).stored.byteOffset? (before.length + part.length) =
        some (Utf8.size before + Utf8.size part) := by
  constructor
  · rw [byteOffset?_stored, byteOffset?_length]
  · rw [byteOffset?_stored, ← List.append_assoc, ← List.length_append, byteOffset?_length,
      Utf8.size_append]

/-- **Bytes between two offsets are those of the characters between them.** -/
theorem slice?_stored (d : Document) (start stop : Nat) :
    d.stored.slice? start stop = (d.slice? start stop).map Utf8.bytes := by
  unfold ByteText.slice?
  by_cases hordered : start ≤ stop
  · rw [if_pos hordered]
    by_cases hwithin : stop ≤ d.size
    · obtain ⟨before, part, after, rfl, rfl, rfl⟩ := exists_parts hordered hwithin
      obtain ⟨hstart, hstop⟩ := byteOffset?_stored_parts before part after
      have hcut := Utf8.cut?_bytes before part after
      rw [hstart, hstop, slice?_length]
      change (Utf8.cut? (Utf8.bytes (before ++ (part ++ after))) _ _).bind _ = _
      rw [hcut]
      rfl
    · have hslice : d.slice? start stop = none := if_neg fun h => hwithin h.2
      rw [hslice, byteOffset?_stored, byteOffset?_stored, byteOffset?_eq d stop, if_neg hwithin]
      cases d.byteOffset? start with
      | none => rfl
      | some startByte => rfl
  · have hslice : d.slice? start stop = none := if_neg fun h => hordered h.1
    rw [if_neg hordered, hslice]
    rfl

/-- **An edit of the bytes is an edit of the characters**, and the characters need not be counted
again. -/
theorem replace?_stored (d : Document) (start stop : Nat) (text : List Char) :
    d.stored.replace? start stop text = (d.replace? start stop text).map stored := by
  have hsize : d.stored.size = d.size := d.size_eq.symm
  unfold ByteText.replace?
  rw [hsize]
  by_cases hbounds : start ≤ stop ∧ stop ≤ d.size
  · rw [if_pos hbounds]
    obtain ⟨before, part, after, rfl, rfl, rfl⟩ := exists_parts hbounds.1 hbounds.2
    obtain ⟨hstart, hstop⟩ := byteOffset?_stored_parts before part after
    have hcut := Utf8.cut?_bytes before part after
    rw [hstart, hstop, replace?_length]
    change (Utf8.cut? (Utf8.bytes (before ++ (part ++ after))) _ _).bind _ = _
    rw [hcut]
    simp [stored, ByteText.ofChars, ofChars, Utf8.bytes_append]
    omega
  · rw [if_neg hbounds, replace?_of_not hbounds]
    rfl

end Document

/-! ### One edit after the other -/

/-- An edit that may be refused: a text in place of what is between two offsets. -/
structure Replacement where
  start : Nat
  stop : Nat
  text : List Char
  deriving DecidableEq, Repr

namespace Replacement

/-- A list of characters after an edit. -/
def splice (cs : List Char) (r : Replacement) : List Char :=
  if r.start ≤ r.stop ∧ r.stop ≤ cs.length then cs.take r.start ++ r.text ++ cs.drop r.stop else cs

/-- A document after an edit, as it was if the edit is refused. -/
def edit (d : Document) (r : Replacement) : Document :=
  (d.replace? r.start r.stop r.text).getD d

/-- The bytes of a document after an edit, as they were if the edit is refused. -/
def editBytes (t : ByteText) (r : Replacement) : ByteText :=
  (t.replace? r.start r.stop r.text).getD t

/-- A replacement of a document is the same replacement of its characters, allowed or not. -/
theorem edit_ofChars (cs : List Char) (r : Replacement) :
    edit (.ofChars cs) r = .ofChars (splice cs r) := by
  unfold edit splice
  split
  · next hbounds =>
    have hedit : (Document.ofChars cs).replace? r.start r.stop r.text =
        some (.ofChars (cs.take r.start ++ r.text ++ cs.drop r.stop)) :=
      Document.replace?_eq_some_iff.2 ⟨hbounds.1, hbounds.2, rfl⟩
    rw [hedit]
    rfl
  · next hbounds =>
    rw [Document.replace?_of_not hbounds]
    rfl

/-- Replacing bytes does to what is stored of a document what replacing characters does to the
document. -/
theorem editBytes_stored (d : Document) (r : Replacement) :
    editBytes d.stored r = (edit d r).stored := by
  unfold editBytes edit
  rw [Document.replace?_stored]
  cases d.replace? r.start r.stop r.text with
  | none => rfl
  | some d' => rfl

end Replacement

open Replacement (splice edit editBytes)

/-- **A document does what is done to a list of characters**, kept as bytes or not.
Whatever edits of a text were made or refused, the number of characters is right, an
offset has a place just if it is not past the end, and that place is where the bytes of
the text in front of it end; a part is there and an edit is made just if the two offsets
are in order and in the text; and an edit that puts back what another one took out undoes
it.  The bytes are those of the characters, and give the same answers. -/
theorem replacements_refine (text : List Char) (edits : List Replacement) :
    let cs := edits.foldl splice text
    let d := edits.foldl edit (.ofChars text)
    let t := edits.foldl editBytes (.ofChars text)
    (d.chars = cs ∧ d.size = cs.length ∧ t.bytes = Utf8.bytes cs ∧ t.size = cs.length) ∧
    (∀ offset place, d.byteOffset? offset = some place ↔
      offset ≤ cs.length ∧ place = (Utf8.bytes (cs.take offset)).length) ∧
    (∀ start stop part, d.slice? start stop = some part ↔
      start ≤ stop ∧ stop ≤ cs.length ∧ part = (cs.take stop).drop start) ∧
    (∀ start stop put d', d.replace? start stop put = some d' ↔
      start ≤ stop ∧ stop ≤ cs.length ∧ d'.chars = cs.take start ++ put ++ cs.drop stop) ∧
    (∀ start stop put d', d.replace? start stop put = some d' →
      ∃ part, d.slice? start stop = some part ∧
        d'.replace? start (start + put.length) part = some d) ∧
    (∀ offset, t.byteOffset? offset = d.byteOffset? offset) ∧
    (∀ start stop, t.slice? start stop = (d.slice? start stop).map Utf8.bytes) ∧
    ∀ start stop put,
      t.replace? start stop put = (d.replace? start stop put).map Document.stored := by
  intro cs d t
  have hd : d = .ofChars cs := List.foldl_hom Document.ofChars Replacement.edit_ofChars
  have ht : t = d.stored := by
    change edits.foldl editBytes (Document.stored (.ofChars text)) = _
    exact List.foldl_hom Document.stored Replacement.editBytes_stored
  rw [ht, hd]
  refine ⟨⟨rfl, rfl, rfl, rfl⟩, fun offset place => ?_,
    fun start stop part => Document.slice?_eq_some_iff,
    fun start stop put d' => Document.replace?_eq_some_iff,
    fun start stop put d' => Document.replace?_slice?,
    Document.byteOffset?_stored _, Document.slice?_stored _, Document.replace?_stored _⟩
  rw [Document.byteOffset?_eq, Utf8.length_bytes]
  change (if offset ≤ cs.length then some (Utf8.size (cs.take offset)) else none) = some place ↔ _
  split
  · next hwithin => simp [hwithin, eq_comm]
  · next hwithin => simp [hwithin]

/-- A wide character is put in for two, a refused edit changes nothing, and then the wide
character is cut at both its ends. -/
example :
    let t := [⟨1, 3, ['é', 'A']⟩, ⟨2, 9, []⟩].foldl editBytes (.ofChars ['K', ':', 'C'])
    t = ⟨[75, 195, 169, 65], 3⟩ ∧ t.byteOffset? 2 = some 3 ∧ t.slice? 1 2 = some [195, 169] ∧
      t.slice? 2 4 = none := by
  decide

end TuneEditor
