/-
# Entries in the order of their keys

The keys of a table are in the order of their bytes, and none is there twice (`Table.InOrder`).
So a key leads to the one entry that has it, and two entries are the same if neither is behind
the other.

Where several entries have something to say about one thing, the last of them counts, and a
default stands where none has (`Table.Says`).  What a table says depends on nothing but the
entries that say something.
-/

import Mathlib.Data.List.Pairwise
import TuneEditor.Proofs.Document.Storage
import TuneEditor.Proofs.Style.Description
import TuneEditor.Toml.Value

namespace TuneEditor
namespace Toml

/-- The entries of a value that is a table. -/
def Value.entries : Value → Table
  | .table es => es
  | _ => []

namespace Table

/-- Entries in the order of the bytes of their keys, and no key twice. -/
def InOrder (t : Table) : Prop :=
  t.Pairwise fun a b => Utf8.bytes a.1 < Utf8.bytes b.1

instance (t : Table) : Decidable t.InOrder :=
  inferInstanceAs (Decidable (t.Pairwise _))

/-- A table in order whose own tables are so too. -/
structure Sorted (t : Table) : Prop where
  inOrder : t.InOrder
  entries : ∀ entry ∈ t, entry.2.entries.InOrder

instance (t : Table) : Decidable t.Sorted :=
  decidable_of_iff (t.InOrder ∧ ∀ entry ∈ t, entry.2.entries.InOrder)
    ⟨fun ⟨h, hs⟩ => ⟨h, hs⟩, fun ⟨h, hs⟩ => ⟨h, hs⟩⟩

variable {t t' : Table} {key : List Char} {v v' : Value}

/-- Two entries are the same if neither is behind the other. -/
theorem InOrder.eq_of_le_of_le (h : t.InOrder) {a b : List Char × Value} (ha : a ∈ t) (hb : b ∈ t)
    (hle : Utf8.bytes a.1 ≤ Utf8.bytes b.1) (hge : Utf8.bytes b.1 ≤ Utf8.bytes a.1) : a = b := by
  induction t with
  | nil => exact absurd ha List.not_mem_nil
  | cons e es ih =>
    obtain ⟨hfirst, hes⟩ := List.pairwise_cons.1 h
    rcases List.mem_cons.1 ha with rfl | ha' <;> rcases List.mem_cons.1 hb with rfl | hb'
    · rfl
    · exact absurd hge (List.not_le.2 (hfirst b hb'))
    · exact absurd hle (List.not_le.2 (hfirst a ha'))
    · exact ih hes ha' hb'

/-- A key is there once. -/
theorem InOrder.unique (h : t.InOrder) (hv : (key, v) ∈ t) (hv' : (key, v') ∈ t) : v = v' :=
  (Prod.mk.inj (h.eq_of_le_of_le hv hv' (List.le_refl _) (List.le_refl _))).2

/-- Nothing is found under a key just if no entry has it. -/
theorem get?_eq_none_iff : t.get? key = none ↔ ∀ v, (key, v) ∉ t := by
  unfold get?
  rw [Option.map_eq_none_iff, List.find?_eq_none]
  constructor
  · exact fun h v hv => h (key, v) hv (beq_self_eq_true key)
  · intro h entry hentry hkey
    rw [beq_iff_eq] at hkey
    exact h entry.2 (hkey ▸ hentry)

/-- What is found under a key stands there. -/
theorem mem_of_get? (h : t.get? key = some v) : (key, v) ∈ t := by
  unfold get? at h
  obtain ⟨entry, hfind, rfl⟩ := Option.map_eq_some_iff.1 h
  have hkey := List.find?_some hfind
  obtain rfl := eq_of_beq hkey
  exact List.mem_of_find?_eq_some hfind

/-- **What stands under a key is the one entry with that key.** -/
theorem InOrder.get?_eq_some_iff (h : t.InOrder) : t.get? key = some v ↔ (key, v) ∈ t := by
  refine ⟨mem_of_get?, fun hv => ?_⟩
  cases hget : t.get? key with
  | none => exact absurd hv (get?_eq_none_iff.1 hget v)
  | some v' => rw [h.unique (mem_of_get? hget) hv]

/-! ### What entries say about one thing -/

section

variable {α : Type} {gives : List Char → Value → α → Prop} {default x y : α}

/-- What a table says about something: what the last of the entries gives that give anything, in
the order of the bytes of their keys, or a default where none does. -/
def Says (t : Table) (gives : List Char → Value → α → Prop) (default x : α) : Prop :=
  (∃ key v, (key, v) ∈ t ∧ gives key v x ∧
    ∀ key' v' y, (key', v') ∈ t → gives key' v' y → Utf8.bytes key' ≤ Utf8.bytes key) ∨
  (∀ key v y, (key, v) ∈ t → ¬ gives key v y) ∧ x = default

/-- A table says one thing, if each of its entries does. -/
theorem Says.unique (h : t.InOrder) (hgives : ∀ key v x y, gives key v x → gives key v y → x = y)
    (hx : t.Says gives default x) (hy : t.Says gives default y) : x = y := by
  rcases hx with ⟨k, v, hv, hvx, hlast⟩ | ⟨hnone, rfl⟩ <;>
    rcases hy with ⟨k', v', hv', hvy, hlast'⟩ | ⟨hnone', rfl⟩
  · cases h.eq_of_le_of_le hv hv' (hlast' k v x hv hvx) (hlast k' v' y hv' hvy)
    exact hgives k v x y hvx hvy
  · exact absurd hvx (hnone' k v x hv)
  · exact absurd hvy (hnone k' v' y hv')
  · rfl

/-- Entries that give nothing may come and go. -/
theorem Says.congr (hsame : ∀ key v x, gives key v x → ((key, v) ∈ t ↔ (key, v) ∈ t'))
    (h : t.Says gives default x) : t'.Says gives default x := by
  rcases h with ⟨k, v, hv, hvx, hlast⟩ | ⟨hnone, rfl⟩
  · refine .inl ⟨k, v, (hsame k v x hvx).1 hv, hvx, fun k' v' y hv' hy => ?_⟩
    exact hlast k' v' y ((hsame k' v' y hy).2 hv') hy
  · exact .inr ⟨fun k v y hv hy => hnone k v y ((hsame k v y hy).2 hv) hy, rfl⟩

/-- What the last entry of a list gives is what the table says. -/
theorem InOrder.says_of_lastGives (h : t.InOrder)
    (hlast : LastGives (fun entry x => gives entry.1 entry.2 x) t default x) :
    t.Says gives default x := by
  rcases hlast with ⟨before, entry, after, rfl, hgives, hnone⟩ | ⟨hnone, hx⟩
  · refine .inl ⟨entry.1, entry.2, List.mem_append_right _ List.mem_cons_self, hgives, ?_⟩
    intro key' v' y hv' hy
    obtain ⟨-, hbehind, hbefore⟩ := List.pairwise_append.1 h
    rcases List.mem_append.1 hv' with hv' | hv'
    · exact List.le_of_lt (hbefore _ hv' _ List.mem_cons_self)
    rcases List.mem_cons.1 hv' with rfl | hv'
    · exact List.le_refl _
    · exact absurd hy (hnone _ hv' y)
  · exact .inr ⟨fun key v y hv => hnone (key, v) hv y, hx⟩

/-- What one key says is up to what stands under it. -/
theorem InOrder.says_get? (h : t.InOrder) (key : List Char) (given : Value → Option α)
    (default : α) :
    t.Says (fun k v x => k = key ∧ given v = some x) default
      (((t.get? key).bind given).getD default) := by
  cases hget : t.get? key with
  | none =>
    refine .inr ⟨?_, rfl⟩
    rintro k v y hv ⟨rfl, -⟩
    exact get?_eq_none_iff.1 hget v hv
  | some v =>
    rw [Option.bind_some]
    cases hgiven : given v with
    | none =>
      refine .inr ⟨?_, rfl⟩
      rintro k v' y hv' ⟨rfl, hy⟩
      rw [h.unique hv' (mem_of_get? hget), hgiven] at hy
      cases hy
    | some x =>
      refine .inl ⟨key, v, mem_of_get? hget, ⟨rfl, hgiven⟩, ?_⟩
      rintro k v' y - ⟨rfl, -⟩
      exact List.le_refl _

end

end Table
end Toml
end TuneEditor
