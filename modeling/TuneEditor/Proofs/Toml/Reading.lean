/-
# The tables of a settings file are in order

A settings file builds its tables entry by entry, and no step puts a key into a table where it is
already (`Entries.Sound`).  In the end every table is put in the order of its keys.  That order is
one of characters, and in UTF-8 it is the same as that of bytes (`Utf8.bytes_lt_bytes`).

So whatever the file says, the table that is read is in order, and so are the tables in it
(`sorted_of_read?`).
-/

import Mathlib.Tactic.SplitIfs
import TuneEditor.Proofs.Toml.Order
import TuneEditor.Toml.File

namespace TuneEditor

/-! ### The order of characters and that of bytes -/

namespace Utf8

/-- Numbers below 256 are in order as bytes just if they are as numbers. -/
theorem ofNat_lt_ofNat_iff {a b : Nat} (ha : a < 256) (hb : b < 256) :
    UInt8.ofNat a < UInt8.ofNat b ↔ a < b := by
  rw [UInt8.lt_iff_toNat_lt, UInt8.toNat_ofNat', UInt8.toNat_ofNat', Nat.mod_eq_of_lt ha,
    Nat.mod_eq_of_lt hb]

/-- Numbers below 256 are the same byte just if they are the same. -/
theorem ofNat_inj_iff {a b : Nat} (ha : a < 256) (hb : b < 256) :
    UInt8.ofNat a = UInt8.ofNat b ↔ a = b := by
  rw [← UInt8.toNat_inj, UInt8.toNat_ofNat', UInt8.toNat_ofNat', Nat.mod_eq_of_lt ha,
    Nat.mod_eq_of_lt hb]

/-- The bytes of two characters are in the order of the characters, whatever follows them. -/
theorem utf8EncodeChar_append_lt {c d : Char} (h : c < d) (x y : List UInt8) :
    String.utf8EncodeChar c ++ x < String.utf8EncodeChar d ++ y := by
  have hlt : c.val.toNat < d.val.toNat := h
  have hd : d.val.toNat < 1114112 := by
    rcases d.valid with h | h
    · exact Nat.lt_trans h (by decide)
    · exact h.2
  -- digits to the base 64, each made from the one before
  have h4096 (n : Nat) : n / 4096 = n / 64 / 64 := by omega
  have h262144 (n : Nat) : n / 262144 = n / 64 / 64 / 64 := by omega
  unfold String.utf8EncodeChar
  simp only [h4096, h262144]
  split_ifs <;>
    simp (disch := omega) only [List.cons_append, List.nil_append, List.cons_lt_cons_iff,
      ofNat_lt_ofNat_iff, ofNat_inj_iff] <;>
    omega

/-- **Texts in order have their bytes in order.** -/
theorem bytes_lt_bytes {a b : List Char} (h : a < b) : bytes a < bytes b := by
  induction a generalizing b with
  | nil =>
    cases b with
    | nil => exact absurd h (List.lt_irrefl _)
    | cons d ds =>
      obtain ⟨first, rest, hbytes, -⟩ := exists_utf8EncodeChar_eq d
      rw [bytes_cons, hbytes]
      exact List.nil_lt_cons _ _
  | cons c cs ih =>
    cases b with
    | nil => exact absurd h (List.not_lt_nil _)
    | cons d ds =>
      rw [bytes_cons, bytes_cons]
      rcases List.cons_lt_cons_iff.1 h with hcd | ⟨rfl, hcs⟩
      · exact utf8EncodeChar_append_lt hcd _ _
      · exact List.append_left_lt (ih hcs)

end Utf8

namespace Toml

/-- Entries of different keys are in order once they are put in it. -/
theorem inOrder_inKeyOrder {es : Table} (h : (es.map Prod.fst).Nodup) :
    (inKeyOrder es).InOrder := by
  have hle_iff (a b : List Char × Value) :
      (!List.lex b.1 a.1 fun c d => decide (c < d)) = true ↔ ¬ b.1 < a.1 := by
    rw [Bool.not_eq_true', ← Bool.not_eq_true, List.lex_eq_true_iff_lt]
  have hle : (inKeyOrder es).Pairwise fun a b => ¬ b.1 < a.1 := by
    refine List.Pairwise.imp (fun {a b} => (hle_iff a b).1) (List.pairwise_mergeSort ?_ ?_ es)
    · intro a b c hab hbc
      rw [hle_iff] at hab hbc ⊢
      exact List.not_lt.2 (List.le_trans (List.not_lt.1 hab) (List.not_lt.1 hbc))
    · intro a b
      rw [Bool.or_eq_true, hle_iff, hle_iff, List.not_lt, List.not_lt]
      exact List.le_total a.1 b.1
  have hne : (inKeyOrder es).Pairwise fun a b => a.1 ≠ b.1 :=
    List.pairwise_map.1 (((List.mergeSort_perm es _).map Prod.fst).nodup_iff.2 h)
  -- one of two different keys is in front of the other, and it is not the second
  refine (hle.and hne).imp fun {a b} hab => Utf8.bytes_lt_bytes ?_
  refine Decidable.byContradiction fun hlt => hab.2 ?_
  exact List.le_antisymm (List.not_lt.1 hab.1) (List.not_lt.1 hlt)

/-! ### Entries that are sound -/

/-- A tree in whose tables no key is there twice.  What stands in an array does not matter. -/
inductive Tree.Sound : Tree → Prop
  | leaf {v : Value} : v.entries = [] → Sound (.leaf v)
  | array {ts : List Tree} : Sound (.array ts)
  | table {o : Origin} {es : Entries} :
    (es.map Prod.fst).Nodup → (∀ e ∈ es, Sound e.2) → Sound (.table o es)
  | tables {ts : List Entries} :
    (∀ es ∈ ts, (es.map Prod.fst).Nodup) → (∀ es ∈ ts, ∀ e ∈ es, Sound e.2) → Sound (.tables ts)

namespace Entries

/-- No key is there twice, nor in any table below. -/
structure Sound (es : Entries) : Prop where
  distinct : (es.map Prod.fst).Nodup
  trees : ∀ e ∈ es, e.2.Sound

variable {es es' : Entries} {key : List Char} {t : Tree}

/-- No entries are sound. -/
theorem Sound.nil : Sound [] :=
  ⟨.nil, nofun⟩

/-- A key under which nothing is found is new. -/
theorem notMem_of_get? (h : es.get? key = none) : key ∉ es.map Prod.fst := by
  unfold get? at h
  rw [Option.map_eq_none_iff, List.find?_eq_none] at h
  intro hmem
  obtain ⟨e, he, rfl⟩ := List.mem_map.1 hmem
  exact h e he (beq_self_eq_true e.1)

/-- What stands under a key of sound entries is sound. -/
theorem Sound.get? (h : es.Sound) (hget : es.get? key = some t) : t.Sound := by
  unfold Entries.get? at hget
  obtain ⟨e, hfind, rfl⟩ := Option.map_eq_some_iff.1 hget
  exact h.trees e (List.mem_of_find?_eq_some hfind)

/-- An entry may be added where its key is new. -/
theorem Sound.add (h : es.Sound) (hget : es.get? key = none) (ht : t.Sound) :
    (es.add key t).Sound where
  distinct := by
    have hnew := notMem_of_get? hget
    unfold Entries.add
    rw [List.map_append, List.nodup_append]
    refine ⟨h.distinct, List.pairwise_singleton _ _, ?_⟩
    rintro a ha b hb rfl
    obtain rfl := List.mem_singleton.1 hb
    exact hnew ha
  trees := by
    intro e he
    rcases List.mem_append.1 he with he | he
    · exact h.trees e he
    · obtain rfl := List.mem_singleton.1 he
      exact ht

/-- An entry may be replaced, since the keys stay as they are. -/
theorem Sound.set (h : es.Sound) (ht : t.Sound) : (es.set key t).Sound where
  distinct := by
    have hkeys : (es.set key t).map Prod.fst = es.map Prod.fst := by
      unfold Entries.set
      rw [List.map_map]
      refine List.map_congr_left fun e _ => ?_
      change (if e.1 == key then (key, t) else e).1 = e.1
      split
      · next hkey => exact (eq_of_beq hkey).symm
      · rfl
    rw [hkeys]
    exact h.distinct
  trees := by
    intro e he
    obtain ⟨e', he', rfl⟩ := List.mem_map.1 he
    split
    · exact ht
    · exact h.trees e' he'

/-- Taking an entry out leaves the others sound. -/
theorem Sound.erase (h : es.Sound) : (es.erase key).Sound :=
  ⟨h.distinct.sublist (List.filter_sublist.map Prod.fst),
    fun e he => h.trees e (List.mem_of_mem_filter he)⟩

/-- The key of an entry that was taken out is free. -/
theorem get?_erase : (es.erase key).get? key = none := by
  unfold Entries.get? Entries.erase
  rw [Option.map_eq_none_iff, List.find?_eq_none]
  intro e he hkey
  have hne := List.of_mem_filter he
  rw [bne, hkey] at hne
  cases hne

end Entries

section

variable {es es' : Entries} {t : Tree} {key : List Char}

/-- The entries of a sound table are sound. -/
theorem Tree.Sound.entries {o : Origin} (h : (Tree.table o es).Sound) : es.Sound := by
  cases h with
  | table hdistinct htrees => exact ⟨hdistinct, htrees⟩

/-- Sound entries make a sound table, wherever it comes from. -/
theorem Entries.Sound.tree {o : Origin} (h : es.Sound) : (Tree.table o es).Sound :=
  .table h.distinct h.trees

/-- An array of tables is sound just if the entries of each of them are. -/
theorem Tree.sound_tables_iff {ts : List Entries} :
    (Tree.tables ts).Sound ↔ ∀ es ∈ ts, es.Sound := by
  constructor
  · rintro (⟨⟩ | ⟨⟩ | ⟨⟩ | ⟨hdistinct, htrees⟩) es hes
    exact ⟨hdistinct es hes, htrees es hes⟩
  · exact fun h => .tables (fun es hes => (h es hes).distinct) fun es hes => (h es hes).trees

/-- What is done to the last of some tables keeps them sound, if it keeps that one so. -/
theorem sound_changeLast {f : Entries → Option Entries} {ts ts' : List Entries}
    (hf : ∀ es es', es.Sound → f es = some es' → es'.Sound) (h : (Tree.tables ts).Sound)
    (hts : changeLast f ts = some ts') : (Tree.tables ts').Sound := by
  rw [Tree.sound_tables_iff] at h ⊢
  unfold changeLast at hts
  split at hts
  · next es hlast =>
    obtain ⟨es', hes', rfl⟩ := Option.map_eq_some_iff.1 hts
    intro e he
    rcases List.mem_append.1 he with he | he
    · exact h e (ts.dropLast_sublist.subset he)
    · obtain rfl := List.mem_singleton.1 he
      exact hf es _ (h es (List.mem_of_getLast? hlast)) hes'
  · cases hts

/-- An entry goes to a table where its key is new, and every table on the way stays sound. -/
theorem sound_assign {path : List (List Char)} (ht : t.Sound) (h : es.Sound)
    (hes : assign key t path es = some es') : es'.Sound := by
  -- along the path: what it leads to is sound, so it may stand under its key again
  induction path generalizing es es' with
  | nil =>
    unfold assign at hes
    split at hes
    · cases hes
    · next hget =>
      cases hes
      exact h.add (by simpa using hget) ht
  | cons k path ih =>
    unfold assign at hes
    split at hes
    · next hget =>
      obtain ⟨inner, hinner, rfl⟩ := Option.map_eq_some_iff.1 hes
      exact h.add hget (ih .nil hinner).tree
    · next inner hget =>
      obtain ⟨inner', hinner, rfl⟩ := Option.map_eq_some_iff.1 hes
      exact h.set (ih (h.get? hget).entries hinner).tree
    · next inner hget =>
      split at hes
      · cases hes
      obtain ⟨inner', hinner, rfl⟩ := Option.map_eq_some_iff.1 hes
      exact h.set (ih (h.get? hget).entries hinner).tree
    · next ts hget =>
      split at hes
      · cases hes
      obtain ⟨ts', hts, rfl⟩ := Option.map_eq_some_iff.1 hes
      exact h.set (sound_changeLast (fun _ _ => ih) (h.get? hget) hts)
    · cases hes

/-- So it is with entries that go in one after the other. -/
theorem sound_assignAll {as : List Assignment} (has : ∀ a ∈ as, a.tree.Sound) (h : es.Sound)
    (hes : assignAll es as = some es') : es'.Sound := by
  induction as generalizing es with
  | nil =>
    cases hes
    exact h
  | cons a as ih =>
    obtain ⟨ha, has⟩ := List.forall_mem_cons.1 has
    unfold assignAll at hes
    rw [List.foldlM_cons] at hes
    obtain ⟨inner, hinner, hrest⟩ := Option.bind_eq_some_iff.1 hes
    exact ih has (sound_assign ha h hinner) hrest

/-- What is done to a table below keeps every table on the way to it sound, if it keeps that one
so. -/
theorem sound_within {f : Entries → Option Entries} {path : List (List Char)}
    (hf : ∀ es es', es.Sound → f es = some es' → es'.Sound) (h : es.Sound)
    (hes : within f path es = some es') : es'.Sound := by
  induction path generalizing es es' with
  | nil => exact hf es es' h hes
  | cons k path ih =>
    unfold within at hes
    split at hes
    · next hget =>
      obtain ⟨inner, hinner, rfl⟩ := Option.map_eq_some_iff.1 hes
      exact h.add hget (ih .nil hinner).tree
    · cases hes
    · next inner _ hget =>
      obtain ⟨inner', hinner, rfl⟩ := Option.map_eq_some_iff.1 hes
      exact h.set (ih (h.get? hget).entries hinner).tree
    · next ts hget =>
      obtain ⟨ts', hts, rfl⟩ := Option.map_eq_some_iff.1 hes
      exact h.set (sound_changeLast (fun _ _ => ih) (h.get? hget) hts)
    · cases hes

variable {as : List Assignment} (has : ∀ a ∈ as, a.tree.Sound)
include has

/-- The table that a header opens is put under its key, or goes on where it was passed on the way to
another. -/
theorem sound_defineTable (h : es.Sound) (hes : defineTable key as es = some es') : es'.Sound := by
  unfold defineTable at hes
  split at hes
  · next hget =>
    obtain ⟨inner, hinner, rfl⟩ := Option.map_eq_some_iff.1 hes
    exact h.add hget (sound_assignAll has .nil hinner).tree
  · next inner hget =>
    -- the table was passed on the way to another; its key is free before it comes back
    obtain ⟨inner', hinner, rfl⟩ := Option.map_eq_some_iff.1 hes
    exact h.erase.add Entries.get?_erase (sound_assignAll has (h.get? hget).entries hinner).tree
  · cases hes

/-- A table that is one of an array is put behind those that are there. -/
theorem sound_defineElement (h : es.Sound) (hes : defineElement key as es = some es') :
    es'.Sound := by
  unfold defineElement at hes
  split at hes
  · next hget =>
    obtain ⟨inner, hinner, rfl⟩ := Option.map_eq_some_iff.1 hes
    refine h.add hget (Tree.sound_tables_iff.2 fun es hmem => ?_)
    obtain rfl := List.mem_singleton.1 hmem
    exact sound_assignAll has .nil hinner
  · next ts hget =>
    obtain ⟨inner, hinner, rfl⟩ := Option.map_eq_some_iff.1 hes
    refine h.set (Tree.sound_tables_iff.2 fun es hmem => ?_)
    rcases List.mem_append.1 hmem with hmem | hmem
    · exact Tree.sound_tables_iff.1 (h.get? hget) es hmem
    · obtain rfl := List.mem_singleton.1 hmem
      exact sound_assignAll has .nil hinner
  · cases hes

end

/-! ### What is read is sound -/

section

variable {cs rest : List Char}

/-- What is true of every item that can be read is true of all items. -/
theorem forall_mem_readSeparated {α : Type} {P : α → Prop} {mark : Char}
    {item : List Char → Option (α × List Char)} {xs : List α}
    (hitem : ∀ cs x rest, item cs = some (x, rest) → P x)
    (h : readSeparated mark item cs = some (xs, rest)) : ∀ x ∈ xs, P x := by
  fun_induction readSeparated mark item cs generalizing xs rest with
  | case1 cs hnone => cases h
  | case2 cs x hx =>
    cases h
    exact List.forall_mem_singleton.2 (hitem cs x [] hx)
  | case3 cs x m behind hx hmark ih =>
    obtain ⟨⟨ys, rest'⟩, hys, heq⟩ := Option.map_eq_some_iff.1 h
    cases heq
    exact List.forall_mem_cons.2 ⟨hitem cs x _ hx, ih hys⟩
  | case4 cs x m behind hx hmark =>
    cases h
    exact List.forall_mem_singleton.2 (hitem cs x _ hx)

/-- A value that is read as a scalar has no entries. -/
theorem entries_of_readScalar {v : Value} (h : readScalar cs = some (v, rest)) :
    v.entries = [] := by
  unfold readScalar at h
  split at h
  · cases h
  split at h
  · obtain ⟨⟨s, behind⟩, -, heq⟩ := Option.map_eq_some_iff.1 h
    cases heq
    rfl
  split at h
  · obtain ⟨behind, -, heq⟩ := Option.map_eq_some_iff.1 h
    cases heq
    rfl
  split at h
  · obtain ⟨behind, -, heq⟩ := Option.map_eq_some_iff.1 h
    cases heq
    rfl
  simp only [Option.orElse_eq_orElse, Option.orElse_eq_or, Option.or_eq_some_iff] at h
  rcases h with h | ⟨-, h | ⟨-, h⟩⟩
  · obtain ⟨⟨m, behind⟩, -, heq⟩ := Option.map_eq_some_iff.1 h
    cases heq
    rfl
  · obtain ⟨⟨x, behind⟩, -, heq⟩ := Option.map_eq_some_iff.1 h
    cases heq
    rfl
  · obtain ⟨⟨n, behind⟩, -, heq⟩ := Option.map_eq_some_iff.1 h
    cases heq
    rfl

section

variable {value : List Char → Option (Tree × List Char)}
  (hvalue : ∀ cs t rest, value cs = some (t, rest) → t.Sound)
include hvalue

/-- An entry is sound if its value is. -/
theorem sound_readAssignment {a : Assignment} (h : readAssignment value cs = some (a, rest)) :
    a.tree.Sound := by
  unfold readAssignment at h
  obtain ⟨⟨parts, behind⟩, -, h⟩ := Option.bind_eq_some_iff.1 h
  obtain ⟨behind', -, h⟩ := Option.bind_eq_some_iff.1 h
  obtain ⟨⟨tree, behind''⟩, htree, h⟩ := Option.bind_eq_some_iff.1 h
  obtain ⟨key, -, heq⟩ := Option.bind_eq_some_iff.1 h
  cases heq
  exact hvalue _ _ _ htree

/-- A table between braces is built entry by entry, so no key is there twice. -/
theorem sound_readBraces {t : Tree} (h : readBraces value cs = some (t, rest)) : t.Sound := by
  unfold readBraces at h
  split at h
  · cases h
    exact Entries.Sound.nil.tree
  obtain ⟨⟨as, behind⟩, has, h⟩ := Option.bind_eq_some_iff.1 h
  obtain ⟨behind', -, h⟩ := Option.bind_eq_some_iff.1 h
  obtain ⟨es, hes, heq⟩ := Option.bind_eq_some_iff.1 h
  cases heq
  refine (sound_assignAll (forall_mem_readSeparated ?_ has) .nil hes).tree
  intro cs a rest ha
  obtain ⟨⟨a', behind''⟩, ha', heq⟩ := Option.map_eq_some_iff.1 ha
  cases heq
  exact sound_readAssignment hvalue ha'

end

/-- A value is sound, however deep arrays and tables stand in it. -/
theorem sound_readValue (depth : Nat) (cs : List Char) (t : Tree) (rest : List Char)
    (h : readValue depth cs = some (t, rest)) : t.Sound := by
  induction depth generalizing cs t rest with
  | zero =>
    obtain ⟨⟨v, behind⟩, hv, heq⟩ := Option.map_eq_some_iff.1 h
    cases heq
    exact .leaf (entries_of_readScalar hv)
  | succ depth ih =>
    unfold readValue at h
    split at h
    · obtain ⟨⟨ts, behind⟩, -, heq⟩ := Option.map_eq_some_iff.1 h
      cases heq
      exact .array
    · next heq =>
      cases heq
      exact sound_readBraces ih h
    · obtain ⟨⟨v, behind⟩, hv, heq⟩ := Option.map_eq_some_iff.1 h
      cases heq
      exact .leaf (entries_of_readScalar hv)

/-- A statement whose value, if it has one, is sound. -/
def Statement.Sound (s : Statement) : Prop :=
  ∀ a, s = .entry a → a.tree.Sound

/-- A statement of the file is sound: only an entry has a value. -/
theorem sound_readStatement {s : Statement} (h : readStatement cs = some (s, rest)) : s.Sound := by
  unfold readStatement at h
  split at h
  · obtain ⟨⟨path, behind⟩, -, h⟩ := Option.bind_eq_some_iff.1 h
    obtain ⟨behind', -, h⟩ := Option.bind_eq_some_iff.1 h
    obtain ⟨behind'', -, heq⟩ := Option.bind_eq_some_iff.1 h
    cases heq
    exact nofun
  · obtain ⟨⟨path, behind⟩, -, h⟩ := Option.bind_eq_some_iff.1 h
    obtain ⟨behind', -, heq⟩ := Option.bind_eq_some_iff.1 h
    cases heq
    exact nofun
  · obtain ⟨⟨a, behind⟩, ha, heq⟩ := Option.map_eq_some_iff.1 h
    cases heq
    rintro _ ⟨⟩
    exact sound_readAssignment (sound_readValue depthLimit) ha

/-- So is every statement of a text that can be read. -/
theorem sound_readStatements {ss : List Statement} (h : readStatements cs = some ss) :
    ∀ s ∈ ss, s.Sound := by
  fun_induction readStatements cs generalizing ss with
  | case1 cs rest hend hlt ih => exact ih h
  | case2 cs rest hend hle =>
    cases h
    exact nofun
  | case3 cs hend ih =>
    obtain ⟨⟨s, behind⟩, hs, h⟩ := Option.bind_eq_some_iff.1 h
    obtain ⟨rest, -, h⟩ := Option.bind_eq_some_iff.1 h
    split at h
    · next hlt =>
      obtain ⟨ss', hss, heq⟩ := Option.bind_eq_some_iff.1 h
      cases heq
      exact List.forall_mem_cons.2 ⟨sound_readStatement hs, ih rest hlt hss⟩
    · cases h

end

/-! ### What statements build -/

section

variable {ss : List Statement} (hss : ∀ s ∈ ss, s.Sound)
include hss

/-- The entries of a section and the statements behind it are sound, as they come from the same
statements. -/
theorem sound_takeEntries :
    (∀ a ∈ (takeEntries ss).1, a.tree.Sound) ∧ ∀ s ∈ (takeEntries ss).2, s.Sound := by
  induction ss with
  | nil => exact ⟨nofun, nofun⟩
  | cons s ss ih =>
    obtain ⟨hs, hrest⟩ := List.forall_mem_cons.1 hss
    cases s with
    | entry a =>
      obtain ⟨has, hbehind⟩ := ih hrest
      exact ⟨List.forall_mem_cons.2 ⟨hs a rfl, has⟩, hbehind⟩
    | header path => exact ⟨nofun, hss⟩
    | element path => exact ⟨nofun, hss⟩

/-- Section by section the tables stay sound. -/
theorem sound_buildSections {es es' : Entries} (h : es.Sound)
    (hes : buildSections es ss = some es') : es'.Sound := by
  fun_induction buildSections es ss with
  | case1 es =>
    cases hes
    exact h
  | case2 es a ss => cases hes
  | case3 es path ss ih =>
    obtain ⟨key, -, hes⟩ := Option.bind_eq_some_iff.1 hes
    obtain ⟨inner, hinner, hes⟩ := Option.bind_eq_some_iff.1 hes
    obtain ⟨-, hrest⟩ := List.forall_mem_cons.1 hss
    obtain ⟨has, hbehind⟩ := sound_takeEntries hrest
    exact ih inner hbehind (sound_within (fun _ _ => sound_defineTable has) h hinner) hes
  | case4 es path ss ih =>
    obtain ⟨key, -, hes⟩ := Option.bind_eq_some_iff.1 hes
    obtain ⟨inner, hinner, hes⟩ := Option.bind_eq_some_iff.1 hes
    obtain ⟨-, hrest⟩ := List.forall_mem_cons.1 hss
    obtain ⟨has, hbehind⟩ := sound_takeEntries hrest
    exact ih inner hbehind (sound_within (fun _ _ => sound_defineElement has) h hinner) hes

end

/-! ### Trees as values -/

/-- Values stand under the keys of their trees. -/
theorem entryValues?_eq_some {es : Entries} {vs : Table} (h : entryValues? es = some vs) :
    vs.map Prod.fst = es.map Prod.fst ∧
      ∀ entry ∈ vs, ∃ e ∈ es, e.2.value? = some entry.2 := by
  induction es generalizing vs with
  | nil =>
    cases h
    exact ⟨rfl, nofun⟩
  | cons e es ih =>
    obtain ⟨v, hv, h⟩ := Option.bind_eq_some_iff.1 h
    obtain ⟨vs', hvs', heq⟩ := Option.bind_eq_some_iff.1 h
    cases heq
    obtain ⟨hkeys, hvalues⟩ := ih hvs'
    refine ⟨by rw [List.map_cons, List.map_cons, hkeys], fun entry hentry => ?_⟩
    rcases List.mem_cons.1 hentry with rfl | hentry
    · exact ⟨e, List.mem_cons_self, hv⟩
    · obtain ⟨e', he', hvalue⟩ := hvalues entry hentry
      exact ⟨e', List.mem_cons_of_mem e he', hvalue⟩

/-- The value of a table has its entries in order, if no key is there twice. -/
theorem inOrder_of_tableValue? {es : Table} {v : Value} (h : (es.map Prod.fst).Nodup)
    (hv : tableValue? es = some v) : v.entries.InOrder := by
  unfold tableValue? at hv
  split at hv
  · split at hv
    · split at hv
      · obtain ⟨m, -, rfl⟩ := Option.map_eq_some_iff.1 hv
        exact .nil
      · cases hv
    · cases hv
      exact inOrder_inKeyOrder h
  · cases hv
    exact .nil

/-- The value of a sound tree has its entries in order. -/
theorem Tree.Sound.inOrder {t : Tree} {v : Value} (h : t.Sound) (hv : t.value? = some v) :
    v.entries.InOrder := by
  unfold Tree.value? at hv
  split at hv
  · next v' =>
    cases hv
    cases h with
    | leaf hentries =>
      rw [hentries]
      exact .nil
  · obtain ⟨vs, -, rfl⟩ := Option.map_eq_some_iff.1 hv
    exact .nil
  · obtain ⟨vs, hvs, hv⟩ := Option.bind_eq_some_iff.1 hv
    refine inOrder_of_tableValue? ?_ hv
    rw [(entryValues?_eq_some hvs).1]
    exact h.entries.distinct
  · obtain ⟨vs, -, rfl⟩ := Option.map_eq_some_iff.1 hv
    exact .nil

/-- **The table of a settings file is in order, and so are the tables in it.** -/
theorem sorted_of_read? {cs : List Char} {t : Table} (h : read? cs = some t) : t.Sorted := by
  unfold read? at h
  obtain ⟨ss, hss, hbuild⟩ := Option.bind_eq_some_iff.1 h
  unfold build at hbuild
  obtain ⟨es, hes, hbuild⟩ := Option.bind_eq_some_iff.1 hbuild
  obtain ⟨es', hes', hbuild⟩ := Option.bind_eq_some_iff.1 hbuild
  obtain ⟨vs, hvs, rfl⟩ := Option.map_eq_some_iff.1 hbuild
  obtain ⟨hkeys, hvalues⟩ := entryValues?_eq_some hvs
  obtain ⟨has, hbehind⟩ := sound_takeEntries (sound_readStatements hss)
  have hsound : es'.Sound := sound_buildSections hbehind (sound_assignAll has .nil hes) hes'
  constructor
  · refine inOrder_inKeyOrder ?_
    rw [hkeys]
    exact hsound.distinct
  · intro entry hentry
    obtain ⟨e, he, hvalue⟩ := hvalues entry (List.mem_mergeSort.1 hentry)
    exact (hsound.trees e he).inOrder hvalue

end Toml
end TuneEditor
