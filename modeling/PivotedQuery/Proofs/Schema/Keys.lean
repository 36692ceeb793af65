import Mathlib.Data.List.Perm.Subperm
import PivotedQuery.Schema.Table
/-!
Lists in which no two entries have one key. Main statements: looking for a key finds the only entry
that has it, and in tables of distinct names the column that a key of theirs points at is found.
-/
namespace PivotedQuery

theorem Identifier.beq_eq (a b : Identifier) :
    (a == b) = (a.name.toList.map Char.toLower == b.name.toList.map Char.toLower) := by
  rw [Bool.eq_iff_iff, Identifier.beq_iff, beq_iff_eq, ← String.toList_inj]
  simp [Identifier.folded]

theorem ColumnKey.beq_eq (a b : ColumnKey) :
    (a == b) = (a.table == b.table && a.column == b.column) := rfl

/-- No two entries have equal keys. -/
def DistinctBy {α β : Type} [BEq β] (f : α → β) (xs : List α) : Prop :=
  xs.Pairwise fun a b => (f a == f b) = false

namespace DistinctBy

variable {α β : Type} [BEq β] {f : α → β} {xs : List α}

theorem map {γ : Type} {g : γ → α} {ys : List γ} :
    DistinctBy f (ys.map g) ↔ DistinctBy (fun y => f (g y)) ys :=
  List.pairwise_map

theorem perm [PartialEquivBEq β] {ys : List α} (h : DistinctBy f xs) (hperm : ys.Perm xs) :
    DistinctBy f ys :=
  hperm.symm.pairwise h fun hab => by rwa [BEq.comm]

theorem sublist {ys : List α} (h : DistinctBy f xs) (hsub : ys.Sublist xs) : DistinctBy f ys :=
  List.Pairwise.sublist hsub h

theorem subperm [PartialEquivBEq β] {ys : List α} (h : DistinctBy f xs) (hsub : ys.Subperm xs) :
    DistinctBy f ys := by
  obtain ⟨zs, hperm, hzs⟩ := hsub
  exact (h.sublist hzs).perm hperm.symm

theorem find?_eq [EquivBEq β] (h : DistinctBy f xs) {a : α} {k : β} (ha : a ∈ xs)
    (hk : (f a == k) = true) : xs.find? (f · == k) = some a := by
  induction xs with
  | nil => cases ha
  | cons b bs ih =>
    obtain ⟨hb, hbs⟩ := List.pairwise_cons.1 h
    rcases List.mem_cons.1 ha with rfl | ha
    · exact List.find?_cons_of_pos hk
    · rw [List.find?_cons_of_neg]
      · exact ih hbs ha
      · intro hbk
        have hba := hb a ha
        rw [BEq.trans hbk (BEq.symm hk)] at hba
        cases hba

end DistinctBy

def DistinctNames (tables : List Table) : Prop := DistinctBy Table.name tables

def DistinctKeys (tables : List Table) : Prop := DistinctBy id (tables.flatMap Table.keys)

theorem mem_keys {t : Table} {key : ColumnKey} :
    key ∈ t.keys ↔ ∃ c ∈ t.columns, key = ⟨t.name, c.name⟩ := by
  simp only [Table.keys, List.mem_map, eq_comm]

/-- Tables of distinct names, each with columns of distinct names, share no key. -/
theorem distinctKeys_of_distinctNames {tables : List Table} (h : DistinctNames tables)
    (hcolumns : ∀ t ∈ tables, DistinctBy Column.name t.columns) : DistinctKeys tables := by
  refine List.pairwise_flatMap.2 ⟨fun t ht => ?_, h.imp ?_⟩
  · rw [Table.keys, List.pairwise_map]
    refine (hcolumns t ht).imp fun hab => ?_
    simp only [id, ColumnKey.beq_eq, hab, Bool.and_false]
  · intro t u htu a ha b hb
    obtain ⟨c, -, rfl⟩ := mem_keys.1 ha
    obtain ⟨d, -, rfl⟩ := mem_keys.1 hb
    simp only [id, ColumnKey.beq_eq, htu, Bool.false_and]

/-- Of distinct names, the first table of a name is the only one. -/
theorem isSome_lookupColumn {tables : List Table} (h : DistinctNames tables) {key : ColumnKey}
    (hkey : key ∈ tables.flatMap Table.keys) : (lookupColumn tables key).isSome := by
  obtain ⟨t, ht, hkey⟩ := List.mem_flatMap.1 hkey
  obtain ⟨c, hc, rfl⟩ := mem_keys.1 hkey
  have hfound : tables.find? (·.name == t.name) = some t := h.find?_eq ht BEq.rfl
  simp only [lookupColumn, hfound, Option.bind_eq_bind, Option.bind_some, Table.column?,
    List.find?_isSome]
  exact ⟨c, hc, BEq.rfl⟩

end PivotedQuery
