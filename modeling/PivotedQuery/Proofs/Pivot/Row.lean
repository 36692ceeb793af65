import PivotedQuery.Pivot.Row
import PivotedQuery.Proofs.Schema.Keys
/-!
Pivot rows by key. Main statements: an entry is found by its key, a key that is not held goes in at
the end, and a row made of entries without a common key has just those.
-/
namespace PivotedQuery.PivotRow

variable {p p' : PivotRow} {key : ColumnKey}

def keys (p : PivotRow) : List ColumnKey := p.entries.map (·.1)

theorem eq_of_entries_eq (h : p.entries = p'.entries) : p = p' := by
  cases p
  cases p'
  cases h
  rfl

theorem distinctBy_entries (p : PivotRow) : DistinctBy Prod.fst p.entries := p.distinct

theorem distinctBy_keys (p : PivotRow) : DistinctBy id p.keys := DistinctBy.map.2 p.distinct

theorem beq_of_held? {e : ColumnKey × Cell} (h : p.held? key = some e) : (e.1 == key) = true := by
  rw [held?, List.find?_eq_some_iff_append] at h
  exact h.1

theorem get?_of_mem {e : ColumnKey × Cell} (he : e ∈ p.entries) : p.get? e.1 = some e.2 := by
  rw [get?, held?, p.distinctBy_entries.find?_eq he BEq.rfl, Option.map_some]

theorem contains_of_mem (h : key ∈ p.keys) : p.contains key = true := by
  obtain ⟨e, he, rfl⟩ := List.mem_map.1 h
  rw [contains, held?, p.distinctBy_entries.find?_eq he BEq.rfl, Option.isSome_some]

theorem exists_get?_of_contains (h : p.contains key = true) : ∃ cell, p.get? key = some cell := by
  obtain ⟨e, he⟩ := Option.isSome_iff_exists.1 h
  exact ⟨e.2, by rw [get?, he, Option.map_some]⟩

theorem isSome_value?_of_mem (h : key ∈ p.keys) : (p.value? key).isSome := by
  obtain ⟨e, he, rfl⟩ := List.mem_map.1 h
  rw [value?, get?_of_mem he, Option.map_some, Option.isSome_some]

theorem entries_of_insert {cell : Cell} (h : p.insert key cell = .ok p') :
    p'.entries = p.entries ++ [(key, cell)] := by
  unfold insert at h
  split at h
  · cases h
  · cases h
    rfl

theorem insert_of_not_held {cell : Cell} (h : p.held? key = none) :
    p.insert key cell = .ok (p.push key cell h) := by
  unfold insert
  split
  case h_1 held hheld => rw [h] at hheld; cases hheld
  case h_2 => rfl

theorem keys_of_insert {cell : Cell} (h : p.insert key cell = .ok p') :
    p'.keys = p.keys ++ [key] := by
  rw [keys, entries_of_insert h, List.map_append]
  rfl

theorem held?_eq_none_iff_keys : p.held? key = none ↔ ∀ k ∈ p.keys, (k == key) = false := by
  simp only [held?_eq_none_iff, keys, List.forall_mem_map]

theorem new_of_insert {cell : Cell} (h : p.insert key cell = .ok p') :
    ∀ k ∈ p.keys, (k == key) = false := by
  rw [← held?_eq_none_iff_keys]
  unfold insert at h
  split at h
  · cases h
  · assumption

theorem insert_of_held {cell : Cell} {e : ColumnKey × Cell} (h : p.held? key = some e) :
    p.insert key cell = .error (.duplicateKey e.1) := by
  unfold insert
  split
  case h_1 held hheld =>
    rw [h] at hheld
    cases hheld
    rfl
  case h_2 hheld => rw [h] at hheld; cases hheld

theorem insert_eq_error_iff {cell : Cell} {e : PivotError} : p.insert key cell = .error e ↔
    ∃ held ∈ p.keys, (held == key) = true ∧ e = .duplicateKey held := by
  cases h : p.held? key with
  | none =>
    simp only [insert_of_not_held h, reduceCtorEq, false_iff]
    rintro ⟨held, hheld, hkey, -⟩
    rw [held?_eq_none_iff_keys.1 h held hheld] at hkey
    cases hkey
  | some found =>
    have hkey : (found.1 == key) = true := beq_of_held? h
    simp only [insert_of_held h, Except.error.injEq]
    constructor
    · rintro rfl
      exact ⟨found.1, List.mem_map_of_mem (List.mem_of_find?_eq_some h), hkey, rfl⟩
    · rintro ⟨_, hheld, hheldkey, rfl⟩
      obtain ⟨a, ha, rfl⟩ := List.mem_map.1 hheld
      have hfound : p.held? key = some a := p.distinctBy_entries.find?_eq ha hheldkey
      rw [h] at hfound
      cases hfound
      rfl

theorem set_of_not_held {cell : Cell} (h : p.held? key = none) :
    p.set key cell = p.push key cell h := by
  unfold set
  split
  case h_1 held hheld => rw [h] at hheld; cases hheld
  case h_2 => rfl

theorem held?_eq_none_of_distinctBy {e : ColumnKey × Cell} {rest : List (ColumnKey × Cell)}
    (h : DistinctBy Prod.fst (p.entries ++ e :: rest)) : p.held? e.1 = none := by
  refine held?_eq_none_iff.2 fun a ha => ?_
  exact (List.pairwise_append.1 h).2.2 a ha e List.mem_cons_self

theorem entries_foldl_set {entries : List (ColumnKey × Cell)}
    (h : DistinctBy Prod.fst (p.entries ++ entries)) :
    (entries.foldl (fun p e => p.set e.1 e.2) p).entries = p.entries ++ entries := by
  induction entries generalizing p with
  | nil => rw [List.foldl_nil, List.append_nil]
  | cons e rest ih =>
    have hheld := held?_eq_none_of_distinctBy h
    have hpush : (p.push e.1 e.2 hheld).entries ++ rest = p.entries ++ e :: rest :=
      List.append_cons _ _ _ |>.symm
    rw [List.foldl_cons, set_of_not_held hheld, ih (by rwa [hpush]), hpush]

theorem entries_ofList {entries : List (ColumnKey × Cell)} (h : DistinctBy Prod.fst entries) :
    (ofList entries).entries = entries :=
  entries_foldl_set (p := empty) h

/-- Rows of the same keys in the same order hold related cells under every key. -/
theorem rel_get? {R : Cell → Cell → Prop}
    (h : List.Forall₂ (fun e f => e.1 = f.1 ∧ R e.2 f.2) p.entries p'.entries) (key : ColumnKey) :
    Option.Rel R (p.get? key) (p'.get? key) := by
  -- the search goes through both lists in step, since their keys agree
  unfold get? held?
  generalize p.entries = es, p'.entries = fs at h
  induction h with
  | nil => exact .none
  | @cons e f _ _ hef _ ih =>
    rw [List.find?_cons, List.find?_cons, ← hef.1]
    split
    · exact .some hef.2
    · exact ih

/-- The cells of the columns, where they are held. -/
def project (columns : List ColumnKey) (p : PivotRow) : List Cell := columns.filterMap p.get?

end PivotedQuery.PivotRow
