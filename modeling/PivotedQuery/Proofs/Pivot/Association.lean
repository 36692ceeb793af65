import Mathlib.Data.List.Induction
import PivotedQuery.Proofs.Pivot.Row
/-!
Pivot rows as association lists. Main statement: a row that is made of entries has each key where
and as it comes first, with the cell that comes last; a row that entries are inserted into keeps the
first cell and refuses the others under the first spelling.
-/
namespace PivotedQuery

section Firsts

variable {α β : Type} [BEq β] {f : α → β} {xs : List α} {x : α}

/-- The first entry of each key. -/
def firstsBy (f : α → β) (xs : List α) : List α := xs.eraseDupsBy fun a b => f a == f b

theorem firstsBy_append_singleton (f : α → β) (xs : List α) (x : α) : firstsBy f (xs ++ [x]) =
    if (firstsBy f xs).any (f x == f ·) then firstsBy f xs else firstsBy f xs ++ [x] := by
  have loop (seen : List α) : List.eraseDupsBy.loop (fun a b => f a == f b) (xs ++ [x]) seen =
      let firsts := List.eraseDupsBy.loop (fun a b => f a == f b) xs seen
      if firsts.any (f x == f ·) then firsts else firsts ++ [x] := by
    induction xs generalizing seen with
    | nil => cases h : seen.any (f x == f ·) <;> simp [List.eraseDupsBy.loop, h]
    | cons y ys ih =>
      rw [List.cons_append, List.eraseDupsBy.loop, List.eraseDupsBy.loop]
      split <;> exact ih _
  exact loop []

theorem map_firstsBy (f : α → β) (xs : List α) : (firstsBy f xs).map f = (xs.map f).eraseDups := by
  induction xs using List.reverseRecOn with
  | nil => rfl
  | append_singleton xs x ih =>
    have hkeys : (xs.map f ++ [f x]).eraseDups =
        if (xs.map f).eraseDups.any (f x == ·) then (xs.map f).eraseDups
        else (xs.map f).eraseDups ++ [f x] := firstsBy_append_singleton id (xs.map f) (f x)
    rw [List.map_append, List.map_singleton, hkeys, firstsBy_append_singleton, ← ih, List.any_map]
    simp only [Function.comp_def]
    split
    · rfl
    · rw [List.map_append, List.map_singleton]

variable [EquivBEq β]

/-- Looking for a key finds its first entry, among all entries or among the first ones. -/
theorem find?_firstsBy (f : α → β) (xs : List α) (k : β) :
    (firstsBy f xs).find? (f · == k) = xs.find? (f · == k) := by
  induction xs using List.reverseRecOn with
  | nil => rfl
  | append_singleton xs x ih =>
    rw [firstsBy_append_singleton, List.find?_append, ← ih]
    split
    case isFalse => rw [List.find?_append]
    case isTrue h =>
      cases hx : f x == k with
      | false => rw [List.find?_singleton, hx, if_neg Bool.false_ne_true, Option.or_none]
      | true =>
        obtain ⟨y, hy, hxy⟩ := List.any_eq_true.1 h
        have hk : (f y == k) = true := BEq.trans (BEq.symm hxy) hx
        have hsome : ((firstsBy f xs).find? (f · == k)).isSome = true :=
          List.find?_isSome.2 ⟨y, hy, hk⟩
        rw [Option.or_of_isSome hsome]

/-- An entry is a first one if no entry before it has its key. -/
theorem firstsBy_concat (f : α → β) (xs : List α) (x : α) : firstsBy f (xs ++ [x]) =
    if xs.any (f · == f x) then firstsBy f xs else firstsBy f xs ++ [x] := by
  have hany : (firstsBy f xs).any (f x == f ·) = xs.any (f · == f x) := by
    simp only [BEq.comm (a := f x), ← List.isSome_find?, find?_firstsBy]
  rw [firstsBy_append_singleton, hany]

theorem firstsBy_of_distinctBy (h : DistinctBy f xs) : firstsBy f xs = xs := by
  induction xs using List.reverseRecOn with
  | nil => rfl
  | append_singleton xs x ih =>
    obtain ⟨hxs, -, hx⟩ := List.pairwise_append.1 h
    have hnew : xs.any (f · == f x) = false :=
      List.any_eq_false.2 fun a ha => by rw [hx a ha x List.mem_cons_self]; exact Bool.false_ne_true
    rw [firstsBy_concat, hnew, if_neg Bool.false_ne_true, ih hxs]

end Firsts

namespace PivotRow

variable {p : PivotRow} {key k : ColumnKey} {cell : Cell} {xs : List (ColumnKey × Cell)}

def firstCell? (entries : List (ColumnKey × Cell)) (key : ColumnKey) : Option Cell :=
  (entries.find? (·.1 == key)).map Prod.snd

def lastCell? (entries : List (ColumnKey × Cell)) (key : ColumnKey) : Option Cell :=
  (entries.findRev? (·.1 == key)).map Prod.snd

/-- However the row is read, it has these keys in this order, each with its cell. -/
structure ReadsAs (p : PivotRow) (keys : List ColumnKey) (cell? : ColumnKey → Option Cell) :
    Prop where
  entries_eq : p.entries.map (fun e => (e.1, some e.2)) = keys.map fun key => (key, cell? key)
  get?_eq : ∀ key, p.get? key = cell? key
  contains_eq : ∀ key, p.contains key = keys.any (· == key)
  size_eq : p.size = keys.length

theorem contains_eq_any (p : PivotRow) (key : ColumnKey) :
    p.contains key = p.keys.any (· == key) := by
  rw [contains, held?, List.isSome_find?, keys, List.any_map]
  rfl

/-- The other ways to read a row follow from its keys and the cell under each key. -/
theorem readsAs_of {keys : List ColumnKey} {cell? : ColumnKey → Option Cell} (hkeys : p.keys = keys)
    (hget : ∀ key, p.get? key = cell? key) : p.ReadsAs keys cell? where
  entries_eq := by
    rw [← hkeys, PivotRow.keys, List.map_map]
    refine List.map_congr_left fun e he => ?_
    rw [Function.comp_apply, ← hget, get?_of_mem he]
  get?_eq := hget
  contains_eq key := by rw [contains_eq_any, hkeys]
  size_eq := by rw [← hkeys, PivotRow.keys, List.length_map, size]

/-! Entries that are inserted. -/

/-- An entry that is refused leaves the row as it is. -/
def offer (p : PivotRow) (e : ColumnKey × Cell) : PivotRow :=
  match p.insert e.1 e.2 with
  | .ok p' => p'
  | .error _ => p

def insertAll (p : PivotRow) (entries : List (ColumnKey × Cell)) : PivotRow :=
  entries.foldl offer p

/-- What becomes of an entry after those that came earlier. -/
def Takes (earlier : List (ColumnKey × Cell)) (p : PivotRow) (e : ColumnKey × Cell) : Prop :=
  match earlier.find? (·.1 == e.1) with
  | none => ∃ p', p.insert e.1 e.2 = .ok p' ∧ p.offer e = p' ∧ p'.entries = p.entries ++ [e]
  | some first => p.insert e.1 e.2 = .error (.duplicateKey first.1) ∧ p.offer e = p

theorem takes_entries (p : PivotRow) (e : ColumnKey × Cell) : Takes p.entries p e := by
  unfold Takes
  split
  case h_1 hnone =>
    have hinsert : p.insert e.1 e.2 = .ok (p.push e.1 e.2 hnone) := insert_of_not_held hnone
    exact ⟨_, hinsert, by rw [offer, hinsert], rfl⟩
  case h_2 first hsome =>
    have hinsert : p.insert e.1 e.2 = .error (.duplicateKey first.1) := insert_of_held hsome
    exact ⟨hinsert, by rw [offer, hinsert]⟩

theorem Takes.refused {earlier : List (ColumnKey × Cell)} {e first : ColumnKey × Cell}
    (h : Takes earlier p e) (hfirst : earlier.find? (·.1 == e.1) = some first) :
    p.insert e.1 e.2 = .error (.duplicateKey first.1) := by
  rw [Takes, hfirst] at h
  exact h.1

theorem entries_offer (p : PivotRow) (e : ColumnKey × Cell) : (p.offer e).entries =
    if p.entries.any (·.1 == e.1) then p.entries else p.entries ++ [e] := by
  have htakes := takes_entries p e
  unfold Takes at htakes
  rw [← List.isSome_find?]
  split at htakes
  case h_1 hnone =>
    obtain ⟨p', -, hoffer, hentries⟩ := htakes
    rw [hoffer, hentries, hnone, Option.isSome_none, if_neg Bool.false_ne_true]
  case h_2 first hsome => rw [htakes.2, hsome, Option.isSome_some, if_pos rfl]

/-- The row keeps the first entry of each key. -/
theorem entries_insertAll (p : PivotRow) (xs : List (ColumnKey × Cell)) :
    (p.insertAll xs).entries = firstsBy Prod.fst (p.entries ++ xs) := by
  induction xs using List.reverseRecOn with
  | nil => rw [List.append_nil, firstsBy_of_distinctBy p.distinctBy_entries]; rfl
  | append_singleton xs e ih =>
    have hoffer : p.insertAll (xs ++ [e]) = (p.insertAll xs).offer e := by
      rw [insertAll, List.foldl_append]
      rfl
    rw [hoffer, entries_offer, ih, ← List.append_assoc, firstsBy_concat, ← List.isSome_find?,
      find?_firstsBy, List.isSome_find?]

theorem takes_insertAll (p : PivotRow) (xs : List (ColumnKey × Cell)) (e : ColumnKey × Cell) :
    Takes (p.entries ++ xs) (p.insertAll xs) e := by
  have htakes := takes_entries (p.insertAll xs) e
  unfold Takes at htakes ⊢
  rwa [entries_insertAll, find?_firstsBy, ← entries_insertAll] at htakes

theorem readsAs_insertAll (p : PivotRow) (xs : List (ColumnKey × Cell)) :
    (p.insertAll xs).ReadsAs ((p.entries ++ xs).map Prod.fst).eraseDups
      (firstCell? (p.entries ++ xs)) := by
  apply readsAs_of
  · rw [keys, entries_insertAll, map_firstsBy]
  · intro key
    rw [get?, held?, entries_insertAll, find?_firstsBy, firstCell?]

/-! Entries that a row is made of. -/

theorem set_of_held {e : ColumnKey × Cell} (h : p.held? key = some e) :
    (p.set key cell).entries = p.entries.map (replaceAt key cell) := by
  unfold set
  split
  case h_1 => rfl
  case h_2 hnone => rw [h] at hnone; cases hnone

theorem keys_set (p : PivotRow) (key : ColumnKey) (cell : Cell) :
    (p.set key cell).keys = if p.keys.any (· == key) then p.keys else p.keys ++ [key] := by
  rw [← contains_eq_any, contains]
  cases h : p.held? key with
  | none =>
    rw [set_of_not_held h, Option.isSome_none, if_neg Bool.false_ne_true]
    exact List.map_append
  | some e =>
    rw [keys, set_of_held h, List.map_map, Option.isSome_some, if_pos rfl]
    exact List.map_congr_left fun a _ => replaceAt_fst key cell a

theorem get?_set (p : PivotRow) (key : ColumnKey) (cell : Cell) (k : ColumnKey) :
    (p.set key cell).get? k = if key == k then some cell else p.get? k := by
  cases h : p.held? key with
  | none =>
    have hpush : (p.push key cell h).held? k =
        (p.held? k).or (if key == k then some (key, cell) else none) := by
      rw [held?, push, List.find?_append, List.find?_singleton]
      rfl
    rw [set_of_not_held h, get?, hpush]
    split
    case isTrue hkey =>
      have hk : p.held? k = none := by
        rw [held?_eq_none_iff] at h ⊢
        intro e he
        rw [← BEq.congr_right hkey, h e he]
      rw [hk]
      rfl
    case isFalse => rw [Option.or_none, get?]
  | some held =>
    have hheld : (p.set key cell).held? k = (p.held? k).map (replaceAt key cell) := by
      rw [held?, set_of_held h, List.find?_map]
      simp only [Function.comp_def, replaceAt_fst, held?]
    rw [get?, hheld, get?, Option.map_map]
    cases hk : p.held? k with
    | none =>
      have hkey : (key == k) = false := by
        rw [← BEq.congr_left (beq_of_held? h)]
        exact held?_eq_none_iff.1 hk held (List.mem_of_find?_eq_some h)
      rw [hkey]
      rfl
    | some e =>
      have hkey : (e.1 == key) = (key == k) := by
        rw [BEq.congr_left (beq_of_held? hk), BEq.comm]
      rw [Option.map_some, Function.comp_apply, replaceAt, hkey]
      split <;> rfl

theorem ofList_append_singleton (xs : List (ColumnKey × Cell)) (e : ColumnKey × Cell) :
    ofList (xs ++ [e]) = (ofList xs).set e.1 e.2 := by
  rw [ofList, List.foldl_append]
  rfl

theorem keys_ofList (xs : List (ColumnKey × Cell)) :
    (ofList xs).keys = (xs.map Prod.fst).eraseDups := by
  rw [← map_firstsBy]
  induction xs using List.reverseRecOn with
  | nil => rfl
  | append_singleton xs e ih =>
    have hany : ((firstsBy Prod.fst xs).map Prod.fst).any (· == e.1) = xs.any (·.1 == e.1) := by
      rw [List.any_map, ← List.isSome_find?, ← List.isSome_find?, ← find?_firstsBy]
      rfl
    rw [ofList_append_singleton, keys_set, ih, hany, firstsBy_concat]
    split
    · rfl
    · rw [List.map_append, List.map_singleton]

theorem get?_ofList (xs : List (ColumnKey × Cell)) (key : ColumnKey) :
    (ofList xs).get? key = lastCell? xs key := by
  induction xs using List.reverseRecOn with
  | nil => rfl
  | append_singleton xs e ih =>
    have hlast : lastCell? (xs ++ [e]) key = if e.1 == key then some e.2 else lastCell? xs key := by
      rw [lastCell?, lastCell?, List.findRev?_eq_find?_reverse, List.reverse_append,
        List.reverse_singleton, List.singleton_append, List.find?_cons,
        ← List.findRev?_eq_find?_reverse]
      split <;> simp_all
    rw [ofList_append_singleton, get?_set, ih, hlast]

theorem readsAs_ofList (xs : List (ColumnKey × Cell)) :
    (ofList xs).ReadsAs (xs.map Prod.fst).eraseDups (lastCell? xs) :=
  readsAs_of (keys_ofList xs) (get?_ofList xs)

/-- A row that is made of entries has the last cell of each key, and one that entries are inserted
into the first one, at the place and in the spelling of the first entry of the key. An entry goes in
at the end if its key is new; else it is refused under the spelling held, and nothing changes. -/
theorem reads_as_association_list (xs : List (ColumnKey × Cell)) :
    (ofList xs).ReadsAs (xs.map Prod.fst).eraseDups (lastCell? xs) ∧
    (empty.insertAll xs).ReadsAs (xs.map Prod.fst).eraseDups (firstCell? xs) ∧
    (DistinctBy Prod.fst xs → (ofList xs).entries = xs ∧ (empty.insertAll xs).entries = xs) ∧
    ∀ (p : PivotRow) (ys : List (ColumnKey × Cell)),
      (p.insertAll ys).ReadsAs ((p.entries ++ ys).map Prod.fst).eraseDups
        (firstCell? (p.entries ++ ys)) ∧
      ∀ e, Takes (p.entries ++ ys) (p.insertAll ys) e := by
  refine ⟨readsAs_ofList xs, readsAs_insertAll empty xs, fun h => ⟨entries_ofList h, ?_⟩,
    fun p ys => ⟨readsAs_insertAll p ys, takes_insertAll p ys⟩⟩
  rw [entries_insertAll]
  exact firstsBy_of_distinctBy h

def oneCell : Cell := ⟨.integer 1, ⟨"INTEGER"⟩⟩

def twoCell : Cell := ⟨.integer 2, ⟨"INTEGER"⟩⟩

/-- Two columns of one table. -/
def twoEntries : List (ColumnKey × Cell) := [(⟨⟨"t"⟩, ⟨"a"⟩⟩, oneCell), (⟨⟨"t"⟩, ⟨"b"⟩⟩, oneCell)]

/-- The second column of another table. -/
def otherEntry : ColumnKey × Cell := (⟨⟨"u"⟩, ⟨"b"⟩⟩, twoCell)

/-- The second column in capitals. -/
def capitalEntry : ColumnKey × Cell := (⟨⟨"T"⟩, ⟨"B"⟩⟩, twoCell)

theorem distinctBy_twoEntries : DistinctBy Prod.fst twoEntries := by
  simp [DistinctBy, twoEntries, ColumnKey.beq_eq, Identifier.beq_eq]

theorem reads_as_association_list_again :
    DistinctBy Prod.fst twoEntries ∧ (ofList twoEntries).entries = twoEntries ∧
      ((ofList twoEntries).insertAll [otherEntry]).insert capitalEntry.1 capitalEntry.2 =
        .error (.duplicateKey ⟨⟨"t"⟩, ⟨"b"⟩⟩) := by
  obtain ⟨-, -, hdistinct, hinsert⟩ := reads_as_association_list twoEntries
  obtain ⟨hentries, -⟩ := hdistinct distinctBy_twoEntries
  have htakes := (hinsert (ofList twoEntries) [otherEntry]).2 capitalEntry
  rw [hentries] at htakes
  have hfirst : (twoEntries ++ [otherEntry]).find? (·.1 == capitalEntry.1) =
      some (⟨⟨"t"⟩, ⟨"b"⟩⟩, oneCell) := by
    simp [twoEntries, otherEntry, capitalEntry, ColumnKey.beq_eq, Identifier.beq_eq]
  exact ⟨distinctBy_twoEntries, hentries, htakes.refused hfirst⟩

end PivotRow

end PivotedQuery
