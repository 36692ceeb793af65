import PivotedQuery.Proofs.Query.CommaList
import PivotedQuery.Proofs.Random.Value
import PivotedQuery.Proofs.Real64.Quarters
import PivotedQuery.Proofs.Value.Literal
import PivotedQuery.Sql.Command
/-!
Reading back what was written. Main statements: a store reads quoted names, and the literals of
drawn values, wherever they stand in a statement; and it reads the text of an insertion as that
insertion.
-/
namespace PivotedQuery

open Query (commaList)
open Text (Breaks)

theorem Statement.toList_sql_insert (table : Identifier) (columns : List Identifier)
    (rows : List (List Value)) : (insert table columns rows).sql.toList = "INSERT INTO ".toList ++
      (table.quoted.toList ++ (" (".toList ++ ((commaList (columns.map Identifier.quoted)).toList ++
        (") VALUES ".toList ++ (commaList (rows.map rowSql)).toList)))) := by
  change ("INSERT INTO " ++ table.quoted ++ " (" ++ commaList (columns.map Identifier.quoted) ++
    ") VALUES " ++ commaList (rows.map rowSql)).toList = _
  simp only [String.toList_append, List.append_assoc]

namespace Sql.Reader

variable {α β : Type} {cs rest : List Char}

theorem run_bind {r : Reader α} {f : α → Reader β} {a : α} (h : r cs = some (a, rest)) :
    (r >>= f) cs = f a rest := by
  change (r cs).bind (fun p => f p.1 p.2) = _
  rw [h]
  rfl

theorem run_bind_none {r : Reader α} {f : α → Reader β} (h : r cs = none) :
    (r >>= f) cs = none := by
  change (r cs).bind (fun p => f p.1 p.2) = _
  rw [h]
  rfl

theorem run_word (w : String) (rest : List Char) :
    word w (w.toList ++ rest) = some ((), rest) := by
  unfold word Text.expect
  rw [Text.expectChars_append]
  rfl

theorem run_optional (w : String) (rest : List Char) :
    optional w (w.toList ++ rest) = some (true, rest) := by
  unfold optional Text.expect
  rw [Text.expectChars_append]

theorem optional_of_none {w : String} (h : Text.expect w rest = none) :
    optional w rest = some (false, rest) := by
  unfold optional
  rw [h]

theorem either_of_some {a b : Reader α} {r : α × List Char} (h : a cs = some r) :
    either a b cs = some r := by
  unfold either
  rw [h]

theorem either_of_none {a b : Reader α} (h : a cs = none) : either a b cs = b cs := by
  unfold either
  rw [h]

/-! Lists. -/

variable {item : Reader α} {text : α → String} {Ends : List Char → Prop}

theorem length_le_furtherItems (text : α → String) (xs : List α) :
    xs.length ≤ (furtherItems text xs).length := by
  induction xs with
  | nil => exact Nat.le_refl 0
  | cons a xs ih =>
    simp only [furtherItems, List.flatMap_cons, List.length_append] at ih ⊢
    have hcomma : ", ".toList.length = 2 := rfl
    rw [List.length_cons, hcomma]
    omega

theorem run_listUpTo (hcomma : ∀ s, Ends (',' :: s)) (hrest : Ends rest)
    (hclose : Text.expect ", " rest = none) {a : α} {xs : List α}
    (hitem : ∀ b ∈ a :: xs, ∀ s, Ends s → item ((text b).toList ++ s) = some (b, s)) {fuel : Nat}
    (hfuel : xs.length < fuel) :
    listUpTo item fuel ((text a).toList ++ (furtherItems text xs ++ rest)) =
      some (a :: xs, rest) := by
  induction xs generalizing a fuel with
  | nil =>
    obtain ⟨fuel, rfl⟩ := Nat.exists_eq_succ_of_ne_zero (Nat.ne_of_gt hfuel)
    refine (run_bind (hitem a List.mem_cons_self _ hrest)).trans ?_
    exact run_bind (optional_of_none hclose)
  | cons b xs ih =>
    obtain ⟨fuel, rfl⟩ := Nat.exists_eq_succ_of_ne_zero (Nat.ne_of_gt ((Nat.zero_le _).trans_lt hfuel))
    have htail := ih (fun c hc => hitem c (List.mem_cons_of_mem a hc))
      (Nat.lt_of_succ_lt_succ hfuel)
    have hsplit : furtherItems text (b :: xs) ++ rest =
        ", ".toList ++ ((text b).toList ++ (furtherItems text xs ++ rest)) := by
      simp only [furtherItems, List.flatMap_cons, List.append_assoc]
    rw [hsplit]
    refine (run_bind (hitem a List.mem_cons_self _ (hcomma _))).trans ?_
    refine (run_bind (run_optional ", " _)).trans ?_
    exact run_bind htail

/-- Items before a comma or at the end of the list are read, so the list is. -/
theorem run_list (hcomma : ∀ s, Ends (',' :: s)) (hrest : Ends rest)
    (hclose : Text.expect ", " rest = none) {xs : List α} (hne : xs ≠ [])
    (hitem : ∀ a ∈ xs, ∀ s, Ends s → item ((text a).toList ++ s) = some (a, s)) :
    list item ((commaList (xs.map text)).toList ++ rest) = some (xs, rest) := by
  obtain ⟨a, xs, rfl⟩ := List.exists_cons_of_ne_nil hne
  have hlength := length_le_furtherItems text xs
  rw [toList_commaList_cons, List.append_assoc]
  apply run_listUpTo hcomma hrest hclose hitem
  simp only [List.length_append]
  omega

end Sql.Reader

namespace Sql

open Reader

variable {rest : List Char}

theorem run_name (i : Identifier) (h : rest.head? ≠ some '\x22') :
    name (i.quoted.toList ++ rest) = some (i, rest) := by
  have hread := Text.readDoubled_double i.name.toList h
  have hquoted : i.quoted.toList ++ rest =
      "\"".toList ++ (Text.double '\x22' i.name.toList ++ '\x22' :: rest) := by
    simp [Identifier.quoted, Text.enclose]
  rw [hquoted]
  refine (run_bind (run_word "\"" _)).trans ?_
  rw [hread]
  simp

/-- The store reads the value's literal as that value. -/
def ReadsBack (v : Value) : Prop :=
  ∀ rest, Breaks rest → literal (v.literal.toList ++ rest) = some (v, rest)

theorem readsBack_quarter {n : Int} (hn : n.natAbs ≤ 400) : ReadsBack (.real (.quarters n)) := by
  intro rest hrest
  have hfinite := Real64.isFinite_quarters (Nat.lt_of_le_of_lt hn (by decide))
  have hliteral : (Value.real (.quarters n)).literal = (Real64.quarters n).text := by
    rw [Value.literal, (Real64.isFinite_iff.1 hfinite).2, if_neg Bool.false_ne_true]
  rw [hliteral]
  refine (Value.readLiteral_written _ hfinite hrest).trans ?_
  rw [Real64.toRealStepwise_quarters hn]

theorem readsBack_of_drawn {a : Affinity} {v : Value} (h : v.Drawn a) : ReadsBack v := by
  have small {v : Value} (h : v.IsSmall) : ReadsBack v := by
    obtain ⟨i, rfl, -⟩ := h
    exact fun rest hrest => Value.readLiteral_integer _ i hrest
  have letters {v : Value} (h : v.IsLetters) : ReadsBack v := by
    obtain ⟨s, rfl, -⟩ := h
    exact fun rest hrest => Value.readLiteral_quoted _ s hrest
  cases a with
  | integer => exact small h
  | numeric => exact small h
  | real =>
    obtain ⟨n, rfl, hn⟩ := h
    exact readsBack_quarter hn
  | text => exact letters h
  | blob =>
    rcases h with h | h | ⟨bytes, rfl, -⟩
    · exact small h
    · exact letters h
    · exact fun rest _ => Value.readLiteral_blob _ bytes rest

theorem readsBack_null : ReadsBack .null := fun _ _ => rfl

theorem run_row {row : List Value} (hne : row ≠ []) (h : ∀ v ∈ row, ReadsBack v)
    (rest : List Char) : Sql.row ((Statement.rowSql row).toList ++ rest) = some (row, rest) := by
  have hclose : Breaks (')' :: rest) := Text.breaks_cons (.inr (.inr rfl)) rest
  have hlist := run_list (fun s => Text.breaks_cons (.inr (.inl rfl)) s) hclose rfl hne h
  have hrow : (Statement.rowSql row).toList ++ rest =
      "(".toList ++ ((commaList (row.map Value.literal)).toList ++ (")".toList ++ rest)) := by
    simp only [Statement.rowSql, String.toList_append, List.append_assoc]
  rw [hrow]
  refine (run_bind (run_word "(" _)).trans ?_
  refine (run_bind hlist).trans ?_
  exact run_bind (run_word ")" rest)

theorem run_columnList {names : List Identifier} (hne : names ≠ []) (rest : List Char) :
    columnList (" (".toList ++ ((commaList (names.map Identifier.quoted)).toList ++
      (")".toList ++ rest))) = some (names, rest) := by
  have hend : (')' :: rest).head? ≠ some '\x22' := by simp
  have hname (i : Identifier) (_ : i ∈ names) (s : List Char) (hs : s.head? ≠ some '\x22') :
      name (i.quoted.toList ++ s) = some (i, s) := run_name i hs
  have hlist := run_list (by simp) hend rfl hne hname
  refine (run_bind (run_word " (" _)).trans ?_
  refine (run_bind hlist).trans ?_
  exact run_bind (run_word ")" rest)

/-- The text of an insertion is read as that insertion. -/
theorem command_insert {table : Identifier} {columns : List Identifier}
    {rows : List (List Value)} (hcolumns : columns ≠ []) (hrows : rows ≠ [])
    (hne : ∀ row ∈ rows, row ≠ []) (hvalues : ∀ row ∈ rows, ∀ v ∈ row, ReadsBack v) :
    command (Statement.insert table columns rows).sql.toList =
      some (.insert table columns rows, []) := by
  have hword (s : List Char) : ") VALUES ".toList ++ s = ")".toList ++ (" VALUES ".toList ++ s) :=
    rfl
  have hrow (row : List Value) (hmem : row ∈ rows) (s : List Char) (_ : True) :
      Sql.row ((Statement.rowSql row).toList ++ s) = some (row, s) :=
    run_row (hne row hmem) (hvalues row hmem) s
  have hlist := run_list (fun _ => trivial) trivial (show Text.expect ", " [] = none from rfl)
    hrows hrow
  rw [List.append_nil] at hlist
  rw [Statement.toList_sql_insert, hword]
  -- the other statements start with another word
  refine (either_of_none (run_bind_none rfl)).trans ?_
  refine (either_of_none (run_bind_none rfl)).trans ?_
  refine (either_of_none (run_bind_none rfl)).trans ?_
  refine (run_bind (run_word "INSERT INTO " _)).trans ?_
  refine (run_bind (run_name table (by simp))).trans ?_
  refine (run_bind (either_of_some (run_columnList hcolumns _))).trans ?_
  refine (run_bind (run_word " VALUES " _)).trans ?_
  exact run_bind hlist

end Sql

end PivotedQuery
