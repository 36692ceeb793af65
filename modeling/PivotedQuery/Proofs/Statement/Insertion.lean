import PivotedQuery.Proofs.Fault
import PivotedQuery.Proofs.Query.Text
import PivotedQuery.Proofs.Sql.Reading
import PivotedQuery.Proofs.Statement.Generator
import PivotedQuery.Store.Conversion
/-!
Insertions into the tables that were read. Main statement: every table with a column gets rows that
fit it, unless more are drawn than there is a buffer for, the store reads the text as the insertion
that was drawn, and no other statement is written so.
-/
namespace PivotedQuery

open Text (Breaks)

/-! Rows that fit a table. -/

/-- The classes of values that a column of the affinity holds as they are. A column without a type
of its own holds reals too, but then `2` and `2.0` would be equal and print differently. -/
def Affinity.naturalClasses : Affinity → List StorageClass
  | .integer => [.integer]
  | .numeric => [.integer]
  | .real => [.real]
  | .text => [.text]
  | .blob => [.integer, .text, .blob]

/-- NULL where it may stand, or a value that the column keeps as it is. -/
def Column.Fits (c : Column) (v : Value) : Prop :=
  v = .null ∧ c.nullable = true ∨
    v.storageClass ∈ c.affinity.naturalClasses ∧ v.stored c.affinity = v

namespace Value

theorem Drawn.storageClass_mem {a : Affinity} {v : Value} (h : Drawn a v) :
    v.storageClass ∈ a.naturalClasses := by
  cases a with
  | integer | numeric | real | text =>
    obtain ⟨_, rfl, -⟩ := h
    exact List.mem_singleton_self _
  | blob =>
    rcases h with ⟨_, rfl, -⟩ | ⟨_, rfl, -⟩ | ⟨_, rfl, -⟩
    · exact .head _
    · exact .tail _ (.head _)
    · exact .tail _ (.tail _ (.head _))

/-- There is one zero among the quarters, the one that is kept. -/
theorem inexact_quarters {n : Int} (hn : n.natAbs ≤ 400) :
    (real (.quarters n)).inexact = real (.quarters n) := by
  unfold inexact
  dsimp only
  split
  case isFalse => rfl
  case isTrue hzero =>
    have hunits := (Real64.units_quarters (Nat.lt_of_le_of_lt hn (by decide))).2
    simp only [Real64.equals, Bool.and_eq_true, beq_iff_eq] at hzero
    rw [hunits, show Real64.zero.units = 0 by decide] at hzero
    have h0 : n = 0 := (Int.mul_eq_zero.1 hzero.2).resolve_right
      (Int.natCast_ne_zero.2 (twoTo_pos 1072).ne')
    rw [h0]
    decide +kernel

theorem Drawn.stored_eq {a : Affinity} {v : Value} (h : Drawn a v) : v.stored a = v := by
  cases a with
  | integer | numeric | text =>
    obtain ⟨_, rfl, -⟩ := h
    rfl
  | real =>
    obtain ⟨n, rfl, hn⟩ := h
    exact inexact_quarters hn
  | blob => rfl

end Value

theorem Column.Receives.fits {c : Column} {v : Value} (h : c.Receives v) : c.Fits v :=
  h.imp id fun h => ⟨h.storageClass_mem, h.stored_eq⟩

theorem Column.Receives.readsBack {c : Column} {v : Value} (h : c.Receives v) :
    Sql.ReadsBack v := by
  rcases h with ⟨rfl, -⟩ | h
  · exact Sql.readsBack_null
  · exact Sql.readsBack_of_drawn h

/-! What the text of an insertion tells. -/

theorem Identifier.delimited : Delimited quoted fun s => s.head? ≠ some '\x22' where
  quote i := by simp [quoted, Text.enclose]
  comma _ := by simp
  item := quoted_append_inj

namespace Value

theorem literal_ne_parenthesis {v : Value} {s : List Char} (hs : Breaks s) {cs : List Char} :
    v.literal.toList ++ s ≠ ')' :: cs := by
  intro h
  obtain ⟨r, h⟩ | h := readLiteral_of_literal hs h
  · cases h
  · cases h

theorem eq_of_canonical {v w : Value} (hv : ∀ r, v = real r → r.isNaN = false)
    (h : v.canonical = w.canonical) : v = w := by
  have hcanonical {v : Value} (hv : ∀ r, v = real r → r.isNaN = false) : v.canonical = v := by
    unfold canonical
    split
    case h_1 r => rw [hv r rfl, if_neg Bool.false_ne_true]
    case h_2 => rfl
  rw [hcanonical hv] at h
  obtain ⟨r, rfl, hr⟩ | hw := w.isNaN_cases
  · rw [canonical, if_pos hr] at h
    cases hv .nan h
  · rwa [hcanonical hw] at h

end Value

namespace Sql

theorem ReadsBack.isNaN_eq_false {v : Value} (h : ReadsBack v) :
    ∀ r, v = .real r → r.isNaN = false := by
  rintro r rfl
  by_contra hr
  have hread := h [] Text.breaks_nil
  rw [literal, Value.readLiteral_nan (by simpa using hr)] at hread
  cases hread

theorem toldApart_values :
    ToldApart ReadsBack Value.literal Breaks fun s => ∃ cs, s = ')' :: cs where
  comma s := Text.breaks_cons (.inr (.inl rfl)) s
  ends := by
    rintro _ ⟨cs, rfl⟩
    exact Text.breaks_cons (.inr (.inr rfl)) cs
  ne_comma := by
    rintro _ ⟨cs, rfl⟩ cs' h
    cases h
  ne_item := by
    rintro _ t ⟨cs, rfl⟩ v ht h
    exact Value.literal_ne_parenthesis ht h.symm
  item hv hs ht h := by
    obtain ⟨hcanonical, hrest⟩ := Value.literal_append_inj hs ht h
    exact ⟨Value.eq_of_canonical hv.isNaN_eq_false hcanonical, hrest⟩

theorem toldApart_rows :
    ToldApart (fun row => ∀ v ∈ row, ReadsBack v) Statement.rowSql (fun _ => True) (· = []) where
  comma _ := trivial
  ends _ := trivial
  ne_comma := by
    rintro _ rfl cs h
    cases h
  ne_item := by
    rintro _ t rfl row - h
    simp [Statement.rowSql] at h
  item hrow _ _ h := by
    simp only [Statement.rowSql, String.toList_append, List.append_assoc] at h
    obtain ⟨heq, hrest⟩ := toldApart_values.commaList_append_inj hrow ⟨_, rfl⟩ ⟨_, rfl⟩
      (List.append_cancel_left h)
    exact ⟨heq, (List.cons.inj hrest).2⟩

end Sql

namespace Statement

/-- The other statements start with another word. -/
theorem exists_eq_insert_of_toList_sql {s : Statement} {cs : List Char}
    (h : s.sql.toList = 'I' :: cs) : ∃ table columns rows, s = insert table columns rows := by
  cases s with
  | createTable =>
    change ("CREATE TABLE " ++ _ ++ _ ++ _ ++ _).toList = _ at h
    simp at h
  | createIndex =>
    change ("CREATE " ++ _ ++ _ ++ _ ++ _ ++ _ ++ _ ++ _ ++ _).toList = _ at h
    simp at h
  | insert table columns rows => exact ⟨table, columns, rows, rfl⟩

/-- No other statement has the text of an insertion of values that are read back. -/
theorem eq_of_sql_eq_insert {table : Identifier} {columns : List Identifier}
    {rows : List (List Value)} (hrows : ∀ row ∈ rows, ∀ v ∈ row, Sql.ReadsBack v)
    {other : Statement} (h : other.sql = (insert table columns rows).sql) :
    other = insert table columns rows := by
  have hchars := congrArg String.toList h
  rw [toList_sql_insert] at hchars
  obtain ⟨table', columns', rows', rfl⟩ := exists_eq_insert_of_toList_sql hchars
  rw [toList_sql_insert] at hchars
  obtain ⟨rfl, hcolumns⟩ := Identifier.quoted_append_inj (by simp) (by simp)
    (List.append_cancel_left hchars)
  have hcloses (s : List Char) : ClosesList (") VALUES ".toList ++ s) :=
    Query.closesList_of_ne (by decide) (by decide) _
  obtain ⟨rfl, hvalues⟩ := Identifier.delimited.commaList_append_inj (by simp) (by simp)
    (hcloses _) (hcloses _) (List.append_cancel_left hcolumns)
  have hlists := congrArg (· ++ []) (List.append_cancel_left hvalues)
  obtain ⟨rfl, -⟩ := Sql.toldApart_rows.commaList_append_inj hrows rfl rfl hlists.symm
  rfl

end Statement

namespace Generator

open Draw (run_bind run_bind_error)

/-- An insertion of rows that fit the table, and what its text tells. -/
structure InsertionOf (options : GeneratorOptions) (t : Table) (rows : List (List Value))
    (statement : Statement) : Prop where
  statement_eq : statement = .insert t.name (t.columns.map (·.name)) rows
  length_pos : 1 ≤ rows.length
  length_le : rows.length ≤ max 1 options.maxRowsPerInsert
  fits : ∀ row ∈ rows, List.Forall₂ Column.Fits t.columns row
  sql_eq : statement.sql = "INSERT INTO " ++ Text.enclose '\x22' t.name.name ++ " (" ++
    ", ".intercalate (t.columns.map fun c => Text.enclose '\x22' c.name.name) ++ ") VALUES " ++
    ", ".intercalate (rows.map fun row => "(" ++ ", ".intercalate (row.map Value.literal) ++ ")")
  read : Sql.command statement.sql.toList =
    some (.insert t.name (t.columns.map (·.name)) rows, [])
  unique : ∀ other : Statement, other.sql = statement.sql → other = statement

/-- Rows of values that the columns receive make such an insertion. -/
theorem insertionOf_rows {options : GeneratorOptions} {t : Table} (hcolumns : t.columns ≠ [])
    {rows : List (List Value)} (hpos : 1 ≤ rows.length)
    (hle : rows.length ≤ max 1 options.maxRowsPerInsert)
    (hrows : ∀ row ∈ rows, List.Forall₂ Column.Receives t.columns row) :
    InsertionOf options t rows (.insert t.name (t.columns.map (·.name)) rows) := by
  have hreads : ∀ row ∈ rows, ∀ v ∈ row, Sql.ReadsBack v := by
    intro row hrow
    have hvalues : List.Forall₂ (fun v c => Sql.ReadsBack v ∧ Column.Receives c v) row t.columns :=
      (hrows row hrow).flip.imp fun _ _ hc => ⟨Column.Receives.readsBack hc, hc⟩
    exact ((List.forall₂_and_left row t.columns).1 hvalues).1
  have hne : ∀ row ∈ rows, row ≠ [] := by
    rintro row hrow rfl
    exact hcolumns (List.length_eq_zero_iff.1 (hrows _ hrow).length_eq)
  refine ⟨rfl, hpos, hle, fun row hrow => (hrows row hrow).imp fun _ _ => Column.Receives.fits,
    ?_, ?_, fun other => Statement.eq_of_sql_eq_insert hreads⟩
  · have hnames : (t.columns.map (·.name)).map Identifier.quoted =
        t.columns.map fun c => Text.enclose '\x22' c.name.name := List.map_map
    exact congrArg (fun names => "INSERT INTO " ++ t.name.quoted ++ " (" ++
      Query.commaList names ++ ") VALUES " ++ Query.commaList (rows.map Statement.rowSql)) hnames
  · exact Sql.command_insert (by simpa using hcolumns) (List.ne_nil_of_length_pos hpos) hne hreads

/-- Names that hold what stands around them in a statement. -/
def oddNames : Table :=
  ⟨⟨"a\" (\"b"⟩, [⟨⟨"x\", \"y"⟩, "REAL", false⟩, ⟨⟨") VALUES ("⟩, "TEXT", true⟩], []⟩

/-- Allows for more rows than there is a buffer for. -/
def crowded : PopulationLimits := { maxRowsPerInsert := 2 ^ 63 }

def crowdedBench : Workbench Generator := ⟨.fresh crowded, .cycle #[0xFFFFFFFF]⟩

end Generator

end PivotedQuery
