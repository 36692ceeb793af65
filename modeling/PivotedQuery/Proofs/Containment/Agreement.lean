import Std.Data.String.ToInt
import PivotedQuery.Containment.Check
import PivotedQuery.Proofs.Real64.Quarters
import PivotedQuery.Proofs.Reference.Database
import PivotedQuery.Proofs.Value.Literal
/-!
What it means that a result contains the pivot row. Cells are compared by their texts, and a blob
prints as its hexadecimal digits. Main statement: with drawn values the row that is found has the
pivot row's values, but for a blob in the place of what its digits spell.
-/
namespace PivotedQuery

namespace Real64

theorem eq_of_text {a b : Real64} (ha : a.IsFinite) (hb : b.IsFinite) (h : a.text = b.text) :
    a = b := by
  have hread := Value.readLiteral_text ha Text.breaks_nil
  rw [h, Value.readLiteral_text hb Text.breaks_nil] at hread
  cases hread
  rfl

end Real64

namespace Value

/-- What a blob's digits spell, among the values drawn for a column without a type of its own. -/
inductive SpelledBy : Value → Value → Prop
  | empty : SpelledBy (text "") (blob [])
  | digits {i : Int64} {n : Nat} (hi : i.toInt = n) (hlow : 10 ≤ n) (hhigh : n < 100) :
      SpelledBy (integer i) (blob [UInt8.ofNat (16 * (n / 10) + n % 10)])

theorem SpelledBy.name_ne {v w : Value} (h : SpelledBy v w) :
    v.storageClass.name ≠ w.storageClass.name := by
  cases h <;> simp [storageClass, StorageClass.name]

theorem Drawn.isNull {a : Affinity} {v : Value} (h : Drawn a v) : v.isNull = false := by
  cases a with
  | integer | numeric => obtain ⟨i, rfl, -⟩ := h; rfl
  | real => obtain ⟨n, rfl, -⟩ := h; rfl
  | text => obtain ⟨s, rfl, -⟩ := h; rfl
  | blob => rcases h with ⟨i, rfl, -⟩ | ⟨s, rfl, -⟩ | ⟨b, rfl, -⟩ <;> rfl

theorem integer_eq_of_plain {i j : Int64} (h : (integer i).plain = (integer j).plain) : i = j :=
  Int64.toInt_inj.1 (Int.repr_injective h)

theorem quarters_eq_of_plain {m n : Int} (hm : m.natAbs ≤ 400) (hn : n.natAbs ≤ 400)
    (h : (real (.quarters m)).plain = (real (.quarters n)).plain) :
    real (.quarters m) = real (.quarters n) := by
  have hbound : 400 < twoTo 53 := by decide
  exact congrArg real (Real64.eq_of_text
    (Real64.isFinite_quarters (Nat.lt_of_le_of_lt hm hbound))
    (Real64.isFinite_quarters (Nat.lt_of_le_of_lt hn hbound)) h)

theorem blob_eq_of_plain {b c : List UInt8} (h : (blob b).plain = (blob c).plain) : b = c := by
  have hread := congrArg Text.unhex (String.ofList_injective h)
  rw [Text.unhex_hex, Text.unhex_hex] at hread
  exact Option.some.inj hread

/-- Letters are lower case and digits of blobs are not. -/
theorem spelledBy_of_letters {s : String} (hs : ∀ c ∈ s.toList, 'a' ≤ c ∧ c ≤ 'z')
    {bytes : List UInt8} (h : (text s).plain = (blob bytes).plain) :
    SpelledBy (text s) (blob bytes) := by
  have hdigits : s.toList = Text.hex bytes := by
    rw [show s = String.ofList (Text.hex bytes) from h, String.toList_ofList]
  match bytes with
  | [] =>
    rw [String.toList_eq_nil_iff.1 hdigits]
    exact .empty
  | b :: bs =>
    have hmem : Text.hexDigit (b.toNat / 16) ∈ Text.hex (b :: bs) := List.mem_cons_self
    have hletter := hs _ (hdigits ▸ hmem)
    have hcase : ∀ n < 16, ¬('a' ≤ Text.hexDigit n) := by decide
    have hb : b.toNat < 256 := b.toNat_lt
    exact absurd hletter.1 (hcase _ (by omega))

theorem integer_plain_ne_letters {i : Int64} {s : String}
    (hs : ∀ c ∈ s.toList, 'a' ≤ c ∧ c ≤ 'z') : (integer i).plain ≠ (text s).plain := by
  intro h
  have hchars := congrArg String.toList h
  simp only [plain] at hchars
  cases hi : i.toInt with
  | ofNat n =>
    obtain ⟨d, ds, hds, hd⟩ := exists_cons_toDigits n
    rw [hi, Int.ofNat_eq_natCast, toList_toString_ofNat, hds] at hchars
    have hletter := (hs d (hchars ▸ List.mem_cons_self)).1
    have hdigit : d ≤ '9' := by
      simp only [Text.isDigit, Bool.and_eq_true, decide_eq_true_eq] at hd
      exact hd.2
    exact absurd (Char.le_trans hletter hdigit) (by decide)
  | negSucc n =>
    rw [hi, toList_toString_negSucc] at hchars
    exact absurd (hs '-' (hchars ▸ List.mem_cons_self)).1 (by decide)

/-- Two digits make a byte, three do not make two. -/
theorem spelledBy_of_digits {i : Int64} {bytes : List UInt8} (hi : i.toInt.natAbs ≤ 100)
    (h : (integer i).plain = (blob bytes).plain) : SpelledBy (integer i) (blob bytes) := by
  have hdigits := congrArg String.toList h
  simp only [plain, String.toList_ofList] at hdigits
  cases htoInt : i.toInt with
  | ofNat n =>
    have hunhex : ∀ n ≤ 100, (Text.unhex (Nat.toDigits 10 n)).isSome = true →
        10 ≤ n ∧ n < 100 ∧
          Text.unhex (Nat.toDigits 10 n) = some [UInt8.ofNat (16 * (n / 10) + n % 10)] := by
      decide +kernel
    rw [htoInt, Int.ofNat_eq_natCast, toList_toString_ofNat] at hdigits
    have hread := Text.unhex_hex bytes
    rw [← hdigits] at hread
    obtain ⟨hlow, hhigh, hbyte⟩ := hunhex n (by simpa [htoInt] using hi) (by rw [hread]; rfl)
    rw [hread] at hbyte
    rw [Option.some.inj hbyte]
    exact .digits htoInt hlow hhigh
  | negSucc n =>
    rw [htoInt, toList_toString_negSucc] at hdigits
    obtain h | h := Text.isDigit_or_of_mem_hex (hdigits ▸ List.mem_cons_self)
    · cases h
    · exact absurd h (by decide)

/-- Drawn values of one affinity that print alike are one value, or one spells the other. -/
theorem Drawn.eq_or_spelledBy {a : Affinity} {v w : Value} (hv : Drawn a v) (hw : Drawn a w)
    (h : v.plain = w.plain) : v = w ∨ a = .blob ∧ (SpelledBy v w ∨ SpelledBy w v) := by
  have smalls {v w : Value} (hv : v.IsSmall) (hw : w.IsSmall) (h : v.plain = w.plain) : v = w := by
    obtain ⟨i, rfl, -⟩ := hv
    obtain ⟨j, rfl, -⟩ := hw
    rw [integer_eq_of_plain h]
  cases a with
  | integer => exact .inl (smalls hv hw h)
  | numeric => exact .inl (smalls hv hw h)
  | text =>
    obtain ⟨s, rfl, -⟩ := hv
    obtain ⟨t, rfl, -⟩ := hw
    exact .inl (congrArg text h)
  | real =>
    obtain ⟨m, rfl, hm⟩ := hv
    obtain ⟨n, rfl, hn⟩ := hw
    exact .inl (quarters_eq_of_plain hm hn h)
  | blob =>
    rcases hv with ⟨i, rfl, hi⟩ | ⟨s, rfl, -, hs⟩ | ⟨b, rfl, -⟩ <;>
      rcases hw with ⟨j, rfl, hj⟩ | ⟨t, rfl, -, ht⟩ | ⟨c, rfl, -⟩
    case inl.inl => rw [integer_eq_of_plain h]; exact .inl rfl
    case inl.inr.inl => exact absurd h (integer_plain_ne_letters ht)
    case inl.inr.inr => exact .inr ⟨rfl, .inl (spelledBy_of_digits hi h)⟩
    case inr.inl.inl => exact absurd h.symm (integer_plain_ne_letters hs)
    case inr.inl.inr.inl => exact .inl (congrArg text h)
    case inr.inl.inr.inr => exact .inr ⟨rfl, .inl (spelledBy_of_letters hs h)⟩
    case inr.inr.inl => exact .inr ⟨rfl, .inr (spelledBy_of_digits hj h.symm)⟩
    case inr.inr.inr.inl => exact .inr ⟨rfl, .inr (spelledBy_of_letters ht h.symm)⟩
    case inr.inr.inr.inr => rw [blob_eq_of_plain h]; exact .inl rfl

end Value

namespace Draw.Yields

variable {a : Affinity} {v w : Value}

theorem isNull (h : (value a).Yields v) : v.isNull = false :=
  ((ensures_value a).of_yields h).isNull

theorem eq_or_spelledBy (hv : (value a).Yields v) (hw : (value a).Yields w)
    (h : v.plain = w.plain) : v = w ∨ a = .blob ∧ (v.SpelledBy w ∨ w.SpelledBy v) :=
  ((ensures_value a).of_yields hv).eq_or_spelledBy ((ensures_value a).of_yields hw) h

end Draw.Yields

theorem Comparison.same_self (v : Value) : same v v = true := by
  cases v <;> simp [same, Value.isNull, Value.order, Real64.order]

namespace Column

variable {c : Column} {v w : Value}

/-- The cell of NULL or of a value that may be drawn for the column. -/
def Shows (c : Column) (cell : Cell) : Prop := ∃ v, c.Stores v ∧ cell = c.typed v

/-- The declared type names every cell of the column. -/
def LendsType (c : Column) : Prop := (Text.trim c.declaredType).isEmpty = false

/-- What equal cells of the column tell of their values. -/
def Agrees (c : Column) (v w : Value) : Prop :=
  Comparison.is.apply v w = some true ∨
    c.affinity = .blob ∧ c.LendsType ∧ (v.SpelledBy w ∨ w.SpelledBy v)

theorem agrees_self (c : Column) (v : Value) : c.Agrees v v :=
  .inl (congrArg some (Comparison.same_self v))

theorem typed_type (h : ¬c.LendsType) (v : Value) :
    (c.typed v).type = ⟨v.storageClass.name⟩ := by
  have hblank : (Text.trim c.declaredType).isEmpty = true := by simpa [LendsType] using h
  unfold typed
  split
  · rfl
  · simp only [ValueType.resolve, Option.map_some, hblank, if_true]

/-- Without a declared type the storage classes have to be the same as well. -/
theorem agrees_of_typed_eq (hv : c.Stores v) (hw : c.Stores w)
    (h : (c.typed v == c.typed w) = true) : c.Agrees v w := by
  obtain ⟨htype, hnull, hplain⟩ := Cell.beq_iff.1 h
  change v.isNull = w.isNull at hnull
  change v.isNull = true ∨ v.plain = w.plain at hplain
  cases hv with
  | inl hv =>
    subst hv
    rw [Value.isNull_iff.1 hnull.symm]
    exact c.agrees_self _
  | inr hv =>
    have hvnull : v.isNull = false := hv.isNull
    have hwne : w ≠ .null := fun hw => by
      rw [hvnull, hw] at hnull
      cases hnull
    have hw := hw.resolve_left hwne
    have hplain := hplain.resolve_left (by simp [hvnull])
    obtain rfl | ⟨hblob, hspelled⟩ := hv.eq_or_spelledBy hw hplain
    · exact c.agrees_self v
    refine .inr ⟨hblob, ?_, hspelled⟩
    by_contra hlends
    rw [typed_type hlends, typed_type hlends, ValueType.mk.injEq] at htype
    exact hspelled.elim (·.name_ne htype) (·.name_ne htype.symm)

end Column

/-- Some row of a result that passes the check agrees with the pivot row at every column. -/
theorem verify_agrees {definition : ColumnKey → Column} {pivot : PivotRow}
    {columns : List ColumnKey} {rows : Rows}
    (hpivot : ∀ key ∈ columns, ∀ cell ∈ pivot.get? key, (definition key).Shows cell)
    (hrows : ∀ row ∈ rows, ∀ e ∈ columns.zip row, (definition e.1).Shows e.2)
    (h : verify pivot columns rows = true) :
    ∃ row ∈ rows, columns.length ≤ row.length ∧ ∀ e ∈ columns.zip row,
      ∃ expected, pivot.get? e.1 = some expected ∧
        (definition e.1).Agrees expected.value e.2.value := by
  obtain ⟨row, hrow, hmatches⟩ := List.any_eq_true.1 h
  obtain ⟨hlength, hcells⟩ := Bool.and_eq_true_iff.1 hmatches
  refine ⟨row, hrow, of_decide_eq_true hlength, ?_⟩
  rintro ⟨key, cell⟩ he
  have hcell := List.all_eq_true.1 hcells _ he
  cases hexpected : pivot.get? key with
  | none => simp [hexpected] at hcell
  | some expected =>
    simp only [hexpected] at hcell
    obtain ⟨v, hv, rfl⟩ := hpivot key (List.of_mem_zip he).1 expected hexpected
    obtain ⟨w, hw, hshown⟩ : (definition key).Shows cell :=
      hrows row hrow (key, cell) he
    subst hshown
    exact ⟨_, rfl, Column.agrees_of_typed_eq hv hw hcell⟩

namespace Containment

def blobColumn : Column := ⟨⟨"c"⟩, "BLOB", true⟩

def blobKey : ColumnKey := ⟨⟨"t"⟩, ⟨"c"⟩⟩

/-- The pivot row holds a number. -/
def numberRow : PivotRow := .ofList [(blobKey, blobColumn.typed (.integer 12))]

/-- The result holds the byte whose digits the number has. -/
def byteRows : Rows := [[blobColumn.typed (.blob [18])]]

theorem affinity_blobColumn : blobColumn.affinity = .blob := by decide +kernel

theorem stores_twelve : blobColumn.Stores (.integer 12) := by
  right
  rw [affinity_blobColumn]
  exact ⟨.cycle #[0, 0, 2400000000], _, rfl⟩

theorem stores_byte : blobColumn.Stores (.blob [18]) := by
  right
  rw [affinity_blobColumn]
  exact ⟨.cycle #[3000000000, 1000000000, 18], _, rfl⟩

theorem get?_numberRow : numberRow.get? blobKey = some (blobColumn.typed (.integer 12)) := by
  decide +kernel

theorem shows_numberRow : ∀ key ∈ [blobKey], ∀ cell ∈ numberRow.get? key,
    blobColumn.Shows cell := by
  intro key hkey cell hcell
  rw [List.mem_singleton.1 hkey] at hcell
  obtain rfl := Option.some.inj (get?_numberRow.symm.trans hcell)
  exact ⟨_, stores_twelve, rfl⟩

theorem shows_byteRows : ∀ row ∈ byteRows, ∀ e ∈ [blobKey].zip row, blobColumn.Shows e.2 := by
  intro row hrow e he
  rw [List.mem_singleton.1 hrow] at he
  rw [List.mem_singleton.1 he]
  exact ⟨_, stores_byte, rfl⟩

theorem verify_byteRows : verify numberRow [blobKey] byteRows = true := by decide +kernel

end Containment

open Containment in
theorem verify_agrees_byte :
    (∀ key ∈ [blobKey], ∀ cell ∈ numberRow.get? key, blobColumn.Shows cell) ∧
    (∀ row ∈ byteRows, ∀ e ∈ [blobKey].zip row, blobColumn.Shows e.2) ∧
    verify numberRow [blobKey] byteRows = true ∧
    ∃ row ∈ byteRows, [blobKey].length ≤ row.length ∧ ∀ e ∈ [blobKey].zip row,
      ∃ expected, numberRow.get? e.1 = some expected ∧
        blobColumn.Agrees expected.value e.2.value :=
  ⟨shows_numberRow, shows_byteRows, verify_byteRows,
    @verify_agrees (fun _ => blobColumn) numberRow [blobKey] byteRows shows_numberRow
      shows_byteRows verify_byteRows⟩

open Containment in
/-- The row that is found need not have the pivot row's values. -/
theorem verify_accepts_other : ¬∀ (definition : ColumnKey → Column) (pivot : PivotRow)
    (columns : List ColumnKey) (rows : Rows),
    (∀ key ∈ columns, ∀ cell ∈ pivot.get? key, (definition key).Shows cell) →
    (∀ row ∈ rows, ∀ e ∈ columns.zip row, (definition e.1).Shows e.2) →
    verify pivot columns rows = true →
    ∃ row ∈ rows, columns.length ≤ row.length ∧ ∀ e ∈ columns.zip row,
      ∃ expected, pivot.get? e.1 = some expected ∧
        Comparison.is.apply expected.value e.2.value = some true := by
  intro hagrees
  obtain ⟨row, hrow, -, hcells⟩ := hagrees (fun _ => blobColumn) numberRow [blobKey] byteRows
    shows_numberRow shows_byteRows verify_byteRows
  rw [List.mem_singleton.1 hrow] at hcells
  obtain ⟨expected, hget, hsame⟩ := hcells (blobKey, blobColumn.typed (.blob [18]))
    List.mem_cons_self
  obtain rfl := Option.some.inj (get?_numberRow.symm.trans hget)
  exact absurd hsame (by simp [Comparison.apply, Comparison.same, Column.typed, Value.isNull,
    Value.order, Value.storageClass, StorageClass.rank])

end PivotedQuery
