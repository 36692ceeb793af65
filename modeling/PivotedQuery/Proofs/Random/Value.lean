import PivotedQuery.Proofs.Random.Ensures
import PivotedQuery.Proofs.Real64.Exact
import PivotedQuery.Value.Order
/-!
Random values. Main statements: a value is drawn for every affinity from every source, and drawn
values of one affinity that compare equal are identical.
-/
namespace PivotedQuery

namespace Value

def IsSmall (v : Value) : Prop := ∃ i : Int64, v = integer i ∧ i.toInt.natAbs ≤ 100

def IsQuarter (v : Value) : Prop := ∃ n : Int, v = real (.quarters n) ∧ n.natAbs ≤ 400

def IsLetters (v : Value) : Prop :=
  ∃ s : String, v = text s ∧ s.length ≤ 6 ∧ ∀ c ∈ s.toList, 'a' ≤ c ∧ c ≤ 'z'

def IsBytes (v : Value) : Prop := ∃ bytes : List UInt8, v = blob bytes ∧ bytes.length ≤ 4

/-- The values that are drawn for a column of the affinity. -/
def Drawn : Affinity → Value → Prop
  | .integer, v => v.IsSmall
  | .numeric, v => v.IsSmall
  | .real, v => v.IsQuarter
  | .text, v => v.IsLetters
  | .blob, v => v.IsSmall ∨ v.IsLetters ∨ v.IsBytes

end Value

namespace Draw

theorem ensures_smallInteger : smallInteger.Ensures Value.IsSmall := by
  refine (ensures_below _ (by decide)).map fun n hn => ⟨_, rfl, ?_⟩
  rw [Int64.toInt_ofInt_of_le] <;> omega

theorem ensures_quarter : quarter.Ensures Value.IsQuarter :=
  (ensures_below _ (by decide)).map fun n hn => ⟨_, rfl, by omega⟩

theorem ensures_letter : letter.Ensures fun c => 'a' ≤ c ∧ c ≤ 'z' := by
  apply (ensures_below _ (by decide)).map
  intro n hn
  have letters : ∀ n < 26, 'a' ≤ Char.ofNat (97 + n) ∧ Char.ofNat (97 + n) ≤ 'z' := by decide
  exact letters n hn

theorem ensures_repeated {α : Type} {d : Draw α} {post : α → Prop} (hd : d.Ensures post) (n : Nat) :
    (repeated d n).Ensures fun xs => xs.length = n ∧ ∀ x ∈ xs, post x := by
  induction n with
  | zero => exact ensures_pure ⟨rfl, by simp⟩
  | succ n ih =>
    refine hd.bind fun a ha => ih.map fun xs hxs => ⟨by simp [hxs.1], fun x hx => ?_⟩
    rcases List.mem_cons.1 hx with rfl | hx
    · exact ha
    · exact hxs.2 x hx

theorem ensures_shortText : shortText.Ensures Value.IsLetters := by
  apply (ensures_chance (by decide +kernel)).bind
  intro empty _
  cases empty with
  | true => exact ensures_pure ⟨"", rfl, by simp, by simp⟩
  | false =>
    apply (ensures_below _ (by decide)).bind
    intro n hn
    refine (ensures_repeated ensures_letter (n + 1)).map fun cs hcs => ⟨_, rfl, ?_, ?_⟩
    · rw [String.length_ofList, hcs.1]
      omega
    · simpa using hcs.2

theorem ensures_shortBlob : shortBlob.Ensures Value.IsBytes := by
  apply (ensures_below _ (by decide)).bind
  intro n hn
  have hbyte : byte.Ensures fun _ => True := ensures_word.map fun _ _ => trivial
  exact (ensures_repeated hbyte n).map fun bytes h => ⟨bytes, rfl, by omega⟩

theorem ensures_value (a : Affinity) : (value a).Ensures (Value.Drawn a) := by
  cases a with
  | integer => exact ensures_smallInteger
  | numeric => exact ensures_smallInteger
  | real => exact ensures_quarter
  | text => exact ensures_shortText
  | blob =>
    apply (ensures_below _ (by decide)).bind
    intro n _
    split
    · exact ensures_smallInteger.mono fun _ h => .inl h
    · exact ensures_shortText.mono fun _ h => .inr (.inl h)
    · exact ensures_shortBlob.mono fun _ h => .inr (.inr h)

/-- Some source makes the draw give `a`. -/
def Yields {α : Type} (d : Draw α) (a : α) : Prop := ∃ s s', d s = (.ok a, s')

theorem Ensures.of_yields {α : Type} {d : Draw α} {post : α → Prop} {a : α} (hd : d.Ensures post)
    (h : d.Yields a) : post a := by
  obtain ⟨s, s', h⟩ := h
  exact hd.of_run h

theorem Ensures.yields {α : Type} {d : Draw α} {post : α → Prop} (hd : d.Ensures post) :
    d.Ensures d.Yields := by
  intro s
  obtain ⟨a, s', ha, _⟩ := hd s
  exact ⟨a, s', ha, s, s', ha⟩

end Draw

namespace Value

theorem utf8_injective {a b : String} (h : utf8 a = utf8 b) : a = b := by
  apply String.toByteArray_inj.1
  apply ByteArray.ext
  exact Array.toList_inj.1 h

theorem integer_eq_of_order {i j : Int64} (h : (integer i).order (integer j) = some .eq) :
    i = j := by
  simp only [order, Option.some.injEq, Std.compare_eq_iff_eq] at h
  exact Int64.toInt_inj.1 h

theorem text_eq_of_order {s t : String} (h : (text s).order (text t) = some .eq) : s = t := by
  simp only [order, Option.some.injEq, Std.compare_eq_iff_eq] at h
  exact utf8_injective h

theorem blob_eq_of_order {b c : List UInt8} (h : (blob b).order (blob c) = some .eq) : b = c := by
  simpa only [order, Option.some.injEq, Std.compare_eq_iff_eq] using h

theorem quarters_eq_of_order {m n : Int} (hm : m.natAbs ≤ 400) (hn : n.natAbs ≤ 400)
    (h : (real (.quarters m)).order (real (.quarters n)) = some .eq) : m = n := by
  have hbound : 400 < twoTo 53 := by decide
  obtain ⟨hmNaN, hmUnits⟩ := Real64.units_quarters (Nat.lt_of_le_of_lt hm hbound)
  obtain ⟨hnNaN, hnUnits⟩ := Real64.units_quarters (Nat.lt_of_le_of_lt hn hbound)
  simp only [order, Real64.order, hmNaN, hnNaN, hmUnits, hnUnits, Option.some.injEq,
    Bool.or_self, Bool.false_eq_true, if_false, Std.compare_eq_iff_eq] at h
  exact Int.eq_of_mul_eq_mul_right (Int.natCast_ne_zero.2 (twoTo_pos 1072).ne') h

theorem rank_eq_of_order {v w : Value} (h : v.order w = some .eq) :
    v.storageClass.rank = w.storageClass.rank := by
  cases v <;> cases w <;> first | rfl | simp [order, storageClass, StorageClass.rank] at h

/-- Drawn values of one affinity that compare equal are one value. -/
theorem Drawn.eq_of_order {a : Affinity} {v w : Value} (hv : Drawn a v) (hw : Drawn a w)
    (h : v.order w = some .eq) : v = w := by
  have smalls {v w : Value} (hv : v.IsSmall) (hw : w.IsSmall) (h : v.order w = some .eq) :
      v = w := by
    obtain ⟨i, rfl, -⟩ := hv
    obtain ⟨j, rfl, -⟩ := hw
    rw [integer_eq_of_order h]
  have letters {v w : Value} (hv : v.IsLetters) (hw : w.IsLetters) (h : v.order w = some .eq) :
      v = w := by
    obtain ⟨s, rfl, -⟩ := hv
    obtain ⟨t, rfl, -⟩ := hw
    rw [text_eq_of_order h]
  cases a with
  | integer => exact smalls hv hw h
  | numeric => exact smalls hv hw h
  | text => exact letters hv hw h
  | real =>
    obtain ⟨m, rfl, hm⟩ := hv
    obtain ⟨n, rfl, hn⟩ := hw
    rw [quarters_eq_of_order hm hn h]
  | blob =>
    have hrank := rank_eq_of_order h
    rcases hv with ⟨i, rfl, -⟩ | ⟨s, rfl, -⟩ | ⟨b, rfl, -⟩ <;>
      rcases hw with ⟨j, rfl, -⟩ | ⟨t, rfl, -⟩ | ⟨c, rfl, -⟩
    case inl.inl => rw [integer_eq_of_order h]
    case inr.inl.inr.inl => rw [text_eq_of_order h]
    case inr.inr.inr.inr => rw [blob_eq_of_order h]
    -- values of different classes are never equal
    all_goals cases hrank

end Value

end PivotedQuery
