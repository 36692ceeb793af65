import Mathlib.Order.Defs.LinearOrder
import PivotedQuery.Proofs.Real64.Decimal
import PivotedQuery.Real64.Whole
/-!
Integers beside doubles. Main statement: an integer and a number compare as the exact numbers that
they are. The integer is converted only where it is the whole part of the number, and then nothing
is rounded: either it has fewer than 54 bits, or the number has no fraction and is the conversion.
-/
namespace PivotedQuery

theorem twoTo_lt_twoTo {m n : Nat} (h : m < n) : twoTo m < twoTo n :=
  Nat.pow_lt_pow_right (by decide) h

theorem twoTo_le_twoTo {m n : Nat} (h : m ≤ n) : twoTo m ≤ twoTo n :=
  Nat.pow_le_pow_right (by decide) h

theorem twoTo_dvd_twoTo {m n : Nat} (h : m ≤ n) : twoTo m ∣ twoTo n := Nat.pow_dvd_pow 2 h

namespace Real64

variable {r : Real64} {i : Int64}

/-! Absolute values of finite and infinite numbers. -/

theorem natAbs_units (r : Real64) : r.units.natAbs = r.magnitude := by
  unfold units
  split
  · rw [Int.natAbs_neg, Int.natAbs_natCast]
  · exact Int.natAbs_natCast _

theorem units_neg_iff (h : 0 < r.magnitude) : r.units < 0 ↔ r.isNegative = true := by
  unfold units
  cases r.isNegative with
  | true =>
    rw [if_pos rfl]
    exact iff_of_true (by omega) rfl
  | false =>
    rw [if_neg Bool.false_ne_true]
    exact iff_of_false (by omega) Bool.false_ne_true

theorem significand_lt (r : Real64) : r.significand < twoTo 53 := by
  have hfraction := r.fraction_lt
  rw [show twoTo 53 = twoTo 52 + twoTo 52 from rfl]
  unfold significand
  split
  · exact Nat.lt_add_left _ hfraction
  · exact Nat.add_lt_add_left hfraction _

theorem magnitude_lt (r : Real64) {n : Nat} (h : r.biased - 1 ≤ n) :
    r.magnitude < twoTo (53 + n) := by
  calc r.magnitude < twoTo 53 * twoTo (r.biased - 1) :=
        Nat.mul_lt_mul_of_pos_right r.significand_lt (twoTo_pos _)
    _ ≤ twoTo 53 * twoTo n := Nat.mul_le_mul_left _ (twoTo_le_twoTo h)
    _ = twoTo (53 + n) := (twoTo_add 53 n).symm

theorem IsFinite.magnitude_lt (h : r.IsFinite) : r.magnitude < twoTo 2098 := by
  unfold IsFinite at h
  have hlt := r.magnitude_lt (show r.biased - 1 ≤ 2045 by omega)
  rwa [show 53 + 2045 = 2098 from rfl] at hlt

theorem magnitude_of_isInfinite (h : r.isInfinite = true) : r.magnitude = twoTo 2098 := by
  simp only [isInfinite, Bool.and_eq_true, beq_iff_eq] at h
  rw [magnitude, significand, h.1, h.2, if_neg (by decide), Nat.add_zero, ← twoTo_add,
    show 52 + (2047 - 1) = 2098 from rfl]

theorem isFinite_of_magnitude_lt (hnan : r.isNaN = false) (h : r.magnitude < twoTo 2098) :
    r.IsFinite := by
  refine isFinite_iff.2 ⟨hnan, ?_⟩
  cases hinfinite : r.isInfinite with
  | false => rfl
  | true => exact absurd (magnitude_of_isInfinite hinfinite) h.ne

/-! The whole part. -/

theorem lt_of_tdiv {u d : Int} (hd : 0 < d) :
    (u.tdiv d - 1) * d < u ∧ u < (u.tdiv d + 1) * d := by
  have hparts : d * u.tdiv d + u.tmod d = u := Int.mul_tdiv_add_tmod u d
  have hlow := Int.lt_tmod_of_pos u hd
  have hhigh := Int.tmod_lt_of_pos u hd
  rw [Int.sub_mul, Int.add_mul, Int.one_mul, Int.mul_comm]
  omega

theorem tdiv_lt_of_lt_mul {u d m : Int} (hd : 0 < d) (hm : 0 < m) (h : u < m * d) :
    u.tdiv d < m := by
  by_cases hu : 0 ≤ u
  · rw [Int.tdiv_eq_ediv_of_nonneg hu]
    exact Int.ediv_lt_of_lt_mul hd h
  · have hneg : 0 ≤ (-u).tdiv d := Int.tdiv_nonneg (by omega) hd.le
    rw [Int.neg_tdiv] at hneg
    omega

theorem natAbs_le_of_bounds {u d : Int} (hd : 0 < d) (hlow : -2 ^ 63 * d ≤ u)
    (hhigh : u < 2 ^ 63 * d) : u.natAbs ≤ twoTo 63 * d.natAbs := by
  change u.natAbs ≤ 2 ^ 63 * d.natAbs
  omega

theorem unitsOfOne_pos : 0 < unitsOfOne := Int.natCast_pos.2 (twoTo_pos 1074)

theorem natAbs_unitsOfOne : unitsOfOne.natAbs = twoTo 1074 := Int.natAbs_natCast _

/-- Between the bounds of the integers. -/
def InRange (r : Real64) : Prop := -2 ^ 63 * unitsOfOne ≤ r.units ∧ r.units < 2 ^ 63 * unitsOfOne

/-- Between the bounds the whole part is taken as it is. -/
theorem toInt_toInt64 (hnan : r.isNaN = false) (hr : r.InRange) :
    r.toInt64.toInt = r.units.tdiv unitsOfOne := by
  obtain ⟨hlow, hhigh⟩ := hr
  unfold toInt64
  rw [hnan, if_neg Bool.false_ne_true]
  apply Int64.toInt_ofIntClamp
  · have hlt := hlow.trans_lt (lt_of_tdiv unitsOfOne_pos).2
    have := Int.lt_of_mul_lt_mul_right hlt unitsOfOne_pos.le
    change -2 ^ 63 ≤ r.units.tdiv unitsOfOne
    omega
  · have hlt := tdiv_lt_of_lt_mul unitsOfOne_pos (by decide) hhigh
    change r.units.tdiv unitsOfOne ≤ 2 ^ 63 - 1
    omega

theorem InRange.isFinite (hr : r.InRange) (hnan : r.isNaN = false) : r.IsFinite := by
  apply isFinite_of_magnitude_lt hnan
  have hle : r.magnitude ≤ twoTo 63 * unitsOfOne.natAbs := by
    rw [← natAbs_units]
    exact natAbs_le_of_bounds unitsOfOne_pos hr.1 hr.2
  calc r.magnitude ≤ twoTo 63 * twoTo 1074 := by rwa [natAbs_unitsOfOne] at hle
    _ < twoTo 1024 * twoTo 1074 :=
      Nat.mul_lt_mul_of_pos_right (twoTo_lt_twoTo (by decide)) (twoTo_pos _)
    _ = twoTo 2098 := by rw [← twoTo_add, show 1024 + 1074 = 2098 from rfl]

/-- A number that is too great for a fraction is the conversion of its whole part. -/
theorem ofInt64_eq_self (hr : r.IsFinite) (h : i.toInt = r.units.tdiv unitsOfOne)
    (hgreat : twoTo 53 ≤ i.toInt.natAbs) : ofInt64 i = r ∧ i.toInt * unitsOfOne = r.units := by
  have hquotient : i.toInt.natAbs = r.magnitude / twoTo 1074 := by
    calc i.toInt.natAbs = r.units.natAbs / unitsOfOne.natAbs := by
          rw [h]
          exact Int.natAbs_tdiv _ _
      _ = r.magnitude / twoTo 1074 := by rw [natAbs_units, natAbs_unitsOfOne]
  have hscale : 1074 ≤ r.biased - 1 := by
    by_contra hlt
    have hmagnitude := r.magnitude_lt (show r.biased - 1 ≤ 1073 by omega)
    rw [hquotient, Nat.le_div_iff_mul_le (twoTo_pos _), ← twoTo_add] at hgreat
    have hless : twoTo (53 + 1073) < twoTo (53 + 1074) := twoTo_lt_twoTo (by decide)
    exact (hgreat.trans_lt hmagnitude).asymm hless
  have hdvd : twoTo 1074 ∣ r.magnitude := Nat.dvd_mul_left_of_dvd (twoTo_dvd_twoTo hscale) _
  have hunits : i.toInt * unitsOfOne = r.units := by
    rw [h]
    apply Int.tdiv_mul_cancel
    rwa [← Int.natAbs_dvd_natAbs, natAbs_units, natAbs_unitsOfOne]
  have hmagnitude : i.toInt.natAbs * twoTo 1074 = r.magnitude := by
    rw [hquotient, Nat.div_mul_cancel hdvd]
  have hpos : 0 < r.magnitude := by
    rw [← hmagnitude]
    exact Nat.mul_pos ((twoTo_pos 53).trans_le hgreat) (twoTo_pos 1074)
  have hsign : r.isNegative = decide (i.toInt < 0) := by
    rw [Bool.eq_iff_iff, decide_eq_true_iff, ← units_neg_iff hpos, ← hunits]
    exact ⟨fun h => Int.neg_of_mul_neg_left h unitsOfOne_pos,
      fun h => Int.mul_neg_of_neg_of_pos h unitsOfOne_pos⟩
  refine ⟨?_, hunits⟩
  unfold ofInt64
  rw [← hsign]
  exact ofRatio_eq_self hr Nat.one_pos (by rw [hmagnitude, Nat.mul_one])

/-- Conversion is exact for the whole part of a number. -/
theorem units_ofInt64 (hr : r.IsFinite) (h : i.toInt = r.units.tdiv unitsOfOne) :
    (ofInt64 i).isNaN = false ∧ (ofInt64 i).units = i.toInt * unitsOfOne := by
  by_cases hsmall : i.toInt.natAbs < twoTo 53
  · have hexact := units_ofRatio_of_small hsmall (j := 0) (by decide)
    rwa [Nat.sub_zero] at hexact
  · obtain ⟨heq, hunits⟩ := ofInt64_eq_self hr h (not_lt.1 hsmall)
    rw [heq]
    exact ⟨(isFinite_iff.1 hr).1, hunits.symm⟩

theorem units_integerBound (negative : Bool) : (integerBound negative).isNaN = false ∧
    (integerBound negative).units = (if negative then -2 ^ 63 else 2 ^ 63) * unitsOfOne := by
  cases negative
  · decide +kernel
  · decide +kernel

theorem order_eq {a b : Real64} (ha : a.isNaN = false) (hb : b.isNaN = false) :
    a.order b = compare a.units b.units := by
  rw [order, ha, hb, Bool.or_self, if_neg Bool.false_ne_true]

/-- The comparison does not round. -/
theorem orderInt_eq (hnan : r.isNaN = false) :
    orderInt i r = compare (i.toInt * unitsOfOne) r.units := by
  obtain ⟨hlowNaN, hlow⟩ := units_integerBound true
  obtain ⟨hhighNaN, hhigh⟩ := units_integerBound false
  unfold orderInt
  rw [hnan, if_neg Bool.false_ne_true, order_eq hnan hlowNaN, order_eq hnan hhighNaN, hlow, hhigh,
    if_pos rfl, if_neg Bool.false_ne_true]
  split
  case isTrue hbelow =>
    have hless := compare_lt_iff_lt.1 hbelow
    refine (compare_gt_iff_gt.2 ?_).symm
    exact hless.trans_le (Int.mul_le_mul_of_nonneg_right i.le_toInt unitsOfOne_pos.le)
  case isFalse hbelow =>
    have hbelow := not_lt.1 (mt compare_lt_iff_lt.2 hbelow)
    split
    case isTrue habove =>
      refine (compare_lt_iff_lt.2 ?_).symm
      exact (Int.mul_lt_mul_of_pos_right i.toInt_lt unitsOfOne_pos).trans_le
        (compare_ge_iff_ge.1 habove)
    case isFalse habove =>
      have hrange : r.InRange := ⟨hbelow, not_le.1 (mt compare_ge_iff_ge.2 habove)⟩
      obtain ⟨hless, hmore⟩ := lt_of_tdiv (u := r.units) unitsOfOne_pos
      rw [toInt_toInt64 hnan hrange]
      generalize hwhole : r.units.tdiv unitsOfOne = y at hless hmore ⊢
      rcases lt_trichotomy i.toInt y with hlt | heq | hgt
      · rw [compare_lt_iff_lt.2 hlt]
        refine (compare_lt_iff_lt.2 ?_).symm
        exact (Int.mul_le_mul_of_nonneg_right (by omega) unitsOfOne_pos.le).trans_lt hless
      · rw [compare_eq_iff_eq.2 heq]
        obtain ⟨hconverted, hunits⟩ := units_ofInt64 (hrange.isFinite hnan) (heq.trans hwhole.symm)
        exact (order_eq hconverted hnan).trans (by rw [hunits])
      · rw [compare_gt_iff_gt.2 hgt]
        refine (compare_gt_iff_gt.2 ?_).symm
        exact hmore.trans_le (Int.mul_le_mul_of_nonneg_right (by omega) unitsOfOne_pos.le)

end Real64

end PivotedQuery
