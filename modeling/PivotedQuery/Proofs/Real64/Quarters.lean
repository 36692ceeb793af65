import Mathlib.Data.Nat.Digits.Defs
import PivotedQuery.Proofs.Real64.Rounding
import PivotedQuery.Proofs.Real64.Whole
import PivotedQuery.Real64.Extended
/-!
Texts of quarters. Main statement: a small number of quarters is written with at most two places,
and a reader that goes by steps of 64 bits takes it back just as one that rounds to the nearest does.
-/
namespace PivotedQuery

theorem twoTo_1074 : twoTo 1074 = twoTo 2 * twoTo 1072 :=
  (congrArg twoTo (show 1074 = 2 + 1072 from rfl)).trans (twoTo_add 2 1072)

namespace Real64

variable {n : Int}

theorem magnitude_quarters (hn : n.natAbs < twoTo 53) :
    (quarters n).magnitude = n.natAbs * twoTo 1072 := by
  rw [← natAbs_units, (units_quarters hn).2, Int.natAbs_mul, Int.natAbs_natCast]

theorem magnitude_quarters_pos (hn : n.natAbs < twoTo 53) (h0 : n ≠ 0) :
    0 < (quarters n).magnitude := by
  rw [magnitude_quarters hn]
  exact Nat.mul_pos (Int.natAbs_pos.2 h0) (twoTo_pos 1072)

theorem isFinite_quarters (hn : n.natAbs < twoTo 53) : (quarters n).IsFinite := by
  apply isFinite_of_magnitude_lt (units_quarters hn).1
  calc (quarters n).magnitude = n.natAbs * twoTo 1072 := magnitude_quarters hn
    _ < twoTo 53 * twoTo 1072 := Nat.mul_lt_mul_of_pos_right hn (twoTo_pos 1072)
    _ = twoTo (53 + 1072) := (twoTo_add 53 1072).symm
    _ < twoTo 2098 := twoTo_lt_twoTo (by decide)

theorem isNegative_quarters (hn : n.natAbs < twoTo 53) (h0 : n ≠ 0) :
    (quarters n).isNegative = decide (n < 0) := by
  rw [Bool.eq_iff_iff, decide_eq_true_iff, ← units_neg_iff (magnitude_quarters_pos hn h0),
    (units_quarters hn).2]
  have hpos : 0 < ((twoTo 1072 : Nat) : Int) := Int.natCast_pos.2 (twoTo_pos 1072)
  generalize ((twoTo 1072 : Nat) : Int) = u at hpos
  exact ⟨fun h => Int.neg_of_mul_neg_left h hpos, fun h => Int.mul_neg_of_neg_of_pos h hpos⟩

end Real64

namespace Decimal

/-! Decimals with at most two places. -/

def hundredths (d : Decimal) : Nat := d.digits * 10 ^ (d.exponent + 2).toNat

theorem toReal_hundredths {d : Decimal} (h : -2 ≤ d.exponent) (negative : Bool) :
    d.toReal negative = .ofRatio negative d.hundredths 100 := by
  have hzeros := toReal_zeros negative d.digits (d.exponent + 2).toNat (-2)
  rw [show -2 + ((d.exponent + 2).toNat : Int) = d.exponent by omega] at hzeros
  exact hzeros.symm

theorem hundredths_shift {n : Nat} {e : Int} (h : -2 ≤ e) :
    hundredths ⟨n, e + 1⟩ = hundredths ⟨n * 10, e⟩ := by
  unfold hundredths
  rw [show (e + 1 + 2).toNat = (e + 2).toNat + 1 by omega, Nat.pow_succ, Nat.mul_assoc,
    Nat.mul_comm 10]

theorem stripZeros_hundredths (fuel : Nat) {d : Decimal} (h : -2 ≤ d.exponent) :
    -2 ≤ (stripZeros fuel d).exponent ∧ (stripZeros fuel d).hundredths = d.hundredths := by
  induction fuel generalizing d with
  | zero => exact ⟨h, rfl⟩
  | succ fuel ih =>
    unfold stripZeros
    split
    case isTrue hzero =>
      obtain ⟨hexponent, hvalue⟩ := ih (d := ⟨d.digits / 10, d.exponent + 1⟩) (by dsimp only; omega)
      refine ⟨hexponent, hvalue.trans ?_⟩
      rw [hundredths_shift h, Nat.div_mul_cancel (Nat.dvd_of_mod_eq_zero hzero.2)]
    case isFalse => exact ⟨h, rfl⟩

theorem written_hundredths {d : Decimal} (h : -2 ≤ d.exponent)
    (hshort : (Nat.toDigits 10 d.digits).length + d.exponent ≤ 16) :
    d.written = ⟨d.hundredths, -2⟩ ∨ ∃ n, d.written = ⟨n, -1⟩ ∧ n * 10 = d.hundredths := by
  obtain ⟨n, e⟩ := d
  unfold written hundredths
  dsimp only at h hshort ⊢
  split
  case isTrue hplaces =>
    obtain rfl | rfl : e = -2 ∨ e = -1 := by omega
    · exact .inl (by simp)
    · exact .inr ⟨n, rfl, by simp⟩
  case isFalse hplaces =>
    refine .inr ⟨_, rfl, ?_⟩
    rw [show (e + 2).toNat = e.toNat + 1 + 1 by omega, Nat.pow_succ 10 (e.toNat + 1), Nat.mul_assoc]

/-! The decimal that is found for a number. -/

theorem exponent_of_ofRealAt {r : Real64} {n : Nat} {d : Decimal} (h : ofRealAt r n = some d) :
    d.exponent = leadingExponent r.magnitude (twoTo 1074) - n := by
  unfold ofRealAt at h
  dsimp only at h
  split at h
  case isTrue =>
    cases h
    rfl
  case isFalse =>
    split at h
    case isTrue =>
      cases h
      rfl
    case isFalse => cases h

/-- Fewer digits are tried before more. -/
theorem exists_ofRealAt_of_ofReal {r : Real64} {i : Nat} (hi : i < 17)
    (h : (ofRealAt r (i + 1)).isSome = true) :
    ∃ j ≤ i, ∃ d, ofRealAt r (j + 1) = some d ∧ ofReal r = d.strip := by
  have hfound : ((List.range 17).findSome? fun i => ofRealAt r (i + 1)).isSome = true :=
    List.findSome?_isSome_iff.2 ⟨i, List.mem_range.2 hi, h⟩
  obtain ⟨d, hd⟩ := Option.isSome_iff_exists.1 hfound
  obtain ⟨before, j, after, hrange, hj, hnone⟩ := List.findSome?_eq_some_iff.1 hd
  have hofReal : ofReal r = d.strip := by
    unfold ofReal
    simp only [hd]
  refine ⟨j, ?_, d, hj, hofReal⟩
  -- the numbers of digits ascend, and none before the first that is found gives a decimal
  have hmem : i ∈ before ++ j :: after := hrange ▸ List.mem_range.2 hi
  rcases List.mem_append.1 hmem with hbefore | hafter
  · rw [hnone i hbefore] at h
    cases h
  · have hsorted : (before ++ j :: after).Pairwise (· < ·) := hrange ▸ List.pairwise_lt_range
    rcases List.mem_cons.1 hafter with rfl | hafter
    · exact Nat.le_refl _
    · exact ((List.pairwise_cons.1 (List.pairwise_append.1 hsorted).2.1).1 i hafter).le

theorem leadingExponent_mul_mul {c : Nat} (hc : 0 < c) (num den : Nat) :
    leadingExponent (num * c) (den * c) = leadingExponent num den := by
  unfold leadingExponent
  simp only [Nat.mul_le_mul_right_iff hc, Nat.mul_div_mul_right _ _ hc, Nat.mul_right_comm num c]

theorem isSome_ofRealAt {r : Real64} {n : Nat} {e : Int} {num den : Nat}
    (hexponent : leadingExponent r.magnitude (twoTo 1074) - n = e)
    (hgrid : scaleDown r.magnitude (twoTo 1074) e = (num, den))
    (hreads : toReal r.isNegative ⟨num / den, e⟩ = r) : (ofRealAt r n).isSome = true := by
  unfold ofRealAt
  simp only [hexponent, hgrid, hreads, BEq.rfl, Bool.true_and]
  split
  case isTrue => rfl
  case isFalse habove =>
    -- the other neighbour is taken only if it reads back too
    rw [Bool.or_eq_true, not_or, Bool.not_eq_true', Bool.not_eq_false] at habove
    rw [if_pos habove.1]
    rfl

theorem leadingExponent_quarters {n : Int} (hn : n.natAbs < twoTo 53) :
    leadingExponent (Real64.quarters n).magnitude (twoTo 1074) = leadingExponent n.natAbs 4 := by
  have hmul := leadingExponent_mul_mul (twoTo_pos 1072) n.natAbs (twoTo 2)
  rwa [← twoTo_1074, ← Real64.magnitude_quarters hn] at hmul

/-- Two places are enough for a number of quarters. -/
theorem isSome_ofRealAt_quarters {n : Int} (h0 : n ≠ 0) (hn : n.natAbs < twoTo 53) {l : Nat}
    (hl : leadingExponent n.natAbs 4 = l) :
    (ofRealAt (.quarters n) (l + 1 + 1)).isSome = true := by
  have hlead := leadingExponent_quarters hn
  have hunit := twoTo_1074
  have hpos := twoTo_pos 1072
  have hmagnitude := Real64.magnitude_quarters hn
  generalize twoTo 1072 = c at hunit hpos hmagnitude
  have hgrid : scaleDown (Real64.quarters n).magnitude (twoTo 1074) (-2) =
      (n.natAbs * c * 100, twoTo 1074) := by
    rw [hmagnitude]
    rfl
  refine isSome_ofRealAt ?_ hgrid ?_
  · rw [hlead, hl]
    omega
  · have hquotient : n.natAbs * c * 100 / twoTo 1074 = 25 * n.natAbs := by
      rw [hunit, show n.natAbs * c * 100 = 25 * n.natAbs * (4 * c) by ring]
      exact Nat.mul_div_cancel _ (Nat.mul_pos (by decide) hpos)
    rw [hquotient, Real64.isNegative_quarters hn h0]
    have hratio := Real64.ofRatio_mul_mul (c := 25) (by decide) (n < 0) n.natAbs 4
    rw [Nat.mul_comm n.natAbs] at hratio
    exact hratio

theorem ofReal_quarters {n : Int} (h0 : n ≠ 0) (hn : n.natAbs ≤ 400) :
    -2 ≤ (ofReal (.quarters n)).exponent ∧
      (ofReal (.quarters n)).hundredths = 25 * n.natAbs := by
  have hbound : n.natAbs < twoTo 53 := Nat.lt_of_le_of_lt hn (by decide)
  have hlead : ∀ m < 401, ∃ l < 15, leadingExponent m 4 = (l : Nat) := by decide +kernel
  obtain ⟨l, hl, hlead⟩ := hlead n.natAbs (by omega)
  obtain ⟨j, hj, d, hd, hofReal⟩ :=
    exists_ofRealAt_of_ofReal (by omega) (isSome_ofRealAt_quarters h0 hbound hlead)
  have hexponent : -2 ≤ d.exponent := by
    rw [exponent_of_ofRealAt hd, leadingExponent_quarters hbound, hlead]
    omega
  have hvalue : d.hundredths = 25 * n.natAbs := by
    have hreads := toReal_of_ofRealAt hd
    rw [toReal_hundredths hexponent, Real64.isNegative_quarters hbound h0] at hreads
    exact Real64.eq_of_hundredths (Nat.lt_of_le_of_lt hn (by decide)) hreads
  rw [hofReal, ← hvalue]
  exact stripZeros_hundredths _ hexponent

theorem length_add_exponent_le {d : Decimal} (h : -2 ≤ d.exponent) (hpos : 0 < d.hundredths)
    (hlt : d.hundredths < 10 ^ 18) : (Nat.toDigits 10 d.digits).length + d.exponent ≤ 16 := by
  unfold hundredths at hpos hlt
  have hdigits : 0 < d.digits := Nat.pos_of_mul_pos_right hpos
  obtain ⟨k, hk⟩ : ∃ k : Nat, d.exponent + 2 = k := ⟨(d.exponent + 2).toNat, by omega⟩
  rw [hk, Int.toNat_natCast] at hlt
  have hplaces : k < 18 := (Nat.pow_lt_pow_iff_right (by decide)).1
    ((Nat.le_mul_of_pos_left _ hdigits).trans_lt hlt)
  have hless : d.digits < 10 ^ (18 - k) := by
    refine Nat.lt_of_mul_lt_mul_right (a := 10 ^ k) ?_
    rwa [← Nat.pow_add, Nat.sub_add_cancel hplaces.le]
  have hlength := Nat.toDigits_length 10 d.digits (18 - k) (by omega) hless
  omega

/-! Steps of 64 bits. -/

/-- The quotient that is rounded at the end of the steps. -/
def stepwiseRatio (d : Decimal) : Nat × Nat :=
  let d := leading (digitCount d.digits) d
  if d.digits = 0 then (0, 1)
  else
    let d := balanced 20 d
    if d.exponent = 0 then (d.digits, 1)
    else ((Extended.ofRatio d.digits 1).scaledBy (d.exponent < 0) d.exponent.natAbs).ratio

theorem toRealStepwise_eq (negative : Bool) (d : Decimal) :
    d.toRealStepwise negative = .ofRatio negative d.stepwiseRatio.1 d.stepwiseRatio.2 := by
  unfold toRealStepwise stepwiseRatio
  dsimp only
  split
  · rfl
  · split
    · rfl
    · rfl

/-- The steps end so near to the quotient that both have one significand at the scale. -/
def StepsTo (k num den : Nat) (d : Decimal) : Prop :=
  Real64.AtScale k d.stepwiseRatio.1 d.stepwiseRatio.2 ∧ Real64.AtScale k num den ∧
    roundHalfEven (d.stepwiseRatio.1 * twoTo 1074) (d.stepwiseRatio.2 * twoTo k) =
      roundHalfEven (num * twoTo 1074) (den * twoTo k)

instance (k num den : Nat) (d : Decimal) : Decidable (StepsTo k num den d) :=
  inferInstanceAs (Decidable (_ ∧ _ ∧ _))

theorem StepsTo.toRealStepwise_eq {k num den : Nat} {d : Decimal} (h : StepsTo k num den d)
    (negative : Bool) : d.toRealStepwise negative = .ofRatio negative num den := by
  obtain ⟨hscale, hscale', hround⟩ := h
  rw [Decimal.toRealStepwise_eq, Real64.ofRatio_congr hscale hscale' hround]

theorem stepsTo_two_places :
    ∀ m < 401, 0 < m → StepsTo (1020 + Nat.log2 m) m 4 ⟨25 * m, -2⟩ := by
  decide +kernel

theorem stepsTo_one_place :
    ∀ m < 201, 0 < m → StepsTo (1020 + Nat.log2 (2 * m)) (2 * m) 4 ⟨5 * m, -1⟩ := by
  decide +kernel

theorem toRealStepwise_written_quarters {n : Int} (h0 : n ≠ 0) (hn : n.natAbs ≤ 400) :
    (ofReal (.quarters n)).written.toRealStepwise (n < 0) = .quarters n := by
  obtain ⟨hexponent, hvalue⟩ := ofReal_quarters h0 hn
  have hpos : 0 < n.natAbs := Int.natAbs_pos.2 h0
  have hshort := length_add_exponent_le hexponent (by omega) (by omega)
  rcases written_hundredths hexponent hshort with hwritten | ⟨k, hwritten, hk⟩
  · rw [hwritten, hvalue]
    exact (stepsTo_two_places _ (by omega) hpos).toRealStepwise_eq _
  · -- one place is enough just for a number of halves
    obtain ⟨m, hm, rfl⟩ : ∃ m, n.natAbs = 2 * m ∧ k = 5 * m := ⟨n.natAbs / 2, by omega⟩
    rw [hwritten, Real64.quarters, hm]
    exact (stepsTo_one_place m (by omega) (by omega)).toRealStepwise_eq _

end Decimal

namespace Real64

/-- What the text of a small number of quarters spells. -/
theorem toRealStepwise_quarters {n : Int} (hn : n.natAbs ≤ 400) :
    (quarters n).written.toRealStepwise (quarters n).isNegative = quarters n := by
  have hbound : n.natAbs < twoTo 53 := Nat.lt_of_le_of_lt hn (by decide)
  by_cases h0 : n = 0
  · rw [h0]
    decide +kernel
  · have hnonzero : (quarters n).isZero = false :=
      beq_eq_false_iff_ne.2 (magnitude_quarters_pos hbound h0).ne'
    rw [written, hnonzero, if_neg Bool.false_ne_true, isNegative_quarters hbound h0]
    exact Decimal.toRealStepwise_written_quarters h0 hn

end Real64

end PivotedQuery
