import Mathlib.Data.Nat.Log
import Mathlib.Tactic.Ring
import PivotedQuery.Random.Value
/-!
Quotients that a double holds exactly. Main statements: rounding keeps a quotient whose significand
has 53 bits, and so a small number of quarters has just the units that it stands for.
-/
namespace PivotedQuery

theorem twoTo_pos (n : Nat) : 0 < twoTo n := Nat.two_pow_pos n

theorem twoTo_add (m n : Nat) : twoTo (m + n) = twoTo m * twoTo n := Nat.pow_add 2 m n

theorem roundHalfEven_mul (q den : Nat) (hden : 0 < den) : roundHalfEven (q * den) den = q := by
  unfold roundHalfEven
  simp only [Nat.mul_div_cancel q hden, Nat.mul_mod_left]
  rw [if_neg (by omega)]

namespace Real64

theorem log2_mul_twoTo {q : Nat} (hlow : twoTo 52 ≤ q) (hhigh : q < twoTo 53) (k : Nat) :
    Nat.log2 (q * twoTo k) = k + 52 := by
  have hpos : 0 < q := Nat.lt_of_lt_of_le (twoTo_pos 52) hlow
  rw [Nat.log2_eq_iff (Nat.mul_ne_zero (by omega) (twoTo_pos k).ne')]
  constructor
  · calc twoTo (k + 52) = twoTo 52 * twoTo k := by rw [Nat.add_comm, twoTo_add]
      _ ≤ q * twoTo k := Nat.mul_le_mul_right _ hlow
  · calc q * twoTo k < twoTo 53 * twoTo k := Nat.mul_lt_mul_of_pos_right hhigh (twoTo_pos k)
      _ = twoTo (k + 52 + 1) := by rw [← twoTo_add, Nat.add_comm]

theorem roundedBits_of_exact {num den q k : Nat} (hden : 0 < den) (hlow : twoTo 52 ≤ q)
    (hhigh : q < twoTo 53) (hk : k ≤ 2045) (h : num * twoTo 1074 = q * twoTo k * den) :
    roundedBits num den = k * twoTo 52 + q := by
  have hscale : scale num den = k := by
    unfold scale
    rw [h, Nat.mul_div_cancel _ hden, log2_mul_twoTo hlow hhigh]
    omega
  have hbits : k * twoTo 52 + q ≤ infinityBits := by
    change q < 2 ^ 53 at hhigh
    change k * 2 ^ 52 + q ≤ 2047 * 2 ^ 52
    omega
  have hround : roundHalfEven (num * twoTo 1074) (den * twoTo k) = q := by
    rw [h, Nat.mul_assoc, Nat.mul_comm (twoTo k)]
    exact roundHalfEven_mul _ _ (Nat.mul_pos hden (twoTo_pos k))
  unfold roundedBits
  simp only [hscale, hround]
  exact Nat.min_eq_right hbits

/-- As `roundedBits_of_exact`, below the least number with a full significand. -/
theorem roundedBits_of_small {num den q : Nat} (hden : 0 < den) (hq : q < twoTo 52)
    (h : num * twoTo 1074 = q * den) : roundedBits num den = q := by
  have hscale : scale num den = 0 := by
    unfold scale
    rw [h, Nat.mul_div_cancel _ hden, Nat.sub_eq_zero_iff_le]
    by_cases h0 : q = 0
    · rw [h0]
      decide
    · exact ((Nat.log2_lt h0).2 hq).le
  have hround : roundHalfEven (num * twoTo 1074) (den * twoTo 0) = q := by
    rw [h, show twoTo 0 = 1 from rfl, Nat.mul_one]
    exact roundHalfEven_mul q den hden
  have hbits : q ≤ infinityBits := by
    change q < 2 ^ 52 at hq
    change q ≤ 2047 * 2 ^ 52
    omega
  unfold roundedBits
  simp only [hscale, hround, Nat.zero_mul, Nat.zero_add]
  exact Nat.min_eq_right hbits

theorem toNat_ofBits {n : Nat} (hn : n < twoTo 63) (negative : Bool) :
    (ofBits negative n).bits.toNat = n + if negative then twoTo 63 else 0 := by
  change n < 2 ^ 63 at hn
  refine Nat.mod_eq_of_lt ?_
  cases negative
  · change n + 0 < 2 ^ 64
    omega
  · change n + 2 ^ 63 < 2 ^ 64
    omega

/-- The fields of a word that is put together from a sign, an exponent and a significand. -/
theorem fields_ofBits {q k : Nat} (hlow : twoTo 52 ≤ q) (hhigh : q < twoTo 53) (hk : k ≤ 2045)
    (negative : Bool) :
    let r := ofBits negative (k * twoTo 52 + q)
    r.isNegative = negative ∧ r.biased = k + 1 ∧ r.fraction = q - twoTo 52 := by
  have hn : k * twoTo 52 + q < twoTo 63 := by
    change q < 2 ^ 53 at hhigh
    change k * 2 ^ 52 + q < 2 ^ 63
    omega
  change 2 ^ 52 ≤ q at hlow
  change q < 2 ^ 53 at hhigh
  simp only [isNegative, biased, fraction, toNat_ofBits hn]
  simp only [show twoTo 52 = 2 ^ 52 from rfl, show twoTo 63 = 2 ^ 63 from rfl,
    show twoTo 11 = 2 ^ 11 from rfl]
  cases negative
  · simp only [Bool.false_eq_true, if_false]
    refine ⟨decide_eq_false ?_, ?_, ?_⟩ <;> omega
  · simp only [if_true]
    refine ⟨decide_eq_true ?_, ?_, ?_⟩ <;> omega

theorem units_ofRatio_of_exact {num den q k : Nat} (hden : 0 < den) (hlow : twoTo 52 ≤ q)
    (hhigh : q < twoTo 53) (hk : k ≤ 2045) (h : num * twoTo 1074 = q * twoTo k * den)
    (negative : Bool) :
    (ofRatio negative num den).isNaN = false ∧
      (ofRatio negative num den).units =
        if negative then -((q * twoTo k : Nat) : Int) else (q * twoTo k : Nat) := by
  obtain ⟨hsign, hbiased, hfraction⟩ := fields_ofBits hlow hhigh hk negative
  unfold ofRatio
  rw [roundedBits_of_exact hden hlow hhigh hk h]
  have hmagnitude : (ofBits negative (k * twoTo 52 + q)).magnitude = q * twoTo k := by
    unfold magnitude significand
    rw [hbiased, hfraction, if_neg (by omega), Nat.add_sub_cancel' hlow, Nat.add_sub_cancel]
  refine ⟨?_, ?_⟩
  · simp only [isNaN, hbiased, beq_eq_false_iff_ne.2 (show k + 1 ≠ 2047 by omega), Bool.false_and]
  · simp only [units, hsign, hmagnitude]

/-- A fraction of less than 53 bits whose denominator is a power of two. -/
theorem units_ofRatio_of_small {n : Int} (hn : n.natAbs < twoTo 53) {j : Nat} (hj : j ≤ 1022) :
    (ofRatio (n < 0) n.natAbs (twoTo j)).isNaN = false ∧
      (ofRatio (n < 0) n.natAbs (twoTo j)).units = n * (twoTo (1074 - j) : Nat) := by
  by_cases h0 : n.natAbs = 0
  · have hbits : roundedBits 0 (twoTo j) = 0 :=
      roundedBits_of_small (twoTo_pos j) (twoTo_pos 52) (by rw [Nat.zero_mul, Nat.zero_mul])
    rw [Int.natAbs_eq_zero.1 h0, Int.natAbs_zero, Int.zero_mul, ofRatio, hbits]
    decide
  · have hle : twoTo (Nat.log2 n.natAbs) ≤ n.natAbs := Nat.log2_self_le h0
    have hlt : n.natAbs < twoTo (Nat.log2 n.natAbs + 1) := Nat.lt_log2_self
    have hlog : Nat.log2 n.natAbs < 53 := (Nat.log2_lt h0).2 hn
    generalize Nat.log2 n.natAbs = l at hle hlt hlog
    have hlow : twoTo 52 ≤ n.natAbs * twoTo (52 - l) := by
      calc twoTo 52 = twoTo l * twoTo (52 - l) := by
            rw [← twoTo_add, Nat.add_sub_cancel' (by omega)]
        _ ≤ n.natAbs * twoTo (52 - l) := Nat.mul_le_mul_right _ hle
    have hhigh : n.natAbs * twoTo (52 - l) < twoTo 53 := by
      calc n.natAbs * twoTo (52 - l) < twoTo (l + 1) * twoTo (52 - l) :=
            Nat.mul_lt_mul_of_pos_right hlt (twoTo_pos _)
        _ = twoTo 53 := by rw [← twoTo_add, show l + 1 + (52 - l) = 53 by omega]
    have hwhole : n.natAbs * twoTo (52 - l) * twoTo (1022 - j + l) =
        n.natAbs * twoTo (1074 - j) := by
      rw [Nat.mul_assoc, ← twoTo_add, show 52 - l + (1022 - j + l) = 1074 - j by omega]
    have hexact : n.natAbs * twoTo 1074 =
        n.natAbs * twoTo (52 - l) * twoTo (1022 - j + l) * twoTo j := by
      rw [hwhole, Nat.mul_assoc, ← twoTo_add, Nat.sub_add_cancel (by omega)]
    obtain ⟨hnan, hunits⟩ :=
      units_ofRatio_of_exact (twoTo_pos j) hlow hhigh (by omega) hexact (decide (n < 0))
    rw [hwhole] at hunits
    generalize twoTo (1074 - j) = u at hunits ⊢
    refine ⟨hnan, hunits.trans ?_⟩
    by_cases hneg : n < 0
    · rw [if_pos (decide_eq_true hneg), Nat.cast_mul, Int.ofNat_natAbs_of_nonpos hneg.le,
        Int.neg_mul, Int.neg_neg]
    · rw [if_neg (by simpa using hneg), Nat.cast_mul, Int.natAbs_of_nonneg (by omega)]

/-- Quarters are exact. -/
theorem units_quarters {n : Int} (hn : n.natAbs < twoTo 53) :
    (quarters n).isNaN = false ∧ (quarters n).units = n * (twoTo 1072 : Nat) := by
  have h := units_ofRatio_of_small hn (j := 2) (by decide)
  rwa [show 1074 - 2 = 1072 from rfl] at h

end Real64

end PivotedQuery
