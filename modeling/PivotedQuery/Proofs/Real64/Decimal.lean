import PivotedQuery.Proofs.Real64.Exact
/-!
Decimals as doubles. Main statements: which double a decimal stands for depends on its value alone,
and the decimal that is found for a finite double stands for that double, also as its text spells
it.
-/
namespace PivotedQuery

theorem roundHalfEven_mul_mul {c : Nat} (hc : 0 < c) (num den : Nat) :
    roundHalfEven (num * c) (den * c) = roundHalfEven num den := by
  unfold roundHalfEven
  have hrest : 2 * (num * c % (den * c)) = 2 * (num % den) * c := by
    rw [Nat.mul_mod_mul_right, Nat.mul_assoc]
  simp only [Nat.mul_div_mul_right num den hc, hrest, Nat.mul_lt_mul_right hc,
    Nat.mul_right_cancel_iff hc]

namespace Real64

theorem scale_mul_mul {c : Nat} (hc : 0 < c) (num den : Nat) :
    scale (num * c) (den * c) = scale num den := by
  unfold scale
  rw [Nat.mul_right_comm, Nat.mul_div_mul_right _ _ hc]

theorem ofRatio_mul_mul {c : Nat} (hc : 0 < c) (negative : Bool) (num den : Nat) :
    ofRatio negative (num * c) (den * c) = ofRatio negative num den := by
  unfold ofRatio roundedBits
  simp only [scale_mul_mul hc, Nat.mul_right_comm num c, Nat.mul_right_comm den c,
    roundHalfEven_mul_mul hc]

/-- The fields of its word without the sign. -/
def unsignedBits (r : Real64) : Nat := r.biased * twoTo 52 + r.fraction

theorem ofBits_unsignedBits (r : Real64) : ofBits r.isNegative r.unsignedBits = r := by
  have hbits : r.bits.toNat < 2 ^ 64 := r.bits.toNat_lt
  have hword : r.unsignedBits + (if r.isNegative then twoTo 63 else 0) = r.bits.toNat := by
    simp only [unsignedBits, biased, fraction, isNegative, show twoTo 52 = 2 ^ 52 from rfl,
      show twoTo 63 = 2 ^ 63 from rfl, show twoTo 11 = 2 ^ 11 from rfl, decide_eq_true_eq]
    split
    · omega
    · omega
  unfold ofBits
  rw [hword]
  exact congrArg Real64.mk UInt64.ofNat_toNat

/-- A number that is neither infinite nor none. -/
def IsFinite (r : Real64) : Prop := r.biased < 2047

theorem isFinite_iff {r : Real64} :
    r.IsFinite ↔ r.isNaN = false ∧ r.isInfinite = false := by
  have hbiased : r.biased < 2 ^ 11 := Nat.mod_lt _ (Nat.two_pow_pos 11)
  simp only [IsFinite, isNaN, isInfinite, Bool.and_eq_false_iff, beq_eq_false_iff_ne,
    bne_eq_false_iff_eq]
  constructor
  · intro h
    exact ⟨.inl h.ne, .inl h.ne⟩
  · rintro ⟨h | h, h' | h'⟩
    · omega
    · omega
    · omega
    · exact absurd h h'

theorem fraction_lt (r : Real64) : r.fraction < twoTo 52 := Nat.mod_lt _ (twoTo_pos 52)

/-- A quotient that is just the number's absolute value. -/
theorem ofRatio_eq_self {r : Real64} (hr : r.IsFinite) {num den : Nat} (hden : 0 < den)
    (h : num * twoTo 1074 = r.magnitude * den) : ofRatio r.isNegative num den = r := by
  have hrounded : roundedBits num den = r.unsignedBits := by
    have hfraction := r.fraction_lt
    unfold magnitude significand at h
    by_cases hbiased : r.biased = 0
    · rw [if_pos hbiased, hbiased, show twoTo (0 - 1) = 1 from rfl, Nat.mul_one] at h
      rw [roundedBits_of_small hden hfraction h, unsignedBits, hbiased, Nat.zero_mul, Nat.zero_add]
    · rw [if_neg hbiased] at h
      unfold IsFinite at hr
      have hhigh : twoTo 52 + r.fraction < twoTo 53 := by
        rw [show twoTo 53 = twoTo 52 + twoTo 52 from rfl]
        exact Nat.add_lt_add_left hfraction _
      rw [roundedBits_of_exact hden (Nat.le_add_right _ _) hhigh (by omega) h, unsignedBits]
      obtain ⟨k, hk⟩ := Nat.exists_eq_succ_of_ne_zero hbiased
      rw [hk, Nat.succ_sub_one, Nat.succ_mul]
      exact (Nat.add_assoc _ _ _).symm
  unfold ofRatio
  rw [hrounded]
  exact ofBits_unsignedBits r

end Real64

namespace Decimal

theorem tenTo_succ (n : Nat) : tenTo (n + 1) = tenTo n * 10 := Nat.pow_succ 10 n

theorem pow_five_mul_twoTo (n : Nat) : Nat.pow 5 n * twoTo n = tenTo n := (Nat.mul_pow 5 2 n).symm

/-- A zero at the end of the digits may be written into the exponent. -/
theorem toReal_shift (negative : Bool) (n : Nat) (e : Int) :
    toReal negative ⟨n * 10, e⟩ = toReal negative ⟨n, e + 1⟩ := by
  match e with
  | .ofNat e =>
    change Real64.ofRatio _ (n * 10 * tenTo e) 1 = Real64.ofRatio _ (n * tenTo (e + 1)) 1
    rw [tenTo_succ, Nat.mul_assoc, Nat.mul_comm 10]
  | .negSucc 0 =>
    change Real64.ofRatio _ (n * 10) (1 * 10) = Real64.ofRatio _ (n * 1) 1
    rw [Real64.ofRatio_mul_mul (by decide), Nat.mul_one]
  | .negSucc (e + 1) =>
    change Real64.ofRatio _ (n * 10) (tenTo (e + 1 + 1)) = Real64.ofRatio _ n (tenTo (e + 1))
    rw [tenTo_succ (e + 1), Real64.ofRatio_mul_mul (by decide)]

theorem toReal_zeros (negative : Bool) (n k : Nat) (e : Int) :
    toReal negative ⟨n * 10 ^ k, e⟩ = toReal negative ⟨n, e + k⟩ := by
  induction k generalizing e with
  | zero => rw [Nat.pow_zero, Nat.mul_one, Nat.cast_zero, add_zero]
  | succ k ih =>
    rw [Nat.pow_succ, ← Nat.mul_assoc, toReal_shift, ih, Nat.cast_succ, add_assoc, add_comm 1]

theorem toReal_stripZeros (negative : Bool) (fuel : Nat) (d : Decimal) :
    (stripZeros fuel d).toReal negative = d.toReal negative := by
  induction fuel generalizing d with
  | zero => rfl
  | succ fuel ih =>
    unfold stripZeros
    split
    case isTrue h =>
      rw [ih, ← toReal_shift, Nat.div_mul_cancel (Nat.dvd_of_mod_eq_zero h.2)]
    case isFalse => rfl

theorem toReal_strip (negative : Bool) (d : Decimal) :
    d.strip.toReal negative = d.toReal negative :=
  toReal_stripZeros negative _ d

theorem toReal_of_ofRealAt {r : Real64} {n : Nat} {d : Decimal} (h : ofRealAt r n = some d) :
    d.toReal r.isNegative = r := by
  unfold ofRealAt at h
  dsimp only at h
  split at h
  case isTrue hbelow =>
    cases h
    exact beq_iff_eq.1 (Bool.and_eq_true_iff.1 hbelow).1
  case isFalse =>
    split at h
    case isTrue habove =>
      cases h
      exact beq_iff_eq.1 habove
    case isFalse => cases h

theorem toReal_exact {r : Real64} (hr : r.IsFinite) : (exact r).toReal r.isNegative = r := by
  have hexact : exact r = ⟨r.magnitude * Nat.pow 5 1074, -1074⟩ := by rw [exact]
  -- a power of ten this great is not to be computed
  generalize hplaces : 1074 = places at hexact
  obtain ⟨k, rfl⟩ := Nat.exists_eq_succ_of_ne_zero (show places ≠ 0 by omega)
  rw [hexact, show (-1074 : Int) = .negSucc k by omega]
  change Real64.ofRatio r.isNegative (r.magnitude * Nat.pow 5 (k + 1)) (tenTo (k + 1)) = r
  apply Real64.ofRatio_eq_self hr (Nat.pow_pos (by decide))
  rw [hplaces, Nat.mul_assoc, pow_five_mul_twoTo]
  rfl

theorem toReal_ofReal {r : Real64} (hr : r.IsFinite) : (ofReal r).toReal r.isNegative = r := by
  unfold ofReal
  split
  case h_1 d h =>
    obtain ⟨i, -, hd⟩ := List.exists_of_findSome?_eq_some h
    rw [toReal_strip]
    exact toReal_of_ofRealAt hd
  case h_2 => exact toReal_exact hr

/-- The decimal that its text spells: without an exponent there is a place behind the point. -/
def written (d : Decimal) : Decimal :=
  if d.exponent < 0 ∨ 16 < (Nat.toDigits 10 d.digits).length + d.exponent then d
  else ⟨d.digits * 10 ^ (d.exponent.toNat + 1), -1⟩

theorem toReal_written (negative : Bool) (d : Decimal) :
    d.written.toReal negative = d.toReal negative := by
  unfold written
  split
  case isTrue => rfl
  case isFalse h =>
    rw [toReal_zeros, show -1 + ((d.exponent.toNat + 1 : Nat) : Int) = d.exponent by omega]

end Decimal

namespace Real64

/-- The decimal that the text of a finite number spells. -/
def written (r : Real64) : Decimal := if r.isZero then ⟨0, -1⟩ else (Decimal.ofReal r).written

theorem toReal_written {r : Real64} (hr : r.IsFinite) : r.written.toReal r.isNegative = r := by
  unfold written
  split
  case isTrue hzero =>
    apply ofRatio_eq_self hr (by decide)
    rw [beq_iff_eq.1 hzero, Nat.zero_mul, Nat.zero_mul]
  case isFalse => rw [Decimal.toReal_written, Decimal.toReal_ofReal hr]

end Real64

end PivotedQuery
