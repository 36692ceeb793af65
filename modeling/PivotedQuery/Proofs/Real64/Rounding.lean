import PivotedQuery.Proofs.Real64.Decimal
/-!
Rounding keeps the order of quotients. Main statements: a number of hundredths is rounded to a
number of quarters only if it is that number, as there are doubles between any two of them; and
quotients whose significands are rounded alike at one scale are one double.
-/
namespace PivotedQuery

variable {num den num' den' : Nat}

theorem div_le_div_of_mul_le_mul (hden : 0 < den) (hden' : 0 < den')
    (h : num * den' ≤ num' * den) : num / den ≤ num' / den' := by
  rw [Nat.le_div_iff_mul_le hden']
  refine Nat.le_of_mul_le_mul_right ?_ hden
  calc num / den * den' * den = num / den * den * den' := Nat.mul_right_comm _ _ _
    _ ≤ num * den' := Nat.mul_le_mul_right _ (Nat.div_mul_le_self _ _)
    _ ≤ num' * den := h

/-- Of quotients with one whole part the order is that of the remainders. -/
theorem mod_mul_le_mod_mul (h : num * den' ≤ num' * den) (hwhole : num / den = num' / den') :
    num % den * den' ≤ num' % den' * den := by
  have hnum := Nat.div_add_mod num den
  have hnum' := Nat.div_add_mod num' den'
  rw [← hwhole] at hnum'
  generalize num / den = q at hnum hnum'
  rw [← hnum, ← hnum', Nat.add_mul, Nat.add_mul,
    show den * q * den' = den' * q * den by ring] at h
  exact Nat.le_of_add_le_add_left h

theorem roundHalfEven_mono (hden : 0 < den) (hden' : 0 < den') (h : num * den' ≤ num' * den) :
    roundHalfEven num den ≤ roundHalfEven num' den' := by
  unfold roundHalfEven
  dsimp only
  rcases (div_le_div_of_mul_le_mul hden hden' h).lt_or_eq with hlt | hwhole
  · split <;> split <;> omega
  · have hrest := mod_mul_le_mod_mul h hwhole
    rw [hwhole]
    split
    case isFalse => split <;> omega
    case isTrue hup =>
      -- what is at least a half stays at least a half
      have hup' : den' < 2 * (num' % den') ∨
          2 * (num' % den') = den' ∧ num' / den' % 2 = 1 := by
        rcases hup with hmore | ⟨hhalf, hodd⟩
        · left
          refine Nat.lt_of_mul_lt_mul_right (a := den) ?_
          calc den' * den = den * den' := Nat.mul_comm _ _
            _ < 2 * (num % den) * den' := Nat.mul_lt_mul_of_pos_right hmore hden'
            _ ≤ 2 * (num' % den') * den := by rw [Nat.mul_assoc, Nat.mul_assoc]; omega
        · have hle : den' ≤ 2 * (num' % den') := by
            refine Nat.le_of_mul_le_mul_right ?_ hden
            calc den' * den = 2 * (num % den) * den' := by rw [hhalf, Nat.mul_comm]
              _ ≤ 2 * (num' % den') * den := by rw [Nat.mul_assoc, Nat.mul_assoc]; omega
          rcases hle.lt_or_eq with hlt | heq
          · exact .inl hlt
          · exact .inr ⟨heq.symm, hodd⟩
      rw [if_pos hup']

namespace Real64

theorem scale_mono (hden : 0 < den) (hden' : 0 < den') (h : num * den' ≤ num' * den) :
    scale num den ≤ scale num' den' := by
  unfold scale
  refine Nat.sub_le_sub_right ?_ 52
  have hmul : num * twoTo 1074 * den' ≤ num' * twoTo 1074 * den := by
    rw [Nat.mul_right_comm, Nat.mul_right_comm num']
    exact Nat.mul_le_mul_right _ h
  rw [Nat.log2_eq_log_two, Nat.log2_eq_log_two]
  exact Nat.log_mono_right (div_le_div_of_mul_le_mul hden hden' hmul)

/-- A significand has at most 53 bits before it is rounded. -/
theorem roundHalfEven_scale_le (num : Nat) (hden : 0 < den) :
    roundHalfEven (num * twoTo 1074) (den * twoTo (scale num den)) ≤ twoTo 53 := by
  have hlt : num * twoTo 1074 / den < twoTo (53 + scale num den) := by
    refine Nat.lt_of_lt_of_le Nat.lt_log2_self (Nat.pow_le_pow_right (by decide) ?_)
    unfold scale
    omega
  rw [Nat.div_lt_iff_lt_mul hden, twoTo_add, Nat.mul_right_comm, Nat.mul_assoc] at hlt
  have hpos := Nat.mul_pos hden (twoTo_pos (scale num den))
  rw [← roundHalfEven_mul (twoTo 53) _ hpos]
  exact roundHalfEven_mono hpos hpos (Nat.mul_le_mul_right _ hlt.le)

/-- It has 53 bits, unless there is no smaller scale. -/
theorem le_roundHalfEven_scale (hden : 0 < den) (h : 0 < scale num den) :
    twoTo 52 ≤ roundHalfEven (num * twoTo 1074) (den * twoTo (scale num den)) := by
  have hle : twoTo (52 + scale num den) ≤ num * twoTo 1074 / den := by
    unfold scale at h ⊢
    have hne : num * twoTo 1074 / den ≠ 0 := by
      intro hzero
      rw [hzero] at h
      exact absurd h (by decide)
    refine (Nat.pow_le_pow_right (by decide) ?_).trans (Nat.log2_self_le hne)
    omega
  rw [Nat.le_div_iff_mul_le hden, twoTo_add, Nat.mul_right_comm, Nat.mul_assoc] at hle
  have hpos := Nat.mul_pos hden (twoTo_pos (scale num den))
  rw [← roundHalfEven_mul (twoTo 52) _ hpos]
  exact roundHalfEven_mono hpos hpos (Nat.mul_le_mul_right _ hle)

theorem roundedBits_mono (hden : 0 < den) (hden' : 0 < den') (h : num * den' ≤ num' * den) :
    roundedBits num den ≤ roundedBits num' den' := by
  unfold roundedBits
  refine min_le_min_left _ ?_
  rcases (scale_mono hden hden' h).lt_or_eq with hlt | heq
  · -- the greatest significand of one scale is the least of the next
    have hhigh := roundHalfEven_scale_le num hden
    have hlow := le_roundHalfEven_scale hden' (Nat.zero_lt_of_lt hlt)
    have hstep : (scale num den + 1) * twoTo 52 ≤ scale num' den' * twoTo 52 :=
      Nat.mul_le_mul_right _ hlt
    calc scale num den * twoTo 52 + roundHalfEven (num * twoTo 1074) (den * twoTo (scale num den))
        ≤ scale num den * twoTo 52 + (twoTo 52 + twoTo 52) := Nat.add_le_add_left hhigh _
      _ = (scale num den + 1) * twoTo 52 + twoTo 52 := by rw [Nat.succ_mul, Nat.add_assoc]
      _ ≤ _ := Nat.add_le_add hstep hlow
  · rw [heq]
    refine Nat.add_le_add_left (roundHalfEven_mono (Nat.mul_pos hden (twoTo_pos _))
      (Nat.mul_pos hden' (twoTo_pos _)) ?_) _
    calc num * twoTo 1074 * (den' * twoTo (scale num' den'))
        = num * den' * (twoTo 1074 * twoTo (scale num' den')) := Nat.mul_mul_mul_comm _ _ _ _
      _ ≤ num' * den * (twoTo 1074 * twoTo (scale num' den')) := Nat.mul_le_mul_right _ h
      _ = num' * twoTo 1074 * (den * twoTo (scale num' den')) := Nat.mul_mul_mul_comm _ _ _ _

theorem roundedBits_eq_of_ofRatio {negative : Bool}
    (h : ofRatio negative num den = ofRatio negative num' den') :
    roundedBits num den = roundedBits num' den' := by
  have hlt (num den : Nat) : roundedBits num den < twoTo 63 :=
    (Nat.min_le_left _ _).trans_lt (by decide)
  have hbits := congrArg (fun r => r.bits.toNat) h
  simp only [ofRatio, toNat_ofBits (hlt _ _)] at hbits
  exact Nat.add_right_cancel hbits

/-- Different fractions of fewer than 54 bits are different doubles. -/
theorem eq_of_roundedBits {m n j : Nat} (hm : m < twoTo 53) (hn : n < twoTo 53) (hj : j ≤ 1022)
    (h : roundedBits m (twoTo j) = roundedBits n (twoTo j)) : m = n := by
  have hunits {n : Nat} (hn : n < twoTo 53) :
      (ofRatio false n (twoTo j)).units = (n : Int) * (twoTo (1074 - j) : Nat) := by
    have hexact := (units_ofRatio_of_small (n := (n : Int)) hn hj).2
    rwa [decide_eq_false (by omega), Int.natAbs_natCast] at hexact
  have hsame : (ofRatio false m (twoTo j)).units = (ofRatio false n (twoTo j)).units := by
    unfold ofRatio
    rw [h]
  rw [hunits hm, hunits hn, ← Nat.cast_mul, ← Nat.cast_mul, Nat.cast_inj] at hsame
  exact Nat.eq_of_mul_eq_mul_right (twoTo_pos _) hsame

theorem eq_of_hundredths {m n : Nat} {negative : Bool} (hn : n < twoTo 47)
    (h : ofRatio negative m 100 = ofRatio negative n 4) : m = 25 * n := by
  change n < 2 ^ 47 at hn
  have hbits := roundedBits_eq_of_ofRatio h
  have hquarter : roundedBits n 4 = roundedBits (32 * n) (twoTo 7) := by
    have hratio := ofRatio_mul_mul (c := 32) (by decide) false n 4
    rw [Nat.mul_comm n] at hratio
    exact roundedBits_eq_of_ofRatio hratio.symm
  -- a neighbour among the parts of 128 lies between
  rcases Nat.lt_trichotomy m (25 * n) with hlt | heq | hgt
  · have hlow : roundedBits m 100 ≤ roundedBits (32 * n - 1) (twoTo 7) :=
      roundedBits_mono (by decide) (by decide) (by change m * 128 ≤ _; omega)
    have hhigh : roundedBits (32 * n - 1) (twoTo 7) ≤ roundedBits (32 * n) (twoTo 7) :=
      roundedBits_mono (by decide) (by decide) (Nat.mul_le_mul_right _ (Nat.sub_le _ _))
    have hsame : roundedBits (32 * n - 1) (twoTo 7) = roundedBits (32 * n) (twoTo 7) := by omega
    have := eq_of_roundedBits (show 32 * n - 1 < 2 ^ 53 by omega) (show 32 * n < 2 ^ 53 by omega)
      (by decide) hsame
    omega
  · exact heq
  · have hlow : roundedBits (32 * n) (twoTo 7) ≤ roundedBits (32 * n + 1) (twoTo 7) :=
      roundedBits_mono (by decide) (by decide) (Nat.mul_le_mul_right _ (Nat.le_add_right _ _))
    have hhigh : roundedBits (32 * n + 1) (twoTo 7) ≤ roundedBits m 100 :=
      roundedBits_mono (by decide) (by decide) (by change _ ≤ m * 128; omega)
    have hsame : roundedBits (32 * n) (twoTo 7) = roundedBits (32 * n + 1) (twoTo 7) := by omega
    have := eq_of_roundedBits (show 32 * n < 2 ^ 53 by omega) (show 32 * n + 1 < 2 ^ 53 by omega)
      (by decide) hsame
    omega

/-- The significand has 53 bits at the scale. -/
def AtScale (k num den : Nat) : Prop :=
  0 < den ∧ twoTo (52 + k) * den ≤ num * twoTo 1074 ∧
    num * twoTo 1074 < twoTo (53 + k) * den

instance (k num den : Nat) : Decidable (AtScale k num den) :=
  inferInstanceAs (Decidable (_ ∧ _ ∧ _))

theorem AtScale.scale_eq {k : Nat} (h : AtScale k num den) : scale num den = k := by
  obtain ⟨hden, hlow, hhigh⟩ := h
  have hle : twoTo (52 + k) ≤ num * twoTo 1074 / den := (Nat.le_div_iff_mul_le hden).2 hlow
  have hlt : num * twoTo 1074 / den < twoTo (52 + k + 1) := by
    rw [Nat.div_lt_iff_lt_mul hden, show 52 + k + 1 = 53 + k by omega]
    exact hhigh
  have hlog := (Nat.log2_eq_iff ((twoTo_pos _).trans_le hle).ne').2 ⟨hle, hlt⟩
  unfold scale
  omega

theorem ofRatio_congr {k : Nat} (h : AtScale k num den) (h' : AtScale k num' den')
    (hround : roundHalfEven (num * twoTo 1074) (den * twoTo k) =
      roundHalfEven (num' * twoTo 1074) (den' * twoTo k)) (negative : Bool) :
    ofRatio negative num den = ofRatio negative num' den' := by
  unfold ofRatio roundedBits
  simp only [h.scale_eq, h'.scale_eq, hround]

end Real64

end PivotedQuery
