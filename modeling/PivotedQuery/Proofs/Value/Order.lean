import Mathlib.Algebra.Order.Field.Power
import Mathlib.Algebra.Order.Ring.Unbundled.Rat
import Mathlib.Data.List.Lex
import Mathlib.Data.Option.NAry
import Mathlib.Data.Sum.Order
import Mathlib.Tactic.NormNum
import PivotedQuery.Proofs.Real64.Whole
import PivotedQuery.Value.Order
/-!
The order of values. A value that is neither NULL nor a number that is none has a key: a point of
the rational line with its two ends, or the bytes of a text or of a blob. Main statement: values
compare just as their keys do, numbers before texts before blobs, so that comparing is a total
preorder in which nothing is rounded.
-/
namespace PivotedQuery

theorem eq_compare_of_iff {α : Type} [LinearOrder α] {x y : α} {o : Ordering}
    (hlt : o = .lt ↔ x < y) (hgt : o = .gt ↔ y < x) : o = compare x y := by
  refine ((compare_iff x y).2 ?_).symm
  cases o with
  | lt => exact hlt.1 rfl
  | gt => exact hgt.1 rfl
  | eq =>
    have hle : ¬ x < y := fun h => nomatch hlt.2 h
    have hge : ¬ y < x := fun h => nomatch hgt.2 h
    exact le_antisymm (not_lt.1 hge) (not_lt.1 hle)

theorem compare_eq_compare {α β : Type} [LinearOrder α] [LinearOrder β] {x y : α} {a b : β}
    (hlt : x < y ↔ a < b) (hgt : y < x ↔ b < a) : compare x y = compare a b :=
  eq_compare_of_iff (compare_lt_iff_lt.trans hlt) (compare_gt_iff_gt.trans hgt)

/-! Numbers as points of the line. -/

namespace Real64

variable {r : Real64}

/-- What the sign, the exponent and the significand of a finite number stand for. -/
def value (r : Real64) : ℚ :=
  (if r.isNegative then -1 else 1) * r.significand * 2 ^ ((max 1 r.biased : ℤ) - 1075)

/-- The infinite numbers are the ends of the line. -/
def exact (r : Real64) : WithBot (WithTop ℚ) :=
  if r.isInfinite then if r.isNegative then ⊥ else ⊤ else ((r.value : WithTop ℚ) : WithBot _)

theorem cast_twoTo (n : Nat) : ((twoTo n : Nat) : ℚ) = 2 ^ n := Nat.cast_pow 2 n

theorem cast_unitsOfOne : (unitsOfOne : ℚ) = 2 ^ 1074 :=
  (Int.cast_natCast _).trans (cast_twoTo 1074)

theorem value_mul_unitsOfOne (r : Real64) : r.value * unitsOfOne = r.units := by
  have hscale : (2 : ℚ) ^ ((max 1 r.biased : ℤ) - 1075) * unitsOfOne =
      (twoTo (r.biased - 1) : Nat) := by
    have hexponent : (max 1 r.biased : ℤ) - 1075 + (1074 : Nat) = (r.biased - 1 : Nat) := by omega
    rw [cast_unitsOfOne, ← zpow_natCast 2 1074, ← zpow_add₀ two_ne_zero, hexponent, zpow_natCast,
      cast_twoTo]
  have hmagnitude : (r.significand : ℚ) * 2 ^ ((max 1 r.biased : ℤ) - 1075) * unitsOfOne =
      r.magnitude := by
    rw [mul_assoc, hscale, magnitude, Nat.cast_mul]
  unfold value units
  rw [mul_assoc, mul_assoc, ← mul_assoc (r.significand : ℚ), hmagnitude]
  split
  · rw [Int.cast_neg, Int.cast_natCast, neg_one_mul]
  · rw [Int.cast_natCast, one_mul]

example : value ⟨0x3ff8000000000000⟩ = 3 / 2 := by decide +kernel

/-- A point together with what it is in units; the ends lie beyond every finite number. -/
inductive Measures : WithBot (WithTop ℚ) → Int → Prop
  | finite {q : ℚ} {u : Int} (h : q * unitsOfOne = u) (hu : u.natAbs < twoTo 2098) :
    Measures ((q : WithTop ℚ) : WithBot _) u
  | top : Measures ⊤ (twoTo 2098 : Nat)
  | bot : Measures ⊥ (-(twoTo 2098 : Nat))

theorem measures_exact (h : r.isNaN = false) : Measures r.exact r.units := by
  unfold exact
  cases hinfinite : r.isInfinite with
  | false =>
    rw [if_neg Bool.false_ne_true]
    apply Measures.finite r.value_mul_unitsOfOne
    rw [natAbs_units]
    exact (isFinite_iff.2 ⟨h, hinfinite⟩).magnitude_lt
  | true =>
    rw [if_pos rfl, units, magnitude_of_isInfinite hinfinite]
    cases r.isNegative with
    | true => exact .bot
    | false => exact .top

theorem measures_integer (i : Int64) :
    Measures (((i.toInt : ℚ) : WithTop ℚ) : WithBot _) (i.toInt * unitsOfOne) := by
  apply Measures.finite (Int.cast_mul _ _).symm
  rw [Int.natAbs_mul, natAbs_unitsOfOne]
  have hi : i.toInt.natAbs ≤ 2 ^ 63 := by
    have hlow := i.le_toInt
    have hhigh := i.toInt_lt
    omega
  calc i.toInt.natAbs * twoTo 1074 ≤ twoTo 63 * twoTo 1074 := Nat.mul_le_mul_right _ hi
    _ < twoTo 1024 * twoTo 1074 :=
      Nat.mul_lt_mul_of_pos_right (twoTo_lt_twoTo (by decide)) (twoTo_pos _)
    _ = twoTo 2098 := by rw [← twoTo_add, show 1024 + 1074 = 2098 from rfl]

theorem Measures.lt_iff {x y : WithBot (WithTop ℚ)} {u v : Int} (hx : Measures x u)
    (hy : Measures y v) : u < v ↔ x < y := by
  have hfar := twoTo_pos 2098
  cases hx with
  | @finite q u hq hu =>
    cases hy with
    | @finite p v hp hv =>
      have hpos : (0 : ℚ) < unitsOfOne := Int.cast_pos.2 unitsOfOne_pos
      rw [WithBot.coe_lt_coe, WithTop.coe_lt_coe, ← Int.cast_lt (R := ℚ), ← hq, ← hp,
        mul_lt_mul_iff_of_pos_right hpos]
    | top => exact iff_of_true (by omega) (WithBot.coe_lt_coe.2 (WithTop.coe_lt_top q))
    | bot => exact iff_of_false (by omega) not_lt_bot
  | top =>
    cases hy with
    | @finite p v hp hv => exact iff_of_false (by omega) not_top_lt
    | top => exact iff_of_false (lt_irrefl _) (lt_irrefl _)
    | bot => exact iff_of_false (by omega) not_lt_bot
  | bot =>
    cases hy with
    | @finite p v hp hv => exact iff_of_true (by omega) (WithBot.bot_lt_coe _)
    | top => exact iff_of_true (by omega) bot_lt_top
    | bot => exact iff_of_false (lt_irrefl _) (lt_irrefl _)

end Real64

/-! The bytes of texts and blobs. -/

/-- The bytes as numbers; of two lists the first difference decides. -/
def numbers (bytes : List UInt8) : List Nat := bytes.map UInt8.toNat

theorem compare_eq_lt_iff_numbers {bs cs : List UInt8} :
    compare bs cs = .lt ↔ numbers bs < numbers cs := by
  induction bs generalizing cs with
  | nil =>
    cases cs with
    | nil => decide
    | cons c cs => exact iff_of_true rfl (List.nil_lt_cons _ _)
  | cons b bs ih =>
    cases cs with
    | nil => exact iff_of_false nofun (List.not_lt_nil _)
    | cons c cs =>
      have hhead : compare b c = .lt ↔ b.toNat < c.toNat := Std.compare_eq_lt
      have hequal : compare b c = .eq ↔ b.toNat = c.toNat :=
        Std.compare_eq_iff_eq.trans UInt8.toNat_inj.symm
      rw [List.compare_cons_cons, Ordering.then_eq_lt, ih, hhead, hequal]
      exact List.cons_lt_cons_iff.symm

/-- The order of bytes is that of the numbers, wherever these are placed in a greater order. -/
theorem compare_eq_compare_numbers {α : Type} [LinearOrder α] {f : List Nat → α}
    (hf : ∀ xs ys, f xs < f ys ↔ xs < ys) (bs cs : List UInt8) :
    compare bs cs = compare (f (numbers bs)) (f (numbers cs)) := by
  apply eq_compare_of_iff
  · exact compare_eq_lt_iff_numbers.trans (hf _ _).symm
  · rw [Std.OrientedCmp.gt_iff_lt]
    exact compare_eq_lt_iff_numbers.trans (hf _ _).symm

namespace Value

/-- Points of the line before the bytes of texts, and these before the bytes of blobs. -/
abbrev Key := WithBot (WithTop ℚ) ⊕ₗ (List Nat ⊕ₗ List Nat)

namespace Key

def number (x : WithBot (WithTop ℚ)) : Key := Sum.inlₗ x

def text (bytes : List UInt8) : Key := Sum.inrₗ (Sum.inlₗ (numbers bytes))

def blob (bytes : List UInt8) : Key := Sum.inrₗ (Sum.inrₗ (numbers bytes))

theorem compare_number {x y : WithBot (WithTop ℚ)} {u v : Int} (hx : Real64.Measures x u)
    (hy : Real64.Measures y v) : compare u v = compare (number x) (number y) :=
  compare_eq_compare ((hx.lt_iff hy).trans Sum.Lex.inl_lt_inl_iff.symm)
    ((hy.lt_iff hx).trans Sum.Lex.inl_lt_inl_iff.symm)

theorem compare_text (bs cs : List UInt8) : compare bs cs = compare (text bs) (text cs) :=
  compare_eq_compare_numbers (f := fun xs => (Sum.inrₗ (Sum.inlₗ xs) : Key))
    (fun _ _ => Sum.Lex.inr_lt_inr_iff.trans Sum.Lex.inl_lt_inl_iff) bs cs

theorem compare_blob (bs cs : List UInt8) : compare bs cs = compare (blob bs) (blob cs) :=
  compare_eq_compare_numbers (f := fun xs => (Sum.inrₗ (Sum.inrₗ xs) : Key))
    (fun _ _ => Sum.Lex.inr_lt_inr_iff.trans Sum.Lex.inr_lt_inr_iff) bs cs

theorem number_lt_text (x : WithBot (WithTop ℚ)) (bs : List UInt8) : number x < text bs :=
  Sum.Lex.inl_lt_inr _ _

theorem number_lt_blob (x : WithBot (WithTop ℚ)) (bs : List UInt8) : number x < blob bs :=
  Sum.Lex.inl_lt_inr _ _

theorem text_lt_blob (bs cs : List UInt8) : text bs < blob cs :=
  Sum.Lex.inr_lt_inr_iff.2 (Sum.Lex.inl_lt_inr _ _)

end Key

/-- What a value is ordered by. -/
def key? : Value → Option Key
  | null => none
  | integer i => some (.number (((i.toInt : ℚ) : WithTop ℚ) : WithBot _))
  | real r => if r.isNaN then none else some (.number r.exact)
  | text s => some (.text (utf8 s))
  | blob bytes => some (.blob bytes)

def IsNaN (v : Value) : Prop := ∃ r, v = real r ∧ r.isNaN = true

/-- The values that are numbers, with their point of the line and their units. -/
inductive IsPoint : Value → WithBot (WithTop ℚ) → Int → Prop
  | integer (i : Int64) : IsPoint (integer i) (((i.toInt : ℚ) : WithTop ℚ) : WithBot _)
      (i.toInt * Real64.unitsOfOne)
  | real {r : Real64} (h : r.isNaN = false) : IsPoint (real r) r.exact r.units

inductive HasKey : Value → Key → Prop
  | number {v : Value} {x : WithBot (WithTop ℚ)} {u : Int} (h : IsPoint v x u) :
      HasKey v (.number x)
  | text (s : String) : HasKey (text s) (.text (utf8 s))
  | blob (bytes : List UInt8) : HasKey (blob bytes) (.blob bytes)

variable {a b c : Value} {x y z : Key}

theorem IsPoint.measures {p : WithBot (WithTop ℚ)} {u : Int} (h : IsPoint a p u) :
    Real64.Measures p u := by
  cases h with
  | integer i => exact Real64.measures_integer i
  | real h => exact Real64.measures_exact h

theorem IsPoint.order_eq {p q : WithBot (WithTop ℚ)} {u v : Int} (ha : IsPoint a p u)
    (hb : IsPoint b q v) : a.order b = some (compare u v) := by
  cases ha with
  | integer i =>
    cases hb with
    | integer j =>
      have hscaled {k l : Int} : k < l ↔ k * Real64.unitsOfOne < l * Real64.unitsOfOne :=
        (Int.mul_lt_mul_right Real64.unitsOfOne_pos).symm
      exact congrArg some (compare_eq_compare hscaled hscaled)
    | real hs => exact congrArg some (Real64.orderInt_eq hs)
  | real hr =>
    cases hb with
    | integer j =>
      have hswapped := congrArg Ordering.swap (Real64.orderInt_eq (i := j) hr)
      exact congrArg some (hswapped.trans Std.OrientedCmp.eq_swap.symm)
    | real hs => exact congrArg some (Real64.order_eq hr hs)

theorem hasKey_of_key? (h : a.key? = some x) : HasKey a x := by
  cases a with
  | null => cases h
  | integer i =>
    cases h
    exact .number (.integer i)
  | real r =>
    cases hr : r.isNaN with
    | true =>
      rw [key?, hr, if_pos rfl] at h
      cases h
    | false =>
      rw [key?, hr, if_neg Bool.false_ne_true] at h
      cases h
      exact .number (.real hr)
  | text s =>
    cases h
    exact .text s
  | blob bytes =>
    cases h
    exact .blob bytes

theorem key?_eq_none_iff (ha : ¬ a.IsNaN) : a.key? = none ↔ a = null := by
  cases a with
  | null => exact iff_of_true rfl rfl
  | integer i => exact iff_of_false nofun nofun
  | real r =>
    have hr : r.isNaN ≠ true := fun hr => ha ⟨r, rfl, hr⟩
    rw [key?, if_neg hr]
    exact iff_of_false nofun nofun
  | text s => exact iff_of_false nofun nofun
  | blob bytes => exact iff_of_false nofun nofun

/-- One case for each pair of classes. -/
theorem HasKey.order_eq (ha : HasKey a x) (hb : HasKey b y) : a.order b = some (compare x y) := by
  cases ha with
  | number ha =>
    cases hb with
    | number hb => rw [ha.order_eq hb, Key.compare_number ha.measures hb.measures]
    | text s =>
      rw [compare_lt_iff_lt.2 (Key.number_lt_text _ _)]
      cases ha <;> rfl
    | blob bytes =>
      rw [compare_lt_iff_lt.2 (Key.number_lt_blob _ _)]
      cases ha <;> rfl
  | text s =>
    cases hb with
    | number hb =>
      rw [compare_gt_iff_gt.2 (Key.number_lt_text _ _)]
      cases hb <;> rfl
    | text t => exact congrArg some (Key.compare_text _ _)
    | blob bytes =>
      rw [compare_lt_iff_lt.2 (Key.text_lt_blob _ _)]
      rfl
  | blob bytes =>
    cases hb with
    | number hb =>
      rw [compare_gt_iff_gt.2 (Key.number_lt_blob _ _)]
      cases hb <;> rfl
    | text s =>
      rw [compare_gt_iff_gt.2 (Key.text_lt_blob _ _)]
      rfl
    | blob other => exact congrArg some (Key.compare_blob _ _)

theorem order_eq_compare_key (ha : ¬ a.IsNaN) (hb : ¬ b.IsNaN) :
    a.order b = Option.map₂ compare a.key? b.key? := by
  cases hx : a.key? with
  | none =>
    rw [(key?_eq_none_iff ha).1 hx]
    rfl
  | some x =>
    cases hy : b.key? with
    | none => exact order_eq_none_iff.2 (.inr ((key?_eq_none_iff hb).1 hy))
    | some y => exact (hasKey_of_key? hx).order_eq (hasKey_of_key? hy)

theorem order_swap (ha : ¬ a.IsNaN) (hb : ¬ b.IsNaN) :
    b.order a = (a.order b).map Ordering.swap := by
  rw [order_eq_compare_key hb ha, order_eq_compare_key ha hb]
  cases a.key? with
  | none => cases b.key? <;> rfl
  | some x =>
    cases b.key? with
    | none => rfl
    | some y => exact congrArg some Std.OrientedCmp.eq_swap

/-- Neither NULL nor a number that is none. -/
structure IsOrdered (v : Value) : Prop where
  not_null : v ≠ null
  not_nan : ¬ v.IsNaN

/-- The first does not come after the second. -/
def Precedes (a b : Value) : Prop := ∃ o, a.order b = some o ∧ o ≠ .gt

theorem IsOrdered.exists_key (ha : a.IsOrdered) : ∃ x, a.key? = some x :=
  Option.ne_none_iff_exists'.1 (mt (key?_eq_none_iff ha.not_nan).1 ha.not_null)

theorem precedes_iff (hx : a.key? = some x) (hy : b.key? = some y) : Precedes a b ↔ x ≤ y := by
  have horder := (hasKey_of_key? hx).order_eq (hasKey_of_key? hy)
  rw [← compare_le_iff_le, Precedes, horder]
  simp

/-- Values compare as their keys do, and only NULL with nothing. Apart from NULL comparing is a
total preorder. -/
theorem order_by_key :
    (∀ a b : Value, ¬ a.IsNaN → ¬ b.IsNaN →
      (a.order b = none ↔ a = null ∨ b = null) ∧
      a.order b = Option.map₂ compare a.key? b.key? ∧
      b.order a = (a.order b).map Ordering.swap) ∧
    (∀ a : Value, a.IsOrdered → a.order a = some .eq) ∧
    (∀ a b : Value, a.IsOrdered → b.IsOrdered → a.Precedes b ∨ b.Precedes a) ∧
    ∀ a b c : Value, a.IsOrdered → b.IsOrdered → c.IsOrdered →
      a.Precedes b → b.Precedes c → a.Precedes c := by
  refine ⟨?_, ?_, ?_, ?_⟩
  · intro a b ha hb
    exact ⟨order_eq_none_iff, order_eq_compare_key ha hb, order_swap ha hb⟩
  · intro a ha
    obtain ⟨x, hx⟩ := ha.exists_key
    rw [(hasKey_of_key? hx).order_eq (hasKey_of_key? hx), compare_eq_iff_eq.2 rfl]
  · intro a b ha hb
    obtain ⟨x, hx⟩ := ha.exists_key
    obtain ⟨y, hy⟩ := hb.exists_key
    rw [precedes_iff hx hy, precedes_iff hy hx]
    exact le_total x y
  · intro a b c ha hb hc
    obtain ⟨x, hx⟩ := ha.exists_key
    obtain ⟨y, hy⟩ := hb.exists_key
    obtain ⟨z, hz⟩ := hc.exists_key
    rw [precedes_iff hx hy, precedes_iff hy hz, precedes_iff hx hz]
    exact le_trans

/-- The integer after `2 ^ 53`, for which there is no double, comes just after the double. -/
theorem order_by_key_fine :
    let even := integer 9007199254740992
    let double := real ⟨0x4340000000000000⟩
    let odd := integer 9007199254740993
    Option.map₂ compare odd.key? double.key? = some .gt ∧ double.order odd = some .lt ∧
      odd.order odd = some .eq ∧ even.Precedes odd := by
  intro even double odd
  have hodd : odd.IsOrdered := ⟨nofun, fun ⟨_, h, _⟩ => nomatch h⟩
  have heven : even.IsOrdered := ⟨nofun, fun ⟨_, h, _⟩ => nomatch h⟩
  have hdouble : double.IsOrdered := by
    refine ⟨nofun, ?_⟩
    rintro ⟨r, hr, h⟩
    rw [← Value.real.inj hr] at h
    exact absurd h (by decide +kernel)
  have hmore : odd.order double = some .gt := by decide +kernel
  have hequal : even.order double = some .eq := by decide +kernel
  obtain ⟨hpairs, hself, -, htrans⟩ := order_by_key
  obtain ⟨-, hkeys, hswap⟩ := hpairs odd double hodd.not_nan hdouble.not_nan
  rw [hmore] at hkeys hswap
  refine ⟨hkeys.symm, hswap, hself odd hodd, ?_⟩
  exact htrans even double odd heven hdouble hodd ⟨.eq, hequal, nofun⟩ ⟨.lt, hswap, nofun⟩

end Value

end PivotedQuery
