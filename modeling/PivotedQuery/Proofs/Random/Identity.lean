import PivotedQuery.Proofs.Containment.Agreement
/-!
Values as they are drawn have one representation each. Main statement: of two values drawn for one
affinity, from any two sources, SQL takes just those for equal that are identical, so that it does
not matter which of them a result shows.
-/
namespace PivotedQuery

namespace Value

/-- Only NULL does not compare equal with itself. -/
theorem order_self {v : Value} (h : v ≠ null) : v.order v = some .eq :=
  (Comparison.same_iff.1 (Comparison.same_self v)).resolve_left fun hnull => h hnull.1

theorem Drawn.isNaN_eq_false {a : Affinity} {v : Value} (h : Drawn a v) :
    ∀ r, v = real r → r.isNaN = false := by
  rintro r rfl
  cases a with
  | real =>
    obtain ⟨n, hr, hn⟩ := h
    cases hr
    exact (Real64.units_quarters (Nat.lt_of_le_of_lt hn (by decide))).1
  -- for every other affinity the values are of other classes
  | integer | numeric =>
    obtain ⟨i, hi, -⟩ := h
    cases hi
  | text =>
    obtain ⟨s, hs, -⟩ := h
    cases hs
  | blob => rcases h with ⟨i, hi, -⟩ | ⟨s, hs, -⟩ | ⟨b, hb, -⟩ <;> contradiction

theorem Drawn.ne_null {a : Affinity} {v : Value} (h : Drawn a v) : v ≠ null := by
  rintro rfl
  cases h.isNull

theorem Drawn.order_eq_iff {a : Affinity} {v w : Value} (hv : Drawn a v) (hw : Drawn a w) :
    v.order w = some .eq ↔ v = w := by
  constructor
  · exact hv.eq_of_order hw
  · rintro rfl
    exact order_self hv.ne_null

end Value

namespace Cell

/-- The cell of a value in a column of the declared type, if the column has one. -/
def resolved (declared : Option String) (v : Value) : Cell := ⟨v, .resolve declared v⟩

theorem beq_self (c : Cell) : (c == c) = true := beq_iff.2 ⟨rfl, rfl, .inr rfl⟩

end Cell

/-- Whatever the two sources are, two values are drawn. They compare equal just if they are
identical, and then their cells are the same under every declared type. -/
theorem Draw.drawn_identical (a : Affinity) (s t : Source) : ∃ v s' w t',
    Draw.value a s = (.ok v, s') ∧ Draw.value a t = (.ok w, t') ∧
    (v.order w = some .eq ↔ v = w) ∧
    (v.order w = some .eq → ∀ declared,
      (Cell.resolved declared v == Cell.resolved declared w) = true) ∧
    v ≠ .null ∧ ∀ r, v = .real r → r.isNaN = false := by
  obtain ⟨v, s', hv, hdrawn⟩ := ensures_value a s
  obtain ⟨w, t', hw, hdrawn'⟩ := ensures_value a t
  have hiff := hdrawn.order_eq_iff hdrawn'
  refine ⟨v, s', w, t', hv, hw, hiff, fun h declared => ?_, hdrawn.ne_null, hdrawn.isNaN_eq_false⟩
  rw [hiff.1 h]
  exact Cell.beq_self _

end PivotedQuery
