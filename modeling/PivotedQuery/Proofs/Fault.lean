import PivotedQuery.Fault
/-!
Work that may end with an error, and the first member of a list that is at fault. Main statements:
what is done after such work gives a result just if both do, and of two pieces of work the error of
the earlier one is told.
-/
namespace PivotedQuery

section First

variable {α : Type} {bad : α → Prop} {xs : List α} {x : α}

/-- A bad member with no bad one before it. -/
def IsFirst (bad : α → Prop) (xs : List α) (x : α) : Prop :=
  ∃ before after, xs = before ++ x :: after ∧ (∀ y ∈ before, ¬ bad y) ∧ bad x

theorem find?_eq_some_iff_isFirst {p : α → Bool} (h : ∀ x, p x = true ↔ bad x) :
    xs.find? p = some x ↔ IsFirst bad xs x := by
  rw [List.find?_eq_some_iff_append]
  constructor
  · rintro ⟨hx, before, after, hxs, hbefore⟩
    exact ⟨before, after, hxs, fun y hy => by simpa [← h] using hbefore y hy, (h x).1 hx⟩
  · rintro ⟨before, after, hxs, hbefore, hx⟩
    exact ⟨(h x).2 hx, before, after, hxs, fun y hy => by simpa [← h] using hbefore y hy⟩

theorem exists_isFirst_iff : (∃ x, IsFirst bad xs x) ↔ ∃ x ∈ xs, bad x := by
  classical
  have hfind (x : α) : xs.find? (bad ·) = some x ↔ IsFirst bad xs x :=
    find?_eq_some_iff_isFirst fun x => decide_eq_true_iff
  simp only [← hfind, ← Option.isSome_iff_exists, List.find?_isSome, decide_eq_true_eq]

end First

namespace Except

variable {ε α β γ : Type}

theorem bind_eq_ok_iff {x : Except ε α} {f : α → Except ε β} {b : β} :
    x >>= f = .ok b ↔ ∃ a, x = .ok a ∧ f a = .ok b := by
  cases x with
  | error e => simp [bind, Except.bind]
  | ok a => simp [bind, Except.bind]

theorem bind_eq_error_iff {x : Except ε α} {f : α → Except ε β} {e : ε} :
    x >>= f = .error e ↔ x = .error e ∨ ∃ a, x = .ok a ∧ f a = .error e := by
  cases x with
  | error e => simp [bind, Except.bind]
  | ok a => simp [bind, Except.bind]

theorem map_eq_ok_iff {x : Except ε α} {f : α → β} {b : β} :
    (do let a ← x; return f a) = (Except.ok b : Except ε β) ↔ ∃ a, x = .ok a ∧ b = f a := by
  simp only [bind_eq_ok_iff, pure, Except.pure, Except.ok.injEq, eq_comm (a := b)]

theorem map₂_eq_ok_iff {x : Except ε α} {y : Except ε β} {f : α → β → γ}
    {c : γ} : (do let a ← x; let b ← y; return f a b) = (Except.ok c : Except ε γ) ↔
      ∃ a, x = .ok a ∧ ∃ b, y = .ok b ∧ c = f a b := by
  simp only [bind_eq_ok_iff, pure, Except.pure, Except.ok.injEq, eq_comm (a := c)]

def error? : Except ε α → Option ε
  | .error e => some e
  | .ok _ => none

theorem error?_eq_some_iff {x : Except ε α} {e : ε} : error? x = some e ↔ x = .error e := by
  cases x <;> simp [error?]

theorem error?_eq_none_iff {x : Except ε α} : error? x = none ↔ ∃ a, x = .ok a := by
  cases x <;> simp [error?]

theorem error?_map {x : Except ε α} {f : α → β} :
    error? (do let a ← x; return f a : Except ε β) = error? x := by
  cases x <;> rfl

/-- The second piece of work is done only if the first gives a result. -/
theorem error?_map₂ {x : Except ε α} {y : Except ε β} {f : α → β → γ} :
    error? (do let a ← x; let b ← y; return f a b : Except ε γ) = (error? x).or (error? y) := by
  cases x with
  | error e => rfl
  | ok a => exact error?_map

section Bimap

variable {ε' α' β' : Type} {g : ε → ε'} {f : α → α'} {x x' : Except ε α}

/-- The error and the result, each changed in its way. -/
def bimap (g : ε → ε') (f : α → α') : Except ε α → Except ε' α'
  | .error e => .error (g e)
  | .ok a => .ok (f a)

theorem bimap_bind {h : β → β'} {k : α → Except ε β} {k' : α' → Except ε' β'}
    (hk : ∀ a, bimap g h (k a) = k' (f a)) : bimap g h (x >>= k) = bimap g f x >>= k' := by
  cases x with
  | error e => rfl
  | ok a => exact hk a

theorem error_of_bimap_eq {e : ε} (h : bimap g f x = bimap g f x') (hx : x = .error e) :
    ∃ e', x' = .error e' ∧ g e = g e' := by
  subst hx
  cases x' with
  | error e' => exact ⟨e', rfl, Except.error.inj h⟩
  | ok a => cases h

theorem ok_of_bimap_eq {a : α} (h : bimap g f x = bimap g f x') (hx : x = .ok a) :
    ∃ a', x' = .ok a' ∧ f a = f a' := by
  subst hx
  cases x' with
  | error e => cases h
  | ok a' => exact ⟨a', rfl, Except.ok.inj h⟩

end Bimap

end Except

end PivotedQuery
