import Mathlib.Data.List.Perm.Basic
import Mathlib.Tactic.ByContra
import PivotedQuery.Random.Choice
/-!
Draws that never fail. `Draw.Ensures d post` says that from every source `d` gives a result, and one
with the property `post`. Main statements: ranges that are not empty, probabilities between zero
and one, orders and samples of a list are drawn from every source, and keep their bounds.
-/
namespace PivotedQuery.Draw

variable {α β : Type}

def Ensures (d : Draw α) (post : α → Prop) : Prop := ∀ s, ∃ a s', d s = (.ok a, s') ∧ post a

theorem ensures_pure {post : α → Prop} {a : α} (h : post a) : Ensures (pure a) post :=
  fun s => ⟨a, s, rfl, h⟩

section Run

-- whatever the state is: work at a bench is run in the same way
variable {τ : Type} {d : ExceptT DrawError (StateM τ) α} {f : α → ExceptT DrawError (StateM τ) β}
  {s s' : τ}

theorem run_bind {a : α} (h : d s = (.ok a, s')) : (d >>= f) s = f a s' := by
  change (let x := d s; ExceptT.bindCont f x.1 x.2) = _
  rw [h]
  rfl

theorem run_bind_error {e : DrawError} (h : d s = (.error e, s')) :
    (d >>= f) s = (.error e, s') := by
  change (let x := d s; ExceptT.bindCont f x.1 x.2) = _
  rw [h]
  rfl

/-- What comes after a draw gives a result just where the draw gives one to go on from. -/
theorem run_bind_eq_ok_iff {b : β} :
    (d >>= f) s = (.ok b, s') ↔ ∃ a s₁, d s = (.ok a, s₁) ∧ f a s₁ = (.ok b, s') := by
  constructor
  · intro h
    cases hd : d s with
    | mk r s₁ =>
      cases r with
      | error e =>
        change (let x := d s; ExceptT.bindCont f x.1 x.2) = _ at h
        rw [hd] at h
        cases h
      | ok a =>
        rw [run_bind hd] at h
        exact ⟨a, s₁, rfl, h⟩
  · rintro ⟨a, s₁, hd, hf⟩
    exact (run_bind hd).trans hf

end Run

theorem Ensures.bind {d : Draw α} {f : α → Draw β} {mid : α → Prop} {post : β → Prop}
    (hd : d.Ensures mid) (hf : ∀ a, mid a → (f a).Ensures post) : (d >>= f).Ensures post := by
  intro s
  obtain ⟨a, s₁, ha, hmid⟩ := hd s
  obtain ⟨b, s₂, hb, hpost⟩ := hf a hmid s₁
  exact ⟨b, s₂, (run_bind ha).trans hb, hpost⟩

theorem Ensures.mono {d : Draw α} {mid post : α → Prop} (hd : d.Ensures mid)
    (h : ∀ a, mid a → post a) : d.Ensures post := by
  intro s
  obtain ⟨a, s', ha, hmid⟩ := hd s
  exact ⟨a, s', ha, h a hmid⟩

/-- What a draw gives has every property that the draw ensures. -/
theorem Ensures.of_run {d : Draw α} {post : α → Prop} (hd : d.Ensures post) {s s' : Source} {a : α}
    (h : d s = (.ok a, s')) : post a := by
  obtain ⟨b, _, hb, hpost⟩ := hd s
  rw [h] at hb
  cases hb
  exact hpost

theorem Ensures.map {d : Draw α} {mid : α → Prop} {post : β → Prop} {f : α → β}
    (hd : d.Ensures mid) (hf : ∀ a, mid a → post (f a)) :
    Ensures (do let a ← d; return f a) post :=
  hd.bind fun a ha => ensures_pure (hf a ha)

/-! Words and ranges. -/

theorem ensures_word : word.Ensures fun _ => True :=
  fun _ => ⟨_, _, rfl, trivial⟩

theorem ensures_wide : wide.Ensures (· < twoTo 64) := by
  refine ensures_word.bind fun low _ => ensures_word.bind fun high _ => ensures_pure ?_
  have hl := low.toNat_lt
  have hh := high.toNat_lt
  change low.toNat + 2 ^ 32 * high.toNat < 2 ^ 64
  omega

theorem ensures_bits (w : Width) : (bits w).Ensures (· < w.modulus) := by
  cases w with
  | narrow => exact ensures_word.map fun x _ => x.toNat_lt
  | wide => exact ensures_wide

/-- The high half of a product stays below the factor, also when the low half leaves a doubt. -/
theorem high_add_carry_lt {b n m : Nat} (hb : b < m) (hn : 0 < n) :
    b * n / m < n ∧ (m - n < b * n % m → b * n / m + 1 < n) := by
  have hm : 0 < m := Nat.zero_lt_of_lt hb
  have hprod : b * n + n ≤ m * n := by
    have := Nat.mul_le_mul_right n (Nat.succ_le_of_lt hb)
    rwa [Nat.succ_mul] at this
  have hdiv := Nat.div_add_mod (b * n) m
  refine ⟨(Nat.div_lt_iff_lt_mul hm).2 (by rw [Nat.mul_comm n m]; omega), fun hlow => ?_⟩
  by_contra hhigh
  have hle : m * (n - 1) ≤ m * (b * n / m) := Nat.mul_le_mul_left m (by omega)
  rw [Nat.mul_sub, Nat.mul_one] at hle
  have hmn : m ≤ m * n := Nat.le_mul_of_pos_right m hn
  omega

theorem ensures_below (w : Width) {n : Nat} (hn : 0 < n) : (below w n).Ensures (· < n) := by
  have hne : n ≠ 0 := by omega
  unfold below
  simp only [if_neg hne]
  -- the second word only decides whether the carry is added
  apply (ensures_bits w).bind
  intro b hb
  obtain ⟨hhigh, hcarry⟩ := high_add_carry_lt hb hn
  split
  case isTrue hlow =>
    refine (ensures_bits w).bind fun c _ => ensures_pure ?_
    split
    · exact hcarry hlow
    · exact hhigh
  case isFalse => exact ensures_pure hhigh

theorem ensures_size {first last : Nat} (h : first ≤ last) :
    (size first last).Ensures fun n => first ≤ n ∧ n ≤ last :=
  (ensures_below _ (by omega)).map fun n hn => by omega

theorem ensures_chance {p : Real64} (hp : isProbability p = true) :
    (chance p).Ensures fun _ => True := by
  unfold chance
  split
  · exact ensures_pure trivial
  · exact ensures_wide.map fun _ _ => trivial

/-! Buffers. -/

theorem run_reserve_of_le {bytes : Nat} (h : bytes ≤ maxCapacity) (s : Source) :
    reserve bytes s = (.ok (), s) := by
  unfold reserve
  rw [if_neg (Nat.not_lt.2 h)]
  rfl

theorem run_reserve_of_lt {bytes : Nat} (h : maxCapacity < bytes) (s : Source) :
    reserve bytes s = (.error .capacityOverflow, s) := by
  unfold reserve
  rw [if_pos h]
  rfl

/-- A result that has the property. With an excuse it may also be that no buffer is large enough. -/
inductive Granted (excuse : Prop) (post : α → Prop) : Except DrawError α → Prop
  | ok {a : α} (h : post a) : Granted excuse post (.ok a)
  | overflow (h : excuse) : Granted excuse post (.error .capacityOverflow)

/-! Members, orders and samples of a list. -/

theorem ensures_pick {xs : List α} (h : xs ≠ []) : (pick xs).Ensures (· ∈ xs) := by
  apply (ensures_below _ (List.length_pos_iff.2 h)).bind
  intro i hi
  rw [List.getElem?_eq_getElem hi]
  exact ensures_pure (List.getElem_mem hi)

theorem product_pos {first : Nat} (h : 0 < first) : 0 < (product first).1 := by
  have extend_pos (fuel p n : Nat) (hp : 0 < p) : 0 < (extend first fuel p n).1 := by
    induction fuel generalizing p n with
    | zero => exact hp
    | succ fuel ih =>
      unfold extend
      split
      · exact ih _ _ (Nat.mul_pos hp (by omega))
      · exact hp
  exact extend_pos 12 first 1 h

theorem ensures_digit (d : Digits) (i : Nat) : (digit d i).Ensures fun _ => True := by
  -- what a full or a refilled chunk gives, both ends of the case split below
  have taken (d : Digits) : Ensures (if d.count = 0 then pure (d.rest, d)
      else pure (d.rest % (i + 1), { d with rest := d.rest / (i + 1) })) fun _ => True := by
    split <;> exact ensures_pure trivial
  unfold digit
  dsimp only
  split
  · apply (ensures_below _ (product_pos (Nat.succ_pos i))).bind
    intro n _
    rw [pure_bind]
    exact taken _
  · rw [pure_bind]
    exact taken _

theorem perm_swapIfInBounds (xs : Array α) (i j : Nat) : (xs.swapIfInBounds i j).Perm xs := by
  rw [Array.swapIfInBounds_def]
  split
  · split
    · exact Array.swap_perm _ _
    · exact .refl xs
  · exact .refl xs

theorem ensures_exchanges (n i : Nat) (d : Digits) (xs : Array α) :
    (exchanges n i d xs).Ensures (·.Perm xs) := by
  induction n generalizing i d xs with
  | zero => exact ensures_pure (Array.Perm.refl xs)
  | succ n ih =>
    apply (ensures_digit d i).bind
    intro jd _
    apply (ih _ _ _).mono
    intro ys hys
    exact hys.trans (perm_swapIfInBounds xs _ _)

theorem ensures_shuffle (xs : List α) : (shuffle xs).Ensures (·.Perm xs) := by
  unfold shuffle
  split
  · exact ensures_pure (List.Perm.refl xs)
  · exact (ensures_exchanges _ _ _ _).map fun ys hys => by simpa using hys.toList

/-! Samples. The positions drawn so far are distinct and below the next greatest one. -/

section Positions

variable {chosen : List Nat} {t g : Nat}

theorem length_addPosition : (addPosition chosen t g).length = chosen.length + 1 := by
  unfold addPosition
  split <;> simp

theorem lt_of_mem_addPosition (hbelow : ∀ x ∈ chosen, x < g) (ht : t ≤ g) {x : Nat}
    (hx : x ∈ addPosition chosen t g) : x < g + 1 := by
  unfold addPosition at hx
  rcases List.mem_append.1 hx with hx | hx
  · split at hx
    · obtain ⟨y, hy, rfl⟩ := List.mem_map.1 hx
      have := hbelow y hy
      split <;> omega
    · exact Nat.lt_succ_of_lt (hbelow x hx)
  · rw [List.mem_singleton.1 hx]
    omega

theorem nodup_addPosition (hnodup : chosen.Nodup) (hbelow : ∀ x ∈ chosen, x < g) :
    (addPosition chosen t g).Nodup := by
  unfold addPosition
  refine List.nodup_append.2 ⟨?_, List.pairwise_singleton _ t, ?_⟩
  · split
    · -- no other position is the greatest one, so giving way to it keeps them apart
      refine List.pairwise_map.2 (hnodup.imp_of_mem fun {x y} hx hy hxy => ?_)
      have := hbelow x hx
      have := hbelow y hy
      split <;> split <;> omega
    · exact hnodup
  · intro x hx y hy
    rw [List.mem_singleton.1 hy]
    split at hx
    case isTrue ht =>
      obtain ⟨z, -, rfl⟩ := List.mem_map.1 hx
      have := hbelow t ht
      split <;> omega
    case isFalse ht =>
      rintro rfl
      exact ht hx

end Positions

theorem ensures_positions {chosen : List Nat} {g : Nat} (k : Nat) (hnodup : chosen.Nodup)
    (hbelow : ∀ x ∈ chosen, x < g) : (positions (List.range' g k) chosen).Ensures fun ps =>
      ps.Nodup ∧ (∀ x ∈ ps, x < g + k) ∧ ps.length = chosen.length + k := by
  induction k generalizing chosen g with
  | zero => exact ensures_pure ⟨hnodup, hbelow, rfl⟩
  | succ k ih =>
    rw [List.range'_succ]
    apply (ensures_below _ (Nat.succ_pos g)).bind
    intro t ht
    have hnext : ∀ x ∈ addPosition chosen t g, x < g + 1 := fun x hx =>
      lt_of_mem_addPosition hbelow (Nat.lt_succ_iff.1 ht) hx
    apply (ih (nodup_addPosition hnodup hbelow) hnext).mono
    rintro ps ⟨hps, hlt, hlength⟩
    rw [length_addPosition] at hlength
    exact ⟨hps, fun x hx => by have := hlt x hx; omega, by omega⟩

/-- The members stand at distinct positions of the list. -/
def Samples (xs ys : List α) : Prop :=
  ∃ ps : List Nat, ps.Nodup ∧ ys.map some = ps.map (xs[·]?)

theorem Samples.subset {xs ys : List α} (h : Samples xs ys) : ys ⊆ xs := by
  obtain ⟨ps, -, hps⟩ := h
  intro y hy
  have hmem : some y ∈ ps.map (xs[·]?) := hps ▸ List.mem_map_of_mem hy
  obtain ⟨i, -, hi⟩ := List.mem_map.1 hmem
  exact List.mem_of_getElem? hi

theorem samples_nil (xs : List α) : Samples xs [] := ⟨[], List.nodup_nil, rfl⟩

theorem samples_of_perm {xs ys : List α} (h : ys.Perm xs) : Samples xs ys := by
  have hrange : xs.map some = (List.range xs.length).map (xs[·]?) := by
    apply List.ext_getElem?
    intro i
    by_cases hi : i < xs.length <;> simp [hi]
  have hperm : (ys.map some).Perm ((List.range xs.length).map (xs[·]?)) := hrange ▸ h.map some
  have hsame : List.Forall₂ (fun o i => o = xs[i]?) ((List.range xs.length).map (xs[·]?))
      (List.range xs.length) :=
    List.forall₂_map_left_iff.2 (List.forall₂_same.2 fun _ _ => rfl)
  -- the positions are put into the order of the members
  obtain ⟨ps, hps, hpositions⟩ := List.perm_comp_forall₂ hperm hsame
  refine ⟨ps, hpositions.nodup_iff.2 List.nodup_range, ?_⟩
  rw [← List.forall₂_eq_eq_eq, List.forall₂_map_right_iff]
  exact hps

theorem Samples.take {xs ys : List α} (h : Samples xs ys) (n : Nat) : Samples xs (ys.take n) := by
  obtain ⟨ps, hnodup, hps⟩ := h
  refine ⟨ps.take n, hnodup.sublist (List.take_sublist n ps), ?_⟩
  rw [List.map_take, hps, List.map_take]

theorem map_some_filterMap_getElem? {xs : List α} {ps : List Nat} (h : ∀ i ∈ ps, i < xs.length) :
    (ps.filterMap (xs[·]?)).map some = ps.map (xs[·]?) := by
  induction ps with
  | nil => rfl
  | cons i ps ih =>
    obtain ⟨hi, hps⟩ := List.forall_mem_cons.1 h
    have hget : xs[i]? = some xs[i] := List.getElem?_eq_getElem hi
    rw [List.filterMap_cons_some hget, List.map_cons, List.map_cons, ih hps, hget]

theorem ensures_choose {k : Nat} {xs : List α} (h : k ≤ xs.length) :
    (choose k xs).Ensures fun ys => ys.length = k ∧ Samples xs ys := by
  apply (ensures_positions k List.nodup_nil nofun).map
  rintro ps ⟨hnodup, hlt, hlength⟩
  have hfound : (ps.filterMap (xs[·]?)).map some = ps.map (xs[·]?) := by
    refine map_some_filterMap_getElem? fun i hi => ?_
    have := hlt i hi
    omega
  have hlengths := congrArg List.length hfound
  rw [List.length_map, List.length_map, hlength, List.length_nil, Nat.zero_add] at hlengths
  exact ⟨hlengths, ps, hnodup, hfound⟩

theorem ensures_mapM_forall₂ {f : α → Draw β} {R : α → β → Prop} (xs : List α)
    (h : ∀ x, (f x).Ensures (R x)) : (xs.mapM f).Ensures (List.Forall₂ R xs) := by
  induction xs with
  | nil => exact ensures_pure .nil
  | cons x xs ih =>
    rw [List.mapM_cons]
    exact (h x).bind fun y hy => ih.bind fun ys hys => ensures_pure (.cons hy hys)

theorem ensures_mapM {γ : Type} {f : α → Draw β} {g : β → γ} {k : α → γ} (xs : List α)
    (h : ∀ x, (f x).Ensures fun y => g y = k x) :
    (xs.mapM f).Ensures fun ys => ys.map g = xs.map k := by
  apply (ensures_mapM_forall₂ xs h).mono
  intro ys hys
  induction hys with
  | nil => rfl
  | cons hy _ ih => rw [List.map_cons, List.map_cons, hy, ih]

end PivotedQuery.Draw
