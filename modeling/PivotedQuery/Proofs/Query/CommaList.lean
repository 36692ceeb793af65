import PivotedQuery.Query.Basic
/-!
Lists with commas between their items. Main statement: a list is told from every other list if its
items are told from every other item, whatever stands behind the two.
-/
namespace PivotedQuery

variable {α : Type} {s t : List Char}

/-- The items behind the first one. -/
def furtherItems (text : α → String) (xs : List α) : List Char :=
  xs.flatMap fun a => ", ".toList ++ (text a).toList

theorem toList_commaList_cons (text : α → String) (a : α) (xs : List α) :
    (Query.commaList ((a :: xs).map text)).toList = (text a).toList ++ furtherItems text xs := by
  induction xs generalizing a with
  | nil => simp [Query.commaList, furtherItems]
  | cons b xs ih =>
    have hlist : Query.commaList ((a :: b :: xs).map text) =
        text a ++ ", " ++ Query.commaList ((b :: xs).map text) :=
      String.intercalate_cons_cons
    rw [hlist, String.toList_append, String.toList_append, ih b]
    simp [furtherItems]

/-- The good items are told from all items, before a comma and before other texts that may end an
item. Of those some close the list: neither a comma nor an item starts them. -/
structure ToldApart (good : α → Prop) (text : α → String) (Ends Closes : List Char → Prop) :
    Prop where
  comma : ∀ s, Ends (',' :: s)
  ends : ∀ {s}, Closes s → Ends s
  ne_comma : ∀ {s}, Closes s → ∀ cs, s ≠ ',' :: cs
  ne_item : ∀ {s t}, Closes s → ∀ a, Ends t → s ≠ (text a).toList ++ t
  item : ∀ {a b s t}, good a → Ends s → Ends t →
    (text a).toList ++ s = (text b).toList ++ t → a = b ∧ s = t

namespace ToldApart

variable {good : α → Prop} {text : α → String} {Ends Closes : List Char → Prop}
variable (h : ToldApart good text Ends Closes)
include h

theorem ends_furtherItems (xs : List α) (hs : Closes s) : Ends (furtherItems text xs ++ s) := by
  cases xs with
  | nil => exact h.ends hs
  | cons a xs => exact h.comma _

theorem furtherItems_append_inj {xs ys : List α} (hgood : ∀ a ∈ xs, good a) (hs : Closes s)
    (ht : Closes t) (heq : furtherItems text xs ++ s = furtherItems text ys ++ t) :
    xs = ys ∧ s = t := by
  induction xs generalizing ys with
  | nil =>
    cases ys with
    | nil => exact ⟨rfl, heq⟩
    | cons b ys => exact absurd heq (h.ne_comma hs _)
  | cons a xs ih =>
    obtain ⟨ha, hxs⟩ := List.forall_mem_cons.1 hgood
    cases ys with
    | nil => exact absurd heq.symm (h.ne_comma ht _)
    | cons b ys =>
      simp only [furtherItems, List.flatMap_cons, List.append_assoc] at heq
      obtain ⟨rfl, hrest⟩ := h.item ha (h.ends_furtherItems xs hs) (h.ends_furtherItems ys ht)
        (List.append_cancel_left heq)
      obtain ⟨rfl, hend⟩ := ih hxs hrest
      exact ⟨rfl, hend⟩

theorem commaList_append_inj {xs ys : List α} (hgood : ∀ a ∈ xs, good a) (hs : Closes s)
    (ht : Closes t) (heq : (Query.commaList (xs.map text)).toList ++ s =
      (Query.commaList (ys.map text)).toList ++ t) : xs = ys ∧ s = t := by
  cases xs with
  | nil =>
    cases ys with
    | nil => exact ⟨rfl, List.append_cancel_left heq⟩
    | cons b ys =>
      rw [toList_commaList_cons, List.append_assoc] at heq
      exact absurd heq (h.ne_item hs b (h.ends_furtherItems ys ht))
  | cons a xs =>
    obtain ⟨ha, hxs⟩ := List.forall_mem_cons.1 hgood
    cases ys with
    | nil =>
      rw [toList_commaList_cons, List.append_assoc] at heq
      exact absurd heq.symm (h.ne_item ht a (h.ends_furtherItems xs hs))
    | cons b ys =>
      rw [toList_commaList_cons, toList_commaList_cons, List.append_assoc, List.append_assoc] at heq
      obtain ⟨rfl, hrest⟩ := h.item ha (h.ends_furtherItems xs hs) (h.ends_furtherItems ys ht) heq
      obtain ⟨rfl, hend⟩ := h.furtherItems_append_inj hxs hs ht hrest
      exact ⟨rfl, hend⟩

end ToldApart

end PivotedQuery
