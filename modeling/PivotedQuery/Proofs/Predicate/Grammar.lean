import PivotedQuery.Proofs.Predicate.Parts
import PivotedQuery.Proofs.Value.Literal
/-!
The texts of conditions as a grammar. Main statement: the grammar is unambiguous, also before a text
that goes on, so the text of a resolved condition tells the condition up to the spelling of null
tests.
-/
namespace PivotedQuery

open Text (Breaks)

variable {s t : List Char}

theorem Identifier.quoted_append_inj {a b : Identifier} (hs : s.head? ≠ some '\x22')
    (ht : t.head? ≠ some '\x22') (h : a.quoted.toList ++ s = b.quoted.toList ++ t) :
    a = b ∧ s = t := by
  simp only [quoted, Text.enclose, String.toList_ofList, List.cons_append, List.append_assoc,
    List.nil_append, List.cons.injEq, true_and] at h
  have hread := Text.readDoubled_double a.name.toList hs
  rw [h, Text.readDoubled_double b.name.toList ht] at hread
  obtain ⟨hname, hrest⟩ := Prod.mk.inj (Option.some.inj hread)
  cases a
  cases b
  exact ⟨congrArg Identifier.mk (String.toList_injective hname.symm), hrest.symm⟩

namespace ColumnKey

theorem qualified_append_inj {a b : ColumnKey} (hs : s.head? ≠ some '\x22')
    (ht : t.head? ≠ some '\x22') (h : a.qualified.toList ++ s = b.qualified.toList ++ t) :
    a = b ∧ s = t := by
  simp only [qualified, String.toList_append, List.append_assoc] at h
  obtain ⟨htable, hpoint⟩ := Identifier.quoted_append_inj (by simp) (by simp) h
  obtain ⟨hcolumn, hrest⟩ := Identifier.quoted_append_inj hs ht (List.append_cancel_left hpoint)
  cases a
  cases b
  exact ⟨ColumnKey.mk.injEq .. ▸ ⟨htable, hcolumn⟩, hrest⟩

theorem qualified_toList (a : ColumnKey) : ∃ cs, a.qualified.toList = '\x22' :: cs := by
  simp [qualified, Identifier.quoted, Text.enclose]

end ColumnKey

namespace Value

/-- Literals by their first characters. -/
theorem readLiteral_of_literal {v : Value} (hs : Breaks s) {cs : List Char}
    (h : v.literal.toList ++ s = cs) :
    (∃ r, cs = 'N' :: 'a' :: r) ∨ readLiteral Decimal.toReal cs = some (v, s) := by
  obtain ⟨r, rfl, hr⟩ | hv := v.isNaN_cases
  · rw [literal_nan hr] at h
    exact .inl ⟨'N' :: s, h.symm⟩
  · exact .inr (h ▸ readLiteral_literal hv hs)

theorem literal_ne_quote {v : Value} (hs : Breaks s) {cs : List Char} :
    v.literal.toList ++ s ≠ '\x22' :: cs := by
  intro h
  obtain ⟨r, h⟩ | h := readLiteral_of_literal hs h
  · cases h
  · cases h

theorem literal_ne_not {v : Value} (hs : Breaks s) {cs : List Char} :
    v.literal.toList ++ s ≠ 'N' :: 'O' :: cs := by
  intro h
  obtain ⟨r, h⟩ | h := readLiteral_of_literal hs h
  · cases h
  · cases h

theorem leastInteger_toList : leastInteger.toList =
    '(' :: ((integer (-9223372036854775807)).literal.toList ++ " - 1)".toList) := by
  decide +kernel

/-- Only the least integer is written in parentheses. -/
theorem eq_of_literal_parenthesis {v : Value} (hs : Breaks s) {cs : List Char}
    (h : v.literal.toList ++ s = '(' :: cs) : '(' :: cs = leastInteger.toList ++ s := by
  obtain ⟨r, h⟩ | h := readLiteral_of_literal hs h
  · cases h
  · obtain ⟨rest, hrest, hv⟩ := Option.map_eq_some_iff.1 h
    rw [Text.eq_append_of_expectChars hrest, (Prod.mk.inj hv).2]

end Value

namespace Comparison

theorem sql_append_inj {op op' : Comparison} (hs : ∀ cs, s ≠ 'N' :: 'O' :: cs)
    (ht : ∀ cs, t ≠ 'N' :: 'O' :: cs)
    (h : op.sql.toList ++ ' ' :: s = op'.sql.toList ++ ' ' :: t) : op = op' ∧ s = t := by
  cases op <;> cases op' <;> simp_all [sql, eq_comm (b := t)]

end Comparison

namespace Operand

/-- The texts of operands without placeholders. -/
inductive Prints : Operand → List Char → Prop
  | column (key : ColumnKey) : Prints (column key) key.qualified.toList
  | literal (v : Value) : Prints (literal v.canonical) v.literal.toList

variable {a b : Operand} {x y : List Char}

theorem Prints.ne_not (ha : a.Prints x) (hs : Breaks s) {cs : List Char} :
    x ++ s ≠ 'N' :: 'O' :: cs := by
  cases ha with
  | column key =>
    obtain ⟨r, hr⟩ := key.qualified_toList
    simp [hr]
  | literal v => exact Value.literal_ne_not hs

theorem Prints.unambiguous (ha : a.Prints x) (hb : b.Prints y) (hs : Breaks s) (ht : Breaks t)
    (h : x ++ s = y ++ t) : a = b ∧ s = t := by
  have hquote {s : List Char} (hs : Breaks s) : s.head? ≠ some '\x22' :=
    hs.head?_ne (by decide) (by decide) (by decide)
  cases ha with
  | column key =>
    cases hb with
    | column key' =>
      obtain ⟨hkey, hrest⟩ := ColumnKey.qualified_append_inj (hquote hs) (hquote ht) h
      exact ⟨congrArg Operand.column hkey, hrest⟩
    | literal w =>
      obtain ⟨r, hr⟩ := key.qualified_toList
      rw [hr] at h
      exact absurd h.symm (Value.literal_ne_quote ht)
  | literal v =>
    cases hb with
    | column key =>
      obtain ⟨r, hr⟩ := key.qualified_toList
      rw [hr] at h
      exact absurd h (Value.literal_ne_quote hs)
    | literal w =>
      obtain ⟨hv, hrest⟩ := Value.literal_append_inj hs ht h
      exact ⟨congrArg Operand.literal hv, hrest⟩

end Operand

namespace Predicate

/-- The texts of conditions without placeholders, in which every null test is a comparison. -/
inductive Prints : Predicate → List Char → Prop
  | compare {a b : Operand} {x y : List Char} (op : Comparison) (ha : a.Prints x)
      (hb : b.Prints y) :
      Prints (compare a op b) ('(' :: (x ++ ' ' :: (op.sql.toList ++ ' ' :: (y ++ [')']))))
  | not {p : Predicate} {x : List Char} (hp : Prints p x) :
      Prints (not p) ("(NOT ".toList ++ (x ++ [')']))
  | and {p q : Predicate} {x y : List Char} (hp : Prints p x) (hq : Prints q y) :
      Prints (and p q) ('(' :: (x ++ (" AND ".toList ++ (y ++ [')']))))
  | or {p q : Predicate} {x y : List Char} (hp : Prints p x) (hq : Prints q y) :
      Prints (or p q) ('(' :: (x ++ (" OR ".toList ++ (y ++ [')']))))
  | isUnknown {p : Predicate} {x : List Char} (hp : Prints p x) :
      Prints (isUnknown p) ('(' :: (x ++ " IS NULL)".toList))

variable {a : Operand} {p q : Predicate} {x y : List Char}

theorem Prints.exists_cons (hp : p.Prints x) : ∃ r, x = '(' :: r := by
  cases hp <;> exact ⟨_, rfl⟩

/-- The least integer starts like a comparison of a number but goes on with a minus sign. -/
theorem Prints.ne_leastInteger (hp : p.Prints x) :
    x ++ t ≠ Value.leastInteger.toList ++ ' ' :: s := by
  intro h
  cases hp with
  | @compare a b x y op ha hb =>
    have hbody : x ++ ' ' :: (op.sql.toList ++ ' ' :: (y ++ ')' :: t)) =
        (Value.integer (-9223372036854775807)).literal.toList ++ ' ' :: ("- 1) ".toList ++ s) := by
      simpa [Value.leastInteger_toList] using h
    have hbreaks {s : List Char} : Breaks (' ' :: s) := Text.breaks_cons (.inl rfl) s
    obtain ⟨-, hop⟩ := ha.unambiguous (.literal _) hbreaks hbreaks hbody
    cases op <;> simp [Comparison.sql] at hop
  | not hp => simp [Value.leastInteger] at h
  | and hp | or hp | isUnknown hp =>
    obtain ⟨r, rfl⟩ := hp.exists_cons
    simp [Value.leastInteger] at h

theorem Prints.ne_operand (hp : p.Prints x) (ha : a.Prints y) : x ++ t ≠ y ++ ' ' :: s := by
  obtain ⟨r, rfl⟩ := hp.exists_cons
  intro h
  cases ha with
  | column key =>
    obtain ⟨cs, hcs⟩ := key.qualified_toList
    simp [hcs] at h
  | literal v =>
    rw [List.cons_append] at h
    have hleast := Value.eq_of_literal_parenthesis (Text.breaks_cons (.inl rfl) s) h.symm
    exact hp.ne_leastInteger hleast

theorem Prints.ne_not (hp : p.Prints x) : x ++ s ≠ 'N' :: t := by
  obtain ⟨r, rfl⟩ := hp.exists_cons
  exact fun h => absurd (List.cons.inj h).1 (by decide)

/-- A text that starts with a condition inside parentheses is a connective's. -/
theorem Prints.cases_of_first (hp : p.Prints x) (hq : q.Prints y)
    (h : '(' :: (x ++ s) = y ++ t) :
    (∃ p' q' x' y', q = .and p' q' ∧ Predicate.Prints p' x' ∧ Predicate.Prints q' y' ∧
      x ++ s = x' ++ (" AND ".toList ++ (y' ++ ')' :: t))) ∨
    (∃ p' q' x' y', q = .or p' q' ∧ Predicate.Prints p' x' ∧ Predicate.Prints q' y' ∧
      x ++ s = x' ++ (" OR ".toList ++ (y' ++ ')' :: t))) ∨
    ∃ p' x', q = .isUnknown p' ∧ Predicate.Prints p' x' ∧
      x ++ s = x' ++ (" IS NULL)".toList ++ t) := by
  cases hq with
  | compare op ha hb =>
    simp only [List.cons_append, List.append_assoc] at h
    exact absurd (List.cons.inj h).2 (hp.ne_operand ha)
  | not hq => exact absurd (List.cons.inj h).2 hp.ne_not
  | and hq hq' =>
    refine .inl ⟨_, _, _, _, rfl, hq, hq', ?_⟩
    simpa using h
  | or hq hq' =>
    refine .inr (.inl ⟨_, _, _, _, rfl, hq, hq', ?_⟩)
    simpa using h
  | isUnknown hq =>
    refine .inr (.inr ⟨_, _, rfl, hq, ?_⟩)
    simpa using h

/-- A condition is read off a text in one way, whatever stands behind it. -/
theorem Prints.unambiguous (hp : p.Prints x) (hq : q.Prints y) (h : x ++ s = y ++ t) :
    p = q ∧ s = t := by
  have hspace {s : List Char} : Breaks (' ' :: s) := Text.breaks_cons (.inl rfl) s
  have hclose {s : List Char} : Breaks (')' :: s) := Text.breaks_cons (.inr (.inr rfl)) s
  induction hp generalizing q y s t with
  | compare op ha hb =>
    simp only [List.cons_append, List.append_assoc, List.nil_append] at h
    cases hq with
    | compare op' hc hd =>
      simp only [List.cons_append, List.append_assoc, List.nil_append] at h
      obtain ⟨rfl, hop⟩ := ha.unambiguous hc hspace hspace (List.cons.inj h).2
      obtain ⟨rfl, hright⟩ := Comparison.sql_append_inj (fun _ => hb.ne_not hclose)
        (fun _ => hd.ne_not hclose) (List.cons.inj hop).2
      obtain ⟨rfl, hend⟩ := hb.unambiguous hd hclose hclose hright
      exact ⟨rfl, (List.cons.inj hend).2⟩
    | not hq => exact absurd (List.cons.inj h).2 (ha.ne_not hspace)
    | and hq | or hq | isUnknown hq =>
      simp only [List.cons_append, List.append_assoc] at h
      exact absurd (List.cons.inj h).2.symm (hq.ne_operand ha)
  | not hp ih =>
    simp only [List.append_assoc, List.cons_append, List.nil_append] at h
    cases hq with
    | compare op' hc hd =>
      simp only [List.cons_append, List.append_assoc] at h
      exact absurd (List.cons.inj h).2.symm (hc.ne_not hspace)
    | not hq =>
      simp only [List.append_assoc, List.cons_append, List.nil_append] at h
      obtain ⟨rfl, hend⟩ := ih hq (List.append_cancel_left h)
      exact ⟨rfl, (List.cons.inj hend).2⟩
    | and hq | or hq | isUnknown hq =>
      simp only [List.cons_append, List.append_assoc] at h
      exact absurd (List.cons.inj h).2.symm hq.ne_not
  -- the word behind the first part tells the connectives apart
  | and hp hp' ih ih' =>
    simp only [List.cons_append, List.append_assoc, List.nil_append] at h
    obtain ⟨p', q', x', y', rfl, hx, hy, h⟩ | ⟨p', q', x', y', rfl, hx, hy, h⟩ |
      ⟨p', x', rfl, hx, h⟩ := hp.cases_of_first hq h
    · obtain ⟨rfl, hword⟩ := ih hx h
      obtain ⟨rfl, hend⟩ := ih' hy (List.append_cancel_left hword)
      exact ⟨rfl, (List.cons.inj hend).2⟩
    · cases (ih hx h).2
    · cases (ih hx h).2
  | or hp hp' ih ih' =>
    simp only [List.cons_append, List.append_assoc, List.nil_append] at h
    obtain ⟨p', q', x', y', rfl, hx, hy, h⟩ | ⟨p', q', x', y', rfl, hx, hy, h⟩ |
      ⟨p', x', rfl, hx, h⟩ := hp.cases_of_first hq h
    · cases (ih hx h).2
    · obtain ⟨rfl, hword⟩ := ih hx h
      obtain ⟨rfl, hend⟩ := ih' hy (List.append_cancel_left hword)
      exact ⟨rfl, (List.cons.inj hend).2⟩
    · cases (ih hx h).2
  | isUnknown hp ih =>
    simp only [List.cons_append, List.append_assoc] at h
    obtain ⟨p', q', x', y', rfl, hx, hy, h⟩ | ⟨p', q', x', y', rfl, hx, hy, h⟩ |
      ⟨p', x', rfl, hx, h⟩ := hp.cases_of_first hq h
    · cases (ih hx h).2
    · cases (ih hx h).2
    · obtain ⟨rfl, hword⟩ := ih hx h
      exact ⟨rfl, List.append_cancel_left hword⟩

end Predicate

/-! The texts of resolved conditions are of the grammar. -/

namespace Operand

/-- No number that is none has a mark of its own. -/
def canonical : Operand → Operand
  | literal v => literal v.canonical
  | a => a

theorem sql_canonical (a : Operand) : a.canonical.sql = a.sql := by
  cases a with
  | literal v => exact v.literal_canonical
  | column key => rfl
  | pivot key => rfl

theorem prints_canonical {a : Operand} (h : ¬a.IsPlaceholder) :
    a.canonical.Prints a.sql.toList := by
  cases a with
  | column key => exact .column key
  | literal v => exact .literal v
  | pivot key => exact absurd ⟨key, rfl⟩ h

end Operand

namespace Predicate

/-- Null tests of operands are written as comparisons with NULL. -/
def canonical : Predicate → Predicate
  | compare a op b => compare a.canonical op b.canonical
  | isNull a => compare a.canonical .is (.literal .null)
  | notNull a => compare a.canonical .isNot (.literal .null)
  | not p => not p.canonical
  | and p q => and p.canonical q.canonical
  | or p q => or p.canonical q.canonical
  | isUnknown p => isUnknown p.canonical

theorem sql_isNull (a : Operand) : (isNull a).sql = (compare a .is (.literal .null)).sql := by
  change "(" ++ a.sql ++ " IS NULL)" = "(" ++ a.sql ++ " " ++ "IS" ++ " " ++ "NULL" ++ ")"
  simp [String.append_assoc]

theorem sql_notNull (a : Operand) :
    (notNull a).sql = (compare a .isNot (.literal .null)).sql := by
  change "(" ++ a.sql ++ " IS NOT NULL)" = "(" ++ a.sql ++ " " ++ "IS NOT" ++ " " ++ "NULL" ++ ")"
  simp [String.append_assoc]

theorem sql_canonical (p : Predicate) : p.canonical.sql = p.sql := by
  induction p with
  | compare a op b => simp only [canonical, sql, Operand.sql_canonical]
  | isNull a =>
    rw [sql_isNull]
    simp only [canonical, sql, Operand.sql_canonical]
  | notNull a =>
    rw [sql_notNull]
    simp only [canonical, sql, Operand.sql_canonical]
  | not p ih => simp only [canonical, sql, ih]
  | and p q ihp ihq => simp only [canonical, sql, ihp, ihq]
  | or p q ihp ihq => simp only [canonical, sql, ihp, ihq]
  | isUnknown p ih => simp only [canonical, sql, ih]

theorem prints_canonical {p : Predicate} (h : p.IsResolved) :
    p.canonical.Prints p.sql.toList := by
  have hnull : (Operand.literal .null).Prints "NULL".toList := .literal .null
  induction p with
  | compare a op b =>
    have hprints := Prints.compare op (Operand.prints_canonical (h a (by simp [operands])))
      (Operand.prints_canonical (h b (by simp [operands])))
    simpa [sql, canonical] using hprints
  | isNull a =>
    have hprints := Prints.compare .is (Operand.prints_canonical (h a (by simp [operands]))) hnull
    simpa [sql, canonical, Comparison.sql] using hprints
  | notNull a =>
    have hprints :=
      Prints.compare .isNot (Operand.prints_canonical (h a (by simp [operands]))) hnull
    simpa [sql, canonical, Comparison.sql] using hprints
  | not p ih => simpa [sql, canonical] using Prints.not (ih h)
  | and p q ihp ihq =>
    obtain ⟨hp, hq⟩ := List.forall_mem_append.1 h
    simpa [sql, canonical] using Prints.and (ihp hp) (ihq hq)
  | or p q ihp ihq =>
    obtain ⟨hp, hq⟩ := List.forall_mem_append.1 h
    simpa [sql, canonical] using Prints.or (ihp hp) (ihq hq)
  | isUnknown p ih => simpa [sql, canonical] using Prints.isUnknown (ih h)

/-- The text of a resolved condition tells it, whatever stands behind it. -/
theorem sql_append_inj {p q : Predicate} (hp : p.IsResolved) (hq : q.IsResolved)
    (h : p.sql.toList ++ s = q.sql.toList ++ t) : p.canonical = q.canonical ∧ s = t :=
  (prints_canonical hp).unambiguous (prints_canonical hq) h

end Predicate

end PivotedQuery
