import PivotedQuery.Proofs.Predicate.Grammar
import PivotedQuery.Proofs.Predicate.Rectification
import PivotedQuery.Proofs.Query.CommaList
/-!
The text of a query and what it tells. Main statement: queries that are rendered alike have the same
flags, columns, tables and ordering, in their own spelling, and the same rectified condition up to
the spelling of null tests.
-/
namespace PivotedQuery

variable {s t : List Char}

/-! Lists whose items start with a quote. -/

section Lists

variable {α : Type} {text : α → String} {Ends : List Char → Prop}

/-- Items are told apart before a comma and before other texts that may end a list. -/
structure Delimited (text : α → String) (Ends : List Char → Prop) : Prop where
  quote : ∀ a, ∃ cs, (text a).toList = '\x22' :: cs
  comma : ∀ s, Ends (',' :: s)
  item : ∀ {a b s t}, Ends s → Ends t → (text a).toList ++ s = (text b).toList ++ t → a = b ∧ s = t

/-- Neither another item nor a comma. -/
def ClosesList (s : List Char) : Prop := ∀ cs, s ≠ '\x22' :: cs ∧ s ≠ ',' :: cs

namespace Delimited

variable (h : Delimited text Ends)
include h

theorem toldApart : ToldApart (fun _ => True) text Ends fun s => Ends s ∧ ClosesList s where
  comma := h.comma
  ends hs := hs.1
  ne_comma hs cs := (hs.2 cs).2
  ne_item hs a _ heq := by
    obtain ⟨cs, hquote⟩ := h.quote a
    rw [hquote] at heq
    exact (hs.2 _).1 heq
  item _ := h.item

theorem commaList_append_inj {xs ys : List α} (hs : Ends s) (ht : Ends t)
    (hscloses : ClosesList s) (htcloses : ClosesList t)
    (heq : (Query.commaList (xs.map text)).toList ++ s =
      (Query.commaList (ys.map text)).toList ++ t) : xs = ys ∧ s = t :=
  h.toldApart.commaList_append_inj (fun _ _ => trivial) ⟨hs, hscloses⟩ ⟨ht, htcloses⟩ heq

end Delimited

end Lists

theorem ColumnKey.delimited : Delimited qualified fun s => s.head? ≠ some '\x22' where
  quote := qualified_toList
  comma _ := by simp
  item := qualified_append_inj

/-- What follows a table without a hint. -/
def FromItem.Ends (s : List Char) : Prop := ∃ cs, s = ',' :: cs ∨ s = " WHERE ".toList ++ cs

theorem FromItem.delimited : Delimited sql Ends where
  quote f := by simp [sql, Identifier.quoted, Text.enclose]
  comma cs := ⟨cs, .inl rfl⟩
  item := by
    rintro ⟨a, hint⟩ ⟨b, hint'⟩ s t hs ht h
    simp only [sql, String.toList_append, List.append_assoc] at h
    have hhead {hint : Bool} {s : List Char} (hs : Ends s) :
        ((if hint then " NOT INDEXED" else "").toList ++ s).head? ≠ some '\x22' := by
      obtain ⟨cs, rfl | rfl⟩ := hs <;> cases hint <;> simp
    obtain ⟨rfl, hrest⟩ := Identifier.quoted_append_inj (hhead hs) (hhead ht) h
    obtain ⟨cs, rfl | rfl⟩ := hs <;> obtain ⟨cs', rfl | rfl⟩ := ht <;> cases hint <;>
      cases hint' <;> simp_all

theorem OrderTerm.delimited : Delimited sql fun _ => True where
  quote f := by simp [sql, ColumnKey.qualified, Identifier.quoted, Text.enclose]
  comma _ := trivial
  item := by
    rintro ⟨a, descending⟩ ⟨b, descending'⟩ s t - - h
    simp only [sql, String.toList_append, List.append_assoc] at h
    have hhead {descending : Bool} {s : List Char} :
        ((if descending then " DESC" else " ASC").toList ++ s).head? ≠ some '\x22' := by
      cases descending <;> simp
    obtain ⟨rfl, hrest⟩ := ColumnKey.qualified_append_inj hhead hhead h
    cases descending <;> cases descending' <;> simp_all

namespace Query

variable {q r : Query}

theorem closesList_of_ne {c : Char} (hquote : c ≠ '\x22') (hcomma : c ≠ ',') (cs : List Char) :
    ClosesList (c :: cs) :=
  fun _ => ⟨fun h => hquote (List.cons.inj h).1, fun h => hcomma (List.cons.inj h).1⟩

theorem columns_append_inj {xs ys : List ColumnKey}
    (h : (commaList (xs.map ColumnKey.qualified)).toList ++ (" FROM ".toList ++ s) =
      (commaList (ys.map ColumnKey.qualified)).toList ++ (" FROM ".toList ++ t)) :
    xs = ys ∧ s = t := by
  have hcloses (s : List Char) : ClosesList (" FROM ".toList ++ s) :=
    closesList_of_ne (by decide) (by decide) _
  obtain ⟨hlist, hrest⟩ := ColumnKey.delimited.commaList_append_inj (by simp) (by simp)
    (hcloses s) (hcloses t) h
  exact ⟨hlist, List.append_cancel_left hrest⟩

theorem tables_append_inj {xs ys : List FromItem}
    (h : (commaList (xs.map FromItem.sql)).toList ++ (" WHERE ".toList ++ s) =
      (commaList (ys.map FromItem.sql)).toList ++ (" WHERE ".toList ++ t)) :
    xs = ys ∧ s = t := by
  have hcloses (s : List Char) : ClosesList (" WHERE ".toList ++ s) :=
    closesList_of_ne (by decide) (by decide) _
  obtain ⟨hlist, hrest⟩ := FromItem.delimited.commaList_append_inj ⟨s, .inr rfl⟩ ⟨t, .inr rfl⟩
    (hcloses s) (hcloses t) h
  exact ⟨hlist, List.append_cancel_left hrest⟩

theorem ending_inj (h : q.ending = r.ending) : q.ordering = r.ordering := by
  have hcloses : ClosesList [] := fun _ => ⟨nofun, nofun⟩
  unfold ending at h
  cases hq : q.ordering with
  | nil =>
    cases hr : r.ordering with
    | nil => rfl
    | cons b ys => simp [hq, hr] at h
  | cons a xs =>
    cases hr : r.ordering with
    | nil => simp [hq, hr] at h
    | cons b ys =>
      rw [hq, hr, if_neg (by simp), if_neg (by simp)] at h
      have hlists := congrArg String.toList ((String.append_right_inj _).1 h)
      exact (OrderTerm.delimited.commaList_append_inj trivial trivial hcloses hcloses
        (congrArg (· ++ []) hlists)).1

/-- Before its columns a query says that it shows no row twice; no column starts so. -/
theorem distinct_append_inj {distinct distinct' : Bool} {xs ys : List ColumnKey}
    (h : (if distinct then "DISTINCT " else "").toList ++
        ((commaList (xs.map ColumnKey.qualified)).toList ++ (" FROM ".toList ++ s)) =
      (if distinct' then "DISTINCT " else "").toList ++
        ((commaList (ys.map ColumnKey.qualified)).toList ++ (" FROM ".toList ++ t))) :
    distinct = distinct' ∧ xs = ys ∧ s = t := by
  have hcolumns (zs : List ColumnKey) (u v : List Char) :
      (commaList (zs.map ColumnKey.qualified)).toList ++ (" FROM ".toList ++ u) ≠ 'D' :: v := by
    cases zs with
    | nil => exact fun h => absurd (List.cons.inj h).1 (by decide)
    | cons a zs =>
      obtain ⟨cs, hquote⟩ := a.qualified_toList
      rw [toList_commaList_cons, hquote]
      exact fun h => absurd (List.cons.inj h).1 (by decide)
  cases distinct with
  | true =>
    cases distinct' with
    | true => exact ⟨rfl, columns_append_inj (List.append_cancel_left h)⟩
    | false => exact absurd h.symm (hcolumns _ _ _)
  | false =>
    cases distinct' with
    | true => exact absurd h (hcolumns _ _ _)
    | false => exact ⟨rfl, columns_append_inj h⟩

/-- What the text of a query tells. -/
def SameText (q r : Query) : Prop :=
  q.distinct = r.distinct ∧ q.columns = r.columns ∧ q.tables = r.tables ∧
    q.ordering = r.ordering ∧ q.condition.canonical = r.condition.canonical

theorem sql_eq_iff (hq : q.condition.IsResolved) (hr : r.condition.IsResolved) :
    q.sql = r.sql ↔ SameText q r := by
  constructor
  · intro h
    have hchars := congrArg String.toList h
    simp only [sql_eq, opening, String.toList_append, List.append_assoc] at hchars
    obtain ⟨hdistinct, hcolumns, hfrom⟩ := distinct_append_inj (List.append_cancel_left hchars)
    obtain ⟨htables, hwhere⟩ := tables_append_inj hfrom
    obtain ⟨hcondition, hending⟩ := Predicate.sql_append_inj hq hr hwhere
    exact ⟨hdistinct, hcolumns, htables, ending_inj (String.toList_injective hending), hcondition⟩
  · rintro ⟨hdistinct, hcolumns, htables, hordering, hcondition⟩
    have hsql : q.condition.sql = r.condition.sql := by
      rw [← q.condition.sql_canonical, hcondition, r.condition.sql_canonical]
    simp only [sql, hdistinct, hcolumns, htables, hordering, hsql]

theorem isResolved_of_rectified {pivot : PivotRow} (h : q.rectified pivot = .ok r) :
    r.condition.IsResolved := by
  obtain ⟨p, hp, c, hc, rfl⟩ := rectified_eq_ok_iff.1 h
  obtain ⟨t, -, rfl⟩ := Predicate.rectify_eq_ok_iff.1 hc
  intro a ha
  rw [Predicate.operands_wrap] at ha
  exact Predicate.isResolved_of_resolve hp a ha

/-- Two rendered queries have one text just if they are one query as far as a text can tell. -/
theorem rendered_text_determines {q q' : Query} {tables tables' : List Table}
    {pivot pivot' : PivotRow} {text text' : RenderedQuery}
    (h : q.render tables pivot = .ok text) (h' : q'.render tables' pivot' = .ok text') :
    ∃ r r', q.rectified pivot = .ok r ∧ q'.rectified pivot' = .ok r' ∧
      (text.sql = text'.sql ↔
        q.distinct = q'.distinct ∧ q.columns = q'.columns ∧ q.tables = q'.tables ∧
          q.ordering = q'.ordering ∧ r.condition.canonical = r'.condition.canonical) := by
  obtain ⟨r, hr, rfl⟩ := rectified_of_render h
  obtain ⟨r', hr', rfl⟩ := rectified_of_render h'
  refine ⟨r, r', hr, hr', ?_⟩
  have hsql := sql_eq_iff (isResolved_of_rectified hr) (isResolved_of_rectified hr')
  -- only the condition is another one than before
  obtain ⟨p, -, c, -, rfl⟩ := rectified_eq_ok_iff.1 hr
  obtain ⟨p', -, c', -, rfl⟩ := rectified_eq_ok_iff.1 hr'
  exact hsql

/-- Whether the text column is NULL, which two conditions may ask. -/
def nullTest (c : Predicate) : Query := ⟨false, [textKey], [⟨⟨"t"⟩, false⟩], c, []⟩

theorem render_nullTest {c : Predicate} (hc : c = .isNull (.column textKey) ∨
    c = .compare (.column textKey) .is (.literal .null)) :
    (nullTest c).render twoColumns threeAndNull = .ok ⟨(nullTest c).sql, [textKey]⟩ := by
  have htext : threeAndNull.held? textKey = some (textKey, ⟨.null, ⟨"TEXT"⟩⟩) := by
    simp [PivotRow.held?, threeAndNull, numberKey, textKey, ColumnKey.beq_eq, Identifier.beq_eq]
  have hrectified : (nullTest c).rectified threeAndNull = .ok (nullTest c) := by
    refine rectified_eq_ok_iff.2 ⟨_, Predicate.resolve_eq_ok_iff.2 ⟨?_, rfl⟩, c, ?_, rfl⟩
    · rcases hc with rfl | rfl <;> simp [nullTest, Predicate.operands, Operand.IsHeld]
    · refine Predicate.rectify_eq_ok_iff.2 ⟨some true, ?_, ?_⟩
      · rcases hc with rfl | rfl <;>
          simp [nullTest, Predicate.map, Operand.fill, Predicate.eval, Predicate.evalIn,
            Operand.valueIn, needed, PivotRow.value?, PivotRow.get?, htext, bind, Except.bind, pure,
            Except.pure, Comparison.apply, Comparison.same, Value.isNull]
      · rcases hc with rfl | rfl <;> rfl
  have hknown : (nullTest c).keys.find? (!(nullTest c).knows twoColumns ·) = none := by
    rcases hc with rfl | rfl <;>
      simp [nullTest, keys, knows, Predicate.keys, Operand.key?, lookupColumn, Table.column?,
        twoColumns, textKey, Identifier.beq_eq]
  have hheld : (nullTest c).columns.find? (!threeAndNull.contains ·) = none := by
    simp [nullTest, PivotRow.contains, htext]
  unfold render
  simp only [hknown, hheld, hrectified]
  rfl

theorem rendered_text_determines_nullTest :
    let q := nullTest (.isNull (.column textKey))
    let q' := nullTest (.compare (.column textKey) .is (.literal .null))
    q.render twoColumns threeAndNull = .ok ⟨q.sql, [textKey]⟩ ∧
    q'.render twoColumns threeAndNull = .ok ⟨q'.sql, [textKey]⟩ ∧
    ∃ r r', q.rectified threeAndNull = .ok r ∧ q'.rectified threeAndNull = .ok r' ∧
      (q.sql = q'.sql ↔
        q.distinct = q'.distinct ∧ q.columns = q'.columns ∧ q.tables = q'.tables ∧
          q.ordering = q'.ordering ∧ r.condition.canonical = r'.condition.canonical) :=
  ⟨render_nullTest (.inl rfl), render_nullTest (.inr rfl),
    rendered_text_determines (render_nullTest (.inl rfl)) (render_nullTest (.inr rfl))⟩

end Query

end PivotedQuery
