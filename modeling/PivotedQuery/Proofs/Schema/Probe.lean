import PivotedQuery.Proofs.Dialogue.Says
import PivotedQuery.Schema.Probe
/-!
What a probe of the schema reads. Main statement: unless the database breaks down, the result of a
probe is told by what was asked and answered, and is an error just if the last answer is one.
-/
namespace PivotedQuery.Probe

open Dialogue (says_pure says_call after_pure)

/-- What is said about one table, and what is read from it. -/
inductive Describes (name : String) (t : Identifier) :
    List Exchange → Except SchemaError Table → Prop
  | noColumns {e : SchemaError} : Describes name t [⟨.listColumns name t, some (.error e)⟩] (.error e)
  | noIndexes {columns : List Column} {e : SchemaError} : Describes name t
      [⟨.listColumns name t, some (.ok columns)⟩, ⟨.listIndexes name t, some (.error e)⟩] (.error e)
  | read {columns : List Column} {indexes : List Identifier} : Describes name t
      [⟨.listColumns name t, some (.ok columns)⟩, ⟨.listIndexes name t, some (.ok indexes)⟩]
      (.ok ⟨t, columns, indexes⟩)

/-- The same of the tables listed, up to the first that cannot be read. -/
inductive DescribesAll (name : String) :
    List Identifier → List Exchange → Except SchemaError (List Table) → Prop
  | nil : DescribesAll name [] [] (.ok [])
  | stopped {t : Identifier} {ts : List Identifier} {xs : List Exchange} {e : SchemaError}
      (h : Describes name t xs (.error e)) : DescribesAll name (t :: ts) xs (.error e)
  | cons {t : Identifier} {ts : List Identifier} {xs ys : List Exchange} {table : Table}
      {r : Except SchemaError (List Table)} (h : Describes name t xs (.ok table))
      (hrest : DescribesAll name ts ys r) :
      DescribesAll name (t :: ts) (xs ++ ys) (r.map (table :: ·))

/-- A probe with its result. -/
inductive Reads (name : String) : List Exchange → Except SchemaError (List Table) → Prop
  | unlisted {e : SchemaError} : Reads name [⟨.listTables name, some (.error e)⟩] (.error e)
  | listed {ts : List Identifier} {xs : List Exchange} {r : Except SchemaError (List Table)}
      (h : DescribesAll name ts xs r) : Reads name (⟨.listTables name, some (.ok ts)⟩ :: xs) r

variable (name : String)

theorem says_table_describes (t : Identifier) :
    (table name t).Says fun xs o => ∀ r, o = some r → Describes name t xs r := by
  apply (says_call _).bind
  · exact fun _ _ _ h => nomatch h
  rintro _ (err | columns) rfl
  · refine after_pure ?_
    rintro _ ⟨⟩
    exact .noColumns
  apply (says_call _).bind_after
  · exact fun _ _ _ h => nomatch h
  rintro _ (err | indexes) rfl
  · refine after_pure ?_
    rintro _ ⟨⟩
    exact .noIndexes
  · refine after_pure ?_
    rintro _ ⟨⟩
    exact .read

theorem says_tables_describes (ts : List Identifier) :
    (tables name ts).Says fun xs o => ∀ r, o = some r → DescribesAll name ts xs r := by
  induction ts with
  | nil =>
    refine says_pure ?_
    rintro _ ⟨⟩
    exact .nil
  | cons t ts ih =>
    apply (says_table_describes name t).bind
    · exact fun _ _ _ h => nomatch h
    rintro xs (err | table) hxs
    · refine after_pure ?_
      rintro _ ⟨⟩
      exact .stopped (hxs _ rfl)
    apply ih.bind_after
    · exact fun _ _ _ h => nomatch h
    intro ys r hys
    refine after_pure ?_
    rintro _ ⟨⟩
    exact .cons (hxs _ rfl) (hys _ rfl)

theorem says_fetch_reads :
    (fetch name).Says fun xs o => ∀ r, o = some r → Reads name xs r := by
  apply (says_call _).bind
  · exact fun _ _ _ h => nomatch h
  rintro _ (err | ts) rfl
  · refine after_pure ?_
    rintro _ ⟨⟩
    exact .unlisted
  · exact (says_tables_describes name ts).after fun xs o hxs r hr => .listed (hxs r hr)

end PivotedQuery.Probe
