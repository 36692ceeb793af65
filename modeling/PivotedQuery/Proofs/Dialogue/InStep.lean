import Mathlib.Data.Option.NAry
import PivotedQuery.Proofs.Dialogue.Transcript
/-!
Two dialogues that query a database in step, with texts of their own. Main statement: if the replies
at each position are related, such dialogues ask equally often and come to related results.
-/
namespace PivotedQuery.Dialogue

variable {σ τ α β γ δ : Type}
  {same : Except ExecutionError Rows → Except ExecutionError Rows → Prop}
  {post : α → β → Prop} {d : Dialogue α} {d' : Dialogue β}

/-- Where both transcripts have a query at one position, its replies are related. -/
def RepliedAlike (same : Except ExecutionError Rows → Except ExecutionError Rows → Prop)
    (xs ys : List Exchange) : Prop :=
  ∀ (i : Nat) (sql sql' : String) (a b : Option (Except ExecutionError Rows)),
    xs[i]? = some ⟨.select sql, a⟩ → ys[i]? = some ⟨.select sql', b⟩ → Option.Rel same a b

/-- After related replies both go on in step, whatever they asked. -/
inductive InStep (same : Except ExecutionError Rows → Except ExecutionError Rows → Prop)
    (post : α → β → Prop) : Dialogue α → Dialogue β → Prop
  | done {a : α} {b : β} (h : post a b) : InStep same post (done a) (done b)
  | crash : InStep same post crash crash
  | select {sql sql' : String} {k : Option (Except ExecutionError Rows) → Dialogue α}
      {k' : Option (Except ExecutionError Rows) → Dialogue β}
      (h : ∀ a b, Option.Rel same a b → InStep same post (k a) (k' b)) :
      InStep same post (ask (.select sql) k) (ask (.select sql') k')
  | report {e e' : Event} {d : Dialogue α} {d' : Dialogue β} (h : InStep same post d d') :
      InStep same post (report e d) (report e' d')

theorem inStep_pure {a : α} {b : β} (h : post a b) :
    InStep same post (pure a : Dialogue α) (pure b : Dialogue β) := .done h

theorem InStep.bind {mid : α → β → Prop} {post : γ → δ → Prop} {f : α → Dialogue γ}
    {f' : β → Dialogue δ} (h : InStep same mid d d')
    (hf : ∀ a b, mid a b → InStep same post (f a) (f' b)) :
    InStep same post (d >>= f) (d' >>= f') := by
  change InStep same post (d.bind f) (d'.bind f')
  induction h with
  | done h => exact hf _ _ h
  | crash => exact .crash
  | select _ ih => exact .select ih
  | report _ ih => exact .report ih

theorem inStep_select (sql sql' : String) :
    InStep same same (call (.select sql)) (call (.select sql')) := by
  refine .select fun a b hab => ?_
  cases hab with
  | none => exact .crash
  | some h => exact .done h

theorem inStep_log_bind {e e' : Event} {f : Unit → Dialogue α} {f' : Unit → Dialogue β}
    (h : InStep same post (f ()) (f' ())) : InStep same post (log e >>= f) (log e' >>= f') :=
  .report h

theorem InStep.of_run (h : InStep same post d d') {db : Backend σ} {db' : Backend τ} {w : World σ}
    {v : World τ} (hreplies : RepliedAlike same (d.exchanges db w) (d'.exchanges db' v)) :
    (d.exchanges db w).length = (d'.exchanges db' v).length ∧
      Option.Rel post (d.run db w).1 (d'.run db' v).1 := by
  induction h generalizing w v with
  | done h => exact ⟨rfl, .some h⟩
  | crash => exact ⟨rfl, .none⟩
  | select _ ih =>
    have hfirst := hreplies 0 _ _ _ _ rfl rfl
    obtain ⟨hlength, hresult⟩ := ih _ _ hfirst fun i => hreplies (i + 1)
    exact ⟨congrArg (· + 1) hlength, hresult⟩
  | @report e e' _ _ _ ih => exact ih (w := w.noted e) (v := v.noted e') hreplies

end PivotedQuery.Dialogue
