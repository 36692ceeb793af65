import PivotedQuery.Dialogue.Basic
/-!
Running a dialogue against a database that is given by its state and its answers.
-/
namespace PivotedQuery

/-- No reply is a breakdown. The reports of the database come before the reply. -/
structure Answer (r : Request) where
  reply : Option (Response r)
  reports : List Event := []
  /-- Tokens that somebody cancels while the request is being served. -/
  cancels : List Token := []

/-- All that a dialogue acts on: the database, the cancelled tokens, and what has been done. -/
structure World (σ : Type) where
  state : σ
  cancelled : List Token := []
  requests : Array Request := #[]
  events : Array Event := #[]

/-- The answers may depend on everything that has happened. -/
structure Backend (σ : Type) where
  answer : World σ → (r : Request) → Answer r × σ
  /-- Tokens that somebody cancels just before the dialogue looks at one. With `Answer.cancels` this
  covers every interleaving, since a dialogue notices a cancellation nowhere else. -/
  cancels : World σ → List Token × σ := fun w => ([], w.state)

namespace Dialogue

variable {σ α : Type}

def run (db : Backend σ) : Dialogue α → World σ → Option α × World σ
  | done a, w => (some a, w)
  | crash, w => (none, w)
  | ask r k, w =>
    let (a, state) := db.answer w r
    (k a.reply).run db { w with
      state
      cancelled := a.cancels ++ w.cancelled
      requests := w.requests.push r
      events := w.events ++ a.reports }
  | isCancelled t k, w =>
    let (tokens, state) := db.cancels w
    let cancelled := tokens ++ w.cancelled
    (k (cancelled.contains t)).run db { w with state, cancelled }
  | cancel t d, w => d.run db { w with cancelled := t :: w.cancelled }
  | report e d, w => d.run db { w with events := w.events.push e }

theorem run_bind {β : Type} (db : Backend σ) (d : Dialogue α) (f : α → Dialogue β) (w : World σ) :
    (d.bind f).run db w = match d.run db w with
      | (some a, w) => (f a).run db w
      | (none, w) => (none, w) := by
  induction d generalizing w with
  | done a => rfl
  | crash => rfl
  | ask r k ih => simp [bind, run, ih]
  | isCancelled t k ih => simp [bind, run, ih]
  | cancel t d ih => simp [bind, run, ih]
  | report e d ih => simp [bind, run, ih]

theorem run_attempt (db : Backend σ) (d : Dialogue α) (w : World σ) :
    d.attempt.run db w = (some (d.run db w).1, (d.run db w).2) := by
  induction d generalizing w with
  | done a => rfl
  | crash => rfl
  | ask r k ih => simp [attempt, run, ih]
  | isCancelled t k ih => simp [attempt, run, ih]
  | cancel t d ih => simp [attempt, run, ih]
  | report e d ih => simp [attempt, run, ih]

end Dialogue

end PivotedQuery
