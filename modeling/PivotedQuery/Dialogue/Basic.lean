import PivotedQuery.Dialogue.Event
import PivotedQuery.Dialogue.Request
/-!
Work that talks to a database: a tree of requests, each with a continuation for every answer. A
request may also break down, which ends the work unless it is attempted. Nothing is assumed of the
database, so what holds of a tree holds of every database.
-/
namespace PivotedQuery

/-- Names a stop signal; several parties may hold it. -/
structure Token where
  id : Nat := 0
  deriving DecidableEq, Repr

inductive Dialogue (α : Type)
  | done (a : α)
  | crash
  | ask (r : Request) (k : Option (Response r) → Dialogue α)
  | isCancelled (t : Token) (k : Bool → Dialogue α)
  | cancel (t : Token) (d : Dialogue α)
  | report (e : Event) (d : Dialogue α)

namespace Dialogue

def bind {α β : Type} (d : Dialogue α) (f : α → Dialogue β) : Dialogue β :=
  match d with
  | done a => f a
  | crash => crash
  | ask r k => ask r fun a => (k a).bind f
  | isCancelled t k => isCancelled t fun b => (k b).bind f
  | cancel t d => cancel t (d.bind f)
  | report e d => report e (d.bind f)

instance : Monad Dialogue where
  pure := done
  bind := bind

theorem bind_done {α : Type} (d : Dialogue α) : d.bind done = d := by
  induction d with
  | done a => rfl
  | crash => rfl
  | ask r k ih => simp [bind, ih]
  | isCancelled t k ih => simp [bind, ih]
  | cancel t d ih => simp [bind, ih]
  | report e d ih => simp [bind, ih]

theorem bind_bind {α β γ : Type} (d : Dialogue α) (f : α → Dialogue β) (g : β → Dialogue γ) :
    (d.bind f).bind g = d.bind fun a => (f a).bind g := by
  induction d with
  | done a => rfl
  | crash => rfl
  | ask r k ih => simp [bind, ih]
  | isCancelled t k ih => simp [bind, ih]
  | cancel t d ih => simp [bind, ih]
  | report e d ih => simp [bind, ih]

instance : LawfulMonad Dialogue :=
  LawfulMonad.mk' _ (fun d => bind_done d) (fun _ _ => rfl) (fun d f g => bind_bind d f g)

/-- The answer to a request; a breakdown ends the work. -/
def call (r : Request) : Dialogue (Response r) := ask r fun
  | some a => done a
  | none => crash

/-- The work with its own breakdown as a result. -/
def attempt {α : Type} : Dialogue α → Dialogue (Option α)
  | done a => done (some a)
  | crash => done none
  | ask r k => ask r fun a => (k a).attempt
  | isCancelled t k => isCancelled t fun b => (k b).attempt
  | cancel t d => cancel t d.attempt
  | report e d => report e d.attempt

def log (e : Event) : Dialogue Unit := report e (done ())

def cancelled (t : Token) : Dialogue Bool := isCancelled t done

def cancelToken (t : Token) : Dialogue Unit := cancel t (done ())

end Dialogue

end PivotedQuery
