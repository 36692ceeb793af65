import PivotedQuery.Pivot.Selection
import PivotedQuery.Proofs.Dialogue.Run
import PivotedQuery.Text.Expect
/-!
What is said in a run, and two runs side by side. Two dialogues are alike if they ask the same as
long as they are told the same about the schema, the resets and the pivot rows, whatever else they
are told. Main statement: runs of dialogues that are alike make the same calls if those answers
agree by position.
-/
namespace PivotedQuery

/-- A call with its answer; no answer is a breakdown. -/
structure Exchange where
  request : Request
  reply : Option (Response request)

namespace Request

/-- Of the queries, those that choose a pivot show every column of their table. -/
def choosesPivot (sql : String) : Bool := (Text.expect "SELECT * FROM " sql.toList).isSome

/-- What is asked of the schema, the databases, the seed and the pivot rows. -/
def isShared : Request → Bool
  | exec _ | interruptHandle => false
  | select sql => choosesPivot sql
  | _ => true

end Request

/-- The calls of the kind whose answers a session may depend on, with their answers. -/
def shared (xs : List Exchange) : List Exchange := xs.filter (·.request.isShared)

/-- Where both lists have the same call at one position, it has the same answer. -/
def AnsweredAlike (xs ys : List Exchange) : Prop :=
  ∀ (i : Nat) (x y : Exchange), xs[i]? = some x → ys[i]? = some y → x.request = y.request → x = y

/-- Statements succeed or fail but do not break down, and there is a handle. -/
def Exchange.IsOrderly (x : Exchange) : Prop :=
  match x.request with
  | .exec _ | .interruptHandle => x.reply.isSome = true
  | _ => True

theorem AnsweredAlike.of_cons {x y : Exchange} {xs ys : List Exchange}
    (h : AnsweredAlike (x :: xs) (y :: ys)) :
    (x.request = y.request → x = y) ∧ AnsweredAlike xs ys :=
  ⟨h 0 x y rfl rfl, fun i x' y' hx hy => h (i + 1) x' y' hx hy⟩

/-- Two transcripts that go on with the same call. -/
theorem AnsweredAlike.of_same {r : Request} {a b : Option (Response r)} {xs ys : List Exchange}
    (h : AnsweredAlike (shared (⟨r, a⟩ :: xs)) (shared (⟨r, b⟩ :: ys))) :
    (r.isShared = true → a = b) ∧ AnsweredAlike (shared xs) (shared ys) := by
  unfold shared at h ⊢
  cases hr : r.isShared with
  | false =>
    rw [List.filter_cons_of_neg (by simp [hr]), List.filter_cons_of_neg (by simp [hr])] at h
    exact ⟨nofun, h⟩
  | true =>
    rw [List.filter_cons_of_pos (by simp [hr]), List.filter_cons_of_pos (by simp [hr])] at h
    obtain ⟨hsame, hrest⟩ := h.of_cons
    refine ⟨fun _ => ?_, hrest⟩
    cases hsame rfl
    rfl

namespace Dialogue

variable {σ τ α β γ δ : Type}

/-- All exchanges of a run, in order. -/
def exchanges (db : Backend σ) : Dialogue α → World σ → List Exchange
  | done _, _ => []
  | crash, _ => []
  | ask r k, w =>
    ⟨r, (db.answer w r).1.reply⟩ :: (k (db.answer w r).1.reply).exchanges db (db.served w r)
  | isCancelled t k, w => (k ((db.looked w).cancelled.contains t)).exchanges db (db.looked w)
  | cancel t d, w => d.exchanges db { w with cancelled := t :: w.cancelled }
  | report e d, w => d.exchanges db (w.noted e)

/-- The calls of a run, with their full texts. -/
def calls (db : Backend σ) (d : Dialogue α) (w : World σ) : List Request :=
  (d.exchanges db w).map (·.request)

theorem requests_run (db : Backend σ) (d : Dialogue α) (w : World σ) :
    (d.run db w).2.requests.toList = w.requests.toList ++ d.calls db w := by
  unfold calls
  induction d generalizing w with
  | done a => exact (List.append_nil _).symm
  | crash => exact (List.append_nil _).symm
  | ask r k ih =>
    refine (ih _ (db.served w r)).trans ?_
    simp [exchanges, Backend.served]
  | isCancelled t k ih => exact ih _ (db.looked w)
  | cancel t d ih => exact ih { w with cancelled := t :: w.cancelled }
  | report e d ih => exact ih (w.noted e)

theorem exchanges_seq (db : Backend σ) {d : Dialogue α} {f : α → Dialogue β} {w w' : World σ}
    {a : α} (h : d.run db w = (some a, w')) :
    (d >>= f).exchanges db w = d.exchanges db w ++ (f a).exchanges db w' := by
  change (d.bind f).exchanges db w = _
  induction d generalizing w with
  | done b =>
    cases h
    rfl
  | crash => cases h
  | ask r k ih => exact congrArg _ (ih _ h)
  | isCancelled t k ih => exact ih _ h
  | cancel t d ih => exact ih h
  | report e d ih => exact ih h

theorem exchanges_seq_none (db : Backend σ) {d : Dialogue α} {f : α → Dialogue β}
    {w w' : World σ} (h : d.run db w = (none, w')) :
    (d >>= f).exchanges db w = d.exchanges db w := by
  change (d.bind f).exchanges db w = _
  induction d generalizing w with
  | done b => cases h
  | crash => rfl
  | ask r k ih => exact congrArg _ (ih _ h)
  | isCancelled t k ih => exact ih _ h
  | cancel t d ih => exact ih h
  | report e d ih => exact ih h

theorem exchanges_bind_of_nil (db : Backend σ) (d : Dialogue α) {f : α → Dialogue β} (w : World σ)
    (hf : ∀ a w, (f a).exchanges db w = []) : (d >>= f).exchanges db w = d.exchanges db w := by
  cases hrun : d.run db w with
  | mk r w' =>
    cases r with
    | none => exact exchanges_seq_none db hrun
    | some a => rw [exchanges_seq db hrun, hf, List.append_nil]

theorem exchanges_call (db : Backend σ) (r : Request) (w : World σ) :
    (call r).exchanges db w = [⟨r, (db.answer w r).1.reply⟩] := by
  unfold call exchanges
  cases (db.answer w r).1.reply <;> rfl

theorem exchanges_attempt (db : Backend σ) (d : Dialogue α) (w : World σ) :
    d.attempt.exchanges db w = d.exchanges db w := by
  induction d generalizing w with
  | done a => rfl
  | crash => rfl
  | ask r k ih => exact congrArg _ (ih _ _)
  | isCancelled t k ih => exact ih _ _
  | cancel t d ih => exact ih _
  | report e d ih => exact ih _

/-- Both ask the same and come to results in the relation, if shared answers are the same and
statements do not break down. Neither looks at tokens. -/
inductive Alike (post : α → β → Prop) : Dialogue α → Dialogue β → Prop
  | done {a : α} {b : β} (h : post a b) : Alike post (done a) (done b)
  | crash : Alike post crash crash
  | ask {r : Request} {k : Option (Response r) → Dialogue α} {k' : Option (Response r) → Dialogue β}
      (h : ∀ a b, (r.isShared = true → a = b) → Exchange.IsOrderly ⟨r, a⟩ →
        Exchange.IsOrderly ⟨r, b⟩ → Alike post (k a) (k' b)) : Alike post (ask r k) (ask r k')
  | reportLeft {e : Event} {d : Dialogue α} {d' : Dialogue β} (h : Alike post d d') :
      Alike post (report e d) d'
  | reportRight {e : Event} {d : Dialogue α} {d' : Dialogue β} (h : Alike post d d') :
      Alike post d (report e d')

variable {post : α → β → Prop} {d : Dialogue α} {d' : Dialogue β}

theorem alike_pure {a : α} {b : β} (h : post a b) :
    Alike post (pure a : Dialogue α) (pure b : Dialogue β) := .done h

theorem Alike.bind {mid : α → β → Prop} {post : γ → δ → Prop} {f : α → Dialogue γ}
    {f' : β → Dialogue δ} (h : Alike mid d d') (hf : ∀ a b, mid a b → Alike post (f a) (f' b)) :
    Alike post (d >>= f) (d' >>= f') := by
  change Alike post (d.bind f) (d'.bind f')
  induction h with
  | done h => exact hf _ _ h
  | crash => exact .crash
  | ask _ ih => exact .ask fun a b hab ha hb => ih a b hab ha hb
  | reportLeft _ ih => exact .reportLeft ih
  | reportRight _ ih => exact .reportRight ih

/-- The first part is strict; what comes after it may break down on one side only. -/
theorem Alike.attempt_bind {mid : α → β → Prop} {post : Option γ → Option δ → Prop}
    {f : α → Dialogue γ} {f' : β → Dialogue δ} (h : Alike mid d d') (hnone : post none none)
    (hf : ∀ a b, mid a b → Alike post (f a).attempt (f' b).attempt) :
    Alike post (d >>= f).attempt (d' >>= f').attempt := by
  change Alike post (d.bind f).attempt (d'.bind f').attempt
  induction h with
  | done h => exact hf _ _ h
  | crash => exact .done hnone
  | ask _ ih => exact .ask ih
  | reportLeft _ ih => exact .reportLeft ih
  | reportRight _ ih => exact .reportRight ih

/-- Only reports are left, and a result. -/
def Silent : Dialogue α → Prop
  | done _ => True
  | report _ d => d.Silent
  | _ => False

theorem alike_of_silent (hd : d.Silent) (hd' : d'.Silent) : Alike (fun _ _ => True) d d' := by
  induction d with
  | done a =>
    induction d' with
    | done b => exact .done trivial
    | report e d' ih => exact .reportRight (ih hd')
    | _ => cases hd'
  | report e d ih => exact .reportLeft (ih hd)
  | _ => cases hd

/-- A last question, of which anything may be told. -/
theorem alike_last {r : Request} {k : Option (Response r) → Dialogue α} (h : ∀ a, (k a).Silent) :
    Alike (fun _ _ => True) (Dialogue.ask r k) (Dialogue.ask r k) :=
  .ask fun a b _ _ _ => alike_of_silent (h a) (h b)

theorem attempt_map (d : Dialogue α) (f : α → γ) :
    (do return f (← d) : Dialogue γ).attempt = (do return (← d.attempt).map f) := by
  change (d.bind fun a => done (f a)).attempt = d.attempt.bind fun o => done (o.map f)
  induction d with
  | done a => rfl
  | crash => rfl
  | ask r k ih => exact congrArg (ask r) (funext fun a => ih a)
  | isCancelled t k ih => exact congrArg (isCancelled t) (funext fun b => ih b)
  | cancel t d ih => exact congrArg (cancel t) ih
  | report e d ih => exact congrArg (report e) ih

theorem alike_log (e e' : Event) : Alike (fun _ _ => True) (log e) (log e') :=
  .reportLeft (.reportRight (.done trivial))

/-- The same question, of which both are told the same. -/
theorem alike_call {r : Request} (h : r.isShared = true) : Alike Eq (call r) (call r) := by
  refine .ask fun a b hab _ _ => ?_
  obtain rfl := hab h
  cases a with
  | none => exact .crash
  | some a => exact .done rfl

/-- A statement, of which anything may be told. -/
theorem alike_exec (sql : String) :
    Alike (fun _ _ => True) (call (.exec sql)) (call (.exec sql)) := by
  refine .ask fun a b _ ha hb => ?_
  cases a with
  | none => cases ha
  | some a =>
    cases b with
    | none => cases hb
    | some b => exact .done trivial

theorem alike_interruptHandle : Alike Eq (call .interruptHandle) (call .interruptHandle) := by
  refine .ask fun a b _ ha hb => ?_
  cases a with
  | none => cases ha
  | some a =>
    cases b with
    | none => cases hb
    | some b => exact .done rfl

/-- Runs of dialogues that are alike make the same calls, and leave what follows as it was. -/
theorem Alike.same_calls (h : Alike post d d') {db : Backend σ} {db' : Backend τ} {w : World σ}
    {v : World τ} {xs ys : List Exchange}
    (hanswers : AnsweredAlike (shared (d.exchanges db w ++ xs))
      (shared (d'.exchanges db' v ++ ys)))
    (horderly : ∀ x ∈ d.exchanges db w, x.IsOrderly)
    (horderly' : ∀ x ∈ d'.exchanges db' v, x.IsOrderly) :
    d.calls db w = d'.calls db' v ∧ AnsweredAlike (shared xs) (shared ys) ∧
      Option.Rel post (d.run db w).1 (d'.run db' v).1 := by
  induction h generalizing w v with
  | done h => exact ⟨rfl, hanswers, .some h⟩
  | crash => exact ⟨rfl, hanswers, .none⟩
  | @ask r k k' _ ih =>
    obtain ⟨hsame, hrest⟩ := AnsweredAlike.of_same hanswers
    obtain ⟨ha, horderly⟩ := List.forall_mem_cons.1 horderly
    obtain ⟨hb, horderly'⟩ := List.forall_mem_cons.1 horderly'
    obtain ⟨hcalls, hrest, hresult⟩ := ih _ _ hsame ha hb hrest horderly horderly'
    exact ⟨congrArg (r :: ·) hcalls, hrest, hresult⟩
  | @reportLeft e _ _ _ ih => exact ih (w := w.noted e) hanswers horderly horderly'
  | @reportRight e _ _ _ ih => exact ih (v := v.noted e) hanswers horderly horderly'

theorem eq_of_rel_eq {o o' : Option α} (h : Option.Rel Eq o o') : o = o' := by
  cases h with
  | some h => exact congrArg some h
  | none => rfl

end Dialogue

/-- Answers each request in one way. -/
def Backend.fixed (f : (r : Request) → Response r) : Backend Unit where
  answer _ r := (⟨some (f r), [], []⟩, ())

section Fixed

variable {f f' : (r : Request) → Response r} {α β : Type} {x : Exchange}

theorem Dialogue.reply_of_mem_exchanges {d : Dialogue α} {w : World Unit}
    (hx : x ∈ d.exchanges (.fixed f) w) : x = ⟨x.request, some (f x.request)⟩ := by
  induction d generalizing w with
  | done a => cases hx
  | crash => cases hx
  | ask r k ih =>
    rcases List.mem_cons.1 hx with rfl | hx
    · rfl
    · exact ih _ hx
  | isCancelled t k ih => exact ih _ hx
  | cancel t d ih => exact ih hx
  | report e d ih => exact ih hx

theorem Exchange.isOrderly_of_fixed {d : Dialogue α} {w : World Unit} :
    ∀ x ∈ d.exchanges (.fixed f) w, x.IsOrderly := by
  intro x hx
  rw [Dialogue.reply_of_mem_exchanges hx]
  unfold IsOrderly
  split
  · rfl
  · rfl
  · trivial

theorem answeredAlike_of_fixed (h : ∀ r, r.isShared = true → f r = f' r) {d : Dialogue α}
    {d' : Dialogue β} {w w' : World Unit} : AnsweredAlike (shared (d.exchanges (.fixed f) w))
      (shared (d'.exchanges (.fixed f') w')) := by
  intro i x y hx hy hrequest
  obtain ⟨hx, hshared⟩ := List.mem_filter.1 (List.mem_of_getElem? hx)
  obtain ⟨hy, -⟩ := List.mem_filter.1 (List.mem_of_getElem? hy)
  rw [Dialogue.reply_of_mem_exchanges hx, Dialogue.reply_of_mem_exchanges hy, hrequest, h]
  exact hrequest ▸ hshared

end Fixed

end PivotedQuery
