import Mathlib.Logic.Relation
import PivotedQuery.Proofs.Session.Worker
import PivotedQuery.Proofs.Session.Lifecycle
/-!
The worker step by step, with whoever else holds a token coming between any two steps. Main
statement: after a cancellation one iteration at most is counted, no fault is counted or returned
unless the worker had looked before, a mismatch is returned all the same, and a worker that is
cancelled before its start asks for nothing.
-/
namespace PivotedQuery

/-- One step of a dialogue among the tokens cancelled so far, whatever is answered. -/
inductive Dialogue.Steps {α : Type} : List Token × Dialogue α → List Token × Dialogue α → Prop
  | answered {ts : List Token} {r : Request} {k : Option (Response r) → Dialogue α}
      (a : Option (Response r)) : Steps (ts, ask r k) (ts, k a)
  | looked {ts : List Token} {t : Token} {k : Bool → Dialogue α} :
      Steps (ts, isCancelled t k) (ts, k (ts.contains t))
  | cancelled {ts : List Token} {t : Token} {d : Dialogue α} : Steps (ts, cancel t d) (t :: ts, d)
  | reported {ts : List Token} {e : Event} {d : Dialogue α} : Steps (ts, report e d) (ts, d)

theorem Dialogue.Always.of_steps {α : Type} {post : α → Prop} {ts ts' : List Token}
    {d d' : Dialogue α} (hd : d.Always post) (h : Steps (ts, d) (ts', d')) : d'.Always post := by
  cases h with
  | answered a => exact hd a
  | looked => exact hd _
  | cancelled => exact hd
  | reported => exact hd

namespace Engine

variable {σ G S : Type}

/-- Where a worker stands, with the engine as it is there. -/
inductive Position (G S : Type)
  /-- About to look whether to go on. -/
  | head (e : Engine G S)
  /-- Past that look, about to compare with the bound. -/
  | bounding (e : Engine G S)
  | counting (e : Engine G S)
  /-- Counted; this is left of the iteration. -/
  | iterating (e : Engine G S) (rest : Dialogue (Step G S))
  | settling (result : Except SessionError Iteration) (e : Engine G S)
  /-- Past the look after a fault, which found no cancellation. -/
  | blaming (f : Fault) (e : Engine G S)
  | ended (r : Except SessionError Unit) (e : Engine G S)
  | broken (e : Engine G S)

namespace Position

def engine : Position G S → Engine G S
  | head e => e
  | bounding e => e
  | counting e => e
  | iterating e _ => e
  | settling _ e => e
  | blaming _ e => e
  | ended _ e => e
  | broken e => e

/-- Iterations that the worker has yet to count before it looks again. -/
def due : Position G S → Nat
  | bounding _ => 1
  | counting _ => 1
  | _ => 0

/-- What is left of an iteration does not touch the statistics. -/
def Sound : Position G S → Prop
  | iterating e rest => rest.Always fun r => e.Agrees r.2
  | _ => True

theorem Sound.stats_eq {e e' : Engine G S} {result : Except SessionError Iteration}
    (h : (iterating e (.done (result, e'))).Sound) : e'.stats = e.stats :=
  Agrees.stats_eq h

/-- Faults that the worker has yet to count before it looks again. -/
def blamed : Position G S → Nat
  | blaming _ _ => 1
  | _ => 0

/-- The fault is blamed already. -/
inductive Convicts (f : Fault) : Position G S → Prop
  | blaming (e : Engine G S) : Convicts f (.blaming f e)
  | ended (e : Engine G S) : Convicts f (.ended (.error (.fault f)) e)

/-- The check has failed, which is reported before the iteration is over. -/
inductive Found (m : Mismatch) : Position G S → Prop
  | reporting (e e' : Engine G S) (event : Event) :
      Found m (.iterating e (.report event (.done (.error (.mismatch m), e'))))
  | reported (e e' : Engine G S) : Found m (.iterating e (.done (.error (.mismatch m), e')))
  | settling (e : Engine G S) : Found m (.settling (.error (.mismatch m)) e)
  | ended (e : Engine G S) : Found m (.ended (.error (.mismatch m)) e)

/-- Nothing has been counted or asked for. -/
def Untouched (e : Engine G S) (p : Position G S) : Prop := p = .head e ∨ p = .ended (.ok ()) e

end Position

/-- The cancelled tokens and where the worker stands. -/
structure Scene (G S : Type) where
  cancelled : List Token
  position : Position G S

def Scene.stats (s : Scene G S) : Stats := s.position.engine.stats

/-- One step of the worker. -/
inductive Advances (tools : Tools G S) (t : Token) : Scene G S → Scene G S → Prop
  | stop {ts : List Token} {e : Engine G S} (h : t ∈ ts) :
      Advances tools t ⟨ts, .head e⟩ ⟨ts, .ended (.ok ()) e⟩
  | goOn {ts : List Token} {e : Engine G S} (h : t ∉ ts) :
      Advances tools t ⟨ts, .head e⟩ ⟨ts, .bounding e⟩
  | bound {ts : List Token} {e : Engine G S} (h : e.boundReached = true) :
      Advances tools t ⟨ts, .bounding e⟩ ⟨ts, .ended (.ok ()) e⟩
  | unbound {ts : List Token} {e : Engine G S} (h : e.boundReached = false) :
      Advances tools t ⟨ts, .bounding e⟩ ⟨ts, .counting e⟩
  | count {ts : List Token} {e : Engine G S} : Advances tools t ⟨ts, .counting e⟩
      ⟨ts, .iterating e.countIteration (e.countIteration.iterate tools)⟩
  | iterate {ts ts' : List Token} {e : Engine G S} {rest rest' : Dialogue (Step G S)}
      (h : Dialogue.Steps (ts, rest) (ts', rest')) :
      Advances tools t ⟨ts, .iterating e rest⟩ ⟨ts', .iterating e rest'⟩
  | crash {ts : List Token} {e : Engine G S} :
      Advances tools t ⟨ts, .iterating e .crash⟩ ⟨ts, .broken e⟩
  | finish {ts : List Token} {e e' : Engine G S} {result : Except SessionError Iteration} :
      Advances tools t ⟨ts, .iterating e (.done (result, e'))⟩ ⟨ts, .settling result e'⟩
  | verified {ts : List Token} {e : Engine G S} :
      Advances tools t ⟨ts, .settling (.ok .verified) e⟩ ⟨ts, .head e⟩
  | skipped {ts : List Token} {e : Engine G S} :
      Advances tools t ⟨ts, .settling (.ok .skipped) e⟩ ⟨ts, .head e.countSkipped⟩
  | abort {ts : List Token} {e : Engine G S} {f : Fault} (h : t ∈ ts) :
      Advances tools t ⟨ts, .settling (.error (.fault f)) e⟩ ⟨ts, .head e⟩
  | blame {ts : List Token} {e : Engine G S} {f : Fault} (h : t ∉ ts) :
      Advances tools t ⟨ts, .settling (.error (.fault f)) e⟩ ⟨ts, .blaming f e⟩
  | tolerate {ts : List Token} {e : Engine G S} {f : Fault} (h : e.profile.keepGoing = true) :
      Advances tools t ⟨ts, .blaming f e⟩ ⟨ts, .head e.countFault⟩
  | fail {ts : List Token} {e : Engine G S} {f : Fault} (h : e.profile.keepGoing = false) :
      Advances tools t ⟨ts, .blaming f e⟩ ⟨ts, .ended (.error (.fault f)) e⟩
  | giveUp {ts : List Token} {e : Engine G S} {err : SessionError} (h : ∀ f, err ≠ .fault f) :
      Advances tools t ⟨ts, .settling (.error err) e⟩ ⟨ts, .ended (.error err) e⟩

/-- The worker takes a step, or a holder of some token cancels it. -/
inductive Happens (tools : Tools G S) (t : Token) : Scene G S → Scene G S → Prop
  | worker {s s' : Scene G S} (h : Advances tools t s s') : Happens tools t s s'
  | holder (t' : Token) (s : Scene G S) : Happens tools t s ⟨t' :: s.cancelled, s.position⟩

/-- Any number of steps, interleaved in any way. -/
abbrev Leads (tools : Tools G S) (t : Token) : Scene G S → Scene G S → Prop :=
  Relation.ReflTransGen (Happens tools t)

variable {tools : Tools G S} {t : Token} {s s' : Scene G S}

/-! What one step keeps. -/

namespace Happens

theorem cancelled_subset (h : Happens tools t s s') : s.cancelled ⊆ s'.cancelled := by
  cases h with
  | holder t' => exact List.subset_cons_self _ _
  | worker h =>
    cases h with
    | iterate h =>
      cases h with
      | cancelled => exact List.subset_cons_self _ _
      | _ => exact List.Subset.refl _
    | _ => exact List.Subset.refl _

theorem sound (h : Happens tools t s s') (hs : s.position.Sound) : s'.position.Sound := by
  cases h with
  | holder t' => exact hs
  | worker h =>
    cases h with
    | count => exact (always_iterate tools _).mono fun _ hr => hr.1
    | iterate h => exact Dialogue.Always.of_steps hs h
    | _ => trivial

/-- With the token cancelled no further iteration falls due. -/
theorem iterations (h : Happens tools t s s') (hs : s.position.Sound) (ht : t ∈ s.cancelled) :
    s.stats.iterations ≤ s'.stats.iterations ∧
      s'.stats.iterations + s'.position.due ≤ s.stats.iterations + s.position.due := by
  cases h with
  | holder t' => exact ⟨Nat.le_refl _, Nat.le_refl _⟩
  | worker h =>
    cases h with
    | goOn h => exact absurd ht h
    | count => exact ⟨Nat.le_succ _, Nat.le_refl _⟩
    | bound => exact ⟨Nat.le_refl _, Nat.le_succ _⟩
    | finish =>
      have hstats := hs.stats_eq
      simp [Scene.stats, Position.engine, Position.due, hstats]
    | _ => exact ⟨Nat.le_refl _, Nat.le_refl _⟩

/-- With the token cancelled no further fault is blamed. -/
theorem faults (h : Happens tools t s s') (hs : s.position.Sound) (ht : t ∈ s.cancelled) :
    s.stats.faults ≤ s'.stats.faults ∧
      s'.stats.faults + s'.position.blamed ≤ s.stats.faults + s.position.blamed := by
  cases h with
  | holder t' => exact ⟨Nat.le_refl _, Nat.le_refl _⟩
  | worker h =>
    cases h with
    | blame h => exact absurd ht h
    | tolerate => exact ⟨Nat.le_succ _, Nat.le_refl _⟩
    | fail => exact ⟨Nat.le_refl _, Nat.le_succ _⟩
    | finish =>
      have hstats := hs.stats_eq
      simp [Scene.stats, Position.engine, Position.blamed, hstats]
    | _ => exact ⟨Nat.le_refl _, Nat.le_refl _⟩

theorem of_convicts {f : Fault} (h : Happens tools t s s') (ht : t ∈ s.cancelled)
    (hs' : s'.position.Convicts f) : s.position.Convicts f := by
  cases h with
  | holder t' => exact hs'
  | worker h =>
    cases h with
    | blame h => exact absurd ht h
    | fail =>
      cases hs'
      exact .blaming _
    | giveUp h =>
      cases hs'
      exact absurd rfl (h f)
    | _ => cases hs'

theorem found {m : Mismatch} (h : Happens tools t s s') (hs : s.position.Found m) :
    s'.position.Found m := by
  obtain ⟨ts, p⟩ := s
  cases h with
  | holder t' => exact hs
  | worker h =>
    cases hs with
    | reporting e e' event =>
      cases h with
      | iterate h =>
        cases h
        exact .reported e e'
    | reported e e' =>
      cases h with
      | iterate h => cases h
      | finish => exact .settling e'
    | settling e =>
      cases h
      exact .ended e
    | ended e => cases h

theorem untouched {e : Engine G S} (h : Happens tools t s s') (ht : t ∈ s.cancelled)
    (hs : s.position.Untouched e) : s'.position.Untouched e := by
  obtain ⟨ts, p⟩ := s
  cases h with
  | holder t' => exact hs
  | worker h =>
    obtain rfl | rfl := hs
    · cases h with
      | stop => exact .inr rfl
      | goOn h => exact absurd ht h
    · cases h

end Happens

/-! What a whole run keeps. -/

namespace Leads

theorem cancelled_subset (h : Leads tools t s s') : s.cancelled ⊆ s'.cancelled := by
  induction h with
  | refl => exact List.Subset.refl _
  | tail _ h ih => exact List.Subset.trans ih h.cancelled_subset

theorem sound (h : Leads tools t s s') (hs : s.position.Sound) : s'.position.Sound := by
  induction h with
  | refl => exact hs
  | tail _ h ih => exact h.sound ih

/-- What a cancelled worker has yet to count is all that it still counts. -/
theorem bounded (count : Stats → Nat) {due : Position G S → Nat}
    (hstep : ∀ {s s' : Scene G S}, Happens tools t s s' → s.position.Sound → t ∈ s.cancelled →
      count s.stats ≤ count s'.stats ∧
        count s'.stats + due s'.position ≤ count s.stats + due s.position)
    (h : Leads tools t s s') (hs : s.position.Sound) (ht : t ∈ s.cancelled) :
    count s.stats ≤ count s'.stats ∧
      count s'.stats + due s'.position ≤ count s.stats + due s.position := by
  induction h with
  | refl => exact ⟨Nat.le_refl _, Nat.le_refl _⟩
  | tail h hlast ih =>
    obtain ⟨hcount, hdue⟩ := hstep hlast (sound h hs) (cancelled_subset h ht)
    exact ⟨Nat.le_trans ih.1 hcount, Nat.le_trans hdue ih.2⟩

theorem of_convicts {f : Fault} (h : Leads tools t s s') (ht : t ∈ s.cancelled)
    (hs' : s'.position.Convicts f) : s.position.Convicts f := by
  induction h with
  | refl => exact hs'
  | tail h hlast ih => exact ih (hlast.of_convicts (cancelled_subset h ht) hs')

theorem found {m : Mismatch} (h : Leads tools t s s') (hs : s.position.Found m) :
    s'.position.Found m := by
  induction h with
  | refl => exact hs
  | tail _ hlast ih => exact hlast.found ih

theorem untouched {e : Engine G S} (h : Leads tools t s s') (ht : t ∈ s.cancelled)
    (hs : s.position.Untouched e) : s'.position.Untouched e := by
  induction h with
  | refl => exact hs
  | tail h hlast ih => exact hlast.untouched (cancelled_subset h ht) ih

/-- A worker that has found a mismatch can go on by itself until it has returned it. -/
theorem exists_ended {m : Mismatch} (hs : s.position.Found m) :
    ∃ e, Leads tools t s ⟨s.cancelled, .ended (.error (.mismatch m)) e⟩ := by
  obtain ⟨ts, p⟩ := s
  have hsettling (e : Engine G S) : Leads tools t ⟨ts, .settling (.error (.mismatch m)) e⟩
      ⟨ts, .ended (.error (.mismatch m)) e⟩ := .single (.worker (.giveUp nofun))
  have hreported (e e' : Engine G S) :
      Leads tools t ⟨ts, .iterating e (.done (.error (.mismatch m), e'))⟩
        ⟨ts, .ended (.error (.mismatch m)) e'⟩ := .head (.worker .finish) (hsettling e')
  cases hs with
  | reporting e e' event => exact ⟨e', .head (.worker (.iterate .reported)) (hreported e e')⟩
  | reported e e' => exact ⟨e', hreported e e'⟩
  | settling e => exact ⟨e, hsettling e⟩
  | ended e => exact ⟨e, .refl⟩

end Leads

/-! Every run of the worker is among these. -/

theorem leads_holders (us ts : List Token) (p : Position G S) :
    Leads tools t ⟨ts, p⟩ ⟨us ++ ts, p⟩ := by
  induction us with
  | nil => exact .refl
  | cons u us ih => exact .tail ih (.holder u _)

/-- What is left of an iteration once it has been run. -/
def remaining : Option (Step G S) → Dialogue (Step G S)
  | some step => .done step
  | none => .crash

theorem leads_run (db : Backend σ) (e : Engine G S) (d : Dialogue (Step G S)) (w : World σ) :
    Leads tools t ⟨w.cancelled, .iterating e d⟩
      ⟨(d.run db w).2.cancelled, .iterating e (remaining (d.run db w).1)⟩ := by
  induction d generalizing w with
  | done step => exact .refl
  | crash => exact .refl
  | ask r k ih =>
    refine .head (.worker (.iterate (.answered (db.answer w r).1.reply))) ?_
    exact (leads_holders (db.answer w r).1.cancels _ _).trans (ih _ (db.served w r))
  | isCancelled u k ih =>
    refine (leads_holders (db.cancels w).1 _ _).trans ?_
    exact .head (.worker (.iterate .looked)) (ih _ (db.looked w))
  | cancel u d ih =>
    exact .head (.worker (.iterate .cancelled)) (ih { w with cancelled := u :: w.cancelled })
  | report event d ih => exact .head (.worker (.iterate .reported)) (ih (w.noted event))

/-- Where a worker stands that has been run so far. -/
inductive Reached : Option (Ending × Engine G S) → Position G S → Prop
  | running (e : Engine G S) : Reached (some (none, e)) (.head e)
  | ended (r : Except SessionError Unit) (e : Engine G S) : Reached (some (some r, e)) (.ended r e)
  | broken (e : Engine G S) : Reached none (.broken e)

theorem exists_reached_settle (db : Backend σ) (e : Engine G S)
    (result : Except SessionError Iteration) (w : World σ) :
    ∃ p, Reached ((settle t e result).run db w).1 p ∧
      Leads tools t ⟨w.cancelled, .settling result e⟩
        ⟨((settle t e result).run db w).2.cancelled, p⟩ := by
  match result with
  | .ok .verified => exact ⟨_, .running e, .single (.worker .verified)⟩
  | .ok .skipped => exact ⟨_, .running _, .single (.worker .skipped)⟩
  | .error (.fault f) =>
    have hlook : Leads tools t ⟨w.cancelled, .settling (.error (.fault f)) e⟩
        ⟨(db.looked w).cancelled, .settling (.error (.fault f)) e⟩ := leads_holders _ _ _
    rw [run_settle_fault]
    split
    case isTrue hseen =>
      exact ⟨_, .running e, hlook.tail (.worker (.abort (Backend.mem_cancelled_of_sees hseen)))⟩
    case isFalse hunseen =>
      have hblame := hlook.tail (.worker (.blame fun h =>
        hunseen (List.contains_iff_mem.2 h)))
      split
      case isTrue hgoing =>
        exact ⟨_, .running _, hblame.tail (.worker (.tolerate hgoing))⟩
      case isFalse hgoing =>
        exact ⟨_, .ended _ e, hblame.tail (.worker (.fail (by simpa using hgoing)))⟩
  | .error (.mismatch m) => exact ⟨_, .ended _ e, .single (.worker (.giveUp nofun))⟩
  | .error (.lifecycle action phase) => exact ⟨_, .ended _ e, .single (.worker (.giveUp nofun))⟩
  | .error .workerPanicked => exact ⟨_, .ended _ e, .single (.worker (.giveUp nofun))⟩

theorem exists_reached_round (db : Backend σ) (e : Engine G S) (w : World σ) :
    ∃ p, Reached ((e.round tools t).run db w).1 p ∧
      Leads tools t ⟨w.cancelled, .head e⟩ ⟨((e.round tools t).run db w).2.cancelled, p⟩ := by
  have hlook : Leads tools t ⟨w.cancelled, .head e⟩ ⟨(db.looked w).cancelled, .head e⟩ :=
    leads_holders _ _ _
  cases hseen : db.sees t w with
  | true =>
    rw [run_round_of_sees hseen]
    exact ⟨_, .ended _ e, hlook.tail (.worker (.stop (Backend.mem_cancelled_of_sees hseen)))⟩
  | false =>
    have hgo := hlook.tail (.worker (.goOn fun h => by
      have := List.contains_iff_mem.2 h
      exact absurd (hseen.symm.trans this) (by decide)))
    rw [run_round_of_unseen hseen]
    split
    case isTrue hbound => exact ⟨_, .ended _ e, hgo.tail (.worker (.bound hbound))⟩
    case isFalse hbound =>
      have hcount := (hgo.tail (.worker (.unbound (by simpa using hbound)))).tail (.worker .count)
      have hiterate := hcount.trans (leads_run db e.countIteration _ (db.looked w))
      cases hrun : (e.countIteration.iterate tools).run db (db.looked w) with
      | mk step w₁ =>
        rw [hrun] at hiterate
        cases step with
        | none =>
          rw [Dialogue.run_seq_none db hrun]
          exact ⟨_, .broken _, hiterate.tail (.worker .crash)⟩
        | some step =>
          rw [Dialogue.run_seq db hrun]
          obtain ⟨p, hreached, hsettle⟩ := exists_reached_settle db step.2 step.1 w₁
          exact ⟨p, hreached, (hiterate.tail (.worker .finish)).trans hsettle⟩

theorem exists_reached_work (db : Backend σ) (n : Nat) (e : Engine G S) (w : World σ) :
    ∃ p, Reached ((work tools t n e).run db w).1 p ∧
      Leads tools t ⟨w.cancelled, .head e⟩ ⟨((work tools t n e).run db w).2.cancelled, p⟩ := by
  induction n generalizing e w with
  | zero => exact ⟨_, .running e, .refl⟩
  | succ n ih =>
    obtain ⟨p, hreached, hround⟩ := exists_reached_round db e w
    change ∃ p, Reached ((e.round tools t >>= _).run db w).1 p ∧
      Leads tools t _ ⟨((e.round tools t >>= _).run db w).2.cancelled, p⟩
    cases hrun : (e.round tools t).run db w with
    | mk r w₁ =>
      rw [hrun] at hreached hround
      cases hreached with
      | broken e' =>
        rw [Dialogue.run_seq_none db hrun]
        exact ⟨_, .broken e', hround⟩
      | ended r e' =>
        rw [Dialogue.run_seq db hrun]
        exact ⟨_, .ended r e', hround⟩
      | running e' =>
        rw [Dialogue.run_seq db hrun]
        obtain ⟨p, hreached, hwork⟩ := ih e' w₁
        exact ⟨p, hreached, hround.trans hwork⟩

/-- How the worker goes on from a scene in which it is cancelled. -/
structure Heeds (tools : Tools G S) (t : Token) (s s' : Scene G S) : Prop where
  /-- An iteration is counted only if the worker had looked before, and no second one. -/
  iterations : s'.stats.iterations = s.stats.iterations ∨
    (∃ e, s.position = .bounding e ∨ s.position = .counting e) ∧
      s'.stats.iterations = s.stats.iterations + 1
  /-- So is a fault. -/
  faults : s'.stats.faults = s.stats.faults ∨
    (∃ f e, s.position = .blaming f e) ∧ s'.stats.faults = s.stats.faults + 1
  returned : ∀ f e', s'.position = .ended (.error (.fault f)) e' →
    ∃ e, s.position = .blaming f e ∨ s.position = .ended (.error (.fault f)) e
  /-- A mismatch is not lost, and the worker comes to return it whoever interferes. -/
  mismatch : ∀ m, s.position.Found m → s'.position.Found m ∧
    ∃ e, Leads tools t s' ⟨s'.cancelled, .ended (.error (.mismatch m)) e⟩

theorem Position.due_cases (p : Position G S) :
    p.due = 0 ∨ p.due = 1 ∧ ∃ e, p = .bounding e ∨ p = .counting e := by
  cases p with
  | bounding e => exact .inr ⟨rfl, e, .inl rfl⟩
  | counting e => exact .inr ⟨rfl, e, .inr rfl⟩
  | _ => exact .inl rfl

theorem Position.blamed_cases (p : Position G S) :
    p.blamed = 0 ∨ p.blamed = 1 ∧ ∃ f e, p = .blaming f e := by
  cases p with
  | blaming f e => exact .inr ⟨rfl, f, e, rfl⟩
  | _ => exact .inl rfl

theorem Leads.heeds (h : Leads tools t s s') (hs : s.position.Sound) (ht : t ∈ s.cancelled) :
    Heeds tools t s s' where
  iterations := by
    obtain ⟨hle, hdue⟩ := Leads.bounded (·.iterations) Happens.iterations h hs ht
    obtain hzero | ⟨hone, hpast⟩ := s.position.due_cases
    · exact .inl (by omega)
    · obtain hsame | hmore := Nat.eq_or_lt_of_le hle
      · exact .inl hsame.symm
      · exact .inr ⟨hpast, by omega⟩
  faults := by
    obtain ⟨hle, hblamed⟩ := Leads.bounded (·.faults) Happens.faults h hs ht
    obtain hzero | ⟨hone, hpast⟩ := s.position.blamed_cases
    · exact .inl (by omega)
    · obtain hsame | hmore := Nat.eq_or_lt_of_le hle
      · exact .inl hsame.symm
      · exact .inr ⟨hpast, by omega⟩
  returned f e' hended := by
    obtain ⟨ts, p⟩ := s
    cases Leads.of_convicts h ht (hended ▸ Position.Convicts.ended e') with
    | blaming e => exact ⟨e, .inl rfl⟩
    | ended e => exact ⟨e, .inr rfl⟩
  mismatch m hfound := ⟨Leads.found h hfound, Leads.exists_ended (Leads.found h hfound)⟩

/-- A check that fails has found a mismatch, and nothing is asked any more. -/
theorem Position.found_of_judge {pivot : PivotRow} {query : RenderedQuery} {rows : Rows}
    (h : verify pivot query.columns rows = false) (e e' : Engine G S) :
    Position.Found ⟨query.sql, pivot, query.columns, rows⟩
      (.iterating e (do return e'.verdict (.ok (← Containment.judge pivot query rows)))) := by
  unfold Containment.judge
  rw [if_neg (by simp [h])]
  exact .reporting e e' _

/-- The worker that sees the cancellation at its first head asks for nothing. -/
theorem run_proceed_of_mem {db : Backend σ} {e : Engine G S} {w : World σ}
    (h : t ∈ w.cancelled) (n : Nat) :
    ∃ worker w', ((Worker.running t e).proceed tools n).run db w = (some worker, w') ∧
      (worker = .running t e ∨ worker = .ended (.ok ()) e) ∧ w'.requests = w.requests := by
  cases n with
  | zero => exact ⟨_, w, rfl, .inl rfl, rfl⟩
  | succ n =>
    refine ⟨.ended (.ok ()) e, (db.looked w).noted (.cancelled e.stats.iterations), ?_,
      .inr rfl, rfl⟩
    have hwork : (work tools t (n + 1) e).run db w = _ :=
      run_work_of_sees (Backend.sees_of_mem h) n
    unfold Worker.proceed
    rw [Dialogue.run_seq db (by rw [Dialogue.run_attempt, hwork])]
    rfl

end Engine

open Engine in
/-- Cancellation among the steps of the worker, in whatever order they come. -/
theorem cancellation_safety {G S : Type} (tools : Tools G S) (t : Token) :
    -- the worker, run for so many rounds on whatever database, goes through these steps
    (∀ (σ : Type) (db : Backend σ) (n : Nat) (e : Engine G S) (w : World σ), ∃ p,
      Reached ((work tools t n e).run db w).1 p ∧
        Leads tools t ⟨w.cancelled, .head e⟩ ⟨((work tools t n e).run db w).2.cancelled, p⟩) ∧
    (∀ s s' : Scene G S, Leads tools t s s' → s.cancelled ⊆ s'.cancelled) ∧
    (∀ (e : Engine G S) (ts : List Token) (s s' : Scene G S), Leads tools t ⟨ts, .head e⟩ s →
      t ∈ s.cancelled → Leads tools t s s' → Heeds tools t s s') ∧
    (∀ (pivot : PivotRow) (query : RenderedQuery) (rows : Rows) (e e' : Engine G S),
      verify pivot query.columns rows = false →
      Position.Found ⟨query.sql, pivot, query.columns, rows⟩
        (.iterating e (do return e'.verdict (.ok (← Containment.judge pivot query rows))))) ∧
    -- cancelled before its start
    ∀ (s s' : Session G S) (σ : Type) (db : Backend σ) (w w' : World σ), s.Lawful →
      t ∈ w.cancelled → (s.start tools t).run db w = (some (.ok (), s'), w') →
      ∃ e, s'.worker = some (.running t e) ∧ e.stats = {} ∧
        (∀ scene, Leads tools t ⟨w'.cancelled, .head e⟩ scene → scene.position.Untouched e) ∧
        ∀ n, ∃ worker w'', ((Worker.running t e).proceed tools n).run db w' = (some worker, w'') ∧
          (worker = .running t e ∨ worker = .ended (.ok ()) e) ∧ w''.requests = w'.requests := by
  refine ⟨fun σ db n e w => exists_reached_work db n e w, fun _ _ h => Leads.cancelled_subset h,
    fun e ts s s' h ht h' => Leads.heeds h' (Leads.sound h trivial) ht,
    fun pivot query rows e e' h => Position.found_of_judge h e e', ?_⟩
  intro s s' σ db w w' hs ht hstart
  have ht' := Dialogue.mem_cancelled_of_run hstart ht
  obtain ⟨e, hworker, hstats⟩ := (Session.always_start_worker tools t hs).of_run hstart rfl
  exact ⟨e, hworker, hstats, fun scene h => Leads.untouched h ht' (.inl rfl),
    run_proceed_of_mem ht'⟩

/-- A session that has not been started. -/
def briefSession : Session Unit Unit :=
  ⟨.idle, 1, briefProfile.workingDatabase, some ⟨⟨(), .seeded 1⟩, (), [], briefProfile, {}⟩, none,
    none, none⟩

open Engine in
/-- A worker that is cancelled between its look and its count, and one before its start. -/
theorem cancellation_safety_between :
    (∃ (e : Engine Unit Unit) (s s' : Scene Unit Unit), Leads bluntTools {} ⟨[], .head e⟩ s ∧
      {} ∈ s.cancelled ∧ Leads bluntTools {} s s' ∧ s'.stats.iterations = 1 ∧
      Heeds bluntTools {} s s') ∧
    ∃ (s' : Session Unit Unit) (w' : World Nat) (e : Engine Unit Unit), briefSession.Lawful ∧
      (briefSession.start bluntTools {}).run loneBackend ⟨0, [{}], #[], #[]⟩ =
        (some (.ok (), s'), w') ∧
      s'.worker = some (.running {} e) ∧ e.stats = {} := by
  obtain ⟨-, -, hheeds, -, hstart⟩ := cancellation_safety bluntTools {}
  constructor
  · let e : Engine Unit Unit := ⟨⟨(), .seeded 1⟩, (), [], briefProfile, {}⟩
    have hlook : Leads bluntTools {} ⟨[], .head e⟩ ⟨[{}], .bounding e⟩ :=
      .tail (.single (.worker (.goOn List.not_mem_nil))) (.holder {} ⟨[], .bounding e⟩)
    have hcount : Leads bluntTools {} ⟨[{}], .bounding e⟩
        ⟨[{}], .iterating e.countIteration (e.countIteration.iterate bluntTools)⟩ :=
      .tail (.single (.worker (.unbound rfl))) (.worker .count)
    exact ⟨e, _, _, hlook, List.mem_cons_self, hcount, rfl,
      hheeds e [] _ _ hlook List.mem_cons_self hcount⟩
  · have hidle : briefSession.Lawful := .idle rfl
    have hok : ((briefSession.start bluntTools {}).run loneBackend ⟨0, [{}], #[], #[]⟩).1.any
        (fun r => r.1.isOk) = true := by decide +kernel
    cases hrun : (briefSession.start bluntTools {}).run loneBackend ⟨0, [{}], #[], #[]⟩ with
    | mk r w' =>
      rw [hrun] at hok
      obtain ⟨⟨result, s'⟩, rfl, hresult⟩ := (Option.any_eq_true _ _).1 hok
      cases result with
      | error err => cases hresult
      | ok =>
        obtain ⟨e, hworker, hstats, -⟩ :=
          hstart _ _ _ _ _ _ hidle List.mem_cons_self hrun
        exact ⟨s', w', e, hidle, rfl, hworker, hstats⟩

end PivotedQuery
