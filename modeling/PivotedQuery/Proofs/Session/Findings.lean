import PivotedQuery.Proofs.Session.Closing
/-!
What becomes of an error with which the worker ends, in whichever call that is. Main statement: a
mismatch is kept until the session is closed, and the call that closes it hands the mismatch out,
unless it is one that has to start the session and finds it started.
-/
namespace PivotedQuery

open Dialogue (run_seq run_seq_eq_some_iff run_attempt run_cancelToken)

variable {σ G S : Type} {tools : Tools G S} {db : Backend σ}

/-- The world in which that token, if there is one, has been cancelled. -/
def World.cancelling (w : World σ) : Option Token → World σ
  | none => w
  | some t => { w with cancelled := t :: w.cancelled }

/-- How the worker ends in so many rounds, if it is running and ends in them. -/
def Session.ending (tools : Tools G S) (db : Backend σ) (n : Nat) (s : Session G S) (w : World σ) :
    Engine.Ending :=
  match s.worker with
  | some (.running t e) => ((e.work tools t n).run db w).1.bind (·.1)
  | _ => none

/-- How the worker ends in the call, if it ends in it. -/
def Call.ending (tools : Tools G S) (db : Backend σ) (c : Call σ G S) : Engine.Ending :=
  match c.operation with
  | .start _ | .cancel _ => none
  | .wait n | .proceed n => c.before.session.ending tools db n c.before.world
  | .close n =>
    c.before.session.ending tools db n (c.before.world.cancelling c.before.session.token)
  | .run t n =>
    match (c.before.session.start tools t).run db c.before.world with
    | (some (.ok (), s), w) => s.ending tools db n w
    | (some (.error _, s), w) => s.ending tools db n (w.cancelling s.token)
    | (none, _) => none

/-- What a call makes of an error of the worker when it closes the session. -/
inductive Call.HandsOut (c : Call σ G S) (err : SessionError) : Prop
  | closed {n : Nat} (hop : c.operation = .close n) (hreply : c.reply = .closed (.error err))
  | ran {t : Token} {n : Nat} (hop : c.operation = .run t n)
      (hphase : c.before.session.phase = .idle) (hreply : c.reply = .closed (.error err))
  /-- What closing gives after a start that was refused is only reported. -/
  | refused {t : Token} {n : Nat} (hop : c.operation = .run t n)
      (hphase : c.before.session.phase = .iterating ∨ c.before.session.phase = .draining)
      (hreply : c.reply = .closed (.error (.lifecycle "start" c.before.session.phase)))
      (hreport : .closeFailed err ∈ c.after.world.events)

namespace Session

variable {s s' : Session G S} {w w' : World σ} {n : Nat} {err : SessionError}
  {result : Except SessionError Unit}

/-- The session after its worker has given back the engine with a result. -/
def drained (s : Session G S) (e : Engine G S) (result : Except SessionError Unit) :
    Session G S :=
  { s with phase := .draining, worker := none, engine := some e, outcome := some result }

theorem ending_eq_some_iff : s.ending tools db n w = some result ↔ ∃ t e e' w',
    s.worker = some (.running t e) ∧
      (e.work tools t n).run db w = (some (some result, e'), w') := by
  unfold ending
  constructor
  · intro h
    split at h
    case h_1 t e hworker =>
      obtain ⟨⟨ending, e'⟩, hwork, rfl⟩ := Option.bind_eq_some_iff.1 h
      exact ⟨t, e, e', _, hworker, Prod.ext hwork rfl⟩
    case h_2 => cases h
  · rintro ⟨t, e, e', w', hworker, hwork⟩
    rw [hworker]
    dsimp only
    rw [hwork]
    rfl

theorem run_of_ending (h : s.ending tools db n w = some result) : ∃ e w',
    (s.proceed tools n).run db w = (some { s with worker := some (.ended result e) }, w') ∧
    (s.wait tools n).run db w = (some (some (s.drained e result)), w') := by
  obtain ⟨t, e, e', w', hworker, hwork⟩ := ending_eq_some_iff.1 h
  have hproceed : ((Worker.running t e).proceed tools n).run db w = _ :=
    run_seq db (run_attempt db _ w)
  rw [hwork] at hproceed
  unfold proceed wait
  rw [hworker]
  exact ⟨e', w', run_seq db hproceed, run_seq db hproceed⟩

/-- A worker that finds its token cancelled ends well. -/
theorem ending_of_cancelling (hs : s.Lawful)
    (h : s.ending tools db n (w.cancelling s.token) = some result) : result = .ok () := by
  obtain ⟨t, e, e', w', hworker, hwork⟩ := ending_eq_some_iff.1 h
  cases hs with
  | iterating hlawful =>
    cases hworker
    obtain ⟨rfl, -⟩ := hlawful
    cases n with
    | zero => cases hwork
    | succ n =>
      have hseen : db.sees t (w.cancelling (some t)) = true :=
        Backend.sees_of_mem List.mem_cons_self
      rw [Engine.run_work_of_sees hseen] at hwork
      cases hwork
      rfl
  | _ => cases hworker

theorem run_halt_eq (db : Backend σ) (tools : Tools G S) (n : Nat) (s : Session G S)
    (w : World σ) :
    (s.halt tools n).run db w = (s.wait tools n).run db (w.cancelling s.token) := by
  unfold halt
  cases s.token with
  | none => rfl
  | some t => exact run_seq db (run_cancelToken db t w)

/-- The worker's error is on hold, with the worker that has not been waited for or without it. -/
inductive Holds (s : Session G S) (err : SessionError) : Prop
  | worker {e : Engine G S} (h : s.worker = some (.ended (.error err) e))
  | outcome (hworker : s.worker = none) (h : s.outcome = some (.error err))

theorem holds_drained (s : Session G S) (e : Engine G S) (err : SessionError) :
    (s.drained e (.error err)).Holds err :=
  .outcome rfl rfl

theorem Holds.phase (h : s.Holds err) (hs : s.Lawful) :
    s.phase = .iterating ∨ s.phase = .draining := by
  cases hs with
  | iterating => exact .inl rfl
  | drained => exact .inr rfl
  | lost => exact .inr rfl
  | _ =>
    cases h with
    | worker h => cases h
    | outcome _ h => cases h

theorem Holds.ne_idle (h : s.Holds err) (hs : s.Lawful) : s.phase ≠ .idle := by
  obtain hphase | hphase := h.phase hs <;> simp [hphase]

theorem Holds.ne_closed (h : s.Holds err) (hs : s.Lawful) : s.phase ≠ .closed := by
  obtain hphase | hphase := h.phase hs <;> simp [hphase]

theorem Holds.wait_eq (h : s.Holds err) (tools : Tools G S) (n : Nat) :
    ∃ s', s.wait tools n = pure (some s') ∧ s'.Holds err ∧ s'.outcome = some (.error err) := by
  cases h with
  | @worker e h =>
    unfold wait
    rw [h]
    exact ⟨s.drained e (.error err), rfl, holds_drained s e err, rfl⟩
  | outcome hworker h =>
    exact ⟨s, wait_eq_of_no_worker tools n hworker, .outcome hworker h, h⟩

theorem Holds.proceed_eq (h : s.Holds err) (tools : Tools G S) (n : Nat) :
    ∃ s', s.proceed tools n = pure s' ∧ s'.Holds err := by
  unfold proceed
  cases h with
  | @worker e h =>
    rw [h]
    exact ⟨{ s with worker := some (.ended (.error err) e) }, rfl, .worker rfl⟩
  | outcome hworker h =>
    rw [hworker]
    exact ⟨s, rfl, .outcome hworker h⟩

theorem Holds.result_of_run_close (h : s.Holds err) (hs : s.Lawful)
    {closing : Except SessionError Stats}
    (hclose : (s.close tools n).run db w = (some (some (closing, s')), w')) :
    closing = .error err := by
  obtain ⟨s₁, hwait, -, houtcome⟩ := h.wait_eq tools n
  have hhalt : (s.halt tools n).run db w = (some (some s₁), w.cancelling s.token) := by
    rw [run_halt_eq, hwait]
    rfl
  rw [close_eq tools n (h.ne_closed hs), run_seq db hhalt] at hclose
  obtain ⟨⟨closing', s₂⟩, w₂, hfinish, hclose⟩ := run_seq_eq_some_iff.1 hclose
  cases hclose
  obtain ⟨-, reset, hresult⟩ := (always_finish s₁).of_run hfinish
  exact hresult.trans (result_of_error houtcome _ _)

end Session

namespace Call

variable {c : Call σ G S} {err : SessionError}

theorem Happens.session_eq (hc : c.Happens tools db) {reply : Reply} {s : Session G S} {w : World σ}
    (h : (c.operation.perform tools c.before.session).run db c.before.world =
      (some (some (reply, s)), w)) : c.after.session = s := by
  have hsame := hc.symm.trans h
  simp only [Prod.mk.injEq, Option.some.injEq] at hsame
  exact hsame.1.2

theorem Happens.refused_of_holds (hc : c.Happens tools db) (hs : c.before.session.Lawful)
    (h : c.before.session.Holds err) {t : Token} {n : Nat} (hop : c.operation = .run t n) :
    c.HandsOut err := by
  obtain ⟨closing, hreply, hrun⟩ := hc.run_run hop
  unfold Session.run at hrun
  rw [Session.start_eq_of_ne_idle tools t (h.ne_idle hs)] at hrun
  obtain ⟨_, _, hpure, hrun⟩ := run_seq_eq_some_iff.1 hrun
  cases hpure
  obtain ⟨closed, w₂, hclose, hrest⟩ := run_seq_eq_some_iff.1 hrun
  match closed with
  | none => cases hrest
  | some (result, s₂) =>
    obtain rfl := h.result_of_run_close hs hclose
    obtain ⟨hpair, hworld⟩ := Prod.mk.inj hrest
    obtain ⟨hresult, -⟩ := Prod.mk.inj (Option.some.inj (Option.some.inj hpair))
    refine .refused hop (h.phase hs) (by rw [hreply, ← hresult]) ?_
    rw [← hworld]
    exact Array.mem_push_self

/-- No call loses the error that the session holds: it leaves it there or hands it out. -/
theorem Happens.keeps (hc : c.Happens tools db) (hs : c.before.session.Lawful)
    (h : c.before.session.Holds err) : c.after.session.Holds err ∨ c.HandsOut err := by
  cases hop : c.operation with
  | start t =>
    have hstart := Session.start_eq_of_ne_idle tools t (h.ne_idle hs)
    rw [hc.session_eq (by rw [hop, Operation.perform, hstart]; rfl)]
    exact .inl h
  | wait n =>
    obtain ⟨s₁, hwait, hholds, -⟩ := h.wait_eq tools n
    rw [hc.session_eq (by rw [hop, Operation.perform, hwait]; rfl)]
    exact .inl hholds
  | close n =>
    obtain ⟨closing, hreply, hclose⟩ := hc.run_close hop
    exact .inr (.closed hop (by rw [hreply, h.result_of_run_close hs hclose]))
  | run t n => exact .inr (hc.refused_of_holds hs h hop)
  | cancel t =>
    rw [hc.session_eq (by rw [hop]; rfl)]
    exact .inl h
  | proceed n =>
    obtain ⟨s₁, hproceed, hholds⟩ := h.proceed_eq tools n
    rw [hc.session_eq (by rw [hop, Operation.perform, hproceed]; rfl)]
    exact .inl hholds

theorem Happens.ran_of_ending (hc : c.Happens tools db) (hs : c.before.session.Lawful)
    (hends : c.ending tools db = some (.error err)) {t : Token} {n : Nat}
    (hop : c.operation = .run t n) : c.HandsOut err := by
  obtain ⟨closing, hreply, hrun⟩ := hc.run_run hop
  obtain ⟨⟨started, s₁⟩, w₁, hstart, hrun⟩ := run_seq_eq_some_iff.1 hrun
  obtain ⟨hfollows, hstarted⟩ := (Session.always_start tools t hs).of_run hstart
  unfold ending at hends
  rw [hop] at hends
  dsimp only at hends
  rw [hstart] at hends
  cases started with
  | error e => cases Session.ending_of_cancelling hfollows.lawful hends
  | ok =>
    obtain ⟨e, w₂, -, hwait⟩ := Session.run_of_ending hends
    have hlawful := ((Session.always_wait tools n hfollows.lawful).of_run hwait _ rfl).1.lawful
    have hclose := (run_seq db hwait).symm.trans hrun
    have hholds := Session.holds_drained s₁ e err
    exact .ran hop hstarted.1 (by rw [hreply, hholds.result_of_run_close hlawful hclose])

/-- No call loses the error with which the worker ends in it. -/
theorem Happens.keeps_ending (hc : c.Happens tools db) (hs : c.before.session.Lawful)
    (hends : c.ending tools db = some (.error err)) :
    c.after.session.Holds err ∨ c.HandsOut err := by
  have hending := hends
  unfold ending at hending
  cases hop : c.operation with
  | start t =>
    rw [hop] at hending
    cases hending
  | wait n =>
    rw [hop] at hending
    obtain ⟨e, w₁, -, hwait⟩ := Session.run_of_ending hending
    rw [hc.session_eq (by rw [hop, Operation.perform, run_seq db hwait]; rfl)]
    exact .inl (Session.holds_drained _ e err)
  | close n =>
    rw [hop] at hending
    cases Session.ending_of_cancelling hs hending
  | run t n => exact .inr (hc.ran_of_ending hs hends hop)
  | cancel t =>
    rw [hop] at hending
    cases hending
  | proceed n =>
    rw [hop] at hending
    obtain ⟨e, w₁, hproceed, -⟩ := Session.run_of_ending hending
    rw [hc.session_eq (by rw [hop, Operation.perform, run_seq db hproceed]; rfl)]
    exact .inl (.worker rfl)

/-- In a closed session no worker ends. -/
theorem ending_of_closed (hs : c.before.session.Lawful)
    (hclosed : c.before.session.phase = .closed) : c.ending tools db = none := by
  have hworker : c.before.session.worker = none := by
    have hfits := hs.fits
    unfold Session.Fits at hfits
    rw [hclosed] at hfits
    exact hfits.2.1
  have never (n : Nat) (w : World σ) : c.before.session.ending tools db n w = none := by
    unfold Session.ending
    rw [hworker]
  unfold ending
  cases c.operation with
  | run t n =>
    dsimp only
    rw [Session.start_eq_of_ne_idle tools t (by simp [hclosed])]
    exact never n _
  | start t => rfl
  | cancel t => rfl
  | wait n => exact never n _
  | close n => exact never n _
  | proceed n => exact never n _

theorem HandsOut.phase_eq_closed (h : c.HandsOut err) (hc : c.Happens tools db)
    (hs : c.before.session.Lawful) : c.after.session.phase = .closed := by
  cases h with
  | closed _ hreply => exact hc.phase_eq_closed hs hreply
  | ran _ _ hreply => exact hc.phase_eq_closed hs hreply
  | refused _ _ hreply _ => exact hc.phase_eq_closed hs hreply

/-- The error stays with a session that is left open, and a session that is closed has handed it
out. -/
theorem Happens.holds_or_handsOut (hc : c.Happens tools db) (hs : c.before.session.Lawful)
    (h : c.after.session.Holds err ∨ c.HandsOut err) :
    (c.after.session.phase ≠ .closed → c.after.session.Holds err) ∧
      (c.after.session.phase = .closed → c.HandsOut err) := by
  obtain hholds | hhanded := h
  · exact ⟨fun _ => hholds, fun hclosed =>
      absurd hclosed (hholds.ne_closed (hc.follows hs).lawful)⟩
  · exact ⟨fun hopen => absurd (hhanded.phase_eq_closed hc hs) hopen, fun _ => hhanded⟩

end Call

/-- An error with which the worker has ended in some call stays with the session until a call closes
it, and that call hands the error out. -/
theorem History.holds_or_handsOut {calls : List (Call σ G S)} {m : Moment σ G S}
    (h : History tools db calls m) {ended : Call σ G S} (hended : ended ∈ calls)
    {err : SessionError} (hends : ended.ending tools db = some (.error err)) :
    (m.session.phase ≠ .closed → m.session.Holds err) ∧
    ∀ c ∈ calls, c.before.session.phase ≠ .closed → c.after.session.phase = .closed →
      c.HandsOut err := by
  induction h with
  | opened h => cases hended
  | @call calls c h hc ih =>
    have hs := h.lawful
    rcases List.mem_cons.1 hended with rfl | hended
    · obtain ⟨hholds, hhanded⟩ := hc.holds_or_handsOut hs (hc.keeps_ending hs hends)
      refine ⟨hholds, List.forall_mem_cons.2 ⟨fun _ => hhanded, fun c hmem _ hclosed => ?_⟩⟩
      -- the worker has been running, so no earlier call has closed the session
      have hbefore := (h.follows_of_mem hmem).2.2.phase_eq_closed hclosed
      rw [Call.ending_of_closed hs hbefore] at hends
      cases hends
    · obtain ⟨hbefore, hearlier⟩ := ih hended
      have hcall (hopen : c.before.session.phase ≠ .closed) :=
        hc.holds_or_handsOut hs (hc.keeps hs (hbefore hopen))
      refine ⟨fun hopen => ?_, List.forall_mem_cons.2 ⟨fun hopen => (hcall hopen).2, hearlier⟩⟩
      exact (hcall fun hclosed => hopen ((hc.follows hs).phase_eq_closed hclosed)).1 hopen

/-- In whichever call the worker has ended. Only a run of a session that is already started keeps the
mismatch to the log and hands out that it could not be started. -/
theorem History.mismatch_returned {calls : List (Call σ G S)} {m : Moment σ G S}
    (h : History tools db calls m) {ended c : Call σ G S} {found : Mismatch}
    (hended : ended ∈ calls) (hends : ended.ending tools db = some (.error (.mismatch found)))
    (hmem : c ∈ calls) (hopen : c.before.session.phase ≠ .closed)
    (hclosed : c.after.session.phase = .closed) : c.HandsOut (.mismatch found) :=
  (h.holds_or_handsOut hended hends).2 c hmem hopen hclosed

/-- The mismatch with which the worker ends in the call. -/
def Call.found? (tools : Tools G S) (db : Backend σ) (c : Call σ G S) : Option Mismatch :=
  match c.ending tools db with
  | some (.error (.mismatch found)) => some found
  | _ => none

theorem Call.ending_of_isSome {c : Call σ G S} (h : (c.found? tools db).isSome = true) :
    ∃ found, c.ending tools db = some (.error (.mismatch found)) := by
  unfold found? at h
  split at h
  case h_1 found hends => exact ⟨found, hends⟩
  case h_2 => cases h

/-- The worker ends with a mismatch before anybody asks for it. -/
theorem History.mismatch_returned_lone : ∃ calls m ended c found,
    History bluntTools loneBackend calls m ∧ ended ∈ calls ∧
    ended.ending bluntTools loneBackend = some (.error (.mismatch found)) ∧ c ∈ calls ∧
    c.operation = .close 1 ∧ c.before.session.phase ≠ .closed ∧ c.after.session.phase = .closed ∧
    c.HandsOut (.mismatch found) := by
  have hplayed : ((of? bluntTools loneBackend 0 () () briefProfile
      [.start {}, .proceed 2, .close 1]).any fun past =>
        (past.1.any fun ended => (ended.found? bluntTools loneBackend).isSome) &&
        past.1.any fun c => c.operation = .close 1 ∧ c.before.session.phase ≠ .closed ∧
          c.after.session.phase = .closed) = true := by decide +kernel
  obtain ⟨calls, m, h, hlast⟩ := exists_of_any hplayed
  obtain ⟨hsome, hclose⟩ := Bool.and_eq_true_iff.1 hlast
  obtain ⟨ended, hended, hsome⟩ := List.any_eq_true.1 hsome
  obtain ⟨found, hends⟩ := Call.ending_of_isSome hsome
  obtain ⟨c, hmem, hcheck⟩ := List.any_eq_true.1 hclose
  obtain ⟨hop, hopen, hclosed⟩ := of_decide_eq_true hcheck
  exact ⟨calls, m, ended, c, found, h, hended, hends, hmem, hop, hopen, hclosed,
    h.mismatch_returned hended hends hmem hopen hclosed⟩

/-- Waited for and then run, which is refused. -/
theorem History.mismatch_withheld : ¬ ∀ calls (m : Moment Nat Unit Unit),
    History bluntTools loneBackend calls m → ∀ ended ∈ calls, ∀ found,
      ended.ending bluntTools loneBackend = some (.error (.mismatch found)) →
        ∀ c ∈ calls, c.before.session.phase ≠ .closed → c.after.session.phase = .closed →
          c.reply = .closed (.error (.mismatch found)) := by
  have hplayed : ((of? bluntTools loneBackend 0 () () briefProfile
      [.start {}, .wait 2, .run {} 1]).any fun past =>
        (past.1.any fun ended => (ended.found? bluntTools loneBackend).isSome) &&
        past.1.any fun c => c.operation = .run {} 1 ∧ c.before.session.phase = .draining ∧
          c.after.session.phase = .closed) = true := by decide +kernel
  obtain ⟨calls, m, h, hlast⟩ := exists_of_any hplayed
  obtain ⟨hsome, hrun⟩ := Bool.and_eq_true_iff.1 hlast
  obtain ⟨ended, hended, hsome⟩ := List.any_eq_true.1 hsome
  obtain ⟨found, hends⟩ := Call.ending_of_isSome hsome
  obtain ⟨c, hmem, hcheck⟩ := List.any_eq_true.1 hrun
  obtain ⟨hop, hphase, hclosed⟩ := of_decide_eq_true hcheck
  have hopen : c.before.session.phase ≠ .closed := by simp [hphase]
  intro hclaim
  have hreply := hclaim calls m h ended hended found hends c hmem hopen hclosed
  cases (h.holds_or_handsOut hended hends).2 c hmem hopen hclosed with
  | closed hclose _ => cases hop.symm.trans hclose
  | ran _ hidle _ => cases hphase.symm.trans hidle
  | refused _ _ hrefused _ => cases hreply.symm.trans hrefused

end PivotedQuery
