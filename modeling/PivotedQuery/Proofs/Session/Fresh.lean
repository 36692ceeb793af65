import PivotedQuery.Proofs.Session.Accounting
import PivotedQuery.Proofs.Session.Lawful
/-!
The one call that takes a new session to its end. Main statements: it never reports a misuse, and if
the iterations are bounded, one round more than the bound is enough for it to come back.
-/
namespace PivotedQuery

open Dialogue (always_pure always_trivial always_log always_call run_seq_eq_some_iff
  run_pure_eq_some_iff)

variable {σ G S : Type}

/-- Of a call that the session does not take in its phase. -/
def SessionError.IsMisuse : SessionError → Prop
  | lifecycle _ _ => True
  | _ => False

/-- Who ends so has not misused the session. -/
def Proper {α : Type} (result : Except SessionError α) : Prop :=
  ∀ err, result = .error err → ¬ err.IsMisuse

theorem proper_ok {α : Type} (a : α) : Proper (.ok a) := fun _ h => nomatch h

theorem proper_error {α : Type} {err : SessionError} (h : ¬ err.IsMisuse) :
    Proper (.error err : Except SessionError α) := by
  intro err' h'
  rw [← Except.error.inj h']
  exact h

theorem Proper.not_misuse {α : Type} {err : SessionError}
    (h : Proper (.error err : Except SessionError α)) : ¬ err.IsMisuse := h err rfl

theorem Engine.Foreseen.not_misuse {err : SessionError} (h : Foreseen err) : ¬ err.IsMisuse := by
  cases h with
  | fault f => exact not_false
  | mismatch m => exact not_false

theorem Worker.always_proceed_proper (tools : Tools G S) (t : Token) (n : Nat) {e : Engine G S}
    (he : e.Counted) : ((Worker.running t e).proceed tools n).Always fun w =>
      ∀ result e', w = .ended result e' → Proper result := by
  apply (Engine.always_work tools t n he).attempt.bind
  rintro (_ | ⟨ending, e'⟩) hwork
  · exact always_pure fun result e' h => nomatch h
  cases ending with
  | none => exact always_pure fun result e' h => nomatch h
  | some result =>
    refine always_pure ?_
    rintro _ _ ⟨⟩
    intro err herr
    exact ((hwork _ rfl).2 err (congrArg some herr)).not_misuse

/-- With fewer iterations than rounds the worker does not use up its rounds. -/
theorem Engine.work_stops {e e' : Engine G S} (he : e.stats = {}) {max : Nat}
    (hmax : e.profile.maxIterations = some max) {n : Nat} (hn : max < n) {tools : Tools G S}
    {t : Token} {db : Backend σ} {w w' : World σ} :
    (work tools t n e).run db w ≠ (some (none, e'), w') := by
  intro hwork
  obtain ⟨turns, hheads, hlength⟩ := run_work_eq_none_iff.1 hwork
  have haccounts := hheads.accounts he
  have hle : e'.stats.iterations ≤ max := haccounts.le_bound max hmax
  have hcounted : e'.stats.iterations = n := by
    rw [haccounts.stats_eq, Stats.iterations_ofTurns, hlength]
  omega

theorem Worker.work_of_proceed {tools : Tools G S} {t t' : Token} {n : Nat} {e e' : Engine G S}
    {db : Backend σ} {w w' : World σ}
    (h : ((Worker.running t e).proceed tools n).run db w = (some (.running t' e'), w')) :
    (e.work tools t n).run db w = (some (none, e'), w') := by
  obtain ⟨r, w₁, hattempt, hrest⟩ := run_seq_eq_some_iff.1 h
  rw [Dialogue.run_attempt] at hattempt
  match r with
  | none => cases hrest
  | some (some result, _) => cases hrest
  | some (none, _) =>
    cases hrest
    obtain ⟨hresult, hworld⟩ := Prod.mk.inj hattempt
    exact Prod.ext (Option.some.inj hresult) hworld

namespace Session

/-- Just opened with this profile. -/
inductive Fresh (profile : Profile) : Session G S → Prop
  | opened {seed : UInt64} {database : WorkingDatabase} {e : Engine G S}
      (hprofile : e.profile = profile) (hstats : e.stats = {}) :
      Fresh profile ⟨.idle, seed, database, some e, none, none, none⟩

/-- There is no worker to wait for, and none has reported a misuse. -/
structure Settled (s : Session G S) : Prop where
  worker_eq : s.worker = none
  phase_ne : s.phase ≠ .closed
  outcome_proper : ∀ outcome, s.outcome = some outcome → Proper outcome

/-- What starting makes of a new session. -/
def Launches (profile : Profile) (t : Token) : Except SessionError Unit → Session G S → Prop
  | .ok (), s => ∃ e, s.worker = some (.running t e) ∧ e.profile = profile ∧ e.stats = {}
  | .error err, s => ¬ err.IsMisuse ∧ s.Settled

variable {s : Session G S} {profile : Profile} {tools : Tools G S} {t : Token}

theorem always_opened_fresh (maker : G) (synthesizer : S) (profile : Profile) (entropy : UInt64) :
    (opened maker synthesizer profile entropy).Always fun r => ∀ s, r = .ok s → s.Fresh profile := by
  unfold opened
  split
  · exact always_pure fun s h => nomatch h
  apply (always_log _).bind
  intro _ _
  apply always_call.bind
  rintro (err | _) -
  · exact always_pure fun s h => nomatch h
  · refine always_pure ?_
    rintro _ ⟨⟩
    exact .opened rfl rfl

/-- A new engine stays new while it is made ready. -/
theorem always_prepare_new (tools : Tools G S) (database : WorkingDatabase) (e : Engine G S) :
    (prepare tools database e).Always fun r => r.2.2.profile = e.profile ∧
      r.2.2.stats = e.stats ∧ r.2.1 ≠ .closed ∧ Proper r.1 := by
  apply (always_trivial _).bind
  rintro (err | _) -
  · exact always_pure ⟨rfl, rfl, nofun, proper_error not_false⟩
  apply (always_trivial _).bind
  rintro ⟨_ | _, bench⟩ -
  · trivial
  apply (always_trivial _).bind
  rintro ⟨_ | tables, snapshot⟩ -
  · exact always_pure ⟨rfl, rfl, nofun, proper_error not_false⟩
  · exact (always_log _).bind fun _ _ => always_pure ⟨rfl, rfl, nofun, proper_ok ()⟩

theorem Fresh.always_start (hs : s.Fresh profile) (tools : Tools G S) (t : Token) :
    (s.start tools t).Always fun r => Launches profile t r.1 r.2 := by
  cases hs with
  | @opened seed database e hprofile hstats =>
    apply (always_prepare_new tools database e).bind
    rintro ⟨err | _, phase, e'⟩ ⟨hprofile', hstats', hphase, hproper⟩
    · exact always_pure ⟨hproper.not_misuse, rfl, hphase, fun _ h => nomatch h⟩
    · refine always_call.bind fun _ _ => always_pure ⟨e', rfl, ?_, ?_⟩
      · exact hprofile'.trans hprofile
      · exact hstats'.trans hstats

theorem always_wait_settled {e : Engine G S} (hworker : s.worker = some (.running t e))
    (he : e.Counted) (n : Nat) :
    (s.wait tools n).Always fun r => ∀ s', r = some s' → s'.Settled := by
  unfold wait
  rw [hworker]
  apply (Worker.always_proceed_proper tools t n he).bind
  intro w hw
  cases w with
  | running t' e' => exact always_pure fun s' h => nomatch h
  | ended result e' =>
    refine always_pure ?_
    rintro _ ⟨⟩
    refine ⟨rfl, (nomatch ·), ?_⟩
    rintro _ ⟨⟩
    exact hw result e' rfl
  | panicked =>
    refine always_pure ?_
    rintro _ ⟨⟩
    refine ⟨rfl, (nomatch ·), ?_⟩
    rintro _ ⟨⟩
    exact proper_error not_false

theorem proper_result {outcome : Option (Except SessionError Unit)}
    (h : ∀ result, outcome = some result → Proper result) (reset : Except ExecutionError Unit)
    (stats : Stats) : Proper (result outcome reset stats) := by
  match outcome, reset with
  | some (.error err), _ => exact proper_error (h _ rfl).not_misuse
  | some (.ok ()), .error e => exact proper_error not_false
  | some (.ok ()), .ok () => exact proper_ok stats
  | none, .error e => exact proper_error not_false
  | none, .ok () => exact proper_ok stats

theorem Settled.always_finish (hs : s.Settled) : s.finish.Always fun r => Proper r.1 := by
  apply (Session.always_finish s).mono
  rintro ⟨_, _⟩ ⟨-, reset, rfl⟩
  exact proper_result hs.outcome_proper reset s.stats

/-- With nothing to wait for, closing comes back. -/
theorem Settled.always_close (hs : s.Settled) (tools : Tools G S) (n : Nat) :
    (s.close tools n).Always fun r => ∃ result s', r = some (result, s') ∧ Proper result := by
  rw [close_eq tools n hs.phase_ne]
  have hhalt : (s.halt tools n).Always fun r => r = some s := by
    unfold halt
    rw [wait_eq_of_no_worker tools n hs.worker_eq]
    exact (always_trivial _).bind fun _ _ => always_pure rfl
  apply hhalt.bind
  rintro _ rfl
  apply hs.always_finish.bind
  rintro ⟨result, s'⟩ hproper
  exact always_pure ⟨result, s', rfl, hproper⟩

/-- From its beginning to its end, if it comes to that. -/
theorem Fresh.always_run (hs : s.Fresh profile) (tools : Tools G S) (t : Token) (n : Nat) :
    (s.run tools t n).Always fun r => ∀ result s', r = some (result, s') → Proper result := by
  apply (hs.always_start tools t).bind
  rintro ⟨err | _, s₁⟩ hlaunches
  · obtain ⟨herr, hsettled⟩ := hlaunches
    apply (hsettled.always_close tools n).bind
    rintro _ ⟨e | stats, s₂, rfl, -⟩
    · refine (always_log _).bind fun _ _ => always_pure ?_
      rintro _ _ ⟨⟩
      exact proper_error herr
    · refine always_pure ?_
      rintro _ _ ⟨⟩
      exact proper_error herr
  · obtain ⟨e, hworker, -, hstats⟩ := hlaunches
    apply (always_wait_settled hworker (fun _ => hstats) n).bind
    rintro (_ | s₂) hsettled
    · exact always_pure fun result s' h => nomatch h
    · apply ((hsettled s₂ rfl).always_close tools n).mono
      rintro _ ⟨_, _, rfl, hproper⟩ result s' ⟨⟩
      exact hproper

/-! Coming back. -/

theorem run_wait_ne_none {e : Engine G S} (hworker : s.worker = some (.running t e))
    (he : e.stats = {}) {max : Nat} (hmax : e.profile.maxIterations = some max) {n : Nat}
    (hn : max < n) (db : Backend σ) (w w' : World σ) :
    (s.wait tools n).run db w ≠ (some none, w') := by
  intro hrun
  unfold wait at hrun
  rw [hworker] at hrun
  obtain ⟨worker, w₁, hproceed, hrest⟩ := run_seq_eq_some_iff.1 hrun
  cases worker with
  | ended result e' => cases hrest
  | panicked => cases hrest
  | running t' e' =>
    exact Engine.work_stops he hmax hn (Worker.work_of_proceed hproceed)

theorem Fresh.run_ne_none (hs : s.Fresh profile) {max : Nat}
    (hmax : profile.maxIterations = some max) {n : Nat} (hn : max < n) (tools : Tools G S)
    (t : Token) (db : Backend σ) (w w' : World σ) :
    (s.run tools t n).run db w ≠ (some none, w') := by
  intro hrun
  obtain ⟨⟨started, s₁⟩, w₁, hstart, hrest⟩ := run_seq_eq_some_iff.1 hrun
  have hlaunches := (hs.always_start tools t).of_run hstart
  cases started with
  | error err =>
    -- closing what has failed to start comes back
    obtain ⟨closed, w₂, hclose, hreply⟩ := run_seq_eq_some_iff.1 hrest
    obtain ⟨result, s₂, rfl, -⟩ := (hlaunches.2.always_close tools n).of_run hclose
    cases result with
    | error e => cases hreply
    | ok stats => cases hreply
  | ok =>
    obtain ⟨e, hworker, hprofile, hstats⟩ := hlaunches
    rw [← hprofile] at hmax
    obtain ⟨waited, w₂, hwait, hclose⟩ := run_seq_eq_some_iff.1 hrest
    cases waited with
    | none => exact run_wait_ne_none hworker hstats hmax hn db w₁ w₂ hwait
    | some s₂ =>
      have hsettled := (always_wait_settled hworker (fun _ => hstats) n).of_run hwait s₂ rfl
      obtain ⟨_, _, hsome, -⟩ := (hsettled.always_close tools n).of_run hclose
      cases hsome

end Session

end PivotedQuery
