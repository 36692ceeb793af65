import PivotedQuery.Proofs.Session.Iteration
import PivotedQuery.Session.Lifecycle
/-!
The shapes in which a session is found between the calls of its owner, one for each phase, and that
every call leads from such a shape to one of the same phase or a later one.
-/
namespace PivotedQuery

open Dialogue (Always always_pure always_trivial always_log always_call)

variable {G S : Type}

namespace Engine

/-- Without an iteration nothing is counted. -/
def Counted (e : Engine G S) : Prop := e.stats.iterations = 0 → e.stats = {}

theorem Counted.of_pos {e : Engine G S} (h : 0 < e.stats.iterations) : e.Counted := by
  intro hzero
  omega

theorem always_settle (t : Token) {e : Engine G S} {result : Except SessionError Iteration}
    (he : 0 < e.stats.iterations) (hresult : ∀ err, result = .error err → Foreseen err) :
    (settle t e result).Always fun r =>
      0 < r.2.stats.iterations ∧ ∀ err, r.1 = some (.error err) → Foreseen err := by
  match result with
  | .ok .verified => exact always_pure ⟨he, nofun⟩
  | .ok .skipped => exact always_pure ⟨he, nofun⟩
  | .error err =>
    obtain ⟨f⟩ | ⟨m⟩ := hresult err rfl
    · apply (always_trivial _).bind
      intro cancelled _
      split
      · exact (always_log _).bind fun _ _ => always_pure ⟨he, nofun⟩
      · split
        · exact (always_log _).bind fun _ _ => always_pure ⟨he, nofun⟩
        · refine always_pure ⟨he, ?_⟩
          rintro _ ⟨⟩
          exact .fault f
    · refine always_pure ⟨he, ?_⟩
      rintro _ ⟨⟩
      exact .mismatch m

theorem always_round (tools : Tools G S) (t : Token) {e : Engine G S} (he : e.Counted) :
    (e.round tools t).Always fun r =>
      r.2.Counted ∧ ∀ err, r.1 = some (.error err) → Foreseen err := by
  apply (always_trivial _).bind
  intro cancelled _
  split
  · exact (always_log _).bind fun _ _ => always_pure ⟨he, nofun⟩
  · split
    · exact (always_log _).bind fun _ _ => always_pure ⟨he, nofun⟩
    · apply (always_iterate tools _).bind
      rintro ⟨result, e'⟩ ⟨hagrees, hresult⟩
      have hpos : 0 < e'.stats.iterations := by
        rw [hagrees.stats_eq]
        exact Nat.succ_pos _
      exact (always_settle t hpos hresult).mono fun r hr => ⟨.of_pos hr.1, hr.2⟩

theorem always_work (tools : Tools G S) (t : Token) (n : Nat) {e : Engine G S} (he : e.Counted) :
    (work tools t n e).Always fun r =>
      r.2.Counted ∧ ∀ err, r.1 = some (.error err) → Foreseen err := by
  induction n generalizing e with
  | zero => exact always_pure ⟨he, nofun⟩
  | succ n ih =>
    apply (always_round tools t he).bind
    rintro ⟨ending, e'⟩ ⟨he', hending⟩
    cases ending with
    | none => exact ih he'
    | some result => exact always_pure ⟨he', hending⟩

end Engine

/-- A worker that answers to the token. It does not say of itself that it has panicked. -/
def Worker.Lawful (t : Token) : Worker G S → Prop
  | running t' e => t' = t ∧ e.Counted
  | ended result e => result ≠ .error .workerPanicked ∧ e.Counted
  | panicked => True

theorem Worker.always_proceed (tools : Tools G S) (n : Nat) {t : Token} {w : Worker G S}
    (hw : w.Lawful t) : (w.proceed tools n).Always (·.Lawful t) := by
  cases w with
  | running t' e =>
    apply (Engine.always_work tools t' n hw.2).attempt.bind
    rintro (_ | ⟨ending, e'⟩) hwork
    · exact always_pure trivial
    obtain ⟨hcounted, hending⟩ := hwork _ rfl
    cases ending with
    | none => exact always_pure ⟨hw.1, hcounted⟩
    | some result =>
      refine always_pure ⟨?_, hcounted⟩
      rintro rfl
      cases hending _ rfl
  | ended result e => exact always_pure hw
  | panicked => exact always_pure hw

namespace Session

/-- The shapes of a session between two calls of its owner. -/
inductive Lawful : Session G S → Prop
  | idle {seed : UInt64} {database : WorkingDatabase} {e : Engine G S} (h : e.stats = {}) :
      Lawful ⟨.idle, seed, database, some e, none, none, none⟩
  | failed {phase : Phase} {seed : UInt64} {database : WorkingDatabase} {e : Engine G S}
      (hphase : phase = .bootstrapping ∨ phase = .snapshotting) (h : e.stats = {}) :
      Lawful ⟨phase, seed, database, some e, none, none, none⟩
  | iterating {seed : UInt64} {database : WorkingDatabase} {w : Worker G S} {t : Token}
      (h : w.Lawful t) : Lawful ⟨.iterating, seed, database, none, some w, some t, none⟩
  | drained {seed : UInt64} {database : WorkingDatabase} {e : Engine G S} {t : Token}
      {result : Except SessionError Unit} (hresult : result ≠ .error .workerPanicked)
      (h : e.Counted) : Lawful ⟨.draining, seed, database, some e, none, some t, some result⟩
  | lost {seed : UInt64} {database : WorkingDatabase} {t : Token} :
      Lawful ⟨.draining, seed, database, none, none, some t, some (.error .workerPanicked)⟩
  | closed {seed : UInt64} {database : WorkingDatabase} {token : Option Token} :
      Lawful ⟨.closed, seed, database, none, none, token, none⟩

/-- What a call may make of a session. The token stays with it, as a sign that it was started. -/
structure Follows (s s' : Session G S) : Prop where
  lawful : s'.Lawful
  rank_le : s.phase.rank ≤ s'.phase.rank
  token_eq : ∀ t, s.token = some t → s'.token = some t

theorem Lawful.refl {s : Session G S} (hs : s.Lawful) : s.Follows s :=
  ⟨hs, Nat.le_refl _, fun _ h => h⟩

theorem Follows.trans {s₁ s₂ s₃ : Session G S} (h : s₁.Follows s₂) (h' : s₂.Follows s₃) :
    s₁.Follows s₃ :=
  ⟨h'.lawful, Nat.le_trans h.rank_le h'.rank_le, fun t ht => h'.token_eq t (h.token_eq t ht)⟩

theorem Follows.phase_eq_closed {s s' : Session G S} (h : s.Follows s')
    (hclosed : s.phase = .closed) : s'.phase = .closed := by
  have hle := h.rank_le
  rw [hclosed] at hle
  cases hphase : s'.phase with
  | closed => rfl
  | _ =>
    rw [hphase] at hle
    exact absurd hle (by decide)

variable {s : Session G S}

theorem always_opened (maker : G) (synthesizer : S) (profile : Profile) (entropy : UInt64) :
    (opened maker synthesizer profile entropy).Always fun r => ∀ s, r = .ok s → s.Lawful := by
  unfold opened
  split
  · exact always_pure fun s h => nomatch h
  · apply (always_log _).bind
    intro _ _
    apply (always_trivial _).bind
    rintro (err | _) -
    · exact always_pure fun s h => nomatch h
    · refine always_pure ?_
      rintro _ ⟨⟩
      exact .idle rfl

theorem always_prepare (tools : Tools G S) (database : WorkingDatabase) (e : Engine G S) :
    (prepare tools database e).Always fun r => r.2.2.stats = e.stats ∧
      (r.2.1 = .bootstrapping ∨ r.2.1 = .snapshotting) := by
  apply (always_trivial _).bind
  rintro (err | _) -
  · exact always_pure ⟨rfl, .inl rfl⟩
  apply (always_trivial _).bind
  rintro ⟨_ | _, bench⟩ -
  · trivial
  apply (always_trivial _).bind
  rintro ⟨_ | tables, snapshot⟩ -
  · exact always_pure ⟨rfl, .inr rfl⟩
  · exact (always_log _).bind fun _ _ => always_pure ⟨rfl, .inr rfl⟩

theorem start_eq_of_ne_idle (tools : Tools G S) (t : Token) (h : s.phase ≠ .idle) :
    s.start tools t = pure (.error (.lifecycle "start" s.phase), s) := by
  unfold start
  split
  · contradiction
  · rfl

theorem wait_eq_of_no_worker (tools : Tools G S) (n : Nat) (h : s.worker = none) :
    s.wait tools n = pure (some s) := by
  unfold wait
  rw [h]

theorem close_eq_of_closed (tools : Tools G S) (n : Nat) (h : s.phase = .closed) :
    s.close tools n = pure (some (.error (.lifecycle "close" .closed), s)) := by
  unfold close
  rw [if_pos h, misuse, h]

/-- A start that succeeds, and one that does not. -/
def Started (s : Session G S) (t : Token) : Except SessionError Unit → Session G S → Prop
  | .ok (), s' => s.phase = .idle ∧ s'.phase = .iterating ∧ s'.token = some t
  | .error _, s' => s'.worker = s.worker ∧ s'.outcome = s.outcome

theorem always_start (tools : Tools G S) (t : Token) (hs : s.Lawful) :
    (s.start tools t).Always fun r => s.Follows r.2 ∧ s.Started t r.1 r.2 := by
  by_cases hidle : s.phase = .idle
  · cases hs with
    | @idle seed database e h =>
      apply (always_prepare tools database e).bind
      rintro ⟨err | _, phase, e'⟩ ⟨hstats, hphase⟩
      · refine always_pure ⟨⟨.failed hphase (hstats.trans h), Nat.zero_le _, nofun⟩, rfl, rfl⟩
      · refine always_call.bind fun _ _ => always_pure ⟨⟨.iterating ⟨rfl, ?_⟩, ?_, nofun⟩, ?_⟩
        · exact fun _ => hstats.trans h
        · exact Nat.zero_le _
        · exact ⟨rfl, rfl, rfl⟩
    | failed hphase =>
      obtain rfl | rfl := hphase
      · cases hidle
      · cases hidle
    | _ => cases hidle
  · rw [start_eq_of_ne_idle tools t hidle]
    exact always_pure ⟨hs.refl, rfl, rfl⟩

theorem always_start_worker (tools : Tools G S) (t : Token) (hs : s.Lawful) :
    (s.start tools t).Always fun r => r.1 = .ok () →
      ∃ e, r.2.worker = some (.running t e) ∧ e.stats = {} := by
  by_cases hidle : s.phase = .idle
  · cases hs with
    | @idle seed database e h =>
      apply (always_prepare tools database e).bind
      rintro ⟨err | _, phase, e'⟩ ⟨hstats, -⟩
      · exact always_pure nofun
      · exact always_call.bind fun _ _ => always_pure fun _ => ⟨_, rfl, hstats.trans h⟩
    | failed hphase => obtain rfl | rfl := hphase <;> cases hidle
    | _ => cases hidle
  · rw [start_eq_of_ne_idle tools t hidle]
    exact always_pure nofun

theorem always_wait (tools : Tools G S) (n : Nat) (hs : s.Lawful) :
    (s.wait tools n).Always fun r => ∀ s', r = some s' → s.Follows s' ∧ s'.worker = none := by
  have unchanged (hworker : s.worker = none) : (s.wait tools n).Always fun r =>
      ∀ s', r = some s' → s.Follows s' ∧ s'.worker = none := by
    rw [wait_eq_of_no_worker tools n hworker]
    refine always_pure ?_
    rintro _ ⟨⟩
    exact ⟨hs.refl, hworker⟩
  cases hs with
  | @iterating seed database w t h =>
    apply (Worker.always_proceed tools n h).bind
    rintro w' hw'
    cases w' with
    | running t' e => exact always_pure fun s' h => nomatch h
    | ended result e =>
      refine always_pure ?_
      rintro _ ⟨⟩
      exact ⟨⟨.drained hw'.1 hw'.2, Nat.le_succ 3, fun _ ht => ht⟩, rfl⟩
    | panicked =>
      refine always_pure ?_
      rintro _ ⟨⟩
      exact ⟨⟨.lost, Nat.le_succ 3, fun _ ht => ht⟩, rfl⟩
  | _ => exact unchanged rfl

theorem always_proceed (tools : Tools G S) (n : Nat) (hs : s.Lawful) :
    (s.proceed tools n).Always (s.Follows ·) := by
  cases hs with
  | iterating h =>
    apply (Worker.always_proceed tools n h).bind
    exact fun w hw => always_pure ⟨.iterating hw, Nat.le_refl _, fun _ ht => ht⟩
  | idle h => exact always_pure (Lawful.idle h).refl
  | failed hphase h => exact always_pure (Lawful.failed hphase h).refl
  | drained hresult h => exact always_pure (Lawful.drained hresult h).refl
  | lost => exact always_pure Lawful.lost.refl
  | closed => exact always_pure Lawful.closed.refl

theorem rank_le_closed (p : Phase) : p.rank ≤ Phase.closed.rank := by
  cases p <;> decide

/-- The session after it has been finished. -/
def released (s : Session G S) : Session G S :=
  { s with phase := .closed, engine := none, outcome := none }

theorem released_follows (hs : s.worker = none) : s.Follows s.released := by
  refine ⟨?_, rank_le_closed _, fun _ ht => ht⟩
  unfold released
  rw [hs]
  exact .closed

theorem always_finish (s : Session G S) : s.finish.Always fun r =>
    r.2 = s.released ∧ ∃ reset, r.1 = result s.outcome reset s.stats := by
  unfold finish
  cases s.engine with
  | none =>
    exact (always_trivial _).bind fun reset _ =>
      (always_log _).bind fun _ _ => always_pure ⟨rfl, reset, rfl⟩
  | some e =>
    exact (always_trivial _).bind fun reset _ =>
      (always_log _).bind fun _ _ => always_pure ⟨rfl, reset, rfl⟩

/-- Cancels its token, if it has one, and waits for the worker. -/
def halt (tools : Tools G S) (n : Nat) (s : Session G S) : Dialogue (Option (Session G S)) := do
  (match s.token with
    | some t => Dialogue.cancelToken t
    | none => pure ())
  s.wait tools n

def finishIfHalted : Option (Session G S) →
    Dialogue (Option (Except SessionError Stats × Session G S))
  | none => return none
  | some s => do return some (← s.finish)

theorem close_eq (tools : Tools G S) (n : Nat) (h : s.phase ≠ .closed) :
    s.close tools n = s.halt tools n >>= finishIfHalted := by
  unfold close halt
  rw [if_neg h]
  cases s.token with
  | none => rfl
  | some t => rfl

theorem always_halt (tools : Tools G S) (n : Nat) (hs : s.Lawful) :
    (s.halt tools n).Always fun r => ∀ s', r = some s' → s.Follows s' ∧ s'.worker = none :=
  (always_trivial _).bind fun _ _ => always_wait tools n hs

theorem always_close (tools : Tools G S) (n : Nat) (hs : s.Lawful) :
    (s.close tools n).Always fun r => ∀ result s', r = some (result, s') →
      s.Follows s' ∧ s'.phase = .closed := by
  by_cases hclosed : s.phase = .closed
  · rw [close_eq_of_closed tools n hclosed]
    refine always_pure ?_
    rintro _ _ ⟨⟩
    exact ⟨hs.refl, hclosed⟩
  · rw [close_eq tools n hclosed]
    apply (always_halt tools n hs).bind
    rintro (_ | s₁) hhalt
    · exact always_pure fun result s' h => nomatch h
    · obtain ⟨hfollows, hworker⟩ := hhalt s₁ rfl
      apply (always_finish s₁).bind
      rintro ⟨result, _⟩ ⟨rfl, -⟩
      refine always_pure ?_
      rintro _ _ ⟨⟩
      exact ⟨hfollows.trans (released_follows hworker), rfl⟩

theorem always_wait_close (tools : Tools G S) (n : Nat) (hs : s.Lawful) :
    (do match ← s.wait tools n with
      | none => return none
      | some s => s.close tools n :
      Dialogue (Option (Except SessionError Stats × Session G S))).Always fun r =>
        ∀ result s', r = some (result, s') → s.Follows s' ∧ s'.phase = .closed := by
  apply (always_wait tools n hs).bind
  rintro (_ | s₁) hwait
  · exact always_pure fun result s' h => nomatch h
  · have hfollows := (hwait s₁ rfl).1
    apply (always_close tools n hfollows.lawful).mono
    intro r hclose result s' hr
    exact (hclose result s' hr).imp_left hfollows.trans

theorem always_run (tools : Tools G S) (t : Token) (n : Nat) (hs : s.Lawful) :
    (s.run tools t n).Always fun r => ∀ result s', r = some (result, s') →
      s.Follows s' ∧ s'.phase = .closed := by
  apply (always_start tools t hs).bind
  rintro ⟨err | _, s₁⟩ ⟨hstart, -⟩
  -- whatever closing gives, the error of the start is what counts
  · apply (always_close tools n hstart.lawful).bind
    rintro (_ | ⟨e | stats, s₂⟩) hclose
    · exact always_pure fun result s' h => nomatch h
    · refine (always_log _).bind fun _ _ => always_pure ?_
      rintro _ _ ⟨⟩
      exact (hclose _ _ rfl).imp_left hstart.trans
    · refine always_pure ?_
      rintro _ _ ⟨⟩
      exact (hclose _ _ rfl).imp_left hstart.trans
  · apply (always_wait_close tools n hstart.lawful).mono
    intro r hclose result s' hr
    exact (hclose result s' hr).imp_left hstart.trans

end Session

end PivotedQuery
