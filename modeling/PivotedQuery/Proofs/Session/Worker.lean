import PivotedQuery.Proofs.Session.Iteration
/-!
The worker's loop. A head is an engine in a world at which the worker looks whether to go on; from
one head to the next the worker takes a turn, whose class is read off the iteration and off what is
seen of the cancellation after it. Main statements: the worker after so many rounds is at the head
after as many turns, or has stopped at an earlier one in one of four ways.
-/
namespace PivotedQuery

/-- Whoever looks in this world sees the token cancelled. -/
def Backend.sees {σ : Type} (db : Backend σ) (t : Token) (w : World σ) : Bool :=
  (db.looked w).cancelled.contains t

theorem Backend.mem_cancelled_of_sees {σ : Type} {db : Backend σ} {t : Token} {w : World σ}
    (h : db.sees t w = true) : t ∈ (db.looked w).cancelled :=
  List.contains_iff_mem.1 h

theorem Backend.sees_of_mem {σ : Type} {db : Backend σ} {t : Token} {w : World σ}
    (h : t ∈ w.cancelled) : db.sees t w = true :=
  List.contains_iff_mem.2 (List.mem_append_right _ h)

/-- How an iteration after which the worker may go on has ended. -/
inductive Turn
  | verified
  | skipped
  | tolerated
  | aborted
  deriving DecidableEq

/-- After a mismatch no worker goes on. -/
def Turn.of? : Except SessionError Iteration → (cancelled : Bool) → Option Turn
  | .ok .verified, _ => some verified
  | .ok .skipped, _ => some skipped
  | .error (.fault _), false => some tolerated
  | .error (.fault _), true => some aborted
  | .error _, _ => none

/-- The statistics with one more turn. -/
def Stats.plus (s : Stats) : Turn → Stats
  | .verified => { s with iterations := s.iterations + 1 }
  | .skipped => { s with iterations := s.iterations + 1, skipped := s.skipped + 1 }
  | .tolerated => { s with iterations := s.iterations + 1, faults := s.faults + 1 }
  | .aborted => { s with iterations := s.iterations + 1 }

namespace Engine

open Dialogue (run_seq run_seq_eq_some_iff run_pure_eq_some_iff run_log)

variable {σ G S : Type} (tools : Tools G S) (t : Token) (db : Backend σ)

/-- At this head neither cancellation nor the bound is seen, and the iteration ends so. -/
structure Iterates (e : Engine G S) (w : World σ) (result : Except SessionError Iteration)
    (e' : Engine G S) (w' : World σ) : Prop where
  unseen : db.sees t w = false
  unbound : e.boundReached = false
  run_iterate : (e.countIteration.iterate tools).run db (db.looked w) = (some (result, e'), w')

/-- The class of the turn that is taken at this head. -/
def Takes (e : Engine G S) (w : World σ) (turn : Turn) : Prop :=
  ∃ result e' w', Iterates tools t db e w result e' w' ∧
    Turn.of? result (db.sees t w') = some turn

/-- The heads of the loop that starts with this engine in this world, and the turns taken before
each, the last one first. -/
inductive Heads (e₀ : Engine G S) (w₀ : World σ) : List Turn → Engine G S → World σ → Prop
  | first : Heads e₀ w₀ [] e₀ w₀
  | next {turns : List Turn} {turn : Turn} {e e' : Engine G S} {w w' : World σ}
      (h : Heads e₀ w₀ turns e w) (hturn : Takes tools t db e w turn)
      (hround : (e.round tools t).run db w = (some (none, e'), w')) :
      Heads e₀ w₀ (turn :: turns) e' w'

/-- The ways in which a worker stops at a head, what it says, and the engine and the world after. -/
inductive Stops (e : Engine G S) (w : World σ) :
    Except SessionError Unit → Engine G S → World σ → Prop
  | cancelled (hseen : db.sees t w = true) :
      Stops e w (.ok ()) e ((db.looked w).noted (.cancelled e.stats.iterations))
  | bound {max : Nat} (hunseen : db.sees t w = false) (hmax : e.profile.maxIterations = some max)
      (hle : max ≤ e.stats.iterations) :
      Stops e w (.ok ()) e ((db.looked w).noted (.boundReached max))
  | fault {f : Fault} {e' : Engine G S} {w' : World σ}
      (h : Iterates tools t db e w (.error (.fault f)) e' w') (hunseen : db.sees t w' = false)
      (hgoing : e.profile.keepGoing = false) :
      Stops e w (.error (.fault f)) e' (db.looked w')
  | mismatch {pivot : PivotRow} {query : RenderedQuery} {m : Mismatch} {e' : Engine G S}
      {w₁ w' : World σ} (hunseen : db.sees t w = false) (hunbound : e.boundReached = false)
      (happroach : (e.countIteration.approach tools).run db (db.looked w) =
        (some (.ready pivot query e'), w₁))
      (hcheck : (Containment.check pivot query).run db w₁ = (some (.ok (.fail m)), w')) :
      Stops e w (.error (.mismatch m)) e' w'

variable {tools t db} {e e' e₀ : Engine G S} {w w' w₀ : World σ}
  {result : Except SessionError Iteration} {r : Except SessionError Unit}

theorem Iterates.unique {result' : Except SessionError Iteration} {e₁ e₂ : Engine G S}
    {w₁ w₂ : World σ} (h : Iterates tools t db e w result e₁ w₁)
    (h' : Iterates tools t db e w result' e₂ w₂) : result = result' ∧ e₁ = e₂ ∧ w₁ = w₂ := by
  have hrun := h.run_iterate
  rw [h'.run_iterate] at hrun
  cases hrun
  exact ⟨rfl, rfl, rfl⟩

theorem Takes.unique {turn turn' : Turn} (h : Takes tools t db e w turn)
    (h' : Takes tools t db e w turn') : turn = turn' := by
  obtain ⟨result, e₁, w₁, hiter, hturn⟩ := h
  obtain ⟨result', e₂, w₂, hiter', hturn'⟩ := h'
  obtain ⟨rfl, rfl, rfl⟩ := hiter.unique hiter'
  exact Option.some.inj (hturn.symm.trans hturn')

theorem Iterates.agrees (h : Iterates tools t db e w result e' w') :
    e.countIteration.Agrees e' :=
  ((always_iterate tools _).of_run h.run_iterate).1

theorem Iterates.foreseen {err : SessionError}
    (h : Iterates tools t db e w (.error err) e' w') : Foreseen err :=
  ((always_iterate tools _).of_run h.run_iterate).2 err rfl

theorem boundReached_eq_true_iff : e.boundReached = true ↔
    ∃ max, e.profile.maxIterations = some max ∧ max ≤ e.stats.iterations := by
  unfold boundReached
  cases e.profile.maxIterations with
  | none => simp
  | some max => simp

/-! One round, by what the worker sees at its head and by how the iteration ends. -/

theorem run_round_of_sees (h : db.sees t w = true) : (e.round tools t).run db w =
    (some (some (.ok ()), e), (db.looked w).noted (.cancelled e.stats.iterations)) := by
  unfold round
  rw [run_seq db (Dialogue.run_cancelled db t w)]
  change (if db.sees t w = true then _ else _ : Dialogue _).run db _ = _
  rw [if_pos h]
  rfl

theorem run_work_of_sees (h : db.sees t w = true) (n : Nat) : (work tools t (n + 1) e).run db w =
    (some (some (.ok ()), e), (db.looked w).noted (.cancelled e.stats.iterations)) := by
  have hround : (e.round tools t).run db w = _ := run_round_of_sees h
  exact run_seq db hround

theorem run_round_of_unseen (h : db.sees t w = false) : (e.round tools t).run db w =
    if e.boundReached = true then
      (some (some (.ok ()), e),
        (db.looked w).noted (.boundReached (e.profile.maxIterations.getD 0)))
    else (do
      let (result, e) ← e.countIteration.iterate tools
      settle t e result).run db (db.looked w) := by
  unfold round
  rw [run_seq db (Dialogue.run_cancelled db t w)]
  change (if db.sees t w = true then _ else _ : Dialogue _).run db _ = _
  rw [if_neg (by simp [h])]
  split
  · rfl
  · rfl

theorem Iterates.run_round (h : Iterates tools t db e w result e' w') :
    (e.round tools t).run db w = (settle t e' result).run db w' := by
  rw [run_round_of_unseen h.unseen, if_neg (by simp [h.unbound])]
  exact run_seq db h.run_iterate

theorem run_settle_fault {f : Fault} :
    (settle t e (.error (.fault f))).run db w =
      if db.sees t w = true then (some (none, e), (db.looked w).noted (.iterationAborted f))
      else if e.profile.keepGoing = true then
        (some (none, e.countFault), (db.looked w).noted (.faultTolerated e.stats.iterations f))
      else (some (some (.error (.fault f)), e), db.looked w) := by
  unfold settle
  rw [run_seq db (Dialogue.run_cancelled db t w)]
  change (if db.sees t w = true then _ else _ : Dialogue _).run db _ = _
  split
  · rfl
  · split
    · rfl
    · rfl

/-- A round that gives a result has stopped at its head or made an iteration. -/
theorem round_cases {ending : Ending} (h : (e.round tools t).run db w = (some (ending, e'), w')) :
    (ending = some (.ok ()) ∧ Stops tools t db e w (.ok ()) e' w') ∨
      ∃ result e₁ w₁, Iterates tools t db e w result e₁ w₁ ∧
        (settle t e₁ result).run db w₁ = (some (ending, e'), w') := by
  cases hseen : db.sees t w with
  | true =>
    rw [run_round_of_sees hseen] at h
    cases h
    exact .inl ⟨rfl, .cancelled hseen⟩
  | false =>
    rw [run_round_of_unseen hseen] at h
    split at h
    case isTrue hbound =>
      obtain ⟨max, hmax, hle⟩ := boundReached_eq_true_iff.1 hbound
      cases h
      rw [hmax]
      exact .inl ⟨rfl, .bound hseen hmax hle⟩
    case isFalse hbound =>
      obtain ⟨⟨result, e₁⟩, w₁, hiterate, hsettle⟩ := run_seq_eq_some_iff.1 h
      exact .inr ⟨result, e₁, w₁, ⟨hseen, by simpa using hbound, hiterate⟩, hsettle⟩

/-- A worker that goes on has taken a turn, and its statistics have one more of that class. -/
theorem takes_of_round (h : (e.round tools t).run db w = (some (none, e'), w')) :
    ∃ turn, Takes tools t db e w turn ∧ e'.stats = e.stats.plus turn ∧ e'.profile = e.profile ∧
      (turn = .aborted → t ∈ w'.cancelled) ∧
      (turn = .tolerated → e.profile.keepGoing = true) := by
  obtain ⟨hending, -⟩ | ⟨result, e₁, w₁, hiter, hsettle⟩ := round_cases h
  · cases hending
  have hagrees := hiter.agrees
  match result with
  | .ok .verified =>
    cases hsettle
    exact ⟨.verified, ⟨_, _, _, hiter, rfl⟩, hagrees.stats_eq, hagrees.profile_eq, nofun, nofun⟩
  | .ok .skipped =>
    cases hsettle
    refine ⟨.skipped, ⟨_, _, _, hiter, rfl⟩, ?_, hagrees.profile_eq, nofun, nofun⟩
    simp [countSkipped, hagrees.stats_eq, countIteration, Stats.plus]
  | .error err =>
    obtain ⟨f⟩ | ⟨m⟩ := hiter.foreseen
    · rw [run_settle_fault] at hsettle
      split at hsettle
      case isTrue hseen =>
        cases hsettle
        exact ⟨.aborted, ⟨_, _, _, hiter, by simp [hseen, Turn.of?]⟩, hagrees.stats_eq,
          hagrees.profile_eq, fun _ => Backend.mem_cancelled_of_sees hseen, nofun⟩
      case isFalse hunseen =>
        split at hsettle
        case isTrue hgoing =>
          cases hsettle
          refine ⟨.tolerated, ⟨_, _, _, hiter, by simp [hunseen, Turn.of?]⟩, ?_,
            hagrees.profile_eq, nofun, fun _ => ?_⟩
          · simp [countFault, hagrees.stats_eq, countIteration, Stats.plus]
          · rw [← hgoing, hagrees.profile_eq]
            rfl
        · cases hsettle
    · cases hsettle

theorem run_round_eq_some_iff : (e.round tools t).run db w = (some (some r, e'), w') ↔
    Stops tools t db e w r e' w' := by
  constructor
  · intro h
    obtain ⟨hending, hstops⟩ | ⟨result, e₁, w₁, hiter, hsettle⟩ := round_cases h
    · cases hending
      exact hstops
    match result with
    | .ok .verified => cases hsettle
    | .ok .skipped => cases hsettle
    | .error err =>
      obtain ⟨f⟩ | ⟨m⟩ := hiter.foreseen
      · rw [run_settle_fault] at hsettle
        split at hsettle
        · cases hsettle
        case isFalse hunseen =>
          split at hsettle
          · cases hsettle
          case isFalse hgoing =>
            cases hsettle
            have hprofile : e'.profile = e.profile := hiter.agrees.profile_eq
            rw [hprofile] at hgoing
            exact .fault hiter (by simpa using hunseen) (by simpa using hgoing)
      · cases hsettle
        obtain ⟨pivot, query, w₂, happroach, hcheck⟩ :=
          run_iterate_eq_mismatch_iff.1 hiter.run_iterate
        exact .mismatch hiter.unseen hiter.unbound happroach hcheck
  · intro h
    cases h with
    | cancelled hseen => exact run_round_of_sees hseen
    | bound hunseen hmax hle =>
      rw [run_round_of_unseen hunseen, if_pos (boundReached_eq_true_iff.2 ⟨_, hmax, hle⟩), hmax]
      rfl
    | fault hiter hunseen hgoing =>
      have hgoing' : e'.profile.keepGoing = false := by
        rw [hiter.agrees.profile_eq]
        exact hgoing
      rw [hiter.run_round, run_settle_fault, if_neg (by simp [hunseen]),
        if_neg (by simp [hgoing'])]
    | mismatch hunseen hunbound happroach hcheck =>
      have hiter : Iterates tools t db e w _ e' w' :=
        ⟨hunseen, hunbound, run_iterate_eq_mismatch_iff.2 ⟨_, _, _, happroach, hcheck⟩⟩
      exact hiter.run_round

/-! The work of so many rounds. -/

/-- One more round, unless the worker has stopped. -/
def again (tools : Tools G S) (t : Token) : Ending × Engine G S → Dialogue (Ending × Engine G S)
  | (some r, e) => return (some r, e)
  | (none, e) => e.round tools t

theorem work_succ (tools : Tools G S) (t : Token) (n : Nat) (e : Engine G S) :
    work tools t (n + 1) e = work tools t n e >>= again tools t := by
  induction n generalizing e with
  | zero =>
    change (e.round tools t >>= fun p => _) = e.round tools t
    conv => rhs; rw [← bind_pure (e.round tools t)]
    congr 1
    funext ⟨ending, e'⟩
    cases ending with
    | none => rfl
    | some r => rfl
  | succ n ih =>
    change (e.round tools t >>= fun p => _) = (e.round tools t >>= fun p => _) >>= _
    rw [bind_assoc]
    congr 1
    funext ⟨ending, e'⟩
    cases ending with
    | none => exact ih e'
    | some r => rfl

theorem run_work_succ_eq_none_iff {n : Nat} :
    (work tools t (n + 1) e₀).run db w₀ = (some (none, e'), w') ↔
      ∃ e w, (work tools t n e₀).run db w₀ = (some (none, e), w) ∧
        (e.round tools t).run db w = (some (none, e'), w') := by
  rw [work_succ, run_seq_eq_some_iff]
  constructor
  · rintro ⟨⟨ending, e⟩, w, hwork, hround⟩
    cases ending with
    | none => exact ⟨e, w, hwork, hround⟩
    | some r => cases hround
  · rintro ⟨e, w, hwork, hround⟩
    exact ⟨_, w, hwork, hround⟩

theorem run_work_succ_eq_some_iff {n : Nat} :
    (work tools t (n + 1) e₀).run db w₀ = (some (some r, e'), w') ↔
      (work tools t n e₀).run db w₀ = (some (some r, e'), w') ∨
        ∃ e w, (work tools t n e₀).run db w₀ = (some (none, e), w) ∧
          Stops tools t db e w r e' w' := by
  rw [work_succ, run_seq_eq_some_iff]
  constructor
  · rintro ⟨⟨ending, e⟩, w, hwork, hround⟩
    cases ending with
    | none => exact .inr ⟨e, w, hwork, run_round_eq_some_iff.1 hround⟩
    | some r' =>
      cases hround
      exact .inl hwork
  · rintro (hwork | ⟨e, w, hwork, hstops⟩)
    · exact ⟨_, w', hwork, rfl⟩
    · exact ⟨_, w, hwork, run_round_eq_some_iff.2 hstops⟩

theorem run_work_eq_none_iff {n : Nat} :
    (work tools t n e₀).run db w₀ = (some (none, e), w) ↔
      ∃ turns, Heads tools t db e₀ w₀ turns e w ∧ turns.length = n := by
  induction n generalizing e w with
  | zero =>
    constructor
    · rintro ⟨⟩
      exact ⟨[], .first, rfl⟩
    · rintro ⟨turns, hheads, hlength⟩
      cases hheads with
      | first => rfl
      | next => cases hlength
  | succ n ih =>
    rw [run_work_succ_eq_none_iff]
    constructor
    · rintro ⟨e₁, w₁, hwork, hround⟩
      obtain ⟨turns, hheads, rfl⟩ := ih.1 hwork
      obtain ⟨turn, hturn, -⟩ := takes_of_round hround
      exact ⟨turn :: turns, hheads.next hturn hround, rfl⟩
    · rintro ⟨turns, hheads, hlength⟩
      cases hheads with
      | first => cases hlength
      | next hheads hturn hround =>
        exact ⟨_, _, ih.2 ⟨_, hheads, Nat.succ.inj hlength⟩, hround⟩

theorem run_work_eq_some_iff {n : Nat} :
    (work tools t n e₀).run db w₀ = (some (some r, e'), w') ↔
      ∃ turns e w, Heads tools t db e₀ w₀ turns e w ∧ turns.length < n ∧
        Stops tools t db e w r e' w' := by
  induction n with
  | zero =>
    constructor
    · rintro ⟨⟩
    · rintro ⟨turns, e, w, -, hlength, -⟩
      cases hlength
  | succ n ih =>
    rw [run_work_succ_eq_some_iff, ih]
    constructor
    · rintro (⟨turns, e, w, hheads, hlength, hstops⟩ | ⟨e, w, hwork, hstops⟩)
      · exact ⟨turns, e, w, hheads, Nat.lt_succ_of_lt hlength, hstops⟩
      · obtain ⟨turns, hheads, rfl⟩ := run_work_eq_none_iff.1 hwork
        exact ⟨turns, e, w, hheads, Nat.lt_succ_self _, hstops⟩
    · rintro ⟨turns, e, w, hheads, hlength, hstops⟩
      obtain hlt | rfl := Nat.lt_succ_iff_lt_or_eq.1 hlength
      · exact .inl ⟨turns, e, w, hheads, hlt, hstops⟩
      · exact .inr ⟨e, w, run_work_eq_none_iff.2 ⟨turns, hheads, rfl⟩, hstops⟩

end Engine

end PivotedQuery
