import PivotedQuery.Proofs.Session.Alike
import PivotedQuery.Proofs.Session.Lifecycle
import PivotedQuery.Proofs.Session.Worker
/-!
What a session sends, whatever its statements and queries are told. Main statement: two sessions of
one profile and one seed, which are told the same of the schema, the resets and the pivot rows, make
the same calls up to the start of their workers, and those of one worker are the first calls of the
other.
-/
namespace PivotedQuery

namespace Engine

variable {σ τ G S : Type}

/-! Two workers side by side. -/

/-- Engines that differ in their statistics at most, and not in the number of iterations. -/
def Twin (e e' : Engine G S) : Prop :=
  ∃ stats : Stats, stats.iterations = e.stats.iterations ∧ e' = e.recount stats

variable {e e' e₁ e₂ : Engine G S} {tools : Tools G S} {t : Token} {db : Backend σ}
  {db' : Backend τ} {w : World σ} {w' : World τ}

theorem Twin.refl (e : Engine G S) : e.Twin e := ⟨e.stats, rfl, rfl⟩

theorem Twin.symm (h : e.Twin e') : e'.Twin e := by
  obtain ⟨stats, hiterations, rfl⟩ := h
  exact ⟨e.stats, hiterations.symm, rfl⟩

theorem Twin.trans (h : e.Twin e₁) (h' : e₁.Twin e₂) : e.Twin e₂ := by
  obtain ⟨stats, hiterations, rfl⟩ := h
  obtain ⟨stats', hiterations', rfl⟩ := h'
  exact ⟨stats', hiterations'.trans hiterations, rfl⟩

theorem Twin.boundReached_eq (h : e.Twin e') : e'.boundReached = e.boundReached := by
  obtain ⟨stats, hiterations, rfl⟩ := h
  unfold boundReached recount
  dsimp only
  rw [hiterations]

theorem twin_of_settle {result : Except SessionError Iteration} {w₁ : World σ}
    (h : (settle t e result).run db w = (some (none, e₁), w₁)) : e.Twin e₁ := by
  match result with
  | .ok .verified =>
    cases h
    exact .refl e
  | .ok .skipped =>
    cases h
    exact ⟨e.countSkipped.stats, rfl, rfl⟩
  | .error (.fault f) =>
    rw [run_settle_fault] at h
    split at h
    · cases h
      exact .refl e
    split at h
    · cases h
      exact ⟨e.countFault.stats, rfl, rfl⟩
    · cases h
  | .error (.mismatch _) => cases h
  | .error (.lifecycle _ _) => cases h
  | .error .workerPanicked => cases h

theorem exchanges_settle (result : Except SessionError Iteration) :
    (settle t e result).exchanges db w = [] := by
  match result with
  | .ok .verified => rfl
  | .ok .skipped => rfl
  | .error (.fault f) =>
    change (if db.sees t w = true then _ else _ : Dialogue _).exchanges db (db.looked w) = []
    split
    · rfl
    split
    · rfl
    · rfl
  | .error (.mismatch _) => rfl
  | .error (.lifecycle _ _) => rfl
  | .error .workerPanicked => rfl

theorem exchanges_round (h : db.sees t w = false) : (e.round tools t).exchanges db w =
    if e.boundReached = true then []
    else (e.countIteration.iterate tools).exchanges db (db.looked w) := by
  have hrest : (e.round tools t).exchanges db w = (if e.boundReached = true then do
      Dialogue.log (.boundReached (e.profile.maxIterations.getD 0))
      return (some (.ok ()), e)
    else e.countIteration.iterate tools >>= fun step => settle t step.2 step.1 :
      Dialogue (Ending × Engine G S)).exchanges db (db.looked w) := by
    unfold round
    rw [Dialogue.exchanges_seq db (Dialogue.run_cancelled db t w)]
    change [] ++ (if db.sees t w = true then _ else _ : Dialogue _).exchanges db _ = _
    rw [if_neg (by simp [h]), List.nil_append]
  rw [hrest]
  split
  · rfl
  · exact Dialogue.exchanges_bind_of_nil db _ _ fun step _ => exchanges_settle step.1

theorem run_iterate_of_round {w₁ : World σ} (hunseen : db.sees t w = false)
    (hunbound : e.boundReached = false)
    (h : (e.round tools t).run db w = (some (none, e₁), w₁)) :
    ∃ step, ((e.countIteration.iterate tools).run db (db.looked w)).1 = some step ∧
      step.2.Twin e₁ := by
  rw [run_round_of_unseen hunseen, if_neg (by simp [hunbound])] at h
  obtain ⟨⟨result, e₂⟩, w₂, hiterate, hsettle⟩ := Dialogue.run_seq_eq_some_iff.1 h
  exact ⟨_, congrArg Prod.fst hiterate, twin_of_settle hsettle⟩

/-- In one round both make the same calls, and if both go on they are twins again. -/
theorem Twin.round (h : e.Twin e') (hunseen : db.sees t w = false)
    (hunseen' : db'.sees t w' = false) (hunbound : e.boundReached = false)
    {xs ys : List Exchange}
    (hanswers : AnsweredAlike (shared ((e.round tools t).exchanges db w ++ xs))
      (shared ((e'.round tools t).exchanges db' w' ++ ys)))
    (horderly : ∀ x ∈ (e.round tools t).exchanges db w, x.IsOrderly)
    (horderly' : ∀ x ∈ (e'.round tools t).exchanges db' w', x.IsOrderly) :
    (e.round tools t).calls db w = (e'.round tools t).calls db' w' ∧
      AnsweredAlike (shared xs) (shared ys) ∧
      ∀ {e₁ e₁' : Engine G S} {w₁ : World σ} {w₁' : World τ},
        (e.round tools t).run db w = (some (none, e₁), w₁) →
        (e'.round tools t).run db' w' = (some (none, e₁'), w₁') → e₁.Twin e₁' := by
  have hunbound' : e'.boundReached = false := h.boundReached_eq.trans hunbound
  unfold Dialogue.calls
  rw [exchanges_round hunseen, if_neg (by simp [hunbound])] at *
  rw [exchanges_round hunseen', if_neg (by simp [hunbound'])] at *
  obtain ⟨stats, hiterations, rfl⟩ := h
  have halike := alike_iterate tools ((e.recount stats).countIteration.stats) e.countIteration
  rw [← Dialogue.exchanges_attempt] at hanswers horderly
  rw [← Dialogue.exchanges_attempt db' _ (db'.looked w')] at hanswers horderly'
  obtain ⟨hcalls, hrest, hresult⟩ := halike.same_calls hanswers horderly horderly'
  unfold Dialogue.calls at hcalls
  rw [Dialogue.exchanges_attempt, Dialogue.exchanges_attempt] at hcalls
  refine ⟨hcalls, hrest, ?_⟩
  intro e₁ e₁' w₁ w₁' hround hround'
  obtain ⟨step, hstep, htwin⟩ := run_iterate_of_round hunseen hunbound hround
  obtain ⟨step', hstep', htwin'⟩ := run_iterate_of_round hunseen' hunbound' hround'
  rw [Dialogue.run_attempt, Dialogue.run_attempt] at hresult
  cases hresult with
  | some hengines =>
    have hagrees := (always_iterate tools _).of_run (Prod.ext hstep rfl)
    have hboth : step.2.Twin step'.2 := by
      refine ⟨(e.recount stats).countIteration.stats, ?_, hengines step hstep step' hstep'⟩
      rw [hagrees.1.stats_eq]
      exact congrArg (· + 1) hiterations
    exact htwin.symm.trans (hboth.trans htwin')

/-- A token that is not cancelled in the end has not been seen cancelled. -/
theorem unseen_of_work {n : Nat} (h : t ∉ ((work tools t (n + 1) e).run db w).2.cancelled) :
    db.sees t w = false := by
  by_contra hseen
  have hsees : db.sees t w = true := by simpa using hseen
  have hwork : (work tools t (n + 1) e).run db w = _ := run_work_of_sees hsees n
  rw [hwork] at h
  exact h (Backend.mem_cancelled_of_sees hsees)

/-- A worker that is short of its bound goes on after a round or stops with an error. -/
theorem work_succ_cases (tools : Tools G S) (hunseen : db.sees t w = false)
    (hunbound : e.boundReached = false) (n : Nat) : ∃ xs, (work tools t (n + 1) e).exchanges db w =
        (e.round tools t).exchanges db w ++ xs ∧
      ((xs = [] ∧ ∀ e₁ w₁, (work tools t (n + 1) e).run db w ≠ (some (some (.ok ()), e₁), w₁)) ∨
        ∃ e₁ w₁, (e.round tools t).run db w = (some (none, e₁), w₁) ∧
          xs = (work tools t n e₁).exchanges db w₁ ∧
          (work tools t (n + 1) e).run db w = (work tools t n e₁).run db w₁) := by
  cases hrun : (e.round tools t).run db w with
  | mk r w₁ =>
    match r with
    | none =>
      have hexchanges : (work tools t (n + 1) e).exchanges db w = _ :=
        Dialogue.exchanges_seq_none db hrun
      have hwork : (work tools t (n + 1) e).run db w = _ := Dialogue.run_seq_none db hrun
      refine ⟨[], hexchanges.trans (List.append_nil _).symm, .inl ⟨rfl, fun _ _ h => ?_⟩⟩
      cases hwork.symm.trans h
    | some (none, e₁) =>
      have hexchanges : (work tools t (n + 1) e).exchanges db w = _ :=
        Dialogue.exchanges_seq db hrun
      exact ⟨_, hexchanges, .inr ⟨e₁, w₁, rfl, rfl, Dialogue.run_seq db hrun⟩⟩
    | some (some r, e₁) =>
      have hexchanges : (work tools t (n + 1) e).exchanges db w = _ :=
        Dialogue.exchanges_seq db hrun
      have hwork : (work tools t (n + 1) e).run db w = _ := Dialogue.run_seq db hrun
      refine ⟨[], hexchanges, .inl ⟨rfl, fun _ _ h => ?_⟩⟩
      cases hwork.symm.trans h
      -- without an error it stops at its bound only
      cases run_round_eq_some_iff.1 hrun with
      | cancelled hseen => exact absurd (hunseen.symm.trans hseen) (by decide)
      | bound _ hmax hle =>
        have hbound := boundReached_eq_true_iff.2 ⟨_, hmax, hle⟩
        exact absurd (hunbound.symm.trans hbound) (by decide)

theorem calls_work_of_boundReached (hunseen : db.sees t w = false)
    (hbound : e.boundReached = true) (n : Nat) : (work tools t (n + 1) e).calls db w = [] := by
  have hround : (e.round tools t).run db w = _ := run_round_of_unseen hunseen
  rw [if_pos hbound] at hround
  have hexchanges : (work tools t (n + 1) e).exchanges db w = _ :=
    Dialogue.exchanges_seq db hround
  rw [exchanges_round hunseen, if_pos hbound] at hexchanges
  rw [Dialogue.calls, hexchanges]
  rfl

/-- The calls of one worker are the first calls of the other, and all of them if both end without
an error. -/
theorem Twin.work (n n' : Nat) (h : e.Twin e')
    (hanswers : AnsweredAlike (shared ((work tools t n e).exchanges db w))
      (shared ((work tools t n' e').exchanges db' w')))
    (horderly : ∀ x ∈ (work tools t n e).exchanges db w, x.IsOrderly)
    (horderly' : ∀ x ∈ (work tools t n' e').exchanges db' w', x.IsOrderly)
    (hcancelled : t ∉ ((work tools t n e).run db w).2.cancelled)
    (hcancelled' : t ∉ ((work tools t n' e').run db' w').2.cancelled) :
    ((work tools t n e).calls db w <+: (work tools t n' e').calls db' w' ∨
        (work tools t n' e').calls db' w' <+: (work tools t n e).calls db w) ∧
      ∀ e₁ e₂ w₁ w₂, (work tools t n e).run db w = (some (some (.ok ()), e₁), w₁) →
        (work tools t n' e').run db' w' = (some (some (.ok ()), e₂), w₂) →
        (work tools t n e).calls db w = (work tools t n' e').calls db' w' := by
  -- on the rounds of both; they stay twins until one of them stops
  induction n generalizing n' e e' w w' with
  | zero =>
    refine ⟨.inl List.nil_prefix, fun _ _ _ _ hrun => ?_⟩
    cases hrun
  | succ n ih =>
    cases n' with
    | zero =>
      refine ⟨.inr List.nil_prefix, fun _ _ _ _ _ hrun => ?_⟩
      cases hrun
    | succ n' =>
      have hunseen := unseen_of_work hcancelled
      have hunseen' := unseen_of_work hcancelled'
      cases hbound : e.boundReached with
      | true =>
        have hbound' : e'.boundReached = true := h.boundReached_eq.trans hbound
        have hcalls : (work tools t (n + 1) e).calls db w = [] :=
          calls_work_of_boundReached hunseen hbound n
        have hcalls' : (work tools t (n' + 1) e').calls db' w' = [] :=
          calls_work_of_boundReached hunseen' hbound' n'
        rw [hcalls, hcalls']
        exact ⟨.inl List.nil_prefix, fun _ _ _ _ _ _ => rfl⟩
      | false =>
        have hbound' : e'.boundReached = false := h.boundReached_eq.trans hbound
        obtain ⟨xs, hxs, hleft⟩ := work_succ_cases tools hunseen hbound n
        obtain ⟨ys, hys, hright⟩ := work_succ_cases tools hunseen' hbound' n'
        rw [hxs, List.forall_mem_append] at horderly
        rw [hys, List.forall_mem_append] at horderly'
        rw [hxs, hys] at hanswers
        obtain ⟨hround, hanswers, htwin⟩ :=
          h.round hunseen hunseen' hbound hanswers horderly.1 horderly'.1
        have hcalls : (work tools t (n + 1) e).calls db w =
            (e.round tools t).calls db w ++ xs.map (·.request) := by
          rw [Dialogue.calls, hxs, List.map_append, Dialogue.calls]
        have hcalls' : (work tools t (n' + 1) e').calls db' w' =
            (e.round tools t).calls db w ++ ys.map (·.request) := by
          rw [Dialogue.calls, hys, List.map_append, hround, Dialogue.calls]
        rw [hcalls, hcalls', List.prefix_append_right_inj, List.prefix_append_right_inj,
          List.append_right_inj]
        rcases hleft with ⟨rfl, hstops⟩ | ⟨e₁, w₁, hrun, rfl, hwork⟩
        · exact ⟨.inl List.nil_prefix, fun _ _ _ _ hends _ => absurd hends (hstops _ _)⟩
        rcases hright with ⟨rfl, hstops⟩ | ⟨e₂, w₂, hrun', rfl, hwork'⟩
        · exact ⟨.inr List.nil_prefix, fun _ _ _ _ _ hends => absurd hends (hstops _ _)⟩
        rw [hwork] at hcancelled ⊢
        rw [hwork'] at hcancelled' ⊢
        exact ih n' (htwin hrun hrun') hanswers horderly.2 horderly'.2 hcancelled hcancelled'

end Engine

/-- The worker for an attempt at its rounds. -/
def Worker.after {G S : Type} (t : Token) : Option (Engine.Ending × Engine G S) → Worker G S
  | none => panicked
  | some (none, e) => running t e
  | some (some result, e) => ended result e

namespace Session

variable {σ G S : Type} {s : Session G S} {tools : Tools G S} {t : Token} {e : Engine G S}

/-- The worker has ended without an error, which takes a bound if nobody cancels its token. -/
def WorkedOut (s : Session G S) : Prop := ∃ e, s.worker = some (.ended (.ok ()) e)

theorem proceed_eq (h : s.worker = some (.running t e)) (n : Nat) : s.proceed tools n = do
    return { s with worker := some (.after t (← (e.work tools t n).attempt)) } := by
  unfold proceed
  rw [h]
  dsimp only [Worker.proceed]
  rw [bind_assoc]
  refine congrArg _ (funext fun r => ?_)
  match r with
  | none => rfl
  | some (none, _) => rfl
  | some (some _, _) => rfl

variable (db : Backend σ) (w : World σ)

theorem run_proceed (h : s.worker = some (.running t e)) (n : Nat) :
    (s.proceed tools n).run db w =
      (some { s with worker := some (.after t ((e.work tools t n).run db w).1) },
        ((e.work tools t n).run db w).2) := by
  rw [proceed_eq h]
  exact Dialogue.run_seq db (Dialogue.run_attempt db _ w)

theorem exchanges_proceed (h : s.worker = some (.running t e)) (n : Nat) :
    (s.proceed tools n).exchanges db w = (e.work tools t n).exchanges db w := by
  rw [proceed_eq h, Dialogue.exchanges_bind_of_nil db _ w fun _ _ => rfl,
    Dialogue.exchanges_attempt]

theorem run_work_of_workedOut (h : s.worker = some (.running t e)) {n : Nat} {s₁ : Session G S}
    {w₁ : World σ} (hrun : (s.proceed tools n).run db w = (some s₁, w₁)) (hs : s₁.WorkedOut) :
    ∃ e₁, (e.work tools t n).run db w = (some (some (.ok ()), e₁), w₁) := by
  obtain ⟨e₁, he₁⟩ := hs
  rw [run_proceed db w h] at hrun
  cases hrun
  refine ⟨e₁, Prod.ext ?_ rfl⟩
  match hwork : ((e.work tools t n).run db w).1 with
  | none =>
    rw [hwork] at he₁
    cases he₁
  | some (none, _) =>
    rw [hwork] at he₁
    cases he₁
  | some (some _, _) =>
    rw [hwork] at he₁
    cases he₁
    rfl

end Session

/-- All that a session is made of. -/
structure Setup (S : Type) where
  generator : Generator
  synthesizer : Synthesizer S
  /-- Where the synthesizer begins. -/
  state : S
  profile : Profile
  entropy : UInt64
  token : Token

namespace Setup

variable {σ τ S : Type} (c : Setup S)

def tools : Tools Generator S := ⟨Generator.maker, c.synthesizer⟩

/-- Opens a session and starts its worker. -/
def launch : Dialogue (Except SessionError (Session Generator S)) := do
  match ← Session.opened c.generator c.state c.profile c.entropy with
  | .error e => return .error e
  | .ok s =>
    let (result, s) ← s.start c.tools c.token
    return result.map fun _ => s

/-- What is done by a session whose worker is given so many rounds. -/
def operate (n : Nat) : Dialogue (Except SessionError (Session Generator S)) := do
  match ← c.launch with
  | .error e => return .error e
  | .ok s => return .ok (← s.proceed c.tools n)

theorem alike_launch : Dialogue.Alike Eq c.launch c.launch := by
  refine (Session.alike_opened _ _ _ _).bind ?_
  rintro (err | s) _ rfl
  · exact Dialogue.alike_pure rfl
  refine (Session.alike_start rfl c.token s).bind ?_
  rintro result _ rfl
  exact Dialogue.alike_pure rfl

theorem worker_of_run_launch {db : Backend σ} {w w₁ : World σ} {s : Session Generator S}
    (h : c.launch.run db w = (some (.ok s), w₁)) :
    ∃ e, s.worker = some (.running c.token e) := by
  obtain ⟨opened, w₂, hopened, hstart⟩ := Dialogue.run_seq_eq_some_iff.1 h
  cases opened with
  | error e => cases hstart
  | ok s₀ =>
    have hlawful : s₀.Lawful := (Session.always_opened _ _ _ _).of_run hopened s₀ rfl
    obtain ⟨⟨result, s₁⟩, w₃, hstart, hresult⟩ := Dialogue.run_seq_eq_some_iff.1 hstart
    cases result with
    | error e => cases hresult
    | ok =>
      obtain ⟨e, he, -⟩ :=
        (Session.always_start_worker c.tools c.token hlawful).of_run hstart rfl
      cases hresult
      exact ⟨e, he⟩

variable (db : Backend σ) (db' : Backend τ) (w : World σ) (w' : World τ)

/-- What follows the launch is what the worker asks. -/
theorem exists_exchanges_operate (n : Nat) : ∃ xs,
    (c.operate n).exchanges db w = c.launch.exchanges db w ++ xs ∧
      ∀ s w₁, c.launch.run db w = (some (.ok s), w₁) →
        xs = (s.proceed c.tools n).exchanges db w₁ ∧
        ((c.operate n).run db w).2 = ((s.proceed c.tools n).run db w₁).2 := by
  cases hlaunch : c.launch.run db w with
  | mk r w₁ =>
    match r with
    | none =>
      refine ⟨[], (Dialogue.exchanges_seq_none db hlaunch).trans (List.append_nil _).symm, ?_⟩
      rintro _ _ ⟨⟩
    | some (.error e) =>
      have hoperate : (c.operate n).exchanges db w = _ := Dialogue.exchanges_seq db hlaunch
      refine ⟨[], hoperate, ?_⟩
      rintro _ _ ⟨⟩
    | some (.ok s) =>
      refine ⟨(s.proceed c.tools n).exchanges db w₁, ?_, ?_⟩
      · exact (Dialogue.exchanges_seq db hlaunch).trans
          (congrArg _ (Dialogue.exchanges_bind_of_nil db _ w₁ fun _ _ => rfl))
      rintro _ _ ⟨⟩
      refine ⟨rfl, ?_⟩
      have hoperate : (c.operate n).run db w = _ := Dialogue.run_seq db hlaunch
      rw [hoperate]
      exact Dialogue.run_bind_snd db _ w₁ fun _ _ => rfl

/-- Two sessions that are told the same of what is shared, and whose tokens are not cancelled. -/
theorem calls_independent (n n' : Nat)
    (hanswers : AnsweredAlike (shared ((c.operate n).exchanges db w))
      (shared ((c.operate n').exchanges db' w')))
    (horderly : ∀ x ∈ (c.operate n).exchanges db w, x.IsOrderly)
    (horderly' : ∀ x ∈ (c.operate n').exchanges db' w', x.IsOrderly)
    (hcancelled : c.token ∉ ((c.operate n).run db w).2.cancelled)
    (hcancelled' : c.token ∉ ((c.operate n').run db' w').2.cancelled) :
    c.launch.calls db w = c.launch.calls db' w' ∧
    (c.launch.run db w).1 = (c.launch.run db' w').1 ∧
    (∀ s w₁ w₁', c.launch.run db w = (some (.ok s), w₁) →
      c.launch.run db' w' = (some (.ok s), w₁') →
      let worked := (s.proceed c.tools n).calls db w₁
      let worked' := (s.proceed c.tools n').calls db' w₁'
      (worked <+: worked' ∨ worked' <+: worked) ∧
      ∀ s₁ s₂ w₂ w₂', (s.proceed c.tools n).run db w₁ = (some s₁, w₂) →
        (s.proceed c.tools n').run db' w₁' = (some s₂, w₂') →
        s₁.WorkedOut → s₂.WorkedOut → worked = worked') ∧
    (∀ t, (Request.select (Pivot.rowSql t)).isShared = true) ∧
    (∀ (q : Query) tables pivot text, q.render tables pivot = .ok text →
      (Request.select text.sql).isShared = false) := by
  obtain ⟨xs, hxs, hleft⟩ := c.exists_exchanges_operate db w n
  obtain ⟨ys, hys, hright⟩ := c.exists_exchanges_operate db' w' n'
  rw [hxs, List.forall_mem_append] at horderly
  rw [hys, List.forall_mem_append] at horderly'
  rw [hxs, hys] at hanswers
  obtain ⟨hcalls, hrest, hresult⟩ :=
    c.alike_launch.same_calls hanswers horderly.1 horderly'.1
  refine ⟨hcalls, Dialogue.eq_of_rel_eq hresult, ?_, Pivot.isShared_rowSql,
    fun _ _ _ _ => Query.isShared_of_render⟩
  intro s w₁ w₁' hlaunch hlaunch' worked worked'
  obtain ⟨e, he⟩ := c.worker_of_run_launch hlaunch
  obtain ⟨hworker, hworld⟩ := hleft s w₁ hlaunch
  obtain ⟨hworker', hworld'⟩ := hright s w₁' hlaunch'
  rw [Session.exchanges_proceed _ _ he] at hworker hworker'
  rw [hworld, Session.run_proceed _ _ he] at hcancelled
  rw [hworld', Session.run_proceed _ _ he] at hcancelled'
  rw [hworker, hworker'] at hrest
  rw [hworker] at horderly
  rw [hworker'] at horderly'
  obtain ⟨hstarts, hequal⟩ := (Engine.Twin.refl e).work n n' hrest horderly.2 horderly'.2
    hcancelled hcancelled'
  have hworked : worked = (e.work c.tools c.token n).calls db w₁ :=
    congrArg (·.map (·.request)) (Session.exchanges_proceed db w₁ he n)
  have hworked' : worked' = (e.work c.tools c.token n').calls db' w₁' :=
    congrArg (·.map (·.request)) (Session.exchanges_proceed db' w₁' he n')
  rw [hworked, hworked']
  refine ⟨hstarts, fun s₁ s₂ w₂ w₂' hrun hrun' hs₁ hs₂ => ?_⟩
  obtain ⟨e₁, hwork⟩ := Session.run_work_of_workedOut db w₁ he hrun hs₁
  obtain ⟨e₂, hwork'⟩ := Session.run_work_of_workedOut db' w₁' he hrun' hs₂
  exact hequal e₁ e₂ w₂ w₂' hwork hwork'

/-- Its worker ends without an error within so many rounds, and nobody has cancelled it. -/
def endsWell (n : Nat) (db : Backend Unit) : Bool :=
  match (c.operate n).run db { state := () } with
  | (some (.ok { worker := some (.ended (.ok ()) _), .. }), w) => w.cancelled.isEmpty
  | _ => false

theorem exists_of_endsWell {c : Setup S} {n : Nat} {db : Backend Unit}
    (h : c.endsWell n db = true) : ∃ s w₁ s₁ w₂,
      c.launch.run db { state := () } = (some (.ok s), w₁) ∧
      (s.proceed c.tools n).run db w₁ = (some s₁, w₂) ∧ s₁.WorkedOut ∧
      c.token ∉ ((c.operate n).run db { state := () }).2.cancelled := by
  unfold endsWell at h
  split at h
  case h_1 e _ _ w₂ hoperate =>
    rw [List.isEmpty_iff] at h
    obtain ⟨launched, w₁, hlaunch, hproceed⟩ := Dialogue.run_seq_eq_some_iff.1 hoperate
    cases launched with
    | error err => cases hproceed
    | ok s =>
      obtain ⟨s₁, w₃, hproceed, hresult⟩ := Dialogue.run_seq_eq_some_iff.1 hproceed
      cases hresult
      refine ⟨s, w₁, _, w₂, hlaunch, hproceed, ⟨e, rfl⟩, ?_⟩
      rw [hoperate, h]
      exact List.not_mem_nil
  case h_2 => cases h

/-- Draws nothing of its statements but names and types. -/
def patient : Setup Unit where
  generator := { options := {
    maxColumns := 1
    maxRowsPerInsert := 1
    nullProbability := .one
    notNullProbability := .one
    primaryKeyProbability := .one } }
  synthesizer := bluntTools.synthesizer
  state := ()
  profile := { briefProfile with maxIterations := some 2, keepGoing := true }
  entropy := 0
  token := {}

def told (statement : Except ExecutionError Unit) (rows : Except ExecutionError Rows) :
    (r : Request) → Response r
  | .listTables _ => .ok [loneTable.name]
  | .listColumns _ _ => .ok loneTable.columns
  | .listIndexes _ _ => .ok []
  | .select sql => if Request.choosesPivot sql then .ok [[⟨.integer 7, ⟨"INTEGER"⟩⟩]] else rows
  | .exec _ => statement
  | .interruptHandle => ()
  | .dropDatabase _ | .createDatabase _ | .useDatabase _ | .seedRandom _ => .ok ()

/-- Takes all statements and no query. -/
def busy : Backend Unit := .fixed (told (.ok ()) (.error (.failed "SELECT" "busy")))

/-- Takes nothing. -/
def stuck : Backend Unit :=
  .fixed (told (.error (.failed "CREATE" "full")) (.error (.interrupted "SELECT")))

theorem calls_independent_patient : ∃ s w w',
    patient.launch.run busy { state := () } = (some (.ok s), w) ∧
    patient.launch.run stuck { state := () } = (some (.ok s), w') ∧
    patient.launch.calls busy { state := () } = patient.launch.calls stuck { state := () } ∧
    (s.proceed patient.tools 3).calls busy w = (s.proceed patient.tools 3).calls stuck w' := by
  have hends : (patient.endsWell 3 busy && patient.endsWell 3 stuck) = true := by decide +kernel
  obtain ⟨hbusy, hstuck⟩ := Bool.and_eq_true_iff.1 hends
  obtain ⟨s, w, s₁, w₁, hlaunch, hproceed, hs₁, hcancelled⟩ := exists_of_endsWell hbusy
  obtain ⟨s', w', s₂, w₂, hlaunch', hproceed', hs₂, hcancelled'⟩ := exists_of_endsWell hstuck
  have htold (r : Request) (hr : r.isShared = true) :
      told (.ok ()) (.error (.failed "SELECT" "busy")) r =
        told (.error (.failed "CREATE" "full")) (.error (.interrupted "SELECT")) r := by
    cases r with
    | select sql => exact (if_pos hr).trans (if_pos hr).symm
    | exec sql => cases hr
    | _ => rfl
  obtain ⟨hcalls, hsame, hworked, -⟩ := patient.calls_independent busy stuck { state := () }
    { state := () } 3 3 (answeredAlike_of_fixed htold) Exchange.isOrderly_of_fixed
    Exchange.isOrderly_of_fixed hcancelled hcancelled'
  rw [hlaunch, hlaunch'] at hsame
  cases hsame
  exact ⟨s, w, w', hlaunch, hlaunch', hcalls, (hworked s w w' hlaunch hlaunch').2 s₁ s₂ w₁ w₂
    hproceed hproceed' hs₁ hs₂⟩

end Setup

end PivotedQuery
