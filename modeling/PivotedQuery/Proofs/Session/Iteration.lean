import PivotedQuery.Proofs.Dialogue.Run
import PivotedQuery.Session.Engine
/-!
An iteration is an approach, which ends early or makes a query, and the check of that query. Main
statements: an iteration leaves the statistics and the profile as they are, its errors are faults
and mismatches, and it reports a mismatch just where its check fails.
-/
namespace PivotedQuery.Engine

open Dialogue (always_pure always_trivial)

variable {σ G S : Type}

/-- What an iteration has come to before its check. -/
inductive Approach (G S : Type)
  | ended (step : Step G S)
  | ready (pivot : PivotRow) (query : RenderedQuery) (e : Engine G S)

def Approach.conclude : Approach G S → Dialogue (Step G S)
  | ended step => return step
  | ready pivot query e => return e.verdict (← Containment.check pivot query)

def approachQuery (tools : Tools G S) (e : Engine G S) (c : Pivot.Choice) :
    Dialogue (Approach G S) := do
  let ((result, synthesizer), e) ←
    e.draw (tools.synthesizer.synthesize e.profile.maxDepth c.used c.pivot e.synthesizer)
  let e := { e with synthesizer }
  match result with
  | .error err => return .ended (.error (.fault (.synthesis err)), e)
  | .ok query =>
    Dialogue.log (.synthesized query c.pivot)
    return .ready c.pivot query e

def approach (tools : Tools G S) (e : Engine G S) : Dialogue (Approach G S) := do
  let (result, snapshot) ← Probe.refresh e.profile.database e.snapshot
  let e := { e with snapshot }
  match result with
  | .error err => return .ended (.error (.fault (.schema err)), e)
  | .ok tables =>
    let ((_, choice), e) ← e.draw (Pivot.choose tables)
    match ← choice with
    | .error err => return .ended (.error (.fault (.pivot err)), e)
    | .ok choice =>
      if choice.used.isEmpty then
        Dialogue.log .nothingChosen
        return .ended (.ok .skipped, e)
      else e.approachQuery tools choice

theorem query_eq (tools : Tools G S) (e : Engine G S) (c : Pivot.Choice) :
    e.query tools c = e.approachQuery tools c >>= Approach.conclude := by
  unfold query approachQuery
  rw [bind_assoc]
  congr 1
  funext ⟨⟨result, synthesizer⟩, e⟩
  cases result with
  | error err => rfl
  | ok query => rfl

theorem iterate_eq (tools : Tools G S) (e : Engine G S) :
    e.iterate tools = e.approach tools >>= Approach.conclude := by
  unfold iterate approach
  rw [bind_assoc]
  congr 1
  funext ⟨result, snapshot⟩
  cases result with
  | error err => rfl
  | ok tables =>
    dsimp only
    rw [bind_assoc]
    congr 1
    funext ⟨⟨_, choice⟩, e⟩
    dsimp only
    rw [bind_assoc]
    congr 1
    funext choice
    cases choice with
    | error err => rfl
    | ok choice =>
      dsimp only
      split
      · rfl
      · exact query_eq tools e choice

/-- The statistics and the profile of both are the same. -/
structure Agrees (e e' : Engine G S) : Prop where
  stats_eq : e'.stats = e.stats
  profile_eq : e'.profile = e.profile

theorem Agrees.trans {e₁ e₂ e₃ : Engine G S} (h : e₁.Agrees e₂) (h' : e₂.Agrees e₃) :
    e₁.Agrees e₃ :=
  ⟨h'.stats_eq.trans h.stats_eq, h'.profile_eq.trans h.profile_eq⟩

/-- An approach that is over has found no mismatch. -/
def Approach.From (e : Engine G S) : Approach G S → Prop
  | ended (result, e') => e.Agrees e' ∧
      (result = .ok .skipped ∨ ∃ f, result = .error (.fault f))
  | ready _ _ e' => e.Agrees e'

theorem always_draw {α : Type} (e : Engine G S) (d : Draw α) :
    (e.draw d).Always fun r => e.Agrees r.2 := by
  unfold draw
  split
  · exact always_pure ⟨rfl, rfl⟩
  · trivial

theorem always_approachQuery (tools : Tools G S) {e₀ e : Engine G S} (h : e₀.Agrees e)
    (c : Pivot.Choice) : (e.approachQuery tools c).Always (·.From e₀) := by
  apply (always_draw e _).bind
  rintro ⟨⟨result, synthesizer⟩, e'⟩ hdraw
  have hagrees : e₀.Agrees { e' with synthesizer } := h.trans ⟨hdraw.stats_eq, hdraw.profile_eq⟩
  cases result with
  | error err => exact always_pure ⟨hagrees, .inr ⟨_, rfl⟩⟩
  | ok query => exact (always_trivial _).bind fun _ _ => always_pure hagrees

theorem always_approach (tools : Tools G S) (e : Engine G S) :
    (e.approach tools).Always (·.From e) := by
  apply (always_trivial _).bind
  rintro ⟨result, snapshot⟩ -
  cases result with
  | error err => exact always_pure ⟨⟨rfl, rfl⟩, .inr ⟨_, rfl⟩⟩
  | ok tables =>
    apply (always_draw _ _).bind
    rintro ⟨⟨_, choice⟩, e'⟩ hdraw
    have hagrees : e.Agrees e' := ⟨hdraw.stats_eq, hdraw.profile_eq⟩
    apply (always_trivial choice).bind
    rintro (err | choice) -
    · exact always_pure ⟨hagrees, .inr ⟨_, rfl⟩⟩
    · dsimp only
      split
      · exact (always_trivial _).bind fun _ _ => always_pure ⟨hagrees, .inl rfl⟩
      · exact always_approachQuery tools hagrees choice

/-- An error of an iteration or of the whole work. -/
inductive Foreseen : SessionError → Prop
  | fault (f : Fault) : Foreseen (.fault f)
  | mismatch (m : Mismatch) : Foreseen (.mismatch m)

theorem verdict_snd (e : Engine G S) (r : Except Fault Verdict) : (e.verdict r).2 = e := by
  match r with
  | .error f => rfl
  | .ok .pass => rfl
  | .ok (.fail m) => rfl

theorem foreseen_of_verdict {e : Engine G S} {r : Except Fault Verdict} {err : SessionError}
    (h : (e.verdict r).1 = .error err) : Foreseen err := by
  match r with
  | .error f =>
    cases h
    exact .fault f
  | .ok .pass => cases h
  | .ok (.fail m) =>
    cases h
    exact .mismatch m

theorem always_iterate (tools : Tools G S) (e : Engine G S) :
    (e.iterate tools).Always fun r => e.Agrees r.2 ∧ ∀ err, r.1 = .error err → Foreseen err := by
  rw [iterate_eq]
  apply (always_approach tools e).bind
  rintro (⟨result, e'⟩ | ⟨pivot, query, e'⟩) hfrom
  · refine always_pure ⟨hfrom.1, fun err herr => ?_⟩
    obtain rfl | ⟨f, rfl⟩ := hfrom.2
    · cases herr
    · cases herr
      exact .fault f
  · refine (always_trivial _).bind fun r _ => always_pure ⟨?_, fun err => foreseen_of_verdict⟩
    rw [verdict_snd]
    exact hfrom

theorem verdict_eq_mismatch_iff {e e' : Engine G S} {r : Except Fault Verdict} {m : Mismatch} :
    e.verdict r = (.error (.mismatch m), e') ↔ r = .ok (.fail m) ∧ e' = e := by
  match r with
  | .error f => simp [verdict]
  | .ok .pass => simp [verdict]
  | .ok (.fail m') => simp [verdict, eq_comm]

/-- The check is the last thing that an iteration does before it reports a mismatch. -/
theorem run_iterate_eq_mismatch_iff {tools : Tools G S} {db : Backend σ} {e e' : Engine G S}
    {w w' : World σ} {m : Mismatch} :
    (e.iterate tools).run db w = (some (.error (.mismatch m), e'), w') ↔
      ∃ pivot query w₁, (e.approach tools).run db w = (some (.ready pivot query e'), w₁) ∧
        (Containment.check pivot query).run db w₁ = (some (.ok (.fail m)), w') := by
  rw [iterate_eq, Dialogue.run_seq_eq_some_iff]
  constructor
  · rintro ⟨a, w₁, happroach, hconclude⟩
    have hfrom := (always_approach tools e).of_run happroach
    cases a with
    | ended step =>
      cases hconclude
      obtain h | ⟨f, h⟩ := hfrom.2
      · cases h
      · cases h
    | ready pivot query e₁ =>
      obtain ⟨r, w₂, hcheck, hverdict⟩ := Dialogue.run_seq_eq_some_iff.1 hconclude
      obtain ⟨hresult, rfl⟩ := Dialogue.run_pure_eq_some_iff.1 hverdict
      obtain ⟨rfl, rfl⟩ := verdict_eq_mismatch_iff.1 hresult
      exact ⟨pivot, query, w₁, happroach, hcheck⟩
  · rintro ⟨pivot, query, w₁, happroach, hcheck⟩
    refine ⟨_, w₁, happroach, ?_⟩
    exact Dialogue.run_seq_eq_some_iff.2 ⟨_, w', hcheck, rfl⟩

end PivotedQuery.Engine
