import Mathlib.Tactic.SplitIfs
import PivotedQuery.Proofs.Dialogue.Transcript
import PivotedQuery.Proofs.Pivot.Selection
import PivotedQuery.Proofs.Population.Filling
import PivotedQuery.Proofs.Query.Synthesis
import PivotedQuery.Proofs.Session.Lifecycle
/-!
Sessions in which nothing impossible is drawn. Main statement: with a valid profile, against a database
that answers, every call of every session comes to its end and no worker ever breaks down, except that
a start may fail for want of a buffer if the profile allows for more columns or rows than fit one.
-/
namespace PivotedQuery

open Dialogue (CompletesUnless completes_pure completes_crash completes_call completes_log
  completes_cancelled completes_cancelToken always_pure)

variable {σ G S : Type}

/-! Two places that have no draw but a guard of their own. -/

/-- The first tables as a slice, which there is only if the list is long enough. -/
def Pivot.Selection.chosen? (s : Selection) : Option (List Table) :=
  if s.count ≤ s.tables.length then some (s.tables.take s.count) else none

theorem Pivot.Selection.chosen?_of_draw {tables : List Table} {s : Selection}
    {source source' : Source} (h : Selection.draw tables source = (.ok s, source')) :
    s.chosen? = some s.chosen := by
  by_cases hempty : tables = []
  · rw [hempty] at h
    cases h
  · obtain ⟨hperm, -, hcount⟩ := (ensures_selection hempty).of_run h
    rw [← hperm.length_eq] at hcount
    exact if_pos hcount

namespace Comparison

/-- What an operator makes of an order. The two that tell NULLs apart make nothing of it. -/
def ofOrder? : Comparison → Ordering → Option Bool
  | eq, o => some (o == .eq)
  | ne, o => some (o != .eq)
  | lt, o => some (o == .lt)
  | le, o => some (o != .gt)
  | gt, o => some (o == .gt)
  | ge, o => some (o != .lt)
  | is, _ => none
  | isNot, _ => none

/-- The truth value by way of the order; none if an operator meets an order it makes nothing of. -/
def viaOrder? (op : Comparison) (a b : Value) : Option Truth :=
  match op with
  | is => some (some (same a b))
  | isNot => some (some (!same a b))
  | op => match a.order b with
    | none => some none
    | some o => (op.ofOrder? o).map some

theorem viaOrder?_eq (op : Comparison) (a b : Value) : op.viaOrder? a b = some (op.apply a b) := by
  unfold viaOrder? apply
  cases op with
  | is => rfl
  | isNot => rfl
  | _ => cases a.order b <;> rfl

end Comparison

/-! An iteration. -/

namespace Pivot

theorem completes_fetch (c : Choice) (tables : List Table) :
    (fetch c tables).Completes fun _ => True := by
  induction tables generalizing c with
  | nil => exact completes_pure trivial
  | cons table tables ih =>
    apply (completes_call _).bind
    intro reply _
    match reply with
    | .error e => exact completes_pure trivial
    | .ok [] => exact (completes_log _).bind fun _ _ => ih c
    | .ok (row :: _) =>
      dsimp only
      split
      · exact completes_pure trivial
      · exact ih _

theorem ensures_choose (tables : List Table) :
    (choose tables).Ensures fun r => r.2.Completes fun _ => True := by
  apply (ensures_choose_cases tables).mono
  rintro ⟨_, choice⟩ (rfl | ⟨chosen, rfl⟩)
  · exact completes_pure trivial
  · exact completes_fetch {} chosen

end Pivot

/-- Without columns nothing is drawn. -/
theorem Query.ensures_draw_any (hints : Bool) (maxDepth : Nat) (tables : List Table) :
    (draw hints maxDepth tables).Ensures fun _ => True := by
  by_cases hcolumns : tables.flatMap Table.typedKeys = []
  · unfold draw
    simp only [hcolumns, List.isEmpty_nil, if_true]
    split
    · exact Draw.ensures_pure trivial
    · exact Draw.ensures_pure trivial
  · exact (ensures_draw hints maxDepth hcolumns).mono fun _ _ => trivial

/-- From every source there is a query, or a reason why there is none. -/
def Synthesizer.Sound (s : Synthesizer S) : Prop :=
  ∀ maxDepth tables pivot state, (s.synthesize maxDepth tables pivot state).Ensures fun _ => True

theorem Synthesizer.pivoted_sound (hints : Bool) : (pivoted hints).Sound := by
  intro maxDepth tables pivot state
  apply (Query.ensures_draw_any hints maxDepth tables).bind
  rintro (err | q) -
  · exact Draw.ensures_pure trivial
  · exact Draw.ensures_pure trivial

/-- Tools that draw nothing impossible, as long as the maker of statements is good. The excuse is one
for statements only. -/
structure Tools.Sound (tools : Tools G S) (good : G → Prop) (excuse : Prop) : Prop where
  maker : tools.maker.Sound good excuse
  synthesizer : tools.synthesizer.Sound

theorem Tools.random_sound {options : GeneratorOptions} (h : options.Sound) (hints : Bool) :
    (random hints).Sound (Generator.Has options) (¬ options.Allocable) :=
  ⟨Generator.maker_sound h, Synthesizer.pivoted_sound hints⟩

theorem Containment.completes_check (pivot : PivotRow) (query : RenderedQuery) :
    (check pivot query).Completes fun _ => True := by
  unfold check
  split
  · exact completes_pure trivial
  apply (completes_log _).bind
  intro _ _
  apply (completes_log _).bind
  intro _ _
  apply (completes_log _).bind
  intro _ _
  apply (completes_call _).bind
  rintro (err | rows) -
  · exact completes_pure trivial
  have hjudge : (judge pivot query rows).Completes fun _ => True := by
    unfold judge
    split
    · exact (completes_log _).bind fun _ _ => completes_pure trivial
    · exact (completes_log _).bind fun _ _ => completes_pure trivial
  exact hjudge.bind fun _ _ => completes_pure trivial

namespace Engine

variable {tools : Tools G S}

theorem completes_draw {α : Type} {post : α → Prop} {d : Draw α} (hd : d.Ensures post)
    (e : Engine G S) : (e.draw d).Completes fun r => post r.1 := by
  obtain ⟨a, source, ha, hpost⟩ := hd e.bench.source
  unfold draw
  rw [ha]
  exact completes_pure hpost

theorem completes_query (htools : tools.synthesizer.Sound) (e : Engine G S) (c : Pivot.Choice) :
    (e.query tools c).Completes fun _ => True := by
  apply (completes_draw (htools _ _ _ _) e).bind
  rintro ⟨⟨err | query, synthesizer⟩, e'⟩ -
  · exact completes_pure trivial
  apply (completes_log _).bind
  intro _ _
  exact (Containment.completes_check c.pivot query).bind fun _ _ => completes_pure trivial

theorem completes_iterate (htools : tools.synthesizer.Sound) (e : Engine G S) :
    (e.iterate tools).Completes fun _ => True := by
  apply (Probe.completes_refresh _ _).bind
  rintro ⟨err | tables, snapshot⟩ -
  · exact completes_pure trivial
  apply (completes_draw (Pivot.ensures_choose tables) _).bind
  rintro ⟨⟨_, choice⟩, e'⟩ hchoice
  -- the choice of a pivot draws a dialogue, which the draw guarantees to come to its end
  apply CompletesUnless.bind hchoice
  rintro (err | choice) -
  · exact completes_pure trivial
  dsimp only
  split
  · exact (completes_log _).bind fun _ _ => completes_pure trivial
  · exact completes_query htools e' choice

/-- No error is taken for a breakdown of the worker. -/
def Calm (ending : Ending) : Prop := ending ≠ some (.error .workerPanicked)

theorem completes_settle (t : Token) (e : Engine G S) {result : Except SessionError Iteration}
    (h : ∀ err, result = .error err → Foreseen err) :
    (settle t e result).Completes fun r => Calm r.1 := by
  match result with
  | .ok .verified => exact completes_pure nofun
  | .ok .skipped => exact completes_pure nofun
  | .error err =>
    obtain ⟨f⟩ | ⟨m⟩ := h err rfl
    · apply (completes_cancelled t).bind
      intro cancelled _
      split
      · exact (completes_log _).bind fun _ _ => completes_pure nofun
      split
      · exact (completes_log _).bind fun _ _ => completes_pure nofun
      · exact completes_pure nofun
    · exact completes_pure nofun

theorem completes_round (htools : tools.synthesizer.Sound) (t : Token) (e : Engine G S) :
    (e.round tools t).Completes fun r => Calm r.1 := by
  apply (completes_cancelled t).bind
  intro cancelled _
  split
  · exact (completes_log _).bind fun _ _ => completes_pure nofun
  split
  · exact (completes_log _).bind fun _ _ => completes_pure nofun
  apply ((completes_iterate htools _).and (always_iterate tools _)).bind
  rintro ⟨result, e'⟩ ⟨-, -, hforeseen⟩
  exact completes_settle t e' hforeseen

theorem completes_work (htools : tools.synthesizer.Sound) (t : Token) (n : Nat)
    (e : Engine G S) : (work tools t n e).Completes fun r => Calm r.1 := by
  induction n generalizing e with
  | zero => exact completes_pure nofun
  | succ n ih =>
    apply (completes_round htools t e).bind
    rintro ⟨_ | result, e'⟩ hcalm
    · exact ih e'
    · exact completes_pure hcalm

end Engine

/-! The calls of a session. -/

/-- Of what is checked of a profile, as much as the draws rely on. -/
theorem Profile.room_of_validate {p : Profile} (h : p.validate = .ok ()) :
    0 < p.population.maxTables ∧ Draw.isProbability p.population.nullProbability = true := by
  have hnone : p.invalidity = none := by
    unfold validate at h
    split at h
    case h_1 => cases h
    case h_2 hnone => exact hnone
  unfold invalidity at hnone
  split_ifs at hnone with _ _ _ hroom _ _ hprobability
  exact ⟨Nat.pos_of_ne_zero hroom, by simpa using hprobability⟩

theorem Profile.sound_of_validate {p : Profile} (h : p.validate = .ok ()) :
    p.population.generatorOptions.Sound :=
  PopulationLimits.sound_generatorOptions (p.room_of_validate h).2

/-- Not broken down, and it does not say so of itself. -/
def Worker.Calm : Worker G S → Prop
  | running _ _ => True
  | ended result _ => result ≠ .error .workerPanicked
  | panicked => False

theorem Worker.completes_proceed {tools : Tools G S} (htools : tools.synthesizer.Sound) (n : Nat)
    {w : Worker G S} (hw : w.Calm) : (w.proceed tools n).Completes Calm := by
  cases w with
  | running t e =>
    apply (Engine.completes_work htools t n e).attempt.bind
    rintro _ ⟨⟨_ | result, e'⟩, rfl, hcalm⟩
    · exact completes_pure trivial
    · exact completes_pure fun h => hcalm (congrArg some h)
  | ended result e => exact completes_pure hw
  | panicked => cases hw

namespace Session

/-- A session that has not started draws nothing impossible once it starts, and no worker of it has
broken down. -/
structure Sound (good : G → Prop) (s : Session G S) : Prop where
  room : s.phase = .idle → 0 < s.database.limits.maxTables
  maker : s.phase = .idle → ∀ e, s.engine = some e → good e.bench.maker
  worker : ∀ w, s.worker = some w → w.Calm
  outcome : s.outcome ≠ some (.error .workerPanicked)

variable {tools : Tools G S} {good : G → Prop} {excuse : Prop} {s : Session G S}

/-- Only a valid profile opens a session. -/
theorem completes_opened {maker : G} (synthesizer : S) {profile : Profile} (entropy : UInt64)
    (hmaker : good maker) : (opened maker synthesizer profile entropy).Completes fun r =>
      ∀ s, r = .ok s → profile.validate = .ok () ∧ s.Sound good := by
  unfold opened
  -- an invalid profile opens nothing, so what follows may use that it is valid
  split
  · exact completes_pure fun s h => nomatch h
  case h_2 hvalid =>
    apply (completes_log _).bind
    intro _ _
    apply (completes_call _).bind
    rintro (err | _) -
    · exact completes_pure fun s h => nomatch h
    · refine completes_pure ?_
      rintro _ ⟨⟩
      refine ⟨hvalid, fun _ => (profile.room_of_validate hvalid).1, ?_, fun _ => (nomatch ·),
        (nomatch ·)⟩
      rintro _ _ ⟨⟩
      exact hmaker

theorem completes_snapshot (database : WorkingDatabase) (e : Engine G S) :
    (snapshot database e).Completes fun r =>
      r.2.1 = .snapshotting ∧ r.1 ≠ .error .workerPanicked := by
  apply (Probe.completes_refresh _ _).bind
  rintro ⟨err | tables, snapshot⟩ -
  · exact completes_pure ⟨rfl, nofun⟩
  · exact (completes_log _).bind fun _ _ => completes_pure ⟨rfl, nofun⟩

theorem completes_prepare (htools : tools.Sound good excuse) {database : WorkingDatabase}
    (hroom : 0 < database.limits.maxTables) {e : Engine G S} (he : good e.bench.maker) :
    (prepare tools database e).CompletesUnless excuse fun r =>
      r.2.1 ≠ .idle ∧ r.1 ≠ .error .workerPanicked := by
  apply database.completes_reset.unless.bind
  rintro (err | _) -
  · exact completes_pure ⟨nofun, nofun⟩
  apply (WorkingDatabase.succeeds_populate htools.maker hroom e.bench he).unless.bind
  rintro ⟨_, bench⟩ ⟨-, hgranted⟩
  cases hgranted with
  | overflow hexcuse => exact completes_crash hexcuse
  | ok =>
    apply (completes_snapshot database { e with bench }).unless.mono
    rintro ⟨result, phase, e'⟩ ⟨rfl, hresult⟩
    exact ⟨nofun, hresult⟩

/-- The excuse counts only where there is something to start. -/
theorem completes_start (htools : tools.Sound good excuse) (t : Token) (hs : s.Sound good) :
    (s.start tools t).CompletesUnless (s.phase = .idle ∧ excuse) fun r =>
      r.2.Sound good ∧ r.1 ≠ .error .workerPanicked := by
  unfold start
  split
  case h_1 e hphase hengine =>
    have hprepare := completes_prepare htools (hs.room hphase) (hs.maker hphase e hengine)
    apply (hprepare.imp fun hexcuse => ⟨hphase, hexcuse⟩).bind
    rintro ⟨err | _, phase, e'⟩ ⟨hnext, hresult⟩
    · exact completes_pure ⟨⟨fun h => absurd h hnext, fun h => absurd h hnext, hs.worker,
        hs.outcome⟩, fun h => hresult (congrArg _ (Except.error.inj h))⟩
    · apply (completes_call _).bind
      intro _ _
      refine completes_pure ⟨⟨nofun, nofun, ?_, hs.outcome⟩, nofun⟩
      rintro _ ⟨⟩
      trivial
  case h_2 => exact completes_pure ⟨hs, nofun⟩

theorem completes_wait (htools : tools.Sound good excuse) (n : Nat) (hs : s.Sound good) :
    (s.wait tools n).Completes fun r => ∀ s', r = some s' → s'.Sound good := by
  unfold wait
  split
  · refine completes_pure ?_
    rintro _ ⟨⟩
    exact hs
  case h_2 w hworker =>
    apply (Worker.completes_proceed htools.synthesizer n (hs.worker w hworker)).bind
    intro w' hw'
    cases w' with
    | running t e => exact completes_pure fun s' h => nomatch h
    | ended result e =>
      refine completes_pure ?_
      rintro _ ⟨⟩
      exact ⟨(nomatch ·), (nomatch ·), fun _ => (nomatch ·), fun h => hw' (Option.some.inj h)⟩
    | panicked => cases hw'

theorem result_ne_panic {outcome : Option (Except SessionError Unit)}
    (h : outcome ≠ some (.error .workerPanicked)) (reset : Except ExecutionError Unit)
    (stats : Stats) : result outcome reset stats ≠ .error .workerPanicked := by
  match outcome, reset with
  | some (.error e), _ => exact fun hpanic => h (congrArg some (congrArg _ (Except.error.inj hpanic)))
  | some (.ok ()), .error e => exact nofun
  | some (.ok ()), .ok () => exact nofun
  | none, .error e => exact nofun
  | none, .ok () => exact nofun

theorem completes_finish (hs : s.Sound good) :
    s.finish.Completes fun r => r.2.Sound good ∧ r.1 ≠ .error .workerPanicked := by
  have finished (reset : Except ExecutionError Unit) : s.released.Sound good ∧
      result s.outcome reset s.stats ≠ .error .workerPanicked :=
    ⟨⟨nofun, nofun, hs.worker, nofun⟩, result_ne_panic hs.outcome _ _⟩
  unfold finish
  cases s.engine with
  | none => exact (completes_log _).bind fun _ _ => completes_pure (finished (.ok ()))
  | some e =>
    apply s.database.completes_reset.bind
    intro reset _
    exact (completes_log _).bind fun _ _ => completes_pure (finished reset)

theorem completes_close (htools : tools.Sound good excuse) (n : Nat) (hs : s.Sound good) :
    (s.close tools n).Completes fun r => ∀ result s', r = some (result, s') →
      s'.Sound good ∧ result ≠ .error .workerPanicked := by
  by_cases hclosed : s.phase = .closed
  · rw [close_eq_of_closed tools n hclosed]
    refine completes_pure ?_
    rintro _ _ ⟨⟩
    exact ⟨hs, nofun⟩
  rw [close_eq tools n hclosed]
  have hhalt : (s.halt tools n).Completes fun r => ∀ s', r = some s' → s'.Sound good := by
    unfold halt
    cases s.token with
    | none => exact completes_wait htools n hs
    | some t => exact (completes_cancelToken t).bind fun _ _ => completes_wait htools n hs
  apply hhalt.bind
  rintro (_ | s₁) hs₁
  · exact completes_pure fun result s' h => nomatch h
  apply (completes_finish (hs₁ s₁ rfl)).bind
  rintro ⟨result, s₂⟩ hfinish
  refine completes_pure ?_
  rintro _ _ ⟨⟩
  exact hfinish

theorem completes_run (htools : tools.Sound good excuse) (t : Token) (n : Nat)
    (hs : s.Sound good) : (s.run tools t n).CompletesUnless (s.phase = .idle ∧ excuse) fun r =>
      ∀ result s', r = some (result, s') → s'.Sound good ∧ result ≠ .error .workerPanicked := by
  apply (completes_start htools t hs).bind
  rintro ⟨err | _, s₁⟩ ⟨hs₁, hresult⟩
  -- whatever closing gives, the error of the start is what is returned
  · have herr : (.error err : Except SessionError Stats) ≠ .error .workerPanicked :=
      fun h => hresult (congrArg _ (Except.error.inj h))
    apply (completes_close htools n hs₁).unless.bind
    rintro (_ | ⟨e | stats, s₂⟩) hclose
    · exact completes_pure fun result s' h => nomatch h
    · apply (completes_log _).bind
      intro _ _
      refine completes_pure ?_
      rintro _ _ ⟨⟩
      exact ⟨(hclose _ _ rfl).1, herr⟩
    · refine completes_pure ?_
      rintro _ _ ⟨⟩
      exact ⟨(hclose _ _ rfl).1, herr⟩
  · apply (completes_wait htools n hs₁).unless.bind
    rintro (_ | s₂) hwait
    · exact completes_pure fun result s' h => nomatch h
    · exact (completes_close htools n (hwait s₂ rfl)).unless

theorem completes_proceed (htools : tools.Sound good excuse) (n : Nat) (hs : s.Sound good) :
    (s.proceed tools n).Completes (·.Sound good) := by
  unfold proceed
  split
  · exact completes_pure hs
  case h_2 w hworker =>
    apply (Worker.completes_proceed htools.synthesizer n (hs.worker w hworker)).bind
    intro w' hw'
    refine completes_pure ⟨hs.room, hs.maker, ?_, hs.outcome⟩
    rintro _ ⟨⟩
    exact hw'

end Session

/-- No reply tells of a worker that has broken down. -/
def Reply.Calm : Reply → Prop
  | silent => True
  | started result => result ≠ .error .workerPanicked
  | closed result => result ≠ .error .workerPanicked

/-- The call has to start the session first. -/
def Operation.starts : Operation → Bool
  | start _ | run _ _ => true
  | _ => false

theorem Operation.completes_perform {tools : Tools G S} {good : G → Prop} {excuse : Prop}
    {s : Session G S} (htools : tools.Sound good excuse) (op : Operation) (hs : s.Sound good) :
    (op.perform tools s).CompletesUnless (op.starts = true ∧ s.phase = .idle ∧ excuse) fun r =>
      ∀ reply s', r = some (reply, s') → s'.Sound good ∧ reply.Calm := by
  cases op with
  | start t =>
    apply ((Session.completes_start htools t hs).imp fun h => ⟨rfl, h⟩).bind
    rintro ⟨result, s'⟩ hstart
    refine completes_pure ?_
    rintro _ _ ⟨⟩
    exact hstart
  | wait n =>
    apply (Session.completes_wait htools n hs).unless.bind
    intro r hwait
    refine completes_pure fun reply s' h => ?_
    obtain ⟨s₁, rfl, h⟩ := Option.map_eq_some_iff.1 h
    cases h
    exact ⟨hwait _ rfl, trivial⟩
  | close n =>
    apply (Session.completes_close htools n hs).unless.bind
    intro r hclose
    refine completes_pure fun reply s' h => ?_
    obtain ⟨⟨result, s₁⟩, rfl, h⟩ := Option.map_eq_some_iff.1 h
    cases h
    exact hclose _ _ rfl
  | run t n =>
    apply ((Session.completes_run htools t n hs).imp fun h => ⟨rfl, h⟩).bind
    intro r hrun
    refine completes_pure fun reply s' h => ?_
    obtain ⟨⟨result, s₁⟩, rfl, h⟩ := Option.map_eq_some_iff.1 h
    cases h
    exact hrun _ _ rfl
  | cancel t =>
    apply (completes_cancelToken t).bind
    intro _ _
    refine completes_pure ?_
    rintro _ _ ⟨⟩
    exact ⟨hs, trivial⟩
  | proceed n =>
    apply (Session.completes_proceed htools n hs).unless.bind
    intro s₁ hproceed
    refine completes_pure ?_
    rintro _ _ ⟨⟩
    exact ⟨hproceed, trivial⟩

namespace Since

variable {tools : Tools G S} {good : G → Prop} {excuse : Prop} {db : Backend σ}
  {m₀ m : Moment σ G S} {calls : List (Call σ G S)}

/-- Each call that comes back keeps the session sound, and so does every sequence of them. -/
theorem sound (htools : tools.Sound good excuse) (hdb : db.Answers)
    (h : Since tools db m₀ calls m) (h₀ : m₀.session.Sound good) :
    m.session.Sound good ∧ ∀ c ∈ calls, c.reply.Calm := by
  induction h with
  | now => exact ⟨h₀, fun c hc => absurd hc List.not_mem_nil⟩
  | @call calls c _ hc ih =>
    obtain ⟨hsound, hcalm⟩ := ih
    have hcases := (c.operation.completes_perform htools hsound).run_cases hdb c.before.world
    -- the run that is known to end is the one on record, since a run has one result
    rw [hc] at hcases
    obtain ⟨_, _, hrun, hpost⟩ | ⟨-, hnone⟩ := hcases
    · cases hrun
      obtain ⟨hafter, hreply⟩ := hpost _ _ rfl
      exact ⟨hafter, List.forall_mem_cons.2 ⟨hreply, hcalm⟩⟩
    · cases hnone

end Since

/-- Lists one table twice and one without columns, takes no statement, and gives rows that fit no
table. -/
def oddBackend : Backend Unit := .fixed fun
  | .listTables _ => .ok [loneTable.name, loneTable.name, ⟨"u"⟩]
  | .listColumns _ table => .ok (if table == loneTable.name then loneTable.columns else [])
  | .listIndexes _ _ => .ok []
  | .select _ => .ok [[⟨.null, ⟨""⟩⟩, ⟨.null, ⟨""⟩⟩]]
  | .exec sql => .error (.failed sql "refused")
  | .dropDatabase _ | .createDatabase _ | .useDatabase _ | .seedRandom _ => .ok ()
  | .interruptHandle => ()

/-- Allows for more columns than there is a buffer for. -/
def wideProfile : Profile where
  seed := some 1
  population := { maxTables := 1, maxIndexes := 0, maxColumns := 2 ^ 64 - 1 }

end PivotedQuery
