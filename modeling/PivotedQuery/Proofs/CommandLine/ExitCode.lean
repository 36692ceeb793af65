import PivotedQuery.CommandLine.Program
import PivotedQuery.Proofs.Session.Fresh
import PivotedQuery.Proofs.Session.Unbroken
import PivotedQuery.Store.DataSource
/-!
How a run of the program ends, and with which exit code. Main statement: a session that has begun ends
with code zero for statistics, one for a mismatch and two for any other error, and whatever keeps it
from beginning ends with code one like a mismatch.
-/
namespace PivotedQuery

open Dialogue (call run_seq run_seq_none run_seq_eq_some_iff)

variable {σ : Type}

/-- The profile to run with: that of the file, if one is named, under the options. -/
def Options.profile (readFile : String → Option ByteArray) (o : Options) :
    Except ProfileError Profile :=
  match o.config with
  | none => .ok (o.override {})
  | some path => (Profile.load path (readFile path)).map o.override

namespace Program

/-- What a run with accepted arguments comes to. -/
inductive Finish
  | unconfigured (e : ProfileError)
  | unopened (e : ExecutionError)
  | invalid (e : ProfileError)
  | unseeded (e : ExecutionError)
  | closed (result : Except SessionError Stats)

namespace Finish

def exitCode : Finish → UInt8
  | closed (.ok _) => 0
  | closed (.error (.mismatch _)) => 1
  | closed (.error _) => 2
  | _ => 1

/-- The session did not begin. -/
def IsEarly : Finish → Prop
  | closed _ => False
  | _ => True

variable {f : Finish}

theorem exitCode_eq_zero_iff : f.exitCode = 0 ↔ ∃ stats, f = closed (.ok stats) := by
  rcases f with e | e | e | e | ((fault | mismatch | misuse | panic) | stats)
  all_goals simp [exitCode]

theorem exitCode_eq_one_iff :
    f.exitCode = 1 ↔ (∃ m, f = closed (.error (.mismatch m))) ∨ f.IsEarly := by
  rcases f with e | e | e | e | ((fault | mismatch | misuse | panic) | stats)
  all_goals simp [exitCode, IsEarly]

theorem exitCode_eq_two_iff :
    f.exitCode = 2 ↔ ∃ err, f = closed (.error err) ∧ ∀ m, err ≠ .mismatch m := by
  rcases f with e | e | e | e | ((fault | mismatch | misuse | panic) | stats)
  all_goals simp [exitCode]

/-- There is no other code. -/
theorem exitCode_le_two (f : Finish) : f.exitCode ≤ 2 := by
  unfold exitCode
  split
  all_goals decide

end Finish

/-- The opening of the session that the profile asks for. -/
def opening (profile : Profile) (entropy : UInt64) :
    Dialogue (Except SessionError (Session Generator Unit)) :=
  Session.opened (Generator.fresh profile.population) () profile entropy

/-- That session from its start to its end. -/
def conduct (profile : Profile) (s : Session Generator Unit) :
    Dialogue (Option (Except SessionError Stats × Session Generator Unit)) :=
  s.run (Tools.random profile.hints) {} (enoughRounds profile)

/-- A new database in which only the opening of a session has been reported. -/
def announced (state : σ) (profile : Profile) (entropy : UInt64) : World σ :=
  World.noted { state } (.opened profile.dataSource (profile.seed.getD entropy))

section

variable (db : Backend σ) (openDatabase : Profile → Except ExecutionError σ)
  (readFile : String → Option ByteArray) (entropy : UInt64) (options : Options)

/-- The stages of a run up to the first that fails. -/
inductive Finishes : Finish → Prop
  | unconfigured {e : ProfileError} (hprofile : options.profile readFile = .error e) :
      Finishes (.unconfigured e)
  | unopened {p : Profile} {e : ExecutionError} (hprofile : options.profile readFile = .ok p)
      (hopen : openDatabase p = .error e) : Finishes (.unopened e)
  | invalid {p : Profile} {state : σ} {e : ProfileError}
      (hprofile : options.profile readFile = .ok p) (hopen : openDatabase p = .ok state)
      (hvalid : p.validate = .error e) : Finishes (.invalid e)
  | unseeded {p : Profile} {state : σ} {e : ExecutionError} {w : World σ}
      (hprofile : options.profile readFile = .ok p) (hopen : openDatabase p = .ok state)
      (hvalid : p.validate = .ok ())
      (hseed : (call (.seedRandom (p.seed.getD entropy))).run db (announced state p entropy) =
        (some (.error e), w)) : Finishes (.unseeded e)
  | closed {p : Profile} {state : σ} {s s' : Session Generator Unit}
      {result : Except SessionError Stats} {w w' : World σ}
      (hprofile : options.profile readFile = .ok p) (hopen : openDatabase p = .ok state)
      (hopened : (opening p entropy).run db { state } = (some (.ok s), w))
      (hrun : (conduct p s).run db w = (some (some (result, s')), w')) :
      Finishes (.closed result)

end

section

variable {db : Backend σ} {openDatabase : Profile → Except ExecutionError σ}
  {readFile : String → Option ByteArray} {entropy : UInt64} {options : Options}
  {args : List String} {p : Profile} {state : σ} {w : World σ}

theorem configure_eq (hargs : Options.parse args = .ok options) : configure readFile args =
    match options.profile readFile with
    | .error e => .error (.noProfile e)
    | .ok p => .ok (options, p) := by
  unfold configure Options.profile
  rw [hargs]
  dsimp only
  cases options.config with
  | none => rfl
  | some path =>
    dsimp only
    cases Profile.load path (readFile path) with
    | error e => rfl
    | ok p => rfl

/-! The opening. -/

theorem run_opening_of_invalid {e : ProfileError} (hvalid : p.validate = .error e) :
    (opening p entropy).run db { state } = (some (.error (.fault (.profile e))), { state }) := by
  unfold opening Session.opened
  rw [hvalid]
  rfl

theorem run_opening_of_unseeded {e : ExecutionError} (hvalid : p.validate = .ok ())
    (hseed : (call (.seedRandom (p.seed.getD entropy))).run db (announced state p entropy) =
      (some (.error e), w)) :
    (opening p entropy).run db { state } = (some (.error (.fault (.execution e))), w) := by
  unfold opening Session.opened
  rw [hvalid]
  exact run_seq db hseed

theorem opening_cases {e : SessionError}
    (h : (opening p entropy).run db { state } = (some (.error e), w)) :
    (∃ e', p.validate = .error e') ∨ (p.validate = .ok () ∧ ∃ e' w',
      (call (.seedRandom (p.seed.getD entropy))).run db (announced state p entropy) =
        (some (.error e'), w')) := by
  cases hvalid : p.validate with
  | error e' => exact .inl ⟨e', rfl⟩
  | ok =>
    unfold opening Session.opened at h
    rw [hvalid] at h
    obtain ⟨_, _, ⟨⟩, hcall⟩ := run_seq_eq_some_iff.1 h
    obtain ⟨reply, w', hseed, hrest⟩ := run_seq_eq_some_iff.1 hcall
    cases reply with
    | error e' => exact .inr ⟨rfl, e', w', hseed⟩
    | ok => cases hrest

/-! The session as a whole. -/

theorem onDatabase_of_refused {e : SessionError}
    (h : (opening p entropy).run db { state } = (some (.error e), w)) :
    onDatabase db state [] p entropy = (some (some (.notOpened e)), w) :=
  run_seq db h

theorem onDatabase_of_closed {s s' : Session Generator Unit} {result : Except SessionError Stats}
    {w' : World σ} (hopened : (opening p entropy).run db { state } = (some (.ok s), w))
    (hrun : (conduct p s).run db w = (some (some (result, s')), w')) :
    onDatabase db state [] p entropy = (some (some (ofResult s.seed result)), w') := by
  refine (run_seq db hopened).trans ?_
  exact run_seq db hrun

theorem onDatabase_cases {o : Option Outcome}
    (h : onDatabase db state [] p entropy = (some o, w)) :
    (∃ e w₁, (opening p entropy).run db { state } = (some (.error e), w₁)) ∨
      ∃ s w₁ r w₂, (opening p entropy).run db { state } = (some (.ok s), w₁) ∧
        (conduct p s).run db w₁ = (some r, w₂) ∧ (r = none → o = none) := by
  obtain ⟨opened, w₁, hopened, hrest⟩ := run_seq_eq_some_iff.1 h
  cases opened with
  | error e => exact .inl ⟨e, w₁, hopened⟩
  | ok s =>
    obtain ⟨r, w₂, hrun, hreply⟩ := run_seq_eq_some_iff.1 hrest
    refine .inr ⟨s, w₁, r, w₂, hopened, hrun, ?_⟩
    rintro rfl
    cases hreply
    rfl

theorem completes_session (p : Profile) (entropy : UInt64) :
    (session p entropy {} (enoughRounds p)).CompletesUnless
      (¬ p.population.generatorOptions.Allocable) fun _ => True := by
  have hfresh : (Generator.fresh p.population).Has p.population.generatorOptions := rfl
  apply (Session.completes_opened () entropy hfresh).unless.bind
  rintro (e | s) hsound
  · exact Dialogue.completes_pure trivial
  obtain ⟨hvalid, hs⟩ := hsound s rfl
  have hrun := Session.completes_run (Tools.random_sound (p.sound_of_validate hvalid) p.hints) {}
    (enoughRounds p) hs
  apply (hrun.imp And.right).bind
  rintro (_ | ⟨result, s'⟩) -
  · exact Dialogue.completes_pure trivial
  · exact Dialogue.completes_pure trivial

theorem exitCode_ofResult (seed : UInt64) (result : Except SessionError Stats) :
    (ofResult seed result).exitCode = (Finish.closed result).exitCode := by
  match result with
  | .ok stats => rfl
  | .error (.mismatch m) => rfl
  | .error (.fault f) => rfl
  | .error (.lifecycle action phase) => rfl
  | .error .workerPanicked => rfl

/-! The program. -/

theorem run_eq (hargs : Options.parse args = .ok options) :
    (run db openDatabase readFile entropy args).outcome =
      match options.profile readFile with
      | .error e => some (.noProfile e)
      | .ok p =>
        match openDatabase p with
        | .error e => some (.notOpened (.fault (.execution e)))
        | .ok state =>
          match onDatabase db state [] p entropy with
          | (some outcome, _) => outcome
          | (none, _) => some .crashed := by
  unfold run
  rw [configure_eq hargs]
  cases options.profile readFile with
  | error e => rfl
  | ok p =>
    dsimp only
    cases openDatabase p with
    | error e => rfl
    | ok state =>
      dsimp only
      cases onDatabase db state [] p entropy with
      | mk r w =>
        cases r with
        | none => rfl
        | some o => rfl

theorem exitCode_of_finishes (hargs : Options.parse args = .ok options) {f : Finish}
    (h : Finishes db openDatabase readFile entropy options f) :
    (run db openDatabase readFile entropy args).outcome.map Outcome.exitCode =
      some f.exitCode := by
  rw [run_eq hargs]
  cases h with
  | unconfigured hprofile =>
    rw [hprofile]
    rfl
  | unopened hprofile hopen =>
    rw [hprofile]
    dsimp only
    rw [hopen]
    rfl
  | invalid hprofile hopen hvalid =>
    rw [hprofile]
    dsimp only
    rw [hopen]
    dsimp only
    rw [onDatabase_of_refused (run_opening_of_invalid hvalid)]
    rfl
  | unseeded hprofile hopen hvalid hseed =>
    rw [hprofile]
    dsimp only
    rw [hopen]
    dsimp only
    rw [onDatabase_of_refused (run_opening_of_unseeded hvalid hseed)]
    rfl
  | closed hprofile hopen hopened hrun =>
    rw [hprofile]
    dsimp only
    rw [hopen]
    dsimp only
    rw [onDatabase_of_closed hopened hrun]
    exact congrArg some (exitCode_ofResult _ _)

/-- A run that does not come to an end has broken down or goes on without a bound. -/
theorem finishes_cases (db : Backend σ) (openDatabase : Profile → Except ExecutionError σ)
    (readFile : String → Option ByteArray) (entropy : UInt64)
    (hargs : Options.parse args = .ok options) :
    (∃ f, Finishes db openDatabase readFile entropy options f) ∨
    ((run db openDatabase readFile entropy args).outcome = some .crashed ∧ (db.Answers →
      ∃ p, options.profile readFile = .ok p ∧ ¬ p.population.generatorOptions.Allocable)) ∨
    ((run db openDatabase readFile entropy args).outcome = none ∧
      ∃ p, options.profile readFile = .ok p ∧ p.maxIterations = none) := by
  rw [run_eq hargs]
  cases hprofile : options.profile readFile with
  | error e => exact .inl ⟨_, .unconfigured hprofile⟩
  | ok p =>
    dsimp only
    cases hopen : openDatabase p with
    | error e => exact .inl ⟨_, .unopened hprofile hopen⟩
    | ok state =>
      dsimp only
      cases hsession : onDatabase db state [] p entropy with
      | mk r w =>
        cases r with
        | none =>
          -- every draw of a valid profile is possible, so unless the database has broken off, only a
          -- buffer can be lacking
          refine .inr (.inl ⟨rfl, fun hdb => ⟨p, rfl, ?_⟩⟩)
          have hcases := (completes_session p entropy).run_cases hdb { state }
          unfold onDatabase at hsession
          rw [hsession] at hcases
          obtain ⟨_, _, hsome, -⟩ | ⟨hlack, -⟩ := hcases
          · cases hsome
          · exact hlack
        | some o =>
          obtain ⟨e, w₁, hopened⟩ | ⟨s, w₁, r, w₂, hopened, hrun, hr⟩ := onDatabase_cases hsession
          · obtain ⟨e', hvalid⟩ | ⟨hvalid, e', w', hseed⟩ := opening_cases hopened
            · exact .inl ⟨_, .invalid hprofile hopen hvalid⟩
            · exact .inl ⟨_, .unseeded hprofile hopen hvalid hseed⟩
          cases r with
          | some closed => exact .inl ⟨_, .closed hprofile hopen hopened hrun⟩
          | none =>
            -- the rounds are enough for every bound that a profile can set
            refine .inr (.inr ⟨hr rfl, p, rfl, ?_⟩)
            have hfresh := (Session.always_opened_fresh _ _ p entropy).of_run hopened s rfl
            cases hmax : p.maxIterations with
            | none => rfl
            | some max =>
              have hn : max < enoughRounds p := by
                unfold enoughRounds
                rw [hmax]
                exact Nat.lt_succ_self max
              exact absurd hrun (hfresh.run_ne_none hmax hn _ _ _ _ _)

theorem exitCode_eq_some_iff (hargs : Options.parse args = .ok options) {code : UInt8}
    (hcode : code ≠ 101) :
    (run db openDatabase readFile entropy args).outcome.map Outcome.exitCode = some code ↔
      ∃ f, Finishes db openDatabase readFile entropy options f ∧ f.exitCode = code := by
  constructor
  · intro h
    obtain ⟨f, hf⟩ | ⟨hcrashed, -⟩ | ⟨hrunning, -⟩ := finishes_cases db
      openDatabase readFile entropy hargs
    · rw [exitCode_of_finishes hargs hf] at h
      exact ⟨f, hf, Option.some.inj h⟩
    · rw [hcrashed] at h
      exact absurd (Option.some.inj h).symm hcode
    · rw [hrunning] at h
      cases h
  · rintro ⟨f, hf, rfl⟩
    exact exitCode_of_finishes hargs hf

/-- A session is only reported to have ended by an error of its work. -/
theorem Finishes.of_error {err : SessionError}
    (h : Finishes db openDatabase readFile entropy options (.closed (.error err))) :
    ¬ err.IsMisuse ∧ (db.Answers → err ≠ .workerPanicked) := by
  cases h with
  | @closed p state s s' _ w w' hprofile hopen hopened hrun =>
    have hfresh := (Session.always_opened_fresh _ _ p entropy).of_run hopened s rfl
    refine ⟨(hfresh.always_run _ _ _).of_run hrun _ _ rfl err rfl, ?_⟩
    rintro hdb rfl
    have hgenerator : (Generator.fresh p.population).Has p.population.generatorOptions := rfl
    obtain ⟨_, _, hopened', hsound⟩ :=
      (Session.completes_opened () entropy hgenerator).reaches hdb { state }
    unfold opening at hopened
    rw [hopened'] at hopened
    cases hopened
    obtain ⟨hvalid, hs⟩ := hsound s rfl
    have hcases := (Session.completes_run (Tools.random_sound (p.sound_of_validate hvalid) p.hints)
      {} (enoughRounds p) hs).run_cases hdb w
    unfold conduct at hrun
    rw [hrun] at hcases
    obtain ⟨_, _, hrun', hresult⟩ | ⟨-, hnone⟩ := hcases
    · cases hrun'
      exact (hresult _ _ rfl).2 rfl
    · cases hnone

theorem exists_options {good : Options → Bool}
    (h : (Options.parse args).toOption.any good = true) :
    ∃ options, Options.parse args = .ok options ∧ good options = true := by
  cases hparse : Options.parse args with
  | error reason =>
    rw [hparse] at h
    cases h
  | ok options =>
    rw [hparse] at h
    exact ⟨options, rfl, h⟩

/-- Takes every request except that a database cannot be made. -/
def sealedBackend : Backend Unit := .fixed fun
  | .listTables _ | .listColumns _ _ | .listIndexes _ _ | .select _ => .ok []
  | .createDatabase name => .error (.failed name "sealed")
  | .exec _ | .dropDatabase _ | .useDatabase _ | .seedRandom _ => .ok ()
  | .interruptHandle => ()

/-- No path can be opened where nothing can be reached. -/
theorem opened_of_unreachable (prepared : Bool) {dataSource : String}
    (hplain : Text.expect "file:" dataSource.toList = none)
    (hpath : DataSource.isInMemory (utf8 dataSource) = false) :
    ∃ e, Store.opened (fun _ => .unreachable) prepared dataSource = .error e := by
  have hparse : DataSource.parse dataSource = none ∨
      DataSource.parse dataSource = some (.file { path := utf8 dataSource }) := by
    unfold DataSource.parse
    rw [hplain, hpath]
    split
    · exact .inl rfl
    · exact .inr rfl
  unfold Store.opened
  obtain hparse | hparse := hparse
  · rw [hparse]
    exact ⟨_, rfl⟩
  · rw [hparse]
    exact ⟨_, rfl⟩

end

end Program

end PivotedQuery
