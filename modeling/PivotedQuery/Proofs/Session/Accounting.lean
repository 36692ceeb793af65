import PivotedQuery.Proofs.Session.Worker
/-!
What a worker counts. Main statement: at every head the statistics are those of the turns taken
before it, a fault that ends the work is not among those counted, and a bound is kept and reached.
-/
namespace PivotedQuery

/-- What is to be counted after these turns. -/
def Stats.ofTurns (turns : List Turn) : Stats where
  iterations := turns.count .verified + turns.count .skipped + turns.count .tolerated +
    turns.count .aborted
  skipped := turns.count .skipped
  faults := turns.count .tolerated

namespace Stats

theorem ofTurns_cons (turn : Turn) (turns : List Turn) :
    ofTurns (turn :: turns) = (ofTurns turns).plus turn := by
  cases turn <;> simp [ofTurns, plus] <;> omega

theorem iterations_plus (s : Stats) (turn : Turn) :
    (s.plus turn).iterations = s.iterations + 1 := by
  cases turn <;> rfl

theorem iterations_ofTurns (turns : List Turn) : (ofTurns turns).iterations = turns.length := by
  induction turns with
  | nil => rfl
  | cons turn turns ih => rw [ofTurns_cons, iterations_plus, ih, List.length_cons]

end Stats

namespace Engine

variable {σ G S : Type}

/-- What holds at a head after these turns of a worker that began with nothing counted. -/
structure Accounts (t : Token) (profile : Profile) (turns : List Turn) (e : Engine G S)
    (w : World σ) : Prop where
  profile_eq : e.profile = profile
  stats_eq : e.stats = .ofTurns turns
  aborted_le : turns.count .aborted ≤ 1
  cancelled_of_aborted : .aborted ∈ turns → t ∈ w.cancelled
  keepGoing_of_tolerated : .tolerated ∈ turns → profile.keepGoing = true
  le_bound : ∀ max, profile.maxIterations = some max → e.stats.iterations ≤ max

/-- What holds of the worker that has stopped after these turns. An iteration that has stopped it
counts as one that was made, and as nothing else. -/
structure Settles (t : Token) (profile : Profile) (turns : List Turn)
    (result : Except SessionError Unit) (e : Engine G S) (w : World σ) : Prop where
  stats_of_ok : result = .ok () → e.stats = .ofTurns turns
  stats_of_error : ∀ err, result = .error err → e.stats =
    { Stats.ofTurns turns with iterations := (Stats.ofTurns turns).iterations + 1 }
  le_bound : ∀ max, profile.maxIterations = some max → e.stats.iterations ≤ max
  of_ok : result = .ok () →
    t ∈ w.cancelled ∨ profile.maxIterations = some e.stats.iterations

variable {tools : Tools G S} {t : Token} {db : Backend σ} {e₀ e e' : Engine G S}
  {w₀ w w' : World σ} {turns : List Turn}

/-- An iteration is only made with room for it below the bound. -/
theorem Iterates.succ_le {result : Except SessionError Iteration}
    (h : Iterates tools t db e w result e' w') {max : Nat}
    (hmax : e.profile.maxIterations = some max) : e.stats.iterations + 1 ≤ max := by
  have hunbound := h.unbound
  unfold boundReached at hunbound
  rw [hmax] at hunbound
  simp only [decide_eq_false_iff_not] at hunbound
  omega

theorem Iterates.not_mem_cancelled {result : Except SessionError Iteration}
    (h : Iterates tools t db e w result e' w') : t ∉ w.cancelled := by
  intro ht
  have := h.unseen
  rw [Backend.sees_of_mem ht] at this
  cases this

theorem Accounts.first (h₀ : e₀.stats = {}) : Accounts t e₀.profile [] e₀ w₀ where
  profile_eq := rfl
  stats_eq := h₀
  aborted_le := Nat.zero_le _
  cancelled_of_aborted := nofun
  keepGoing_of_tolerated := nofun
  le_bound _ _ := by simp [h₀]

theorem Accounts.next {profile : Profile} (h : Accounts t profile turns e w) {turn : Turn}
    (hturn : Takes tools t db e w turn)
    (hround : (e.round tools t).run db w = (some (none, e'), w')) :
    Accounts t profile (turn :: turns) e' w' := by
  obtain ⟨turn', hturn', hstats, hprofile, haborted, htolerated⟩ := takes_of_round hround
  obtain rfl := hturn.unique hturn'
  obtain ⟨result, e₁, w₁, hiter, hclass⟩ := hturn
  -- a turn after an aborted one would have been taken in spite of the cancellation
  have hnone : turns.count .aborted = 0 := by
    rw [List.count_eq_zero]
    exact fun hmem => hiter.not_mem_cancelled (h.cancelled_of_aborted hmem)
  have hsucc : e'.stats.iterations = e.stats.iterations + 1 := by
    rw [hstats, Stats.iterations_plus]
  constructor
  case profile_eq => exact hprofile.trans h.profile_eq
  case stats_eq => rw [hstats, h.stats_eq, Stats.ofTurns_cons]
  case aborted_le =>
    rw [List.count_cons, hnone]
    split
    · exact Nat.le_refl 1
    · exact Nat.zero_le 1
  case cancelled_of_aborted =>
    intro hmem
    rcases List.mem_cons.1 hmem with hturn | hmem
    · exact haborted hturn.symm
    · exact absurd (h.cancelled_of_aborted hmem) hiter.not_mem_cancelled
  case keepGoing_of_tolerated =>
    intro hmem
    rcases List.mem_cons.1 hmem with hturn | hmem
    · rw [← h.profile_eq]
      exact htolerated hturn.symm
    · exact h.keepGoing_of_tolerated hmem
  case le_bound =>
    intro max hmax
    rw [hsucc]
    exact hiter.succ_le (h.profile_eq ▸ hmax)

theorem Heads.accounts (h₀ : e₀.stats = {}) (h : Heads tools t db e₀ w₀ turns e w) :
    Accounts t e₀.profile turns e w := by
  induction h with
  | first => exact .first h₀
  | next _ hturn hround ih => exact ih.next hturn hround

theorem Iterates.stats_eq {result : Except SessionError Iteration}
    (h : Iterates tools t db e w result e' w') :
    e'.stats = { e.stats with iterations := e.stats.iterations + 1 } :=
  h.agrees.stats_eq

theorem Accounts.settles_of_iterates {profile : Profile} (h : Accounts t profile turns e w)
    {result : Except SessionError Iteration} {err : SessionError} {w₁ : World σ}
    (hiter : Iterates tools t db e w result e' w₁) :
    Settles t profile turns (.error err) e' w' where
  stats_of_ok := nofun
  stats_of_error _ _ := by rw [hiter.stats_eq, h.stats_eq]
  le_bound max hmax := by
    rw [hiter.stats_eq]
    exact hiter.succ_le (h.profile_eq ▸ hmax)
  of_ok := nofun

theorem Accounts.settles {profile : Profile} (h : Accounts t profile turns e w)
    {result : Except SessionError Unit} (hstops : Stops tools t db e w result e' w') :
    Settles t profile turns result e' w' := by
  cases hstops with
  | cancelled hseen =>
    exact ⟨fun _ => h.stats_eq, nofun, h.le_bound,
      fun _ => .inl (Backend.mem_cancelled_of_sees hseen)⟩
  | @bound max hunseen hmax hle =>
    have hmax' : profile.maxIterations = some max := h.profile_eq ▸ hmax
    have heq : max = e.stats.iterations := Nat.le_antisymm hle (h.le_bound max hmax')
    exact ⟨fun _ => h.stats_eq, nofun, h.le_bound, fun _ => .inr (heq ▸ hmax')⟩
  | fault hiter hunseen hgoing => exact h.settles_of_iterates hiter
  | mismatch hunseen hunbound happroach hcheck =>
    have hiter : Iterates tools t db e w _ e' w' :=
      ⟨hunseen, hunbound, run_iterate_eq_mismatch_iff.2 ⟨_, _, _, happroach, hcheck⟩⟩
    exact h.settles_of_iterates hiter

/-- Whatever the tools and the database do and whenever somebody cancels: the worker is at the head
after as many turns as it has made rounds, or has stopped at an earlier head; the statistics count
the turns by class; and with a bound it does not go on for ever. -/
theorem worker_accounting (h₀ : e₀.stats = {}) (w₀ : World σ) :
    (∀ turns e w, Heads tools t db e₀ w₀ turns e w → Accounts t e₀.profile turns e w) ∧
    (∀ n e w, (work tools t n e₀).run db w₀ = (some (none, e), w) ↔
      ∃ turns, Heads tools t db e₀ w₀ turns e w ∧ turns.length = n) ∧
    (∀ n result e' w', (work tools t n e₀).run db w₀ = (some (some result, e'), w') ↔
      ∃ turns e w, Heads tools t db e₀ w₀ turns e w ∧ turns.length < n ∧
        Stops tools t db e w result e' w') ∧
    (∀ turns e w result e' w', Heads tools t db e₀ w₀ turns e w →
      Stops tools t db e w result e' w' → Settles t e₀.profile turns result e' w') ∧
    ∀ max, e₀.profile.maxIterations = some max → ∀ n, max < n →
      ∀ e w, (work tools t n e₀).run db w₀ ≠ (some (none, e), w) := by
  refine ⟨fun turns e w h => h.accounts h₀, fun n e w => run_work_eq_none_iff,
    fun n result e' w' => run_work_eq_some_iff,
    fun turns e w result e' w' h hstops => (h.accounts h₀).settles hstops, ?_⟩
  intro max hmax n hn e w hrun
  obtain ⟨turns, hheads, hlength⟩ := run_work_eq_none_iff.1 hrun
  have haccounts := hheads.accounts h₀
  have hle := haccounts.le_bound max hmax
  rw [haccounts.stats_eq, Stats.iterations_ofTurns, hlength] at hle
  omega

/-- Lists no tables; its first token is cancelled while it answers for the third time. -/
def faultyBackend : Backend Nat where
  answer w
    | .listTables name =>
      (⟨some (.error (.unknownDatabase name)), [], if w.state = 2 then [{}] else []⟩, w.state + 1)
    | _ => (⟨none, [], []⟩, w.state)

def tolerantEngine : Engine Generator Unit where
  bench := ⟨{}, .cycle #[7]⟩
  synthesizer := ()
  profile := { keepGoing := true, maxIterations := some 5 }

theorem worker_accounting_tolerant : tolerantEngine.stats = {} ∧ ∃ e w w',
    Heads (Tools.random true) {} faultyBackend tolerantEngine { state := 0 }
      [.aborted, .tolerated, .tolerated] e w ∧
    Accounts {} tolerantEngine.profile [.aborted, .tolerated, .tolerated] e w ∧
    (work (Tools.random true) {} 4 tolerantEngine).run faultyBackend { state := 0 } =
      (some (some (.ok ()), e), w') ∧
    Settles {} tolerantEngine.profile [.aborted, .tolerated, .tolerated] (.ok ()) e w' := by
  obtain ⟨haccounts, -, hstopped, hsettles, -⟩ := @worker_accounting Nat Generator Unit
    (Tools.random true) {} faultyBackend tolerantEngine rfl { state := 0 }
  obtain ⟨e, w, hheads⟩ : ∃ e w, Heads (Tools.random true) {} faultyBackend tolerantEngine
      { state := 0 } [.aborted, .tolerated, .tolerated] e w ∧ faultyBackend.sees {} w = true := by
    refine ⟨_, _, ((Heads.first.next ⟨_, _, _, ⟨rfl, rfl, rfl⟩, rfl⟩ rfl).next
      ⟨_, _, _, ⟨rfl, rfl, rfl⟩, rfl⟩ rfl).next ⟨_, _, _, ⟨rfl, rfl, rfl⟩, rfl⟩ rfl, ?_⟩
    rfl
  have hstops : Stops (Tools.random true) {} faultyBackend e w (.ok ()) e _ := .cancelled hheads.2
  refine ⟨rfl, e, w, _, hheads.1, haccounts _ _ _ hheads.1, ?_, hsettles _ _ _ _ _ _ hheads.1 hstops⟩
  exact (hstopped _ _ _ _).2 ⟨_, e, w, hheads.1, by decide, hstops⟩

end Engine

end PivotedQuery
