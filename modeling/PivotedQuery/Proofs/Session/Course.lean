import PivotedQuery.Proofs.Pivot.Selection
import PivotedQuery.Proofs.Population.Protocol
import PivotedQuery.Proofs.Session.Lawful
/-!
The courses that the calls of a session may take, from phase to phase. Main statement: a worker that
counts so many iterations makes as many probes, each with the selections that follow it if it is
complete, and nothing else, whatever fails.
-/
namespace PivotedQuery

open Dialogue (Says Makes says_pure after_pure after_crash says_call after_log_bind
  after_cancelled_bind makes_pure makes_call makes_log_bind)

variable {G S α : Type}

/-! What may be said. -/

/-- The calls of a start, by the phase in which it ends. -/
inductive Starting (name : String) : Phase → List Exchange → Prop
  | unreset {reset : List Exchange} (hreset : Runs (resetting name) false reset) :
      Starting name .bootstrapping reset
  | unread {reset filling probe : List Exchange} (hreset : Runs (resetting name) true reset)
      (hfilling : Fills name filling) (hprobe : Probes name false probe) :
      Starting name .snapshotting (reset ++ filling ++ probe)
  | handed {reset filling probe : List Exchange} {a : Option (Response .interruptHandle)}
      (hreset : Runs (resetting name) true reset) (hfilling : Fills name filling)
      (hprobe : Probes name true probe) :
      Starting name .iterating (reset ++ filling ++ probe ++ [⟨.interruptHandle, a⟩])

theorem Starting.ne_idle {name : String} {q : Phase} {xs : List Exchange}
    (h : Starting name q xs) : q ≠ .idle := by
  rintro rfl
  cases h

/-- The calls of an iteration: a probe and, if it is complete, selections. -/
inductive Iterating (name : String) : List Exchange → Prop
  | unread {probe : List Exchange} (hprobe : Probes name false probe) : Iterating name probe
  | read {probe rest : List Exchange} (hprobe : Probes name true probe)
      (hrest : ∀ x ∈ rest, x.IsSelection) : Iterating name (probe ++ rest)

/-- The calls on the way from one phase to another, with so many iterations. -/
inductive Course (name : String) (p : Phase) : Phase → Nat → List Exchange → Prop
  | stay : Course name p p 0 []
  | start {q : Phase} {k : Nat} {xs ys : List Exchange} (h : Course name p .idle k xs)
      (hstart : Starting name q ys) : Course name p q k (xs ++ ys)
  | iterate {k : Nat} {xs ys : List Exchange} (h : Course name p .iterating k xs)
      (hiterate : Iterating name ys) : Course name p .iterating (k + 1) (xs ++ ys)
  | drain {k : Nat} {xs : List Exchange} (h : Course name p .iterating k xs) :
      Course name p .draining k xs
  /-- Without the engine there is no reset. -/
  | release {q : Phase} {k : Nat} {xs : List Exchange} (h : Course name p q k xs)
      (hq : q ≠ .closed) : Course name p .closed k xs
  | close {q : Phase} {k : Nat} {complete : Bool} {xs ys : List Exchange}
      (h : Course name p q k xs) (hq : q ≠ .closed) (hreset : Runs (resetting name) complete ys) :
      Course name p .closed k (xs ++ ys)

namespace Course

variable {name : String} {p q r : Phase} {k l : Nat} {xs ys : List Exchange}

theorem trans (h : Course name p q k xs) (h' : Course name q r l ys) :
    Course name p r (k + l) (xs ++ ys) := by
  induction h' with
  | stay =>
    rw [List.append_nil]
    exact h
  | start _ hstart ih =>
    rw [← List.append_assoc]
    exact ih.start hstart
  | iterate _ hiterate ih =>
    rw [← List.append_assoc]
    exact ih.iterate hiterate
  | drain _ ih => exact ih.drain
  | release _ hq ih => exact ih.release hq
  | close _ hq hreset ih =>
    rw [← List.append_assoc]
    exact ih.close hq hreset

/-- Nothing comes after the end. -/
theorem of_closed (h : Course name .closed q k xs) : q = .closed ∧ k = 0 ∧ xs = [] := by
  induction h with
  | stay => exact ⟨rfl, rfl, rfl⟩
  | start _ _ ih => cases ih.1
  | iterate _ _ ih => cases ih.1
  | drain _ ih => cases ih.1
  | release _ _ ih => exact ⟨rfl, ih.2⟩
  | close _ hq _ ih => exact absurd ih.1 hq

end Course

/-- What only looks at the database. -/
def Request.Reads : Request → Prop
  | .listTables _ | .listColumns _ _ | .listIndexes _ _ | .select _ => True
  | _ => False

theorem Runs.forall_request {p : Request → Prop} {rs : List Request} {complete : Bool}
    {xs : List Exchange} (h : Runs rs complete xs) (hp : ∀ r ∈ rs, p r) :
    ∀ x ∈ xs, p x.request := by
  induction h with
  | done => exact fun x hx => absurd hx List.not_mem_nil
  | cut _ => exact List.forall_mem_singleton.2 (hp _ List.mem_cons_self)
  | next _ _ ih =>
    obtain ⟨hr, hrest⟩ := List.forall_mem_cons.1 hp
    exact List.forall_mem_cons.2 ⟨hr, ih hrest⟩

theorem Probes.reads {name : String} {complete : Bool} {xs : List Exchange}
    (h : Probes name complete xs) : ∀ x ∈ xs, x.request.Reads := by
  cases h with
  | unlisted _ => exact List.forall_mem_singleton.2 trivial
  | listed hlisted =>
    refine List.forall_mem_cons.2 ⟨trivial, hlisted.forall_request fun r hr => ?_⟩
    obtain ⟨table, -, hr⟩ := List.mem_flatMap.1 hr
    obtain rfl | rfl := List.mem_pair.1 hr
    · trivial
    · trivial

theorem Iterating.reads {name : String} {xs : List Exchange} (h : Iterating name xs) :
    ∀ x ∈ xs, x.request.Reads := by
  cases h with
  | unread hprobe => exact hprobe.reads
  | read hprobe hrest =>
    refine List.forall_mem_append.2 ⟨hprobe.reads, fun x hx => ?_⟩
    obtain ⟨sql, hsql⟩ := hrest x hx
    rw [hsql]
    trivial

namespace Course

variable {name : String} {p q : Phase} {k : Nat} {xs : List Exchange}

theorem of_idle (h : Course name p .idle k xs) : p = .idle := by
  cases h with
  | stay => rfl
  | start _ hstart => exact absurd rfl hstart.ne_idle

/-- Whoever is still iterating has only looked at the database. -/
theorem reads (h : Course name .iterating q k xs) (hq : q = .iterating) :
    ∀ x ∈ xs, x.request.Reads := by
  induction h with
  | stay => exact fun x hx => absurd hx List.not_mem_nil
  | start h _ _ => cases h.of_idle
  | iterate _ hiterate ih => exact List.forall_mem_append.2 ⟨ih rfl, hiterate.reads⟩
  | drain _ _ => cases hq
  | release _ _ _ => cases hq
  | close _ _ _ _ => cases hq

end Course

/-! An iteration. -/

theorem Pivot.makes_fetch (c : Choice) (tables : List Table) :
    (fetch c tables).Makes Exchange.IsSelection := by
  induction tables generalizing c with
  | nil => exact makes_pure _
  | cons table tables ih =>
    apply (makes_call fun _ => ⟨rowSql table, rfl⟩).bind
    intro reply
    match reply with
    | .error e => exact makes_pure _
    | .ok [] => exact makes_log_bind (ih c)
    | .ok (row :: _) =>
      dsimp only
      split
      · exact makes_pure _
      · exact ih _

theorem Containment.makes_check (pivot : PivotRow) (query : RenderedQuery) :
    (check pivot query).Makes Exchange.IsSelection := by
  unfold check
  split
  · exact makes_pure _
  refine makes_log_bind (makes_log_bind (makes_log_bind ?_))
  apply (makes_call fun _ => ⟨query.sql, rfl⟩).bind
  rintro (err | rows)
  · exact makes_pure _
  have hjudge : (judge pivot query rows).Makes Exchange.IsSelection := by
    unfold judge
    split
    · exact makes_log_bind (makes_pure _)
    · exact makes_log_bind (makes_pure _)
  exact hjudge.bind fun _ => makes_pure _

namespace Engine

variable {tools : Tools G S} {name : String} {e : Engine G S}

theorem says_draw {good : α → Prop} {d : Draw α}
    (h : ∀ {source a source'}, d source = (.ok a, source') → good a) (e : Engine G S) :
    (e.draw d).Says fun xs o => xs = [] ∧ ∀ r, o = some r → good r.1 := by
  unfold draw
  split
  case h_1 hd =>
    refine says_pure ⟨rfl, ?_⟩
    rintro _ ⟨⟩
    exact h hd
  case h_2 => exact (after_crash ⟨rfl, fun r h => nomatch h⟩).saying

theorem makes_query (tools : Tools G S) (e : Engine G S) (c : Pivot.Choice) :
    (e.query tools c).Makes Exchange.IsSelection := by
  have hdraw : (e.draw (tools.synthesizer.synthesize e.profile.maxDepth c.used c.pivot
      e.synthesizer)).Makes Exchange.IsSelection := by
    apply (says_draw (fun _ => trivial) e).mono
    rintro _ o ⟨rfl, -⟩
    exact fun x hx => absurd hx List.not_mem_nil
  apply hdraw.bind
  rintro ⟨⟨err | query, synthesizer⟩, e'⟩
  · exact makes_pure _
  · exact makes_log_bind ((Containment.makes_check c.pivot query).bind fun _ => makes_pure _)

/-- Whatever fails in an iteration, its selections come after a complete probe. -/
theorem says_iterate (tools : Tools G S) (e : Engine G S) :
    (e.iterate tools).Says fun xs _ => Iterating e.profile.database xs := by
  apply (Probe.says_refresh _ _).bind
  · exact fun xs hxs => .unread hxs
  rintro probe ⟨err | tables, snapshot⟩ hprobe
  · exact after_pure (.unread hprobe)
  apply (says_draw (Pivot.ensures_choose_cases tables).of_run _).bind_after
  · rintro _ ⟨rfl, -⟩
    exact .read hprobe fun x hx => absurd hx List.not_mem_nil
  rintro _ ⟨⟨_, choice⟩, e'⟩ ⟨rfl, hcases⟩
  have hchoice : choice.Makes Exchange.IsSelection := by
    obtain rfl | ⟨chosen, rfl⟩ := hcases _ rfl
    · exact makes_pure _
    · exact Pivot.makes_fetch {} chosen
  rw [List.append_nil]
  refine Says.after (hchoice.bind ?_) fun rest _ hrest => .read hprobe hrest
  rintro (err | choice)
  · exact makes_pure _
  dsimp only
  split
  · exact makes_log_bind (makes_pure _)
  · exact makes_query tools e' choice

/-- What the engine becomes when so many iterations are counted. -/
structure Counts (e : Engine G S) (k : Nat) (e' : Engine G S) : Prop where
  profile_eq : e'.profile = e.profile
  iterations_eq : e'.stats.iterations = e.stats.iterations + k

theorem Counts.trans {k l : Nat} {e e₁ e₂ : Engine G S} (h : e.Counts k e₁) (h' : e₁.Counts l e₂) :
    e.Counts (k + l) e₂ := by
  refine ⟨h'.profile_eq.trans h.profile_eq, ?_⟩
  rw [h'.iterations_eq, h.iterations_eq, Nat.add_assoc]

/-- Settling an iteration says nothing and counts no other. -/
theorem says_settle (t : Token) (e : Engine G S) (result : Except SessionError Iteration) :
    (settle t e result).Says fun xs o => xs = [] ∧ ∀ r, o = some r → e.Counts 0 r.2 := by
  have settled (ending : Ending) (e' : Engine G S) (h : e.Counts 0 e') :
      (pure (ending, e') : Dialogue (Ending × Engine G S)).After []
        fun xs o => xs = [] ∧ ∀ r, o = some r → e.Counts 0 r.2 := by
    refine after_pure ⟨rfl, ?_⟩
    rintro _ ⟨⟩
    exact h
  match result with
  | .ok .verified => exact (settled _ e ⟨rfl, rfl⟩).saying
  | .ok .skipped => exact (settled _ e.countSkipped ⟨rfl, rfl⟩).saying
  | .error (.fault f) =>
    refine (after_cancelled_bind fun cancelled => ?_).saying
    split
    · exact after_log_bind (settled _ e ⟨rfl, rfl⟩)
    split
    · exact after_log_bind (settled _ e.countFault ⟨rfl, rfl⟩)
    · exact settled _ e ⟨rfl, rfl⟩
  | .error (.mismatch m) => exact (settled _ e ⟨rfl, rfl⟩).saying
  | .error (.lifecycle action phase) => exact (settled _ e ⟨rfl, rfl⟩).saying
  | .error .workerPanicked => exact (settled _ e ⟨rfl, rfl⟩).saying

/-- The way of a worker in so many rounds: it keeps to the database of its engine and counts its
iterations. -/
def KeepsTo (e : Engine G S) (n : Nat) (xs : List Exchange) (o : Option (Ending × Engine G S)) :
    Prop :=
  ∃ k ≤ n, Course e.profile.database .iterating .iterating k xs ∧
    ∀ r, o = some r → e.Counts k r.2

theorem says_round (tools : Tools G S) (t : Token) (e : Engine G S) :
    (e.round tools t).Says (e.KeepsTo 1) := by
  have ended (ending : Ending) : (pure (ending, e) : Dialogue (Ending × Engine G S)).After []
      (e.KeepsTo 1) := by
    refine after_pure ⟨0, Nat.zero_le 1, .stay, ?_⟩
    rintro _ ⟨⟩
    exact ⟨rfl, rfl⟩
  refine (after_cancelled_bind fun cancelled => ?_).saying
  split
  · exact after_log_bind (ended _)
  split
  · exact after_log_bind (ended _)
  apply ((says_iterate tools e.countIteration).and (always_iterate tools _)).bind_after
  · exact fun xs hxs => ⟨1, Nat.le_refl 1, Course.stay.iterate hxs.1, fun r h => nomatch h⟩
  rintro xs ⟨result, e'⟩ ⟨hxs, hagrees⟩
  have hcounts : e.Counts 1 e' :=
    ⟨(hagrees _ rfl).1.profile_eq, congrArg Stats.iterations (hagrees _ rfl).1.stats_eq⟩
  apply (says_settle t e' result).after
  rintro _ o ⟨rfl, ho⟩
  rw [List.append_nil]
  exact ⟨1, Nat.le_refl 1, Course.stay.iterate hxs, fun r hr => hcounts.trans (ho r hr)⟩

theorem says_work (tools : Tools G S) (t : Token) (n : Nat) (e : Engine G S) :
    (work tools t n e).Says (e.KeepsTo n) := by
  induction n generalizing e with
  | zero =>
    refine says_pure ⟨0, Nat.le_refl 0, .stay, ?_⟩
    rintro _ ⟨⟩
    exact ⟨rfl, rfl⟩
  | succ n ih =>
    have hwiden {k : Nat} (h : k ≤ 1) : k ≤ n + 1 := Nat.le_trans h (Nat.le_add_left 1 n)
    apply (says_round tools t e).bind
    · exact fun xs ⟨k, hk, hxs⟩ => ⟨k, hwiden hk, hxs⟩
    rintro xs ⟨_ | result, e'⟩ ⟨k, hk, hxs, hcounts⟩
    · apply (ih e').after
      rintro ys o ⟨l, hl, hys, ho⟩
      have hcounts : e.Counts k e' := hcounts _ rfl
      rw [hcounts.profile_eq] at hys
      exact ⟨k + l, by omega, hxs.trans hys, fun r hr => hcounts.trans (ho r hr)⟩
    · exact after_pure ⟨k, hwiden hk, hxs, hcounts⟩

end Engine

/-! A worker. -/

/-- A worker that still runs probes the database of that name. -/
def Worker.Tied (name : String) (w : Worker G S) : Prop :=
  ∀ t e, w = .running t e → e.profile.database = name

/-- The worker has counted so many iterations. One that has panicked tells nothing of them. -/
def Worker.Made (k : Nat) : Worker G S → Prop
  | running _ e | ended _ e => e.stats.iterations = k
  | panicked => True

theorem Worker.says_proceed (tools : Tools G S) (n : Nat) {name : String} {w : Worker G S}
    (hw : w.Tied name) : (w.proceed tools n).Says fun xs o =>
      ∃ k, Course name .iterating .iterating k xs ∧
        ∃ w', o = some w' ∧ w'.Tied name ∧ ∀ j, w.Made j → w'.Made (j + k) := by
  cases w with
  | running t e =>
    apply (Engine.says_work tools t n e).attempt.bind
    · rintro xs ⟨_, h, -⟩
      cases h
    have hname := hw t e rfl
    rintro xs o ⟨r, ⟨⟩, k, -, hxs, hcounts⟩
    rw [hname] at hxs
    match o with
    | none => exact after_pure ⟨k, hxs, _, rfl, fun _ _ => nofun, fun _ _ => trivial⟩
    | some (some result, e') =>
      refine after_pure ⟨k, hxs, _, rfl, fun _ _ => nofun, ?_⟩
      rintro _ rfl
      exact (hcounts _ rfl).iterations_eq
    | some (none, e') =>
      refine after_pure ⟨k, hxs, _, rfl, ?_, ?_⟩
      · rintro _ _ ⟨⟩
        rw [(hcounts _ rfl).profile_eq, hname]
      · rintro _ rfl
        exact (hcounts _ rfl).iterations_eq
  | ended result e => exact says_pure ⟨0, .stay, _, rfl, hw, fun _ h => h⟩
  | panicked => exact says_pure ⟨0, .stay, _, rfl, hw, fun _ h => h⟩

end PivotedQuery
