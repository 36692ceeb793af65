import PivotedQuery.Proofs.Session.Course
import PivotedQuery.Proofs.Session.Lifecycle
/-!
The order in which a session makes its calls. Main statement: whatever its owner asks for and whatever
fails, the calls of a session are one seed, then at most one start, the iterations of its worker, and at
most one more reset, after which there are none.
-/
namespace PivotedQuery

open Dialogue (always_pure always_trivial Says says_pure after_pure after_crash says_call after_log_bind
  after_cancelToken_bind)

variable {σ G S α : Type}

namespace Session

/-- Whatever probes the schema once the session has started probes the session's own database. -/
structure Tied (s : Session G S) : Prop where
  engine : s.phase = .idle → ∀ e, s.engine = some e → e.profile.database = s.database.name
  worker : ∀ w, s.worker = some w → w.Tied s.database.name

/-- Whoever has the engine has counted so many iterations. -/
structure Made (s : Session G S) (k : Nat) : Prop where
  engine : ∀ e, s.engine = some e → e.stats.iterations = k
  worker : ∀ w, s.worker = some w → w.Made k

end Session

/-- The statistics of a session that is closed count so many iterations. -/
def Reply.Made (k : Nat) : Reply → Prop
  | .closed (.ok stats) => stats.iterations = k
  | _ => True

def Reply.stats? : Reply → Option Stats
  | .closed (.ok stats) => some stats
  | _ => none

theorem Reply.Made.iterations_eq {k : Nat} {reply : Reply} {stats : Stats} (h : reply.Made k)
    (hstats : reply.stats? = some stats) : stats.iterations = k := by
  unfold stats? at hstats
  split at hstats
  case h_1 =>
    cases hstats
    exact h
  case h_2 => cases hstats

namespace Session

/-- What may be said while one session becomes another, and that the iterations in it are counted. -/
structure Goes (s : Session G S) (xs : List Exchange) (reply : Reply) (s' : Session G S) :
    Prop where
  course : ∃ k, Course s.database.name s.phase s'.phase k xs ∧
    ∀ j, s.Made j → s'.Made (j + k) ∧ reply.Made (j + k)
  tied : s'.Tied
  database_eq : s'.database = s.database

/-- What may be said until a call breaks off. -/
def Begins (s : Session G S) (xs : List Exchange) : Prop :=
  ∃ ys q k, Course s.database.name s.phase q k (xs ++ ys)

variable {s s₁ s₂ : Session G S} {xs ys : List Exchange} {reply reply' : Reply}

theorem Tied.goes (hs : s.Tied) : s.Goes [] .silent s :=
  ⟨⟨0, .stay, fun _ h => ⟨h, trivial⟩⟩, hs, rfl⟩

theorem Goes.trans (h : s.Goes xs reply s₁) (h' : s₁.Goes ys reply' s₂) :
    s.Goes (xs ++ ys) reply' s₂ := by
  obtain ⟨k, hxs, hmade⟩ := h.course
  obtain ⟨l, hys, hmade'⟩ := h'.course
  rw [h.database_eq] at hys
  refine ⟨⟨k + l, hxs.trans hys, fun j hj => ?_⟩, h'.tied, h'.database_eq.trans h.database_eq⟩
  rw [← Nat.add_assoc]
  exact hmade' _ (hmade j hj).1

theorem Goes.begins (h : s.Goes xs reply s₁) : s.Begins xs := by
  obtain ⟨k, hxs, -⟩ := h.course
  refine ⟨[], s₁.phase, k, ?_⟩
  rw [List.append_nil]
  exact hxs

theorem Goes.begins_append (h : s.Goes xs reply s₁) (h' : s₁.Begins ys) : s.Begins (xs ++ ys) := by
  obtain ⟨k, hxs, -⟩ := h.course
  obtain ⟨zs, q, l, hcourse⟩ := h'
  rw [h.database_eq] at hcourse
  refine ⟨zs, q, k + l, ?_⟩
  rw [List.append_assoc]
  exact hxs.trans hcourse

/-- What is said by a call, and what becomes of the session that its result holds, if it holds one. -/
def Leads (s : Session G S) (next : α → Option (Reply × Session G S)) (xs : List Exchange)
    (o : Option α) : Prop :=
  s.Begins xs ∧ ∀ a reply s', o = some a → next a = some (reply, s') → s.Goes xs reply s'

variable {next : α → Option (Reply × Session G S)} {a : α} {o : Option α}

theorem Begins.leads (h : s.Begins xs) : s.Leads next xs none := ⟨h, fun _ _ _ ha => nomatch ha⟩

/-- A result that holds no session. -/
theorem Begins.leads_some (h : s.Begins xs) (ha : next a = none) : s.Leads next xs (some a) := by
  refine ⟨h, ?_⟩
  rintro _ reply s' ⟨⟩ hnext
  rw [ha] at hnext
  cases hnext

theorem Goes.leads (h : s.Goes xs reply s₁) (ha : next a = some (reply, s₁)) :
    s.Leads next xs (some a) := by
  refine ⟨h.begins, ?_⟩
  rintro _ reply' s' ⟨⟩ hnext
  rw [ha] at hnext
  cases hnext
  exact h

/-- A result with a reply of its own, without statistics. -/
theorem Goes.leads_replying (h : s.Goes xs reply s₁) (ha : next a = some (reply', s₁))
    (hreply : ∀ k, reply'.Made k) : s.Leads next xs (some a) := by
  obtain ⟨k, hxs, hmade⟩ := h.course
  have hgoes : s.Goes xs reply' s₁ :=
    ⟨⟨k, hxs, fun j hj => ⟨(hmade j hj).1, hreply _⟩⟩, h.tied, h.database_eq⟩
  exact hgoes.leads ha

theorem Leads.goes (h : s.Leads next xs (some a)) (ha : next a = some (reply, s₁)) :
    s.Goes xs reply s₁ :=
  h.2 a reply s₁ rfl ha

theorem Goes.leads_append (h : s.Goes xs reply s₁) (h' : s₁.Leads next ys o) :
    s.Leads next (xs ++ ys) o :=
  ⟨h.begins_append h'.1, fun a reply s' ha hnext => h.trans (h'.2 a reply s' ha hnext)⟩

/-- Another result that holds nothing else. -/
theorem Leads.map {β : Type} {next' : β → Option (Reply × Session G S)} {b : β}
    (h : s.Leads next xs (some a)) (hb : next' b = next a) : s.Leads next' xs (some b) := by
  refine ⟨h.1, ?_⟩
  rintro _ reply s' ⟨⟩ hnext
  exact h.goes (hb.symm.trans hnext)

theorem says_snapshot (database : WorkingDatabase) (e : Engine G S) :
    (snapshot database e).Says fun xs o => Probes database.name (came (o.map (·.1))) xs ∧
      ∀ r, o = some r → r.2.1 = .snapshotting ∧ r.2.2.profile = e.profile := by
  apply (Probe.says_refresh _ _).bind
  · exact fun xs hxs => ⟨hxs, fun r h => nomatch h⟩
  rintro xs ⟨err | tables, snapshot⟩ hxs
  · refine after_pure ⟨hxs, ?_⟩
    rintro _ ⟨⟩
    exact ⟨rfl, rfl⟩
  · refine after_log_bind (after_pure ⟨hxs, ?_⟩)
    rintro _ ⟨⟩
    exact ⟨rfl, rfl⟩

/-- What is said before the handle is asked for, by what comes of it. -/
def Prepares (name : String) (e : Engine G S) (xs : List Exchange) :
    Option (Preparation G S) → Prop
  | none => ∃ ys q, Starting name q (xs ++ ys)
  | some (.error _, phase, e') => Starting name phase xs ∧ e'.profile = e.profile
  | some (.ok (), _, e') =>
    (∀ a, Starting name .iterating (xs ++ [⟨.interruptHandle, a⟩])) ∧ e'.profile = e.profile

/-- After an impossible draw or a breakdown while the database is filled. -/
theorem prepares_none {name : String} {e : Engine G S} {reset filling : List Exchange}
    (hreset : Runs (resetting name) true reset) (h : ∃ ys, Fills name (filling ++ ys)) :
    Prepares name e (reset ++ filling) none := by
  obtain ⟨ys, hfilling⟩ := h
  have hprobe : Probes name false [⟨.listTables name, none⟩] := .unlisted rfl
  refine ⟨ys ++ [⟨.listTables name, none⟩], .snapshotting, ?_⟩
  have hstart := Starting.unread hreset hfilling hprobe
  simpa only [List.append_assoc] using hstart

section

variable {tools : Tools Generator S} (htools : tools.maker = Generator.maker)
include htools

theorem says_prepare (database : WorkingDatabase) (e : Engine Generator S) :
    (prepare tools database e).Says (Prepares database.name e) := by
  apply database.says_reset.bind
  · exact fun xs hxs => ⟨[], .bootstrapping, .unreset (by rwa [List.append_nil])⟩
  rintro reset (err | _) hreset
  · exact after_pure ⟨.unreset hreset, rfl⟩
  rw [htools]
  apply (database.says_populate e.bench).bind_after
  · exact fun filling hfilling => prepares_none hreset hfilling.1
  rintro filling ⟨_ | report, bench⟩ ⟨hbegins, hfills⟩
  · exact after_crash (prepares_none hreset hbegins)
  have hfills := hfills nofun
  apply (says_snapshot database { e with bench }).after
  rintro probe o ⟨hprobe, ho⟩
  match o with
  | none =>
    refine ⟨[], .snapshotting, ?_⟩
    rw [List.append_nil]
    exact .unread hreset hfills hprobe
  | some (.error err, phase, e') =>
    obtain ⟨rfl, hprofile⟩ := ho _ rfl
    exact ⟨.unread hreset hfills hprobe, hprofile⟩
  | some (.ok (), phase, e') => exact ⟨fun a => .handed hreset hfills hprobe, (ho _ rfl).2⟩

theorem says_start (t : Token) {s : Session Generator S} (hs : s.Tied) :
    (s.start tools t).Says (s.Leads fun r => some (.started r.1, r.2)) := by
  unfold start
  split
  case h_1 e hphase hengine =>
    have hcourse {q : Phase} {xs : List Exchange} (h : Starting s.database.name q xs) :
        Course s.database.name s.phase q 0 xs := by
      rw [hphase]
      exact Course.stay.start h
    have hprepare := (says_prepare htools s.database e).and (always_prepare tools s.database e)
    apply hprepare.bind
    · rintro xs ⟨⟨ys, q, hstart⟩, -⟩
      exact Begins.leads ⟨ys, q, 0, hcourse hstart⟩
    rintro xs ⟨err | _, phase, e'⟩ ⟨⟨hstart, hprofile⟩, hstats⟩
    all_goals
      have hcounted {j : Nat} (hj : s.Made j) : e'.stats.iterations = j := by
        rw [(hstats _ rfl).1]
        exact hj.engine e hengine
    · have hgoes : s.Goes xs (.started (.error err)) { s with phase, engine := some e' } := by
        refine ⟨⟨0, hcourse hstart, fun j hj => ⟨⟨?_, hj.worker⟩, trivial⟩⟩,
          ⟨fun h => absurd h hstart.ne_idle, hs.worker⟩, rfl⟩
        rintro _ ⟨⟩
        exact hcounted hj
      exact after_pure (hgoes.leads rfl)
    · apply (says_call .interruptHandle).bind_after
      · rintro _ rfl
        refine Begins.leads ⟨[], .iterating, 0, ?_⟩
        rw [List.append_nil]
        exact hcourse (hstart none)
      rintro _ a rfl
      -- the worker probes the database that the session has prepared
      have hname : (Worker.running t e').Tied s.database.name := by
        rintro _ _ ⟨⟩
        rw [hprofile, hs.engine hphase e hengine]
      have hgoes : s.Goes (xs ++ [⟨.interruptHandle, some a⟩]) (.started (.ok ())) { s with
          phase := .iterating, engine := none, worker := some (.running t e'), token := some t } := by
        refine ⟨⟨0, hcourse (hstart _), fun j hj => ⟨⟨fun _ => nofun, ?_⟩, trivial⟩⟩,
          ⟨(nomatch ·), ?_⟩, rfl⟩
        · rintro _ ⟨⟩
          exact hcounted hj
        · rintro _ ⟨⟩
          exact hname
      exact after_pure (hgoes.leads rfl)
  case h_2 => exact says_pure (hs.goes.leads_replying rfl fun _ => trivial)

end

theorem says_wait (tools : Tools G S) (n : Nat) (hlawful : s.Lawful) (hs : s.Tied) :
    (s.wait tools n).Says (s.Leads fun r => r.map fun s => (.silent, s)) := by
  have unchanged (hworker : s.worker = none) :
      (s.wait tools n).Says (s.Leads fun r => r.map fun s => (.silent, s)) := by
    rw [wait_eq_of_no_worker tools n hworker]
    exact says_pure (hs.goes.leads rfl)
  -- there is a worker in one phase only; in the others nothing is said
  cases hlawful with
  | @iterating seed database w t h =>
    apply (Worker.says_proceed tools n (hs.worker w rfl)).bind
    · rintro xs ⟨_, -, w', h, -⟩
      cases h
    rintro xs w' ⟨k, hxs, _, ⟨⟩, hw', hmade⟩
    cases w' with
    | running t' e =>
      have hbegins : Begins ⟨.iterating, seed, database, none, some w, some t, none⟩ xs := by
        refine ⟨[], .iterating, k, ?_⟩
        rw [List.append_nil]
        exact hxs
      exact after_pure (hbegins.leads_some rfl)
    | ended result e =>
      have hgoes : Goes ⟨.iterating, seed, database, none, some w, some t, none⟩ xs .silent
          ⟨.draining, seed, database, some e, none, some t, some result⟩ := by
        refine ⟨⟨k, hxs.drain, fun j hj => ⟨⟨?_, fun _ => nofun⟩, trivial⟩⟩,
          ⟨(nomatch ·), fun _ => (nomatch ·)⟩, rfl⟩
        rintro _ ⟨⟩
        exact hmade j (hj.worker w rfl)
      exact after_pure (hgoes.leads rfl)
    | panicked =>
      have hgoes : Goes ⟨.iterating, seed, database, none, some w, some t, none⟩ xs .silent
          ⟨.draining, seed, database, none, none, some t, some (.error .workerPanicked)⟩ :=
        ⟨⟨k, hxs.drain, fun j _ => ⟨⟨fun _ => nofun, fun _ => nofun⟩, trivial⟩⟩,
          ⟨(nomatch ·), fun _ => (nomatch ·)⟩, rfl⟩
      exact after_pure (hgoes.leads rfl)
  | _ => exact unchanged rfl

/-- Waiting does not close a session. -/
theorem always_wait_open (tools : Tools G S) (n : Nat) (hopen : s.phase ≠ .closed) :
    (s.wait tools n).Always fun r => ∀ s', r = some s' → s'.phase ≠ .closed := by
  unfold wait
  split
  · refine always_pure ?_
    rintro _ ⟨⟩
    exact hopen
  apply (always_trivial _).bind
  rintro (_ | _ | _) -
  · exact always_pure fun s' h => nomatch h
  · refine always_pure ?_
    rintro _ ⟨⟩
    exact (nomatch ·)
  · refine always_pure ?_
    rintro _ ⟨⟩
    exact (nomatch ·)

/-- Statistics are handed out only by a session that has its engine. -/
theorem Lawful.made_result {k : Nat} (hs : s.Lawful) (hopen : s.phase ≠ .closed)
    (hworker : s.worker = none) (hmade : s.Made k) (reset : Except ExecutionError Unit) :
    (Reply.closed (result s.outcome reset s.stats)).Made k := by
  have counted {outcome : Option (Except SessionError Unit)} {e : Engine G S}
      (h : e.stats.iterations = k) : (Reply.closed (result outcome reset e.stats)).Made k := by
    match outcome, reset with
    | some (.error err), _ => trivial
    | some (.ok ()), .error err => trivial
    | some (.ok ()), .ok () => exact h
    | none, .error err => trivial
    | none, .ok () => exact h
  cases hs with
  | idle _ => exact counted (hmade.engine _ rfl)
  | failed _ _ => exact counted (hmade.engine _ rfl)
  | iterating _ => cases hworker
  | drained _ _ => exact counted (hmade.engine _ rfl)
  | lost => trivial
  | closed => exact absurd rfl hopen

/-- One reset, if the engine is at hand. -/
theorem says_finish (hlawful : s.Lawful) (hs : s.Tied) (hopen : s.phase ≠ .closed)
    (hworker : s.worker = none) :
    s.finish.Says (s.Leads fun r => some (.closed r.1, r.2)) := by
  have goes {xs : List Exchange} (h : Course s.database.name s.phase .closed 0 xs)
      (reset : Except ExecutionError Unit) :
      s.Goes xs (.closed (result s.outcome reset s.stats)) s.released :=
    ⟨⟨0, h, fun j hj => ⟨⟨fun _ => nofun, hj.worker⟩,
      hlawful.made_result hopen hworker hj reset⟩⟩, ⟨(nomatch ·), hs.worker⟩, rfl⟩
  unfold finish
  cases hengine : s.engine with
  | none =>
    have hgoes := goes (Course.stay.release hopen) (.ok ())
    apply Dialogue.After.saying
    exact after_log_bind (after_pure (hgoes.leads (by rw [released])))
  | some e =>
    apply s.database.says_reset.bind
    · exact fun xs hxs => (goes (Course.stay.close hopen hxs) (.ok ())).begins.leads
    intro xs reset hxs
    have hgoes := goes (Course.stay.close hopen hxs) reset
    exact after_log_bind (after_pure (hgoes.leads rfl))

theorem says_halt (tools : Tools G S) (n : Nat) (hlawful : s.Lawful) (hs : s.Tied)
    (hopen : s.phase ≠ .closed) : (s.halt tools n).Says fun xs o =>
      s.Leads (fun r => r.map fun s => (.silent, s)) xs o ∧
      ∀ s', o = some (some s') → s'.Lawful ∧ s'.worker = none ∧ s'.phase ≠ .closed := by
  have hwait : (s.wait tools n).Says fun xs o =>
      s.Leads (fun r => r.map fun s => (.silent, s)) xs o ∧
      ∀ s', o = some (some s') → s'.Lawful ∧ s'.worker = none ∧ s'.phase ≠ .closed := by
    apply (((says_wait tools n hlawful hs).and (always_wait_open tools n hopen)).and
      (always_wait tools n hlawful)).mono
    rintro xs o ⟨⟨hleads, hstays⟩, hfollows⟩
    refine ⟨hleads, fun s' ho => ?_⟩
    obtain ⟨hlater, hworker⟩ := hfollows _ ho s' rfl
    exact ⟨hlater.lawful, hworker, hstays _ ho s' rfl⟩
  unfold halt
  cases s.token with
  | none => exact hwait
  | some t => exact (after_cancelToken_bind (hwait.after fun _ _ h => h)).saying

theorem says_close (tools : Tools G S) (n : Nat) (hlawful : s.Lawful) (hs : s.Tied) :
    (s.close tools n).Says (s.Leads fun r => r.map fun x => (.closed x.1, x.2)) := by
  by_cases hclosed : s.phase = .closed
  · rw [close_eq_of_closed tools n hclosed]
    exact says_pure (hs.goes.leads_replying rfl fun _ => trivial)
  rw [close_eq tools n hclosed]
  apply (says_halt tools n hlawful hs hclosed).bind
  · exact fun xs hxs => hxs.1.1.leads
  rintro xs (_ | s₁) ⟨hleads, hhalted⟩
  · exact after_pure (hleads.1.leads_some rfl)
  have hgoes : s.Goes xs .silent s₁ := hleads.goes rfl
  -- the reset at the end is one of an open session whose worker has been joined
  obtain ⟨hlawful₁, hworker, hopen⟩ := hhalted s₁ rfl
  apply (says_finish hlawful₁ hgoes.tied hopen hworker).bind_after
  · exact fun ys hys => (hgoes.leads_append hys).1.leads
  rintro ys ⟨result, s₂⟩ hfinish
  exact after_pure ((hgoes.leads_append hfinish).map rfl)

theorem says_proceed (tools : Tools G S) (n : Nat) (hlawful : s.Lawful) (hs : s.Tied) :
    (s.proceed tools n).Says (s.Leads fun s => some (.silent, s)) := by
  have unchanged (hworker : s.worker = none) :
      (s.proceed tools n).Says (s.Leads fun s => some (.silent, s)) := by
    unfold proceed
    rw [hworker]
    exact says_pure (hs.goes.leads rfl)
  cases hlawful with
  | @iterating seed database w t h =>
    apply (Worker.says_proceed tools n (hs.worker w rfl)).bind
    · rintro xs ⟨_, -, w', h, -⟩
      cases h
    rintro xs w' ⟨k, hxs, _, ⟨⟩, hw', hmade⟩
    have hgoes : Goes ⟨.iterating, seed, database, none, some w, some t, none⟩ xs .silent
        ⟨.iterating, seed, database, none, some w', some t, none⟩ := by
      refine ⟨⟨k, hxs, fun j hj => ⟨⟨fun _ => nofun, ?_⟩, trivial⟩⟩, ⟨(nomatch ·), ?_⟩, rfl⟩
      · rintro _ ⟨⟩
        exact hmade j (hj.worker w rfl)
      · rintro _ ⟨⟩
        exact hw'
    exact after_pure (hgoes.leads rfl)
  | _ => exact unchanged rfl

theorem says_run {tools : Tools Generator S} (htools : tools.maker = Generator.maker) (t : Token)
    (n : Nat) {s : Session Generator S} (hlawful : s.Lawful) (hs : s.Tied) :
    (s.run tools t n).Says (s.Leads fun r => r.map fun x => (.closed x.1, x.2)) := by
  apply ((says_start htools t hs).and (always_start tools t hlawful)).bind
  · exact fun xs hxs => hxs.1.1.leads
  rintro xs ⟨err | _, s₁⟩ ⟨hstart, hfollows⟩
  · have hgoes : s.Goes xs (.started (.error err)) s₁ := hstart.goes rfl
    apply (says_close tools n (hfollows _ rfl).1.lawful hgoes.tied).bind_after
    · exact fun ys hys => (hgoes.leads_append hys).1.leads
    rintro ys (_ | ⟨e | stats, s₂⟩) hclose
    · exact after_pure ((hgoes.leads_append hclose).map rfl)
    -- whatever closing gives, the error of the start is the reply
    · have hgoes' : s.Goes (xs ++ ys) (.closed (.error e)) s₂ := hgoes.trans (hclose.goes rfl)
      exact after_log_bind (after_pure (hgoes'.leads_replying rfl fun _ => trivial))
    · have hgoes' : s.Goes (xs ++ ys) (.closed (.ok stats)) s₂ := hgoes.trans (hclose.goes rfl)
      exact after_pure (hgoes'.leads_replying rfl fun _ => trivial)
  · have hgoes : s.Goes xs (.started (.ok ())) s₁ := hstart.goes rfl
    have hlawful := (hfollows _ rfl).1.lawful
    apply ((says_wait tools n hlawful hgoes.tied).and (always_wait tools n hlawful)).bind_after
    · exact fun ys hys => (hgoes.leads_append hys.1).1.leads
    rintro ys (_ | s₂) ⟨hwait, hfollows⟩
    · exact after_pure ((hgoes.leads_append hwait).map rfl)
    · have hgoes' : s.Goes (xs ++ ys) .silent s₂ := hgoes.trans (hwait.goes rfl)
      apply (says_close tools n (hfollows _ rfl _ rfl).1.lawful hgoes'.tied).after
      exact fun zs o hzs => hgoes'.leads_append hzs

end Session

/-- What is said by the call is a course of the session or the beginning of one. -/
theorem Operation.says_perform {tools : Tools Generator S} (htools : tools.maker = Generator.maker)
    (op : Operation) {s : Session Generator S} (hlawful : s.Lawful) (hs : s.Tied) :
    (op.perform tools s).Says (s.Leads id) := by
  cases op with
  | start t =>
    apply (Session.says_start htools t hs).bind
    · exact fun xs hxs => hxs.1.leads
    · exact fun xs r hr => after_pure (hr.map rfl)
  | wait n =>
    apply (Session.says_wait tools n hlawful hs).bind
    · exact fun xs hxs => hxs.1.leads
    · exact fun xs r hr => after_pure (hr.map rfl)
  | close n =>
    apply (Session.says_close tools n hlawful hs).bind
    · exact fun xs hxs => hxs.1.leads
    · exact fun xs r hr => after_pure (hr.map rfl)
  | run t n =>
    apply (Session.says_run htools t n hlawful hs).bind
    · exact fun xs hxs => hxs.1.leads
    · exact fun xs r hr => after_pure (hr.map rfl)
  | cancel t =>
    apply Dialogue.After.saying
    exact after_cancelToken_bind (after_pure (hs.goes.leads rfl))
  | proceed n =>
    apply (Session.says_proceed tools n hlawful hs).bind
    · exact fun xs hxs => hxs.1.leads
    · exact fun xs r hr => after_pure (hr.map rfl)

theorem Session.says_opened (generator : G) (synthesizer : S) (profile : Profile)
    (entropy : UInt64) : (opened generator synthesizer profile entropy).Says fun xs o =>
      (profile.validate ≠ .ok () → xs = []) ∧
      (profile.validate = .ok () →
        ∃ reply, xs = [⟨.seedRandom (profile.seed.getD entropy), reply⟩]) ∧
      ∀ s, o = some (.ok s) →
        xs = [⟨.seedRandom (profile.seed.getD entropy), some (.ok ())⟩] ∧
        s.Lawful ∧ s.Tied ∧ s.Made 0 ∧ s.phase = .idle ∧ s.database.name = profile.database := by
  unfold opened
  split
  case h_1 hinvalid =>
    rw [hinvalid]
    exact says_pure ⟨fun _ => rfl, (nomatch ·), fun s => (nomatch ·)⟩
  case h_2 hvalid =>
    rw [hvalid]
    apply Dialogue.After.saying
    apply after_log_bind
    apply (says_call _).bind_after
    · rintro _ rfl
      exact ⟨fun h => absurd rfl h, fun _ => ⟨_, rfl⟩, fun s h => nomatch h⟩
    rintro _ (err | _) rfl
    · exact after_pure ⟨fun h => absurd rfl h, fun _ => ⟨_, rfl⟩, fun s h => nomatch h⟩
    · refine after_pure ⟨fun h => absurd rfl h, fun _ => ⟨_, rfl⟩, ?_⟩
      rintro _ ⟨⟩
      refine ⟨rfl, .idle rfl, ⟨fun _ => ?_, fun _ => (nomatch ·)⟩, ⟨?_, fun _ => nofun⟩, rfl, rfl⟩
      · rintro _ ⟨⟩
        rfl
      · rintro _ ⟨⟩
        rfl

/-- All that is said in these calls, of which the last one comes first. -/
def transcript (tools : Tools G S) (db : Backend σ) : List (Call σ G S) → List Exchange
  | [] => []
  | c :: calls => transcript tools db calls ++
      (c.operation.perform tools c.before.session).exchanges db c.before.world

namespace Since

variable {tools : Tools G S} {db : Backend σ} {m₀ m : Moment σ G S} {calls : List (Call σ G S)}

/-- Every call is on record. -/
theorem requests_eq (h : Since tools db m₀ calls m) : m.world.requests.toList =
    m₀.world.requests.toList ++ (transcript tools db calls).map (·.request) := by
  induction h with
  | now => exact (List.append_nil _).symm
  | @call calls c _ hc ih =>
    have hlast := Dialogue.requests_run db (c.operation.perform tools c.before.session)
      c.before.world
    rw [hc, ih] at hlast
    rw [transcript, List.map_append, ← List.append_assoc]
    exact hlast

theorem lawful (h : Since tools db m₀ calls m) (hlawful : m₀.session.Lawful) :
    m.session.Lawful := by
  induction h with
  | now => exact hlawful
  | call _ hc ih => exact (hc.follows ih).lawful

/-- Once a call has closed the session, it stays so. -/
theorem phase_eq_closed (h : Since tools db m₀ calls m) (hlawful : m₀.session.Lawful)
    {c : Call σ G S} (hmem : c ∈ calls) {result : Except SessionError Stats}
    (hreply : c.reply = .closed result) : m.session.phase = .closed := by
  induction h with
  | now => cases hmem
  | call h hc ih =>
    rcases List.mem_cons.1 hmem with rfl | hmem
    · exact hc.phase_eq_closed (h.lawful hlawful) hreply
    · exact (hc.follows (h.lawful hlawful)).phase_eq_closed (ih hmem)

theorem goes {tools : Tools Generator S} {m₀ m : Moment σ Generator S}
    {calls : List (Call σ Generator S)} (htools : tools.maker = Generator.maker)
    (h : Since tools db m₀ calls m) (hlawful : m₀.session.Lawful) (htied : m₀.session.Tied) :
    m.session.Tied ∧ m.session.database = m₀.session.database ∧
    ∃ k, Course m₀.session.database.name m₀.session.phase m.session.phase k
        (transcript tools db calls) ∧
      ∀ j, m₀.session.Made j → m.session.Made (j + k) ∧ ∀ c ∈ calls, c.reply.Made (j + k) := by
  -- each call makes the course longer at its end and counts what it has added
  induction h with
  | now => exact ⟨htied, rfl, 0, .stay, fun _ hj => ⟨hj, fun c hmem => nomatch hmem⟩⟩
  | @call calls c h hc ih =>
    obtain ⟨htied, hdatabase, k, hxs, hmade⟩ := ih
    have hcall := (c.operation.says_perform htools (h.lawful hlawful) htied).of_run db
      c.before.world
    rw [hc] at hcall
    have hgoes := hcall.goes rfl
    obtain ⟨l, hys, hmade'⟩ := hgoes.course
    rw [hdatabase] at hys
    refine ⟨hgoes.tied, hgoes.database_eq.trans hdatabase, k + l, hxs.trans hys, fun j hj => ?_⟩
    obtain ⟨hbefore, hearlier⟩ := hmade j hj
    rw [← Nat.add_assoc]
    refine ⟨(hmade' _ hbefore).1, List.forall_mem_cons.2 ⟨(hmade' _ hbefore).2, ?_⟩⟩
    intro c' hmem
    have hmade := hearlier c' hmem
    cases hreply : c'.reply with
    | silent => trivial
    | started _ => trivial
    | closed result =>
      rw [h.phase_eq_closed hlawful hmem hreply] at hys
      obtain ⟨-, rfl, -⟩ := hys.of_closed
      rwa [hreply] at hmade

end Since

/-- Whatever the owner asks for and whatever is answered. What a valid profile opens is one seed and
then a course through the phases, of which a call that does not come back is the beginning. The
course has as many iterations as are counted by whoever has the engine and by the statistics that are
handed out; a worker that goes on, with whatever engine, adds those that it counts and nothing else. -/
theorem session_calls_in_order {tools : Tools Generator S} (htools : tools.maker = Generator.maker)
    (db : Backend σ) (generator : Generator) (synthesizer : S) (profile : Profile)
    (entropy : UInt64) (w : World σ) :
    (profile.validate ≠ .ok () →
      (Session.opened generator synthesizer profile entropy).exchanges db w = []) ∧
    (profile.validate = .ok () → ∃ reply,
      (Session.opened generator synthesizer profile entropy).exchanges db w =
        [⟨.seedRandom (profile.seed.getD entropy), reply⟩]) ∧
    (∀ s w₁, (Session.opened generator synthesizer profile entropy).run db w = (some (.ok s), w₁) →
      ∀ calls m, Since tools db ⟨s, w₁⟩ calls m →
        m.world.requests.toList = w.requests.toList ++
          .seedRandom (profile.seed.getD entropy) ::
            (transcript tools db calls).map (·.request) ∧
        (∃ k, Course profile.database .idle m.session.phase k (transcript tools db calls) ∧
          m.session.Made k ∧ ∀ c ∈ calls, c.reply.Made k) ∧
        (∀ op : Operation, ∃ zs q k, Course profile.database .idle q k (transcript tools db calls ++
          (op.perform tools m.session).exchanges db m.world ++ zs)) ∧
        (m.session.phase = .closed → ∀ op : Operation,
          (op.perform tools m.session).exchanges db m.world = []) ∧
        ∀ t e, m.session.worker = some (.running t e) → e.profile.database = profile.database) ∧
    ∀ (e : Engine Generator S) t n w',
      (∀ x ∈ (e.work tools t n).exchanges db w', x.request.Reads) ∧
      ∃ k ≤ n,
        Course e.profile.database .iterating .iterating k ((e.work tools t n).exchanges db w') ∧
        ∀ ending e' w'', (e.work tools t n).run db w' = (some (ending, e'), w'') →
          e'.stats.iterations = e.stats.iterations + k := by
  have hopening := (Session.says_opened generator synthesizer profile entropy).of_run db w
  refine ⟨hopening.1, hopening.2.1, fun s w₁ hs calls m hsince => ?_, fun e t n w' => ?_⟩
  · have hrequests := Dialogue.requests_run db
      (Session.opened generator synthesizer profile entropy) w
    rw [hs] at hopening hrequests
    obtain ⟨hseed, hlawful, htied, hmade, hphase, hname⟩ := hopening.2.2 s rfl
    obtain ⟨htied', hdatabase, k, hcourse, hcounted⟩ := hsince.goes htools hlawful htied
    rw [hphase, hname] at hcourse
    obtain ⟨hmade', hreplies⟩ := hcounted 0 hmade
    rw [Nat.zero_add] at hmade' hreplies
    have hnext (op : Operation) :=
      ((op.says_perform htools (hsince.lawful hlawful) htied').of_run db m.world).1
    refine ⟨?_, ⟨k, hcourse, hmade', hreplies⟩, fun op => ?_, fun hclosed op => ?_, fun t e h => ?_⟩
    · rw [hsince.requests_eq, hrequests, Dialogue.calls, hseed, List.append_assoc]
      rfl
    · obtain ⟨zs, q, l, hop⟩ := hnext op
      rw [hdatabase, hname] at hop
      refine ⟨zs, q, k + l, ?_⟩
      rw [List.append_assoc]
      exact hcourse.trans hop
    · obtain ⟨zs, q, l, hop⟩ := hnext op
      -- from the last phase there is no course but the empty one
      rw [hclosed] at hop
      exact (List.append_eq_nil_iff.1 hop.of_closed.2.2).1
    · rw [htied'.worker _ h t e rfl, hdatabase, hname]
  · obtain ⟨k, hk, hcourse, hcounts⟩ := (Engine.says_work tools t n e).of_run db w'
    refine ⟨hcourse.reads rfl, k, hk, hcourse, fun ending e' w'' h => ?_⟩
    exact (hcounts (ending, e') (congrArg Prod.fst h)).iterations_eq

/-- Holds one table, of whose column every selection gives the same row. -/
def openBackend : Backend Unit := .fixed fun
  | .listTables _ => .ok [loneTable.name]
  | .listColumns _ _ => .ok loneTable.columns
  | .listIndexes _ _ => .ok []
  | .select _ => .ok [[⟨.integer 7, ⟨"INTEGER"⟩⟩]]
  | .exec _ | .createDatabase _ | .dropDatabase _ | .useDatabase _ | .seedRandom _ => .ok ()
  | .interruptHandle => ()

def twiceProfile : Profile where
  seed := some 1
  maxIterations := some 2
  population := { maxTables := 1, maxIndexes := 0, maxRowsPerInsert := 1 }

def fixedTools : Tools Generator Unit where
  maker := Generator.maker
  synthesizer := bluntTools.synthesizer

/-- The worker makes both of its iterations before the session is closed. -/
theorem session_calls_in_order_twice : fixedTools.maker = Generator.maker ∧
    ∃ (calls : List (Call Unit Generator Unit)) (m : Moment Unit Generator Unit),
    m.session.phase = .closed ∧
    m.world.requests.toList = .seedRandom 1 ::
      (transcript fixedTools openBackend calls).map (·.request) ∧
    m.world.requests.toList.map (·.method) = ["seed_random",
      "drop_database", "create_database", "use_database",
      "exec", "list_tables", "list_columns", "list_indexes", "exec",
      "list_tables", "list_columns", "list_indexes", "interrupt_handle",
      "list_tables", "list_columns", "list_indexes", "select", "select",
      "list_tables", "list_columns", "list_indexes", "select", "select",
      "drop_database", "create_database", "use_database"] ∧
    Course twiceProfile.database .idle .closed 2 (transcript fixedTools openBackend calls) := by
  have hplayed : ((History.of? fixedTools openBackend () (Generator.fresh
      twiceProfile.population) () twiceProfile [.start {}, .proceed 3, .close 1]).any fun past =>
        past.1.any (fun c => c.reply.stats? = some ⟨2, 0, 0⟩) ∧ past.2.session.phase = .closed ∧
        past.2.world.requests.toList.map (·.method) = ["seed_random",
          "drop_database", "create_database", "use_database",
          "exec", "list_tables", "list_columns", "list_indexes", "exec",
          "list_tables", "list_columns", "list_indexes", "interrupt_handle",
          "list_tables", "list_columns", "list_indexes", "select", "select",
          "list_tables", "list_columns", "list_indexes", "select", "select",
          "drop_database", "create_database", "use_database"]) = true := by decide +kernel
  obtain ⟨⟨calls, m⟩, hof, hlast⟩ := (Option.any_eq_true _ _).1 hplayed
  obtain ⟨hstats, hphase, hmethods⟩ := of_decide_eq_true hlast
  obtain ⟨c, hmem, hstats⟩ := List.any_eq_true.1 hstats
  obtain ⟨s, w, hopened, hsince⟩ := History.since_of_of? hof
  have htools : fixedTools.maker = Generator.maker := rfl
  obtain ⟨-, -, horder, -⟩ := session_calls_in_order htools openBackend
    (Generator.fresh twiceProfile.population) () twiceProfile 0 { state := () }
  obtain ⟨hrequests, ⟨k, hcourse, -, hmade⟩, -⟩ := horder s w hopened calls m hsince
  obtain rfl := (hmade c hmem).iterations_eq (of_decide_eq_true hstats)
  rw [hphase] at hcourse
  exact ⟨htools, calls, m, hphase, hrequests, hmethods, hcourse⟩

end PivotedQuery
