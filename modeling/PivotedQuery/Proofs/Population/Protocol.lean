import PivotedQuery.Proofs.Dialogue.Says
import PivotedQuery.Proofs.Statement.Effects
/-!
The order in which a database is reset, probed and filled. Main statements: a reset and a probe make
their requests in turn up to the first that is not granted, and filling a database makes statements,
of which the first always comes about, and a probe after its tables.
-/
namespace PivotedQuery

open Dialogue (Says Makes says_pure after_pure says_call after_log_bind makes_pure makes_call
  makes_log_bind)

variable {G α β : Type}

/-- An answer that is no error. -/
def Request.grants : (r : Request) → Response r → Bool
  | .listTables _, a => Except.isOk a
  | .listColumns _ _, a => Except.isOk a
  | .listIndexes _ _, a => Except.isOk a
  | .select _, a => Except.isOk a
  | .exec _, a => Except.isOk a
  | .dropDatabase _, a => Except.isOk a
  | .createDatabase _, a => Except.isOk a
  | .useDatabase _, a => Except.isOk a
  | .interruptHandle, _ => true
  | .seedRandom _, a => Except.isOk a

namespace Exchange

def granted (x : Exchange) : Bool := x.reply.any x.request.grants

def IsStatement (x : Exchange) : Prop := ∃ sql, x.request = .exec sql

def IsSelection (x : Exchange) : Prop := ∃ sql, x.request = .select sql

end Exchange

/-- The requests in turn up to the first that is not granted; complete if there is none. -/
inductive Runs : List Request → (complete : Bool) → List Exchange → Prop
  | done : Runs [] true []
  | cut {r : Request} {a : Option (Response r)} {rs : List Request}
      (h : Exchange.granted ⟨r, a⟩ = false) : Runs (r :: rs) false [⟨r, a⟩]
  | next {r : Request} {a : Option (Response r)} {rs : List Request} {complete : Bool}
      {xs : List Exchange} (h : Exchange.granted ⟨r, a⟩ = true) (hrest : Runs rs complete xs) :
      Runs (r :: rs) complete (⟨r, a⟩ :: xs)

theorem Runs.append {rs rs' : List Request} {complete : Bool} {xs ys : List Exchange}
    (h : Runs rs true xs) (h' : Runs rs' complete ys) : Runs (rs ++ rs') complete (xs ++ ys) := by
  induction rs generalizing xs with
  | nil =>
    cases h
    exact h'
  | cons r rs ih =>
    cases h with
    | next hgranted hrest => exact .next hgranted (ih hrest)

theorem Runs.append_of_cut {rs rs' : List Request} {xs : List Exchange} (h : Runs rs false xs) :
    Runs (rs ++ rs') false xs := by
  induction rs generalizing xs with
  | nil => cases h
  | cons r rs ih =>
    cases h with
    | cut hrefused => exact .cut hrefused
    | next hgranted hrest => exact .next hgranted (ih hrest)

/-- What is asked about each table that is listed. -/
def describing (name : String) (table : Identifier) : List Request :=
  [.listColumns name table, .listIndexes name table]

/-- A probe of the schema: the tables, then the columns and the indexes of each. -/
inductive Probes (name : String) : (complete : Bool) → List Exchange → Prop
  | unlisted {a : Option (Response (.listTables name))}
      (h : Exchange.granted ⟨.listTables name, a⟩ = false) :
      Probes name false [⟨.listTables name, a⟩]
  | listed {names : List Identifier} {complete : Bool} {xs : List Exchange}
      (h : Runs (names.flatMap (describing name)) complete xs) :
      Probes name complete (⟨.listTables name, some (.ok names)⟩ :: xs)

def resetting (name : String) : List Request :=
  [.dropDatabase name, .createDatabase name, .useDatabase name]

/-- The tables of a new database, a probe, and what else is stored. There is at least one table. -/
inductive Fills (name : String) : List Exchange → Prop
  | intro {tables probe rest : List Exchange} {complete : Bool} (hne : tables ≠ [])
      (htables : ∀ x ∈ tables, x.IsStatement) (hprobe : Probes name complete probe)
      (hrest : ∀ x ∈ rest, x.IsStatement) : Fills name (tables ++ (probe ++ rest))

/-- A result, and not an error. -/
def came {ε : Type} : Option (Except ε α) → Bool
  | some (.ok _) => true
  | _ => false

namespace Probe

theorem says_table (name : String) (t : Identifier) :
    (table name t).Says fun xs o => Runs (describing name t) (came o) xs := by
  apply (says_call _).bind
  · rintro _ rfl
    exact .cut rfl
  rintro _ (err | columns) rfl
  · exact after_pure (.cut rfl)
  apply (says_call _).bind_after
  · rintro _ rfl
    exact .next rfl (.cut rfl)
  rintro _ (err | indexes) rfl
  · exact after_pure (.next rfl (.cut rfl))
  · exact after_pure (.next rfl (.next rfl .done))

theorem says_tables (name : String) (names : List Identifier) : (tables name names).Says
    fun xs o => Runs (names.flatMap (describing name)) (came o) xs := by
  induction names with
  | nil => exact says_pure .done
  | cons t names ih =>
    rw [List.flatMap_cons]
    apply (says_table name t).bind
    · exact fun xs hxs => hxs.append_of_cut
    rintro xs (err | t') hxs
    · exact after_pure (Runs.append_of_cut hxs)
    · apply ih.bind_after
      · exact fun ys hys => hxs.append hys
      rintro ys (err | ts) hys
      · exact after_pure (hxs.append hys)
      · exact after_pure (hxs.append hys)

theorem says_fetch (name : String) :
    (fetch name).Says fun xs o => Probes name (came o) xs := by
  apply (says_call _).bind
  · rintro _ rfl
    exact .unlisted rfl
  rintro _ (err | names) rfl
  · exact after_pure (.unlisted rfl)
  · exact (says_tables name names).after fun xs o hxs => .listed hxs

theorem says_refresh (name : String) (old : List Table) :
    (refresh name old).Says fun xs o => Probes name (came (o.map (·.1))) xs := by
  apply (says_fetch name).bind
  · exact fun xs hxs => hxs
  rintro xs (err | tables) hxs
  · exact after_pure hxs
  · exact after_log_bind (after_pure hxs)

end Probe

theorem WorkingDatabase.says_reset (database : WorkingDatabase) :
    database.reset.Says fun xs o => Runs (resetting database.name) (came o) xs := by
  apply (says_call _).bind
  · rintro _ rfl
    exact .cut rfl
  rintro _ (err | _) rfl
  · exact after_pure (.cut rfl)
  apply (says_call _).bind_after
  · rintro _ rfl
    exact .next rfl (.cut rfl)
  rintro _ (err | _) rfl
  · exact after_pure (.next rfl (.cut rfl))
  apply (says_call _).bind_after
  · rintro _ rfl
    exact .next rfl (.next rfl (.cut rfl))
  rintro _ (err | _) rfl
  · exact after_pure (.next rfl (.next rfl (.cut rfl)))
  · exact after_log_bind (after_pure (.next rfl (.next rfl (.next rfl .done))))

/-! What is said at a bench. -/

namespace Populating

/-- Whatever is drawn and answered; neither a breakdown nor an impossible draw is a result. -/
def Says (post : List Exchange → Option α → Prop) (p : Populating G α) : Prop :=
  ∀ b, (p b).Says fun xs o => post xs (o.bind (·.1.toOption))

def After (said : List Exchange) (post : List Exchange → Option α → Prop) (p : Populating G α) :
    Prop :=
  ∀ b, (p b).After said fun xs o => post xs (o.bind (·.1.toOption))

variable {said : List Exchange} {mid post : List Exchange → Option α → Prop} {p : Populating G α}

theorem after_pure {a : α} (h : post said (some a)) : (pure a : Populating G α).After said post :=
  fun _ => Dialogue.after_pure h

theorem Says.both {post' : List Exchange → Option α → Prop} (hp : p.Says post)
    (hp' : p.Says post') : p.Says fun xs o => post xs o ∧ post' xs o :=
  fun b => (hp b).both (hp' b)

theorem Says.after (hp : p.Says mid) (h : ∀ xs o, mid xs o → post (said ++ xs) o) :
    p.After said post := fun b => (hp b).after fun xs _ => h xs _

theorem Says.bind_after {post : List Exchange → Option β → Prop} {f : α → Populating G β}
    (hp : p.Says mid) (hnone : ∀ xs, mid xs none → post (said ++ xs) none)
    (hf : ∀ xs a, mid xs (some a) → (f a).After (said ++ xs) post) :
    (p >>= f).After said post := by
  intro b
  apply (hp b).bind_after
  · exact hnone
  rintro xs ⟨e | a, b'⟩ hxs
  · exact Dialogue.after_pure (hnone xs hxs)
  · exact hf xs a hxs b'

theorem Says.bind {post : List Exchange → Option β → Prop} {f : α → Populating G β}
    (hp : p.Says mid) (hnone : ∀ xs, mid xs none → post xs none)
    (hf : ∀ xs a, mid xs (some a) → (f a).After xs post) : (p >>= f).Says post := by
  have hafter : (p >>= f).After [] post := hp.bind_after hnone hf
  exact fun b => (hafter b).saying

theorem says_work {w : Work G α} {good : α → Prop}
    (h : ∀ {b a b'}, w b = (.ok a, b') → good a) :
    (work w).Says fun xs o => xs = [] ∧ ∀ a, o = some a → good a := by
  intro b
  refine says_pure ⟨rfl, ?_⟩
  cases hw : w b with
  | mk r b' =>
    cases r with
    | error e => exact fun a ha => nomatch ha
    | ok a =>
      rintro _ ⟨⟩
      exact h hw

theorem says_talk {d : Dialogue α} (hd : d.Says mid) : (talk d : Populating G α).Says mid := by
  intro b
  apply hd.bind
  · exact fun xs hxs => hxs
  · exact fun xs a hxs => Dialogue.after_pure hxs

/-- Only such exchanges are made. -/
def Makes (q : Exchange → Prop) (p : Populating G α) : Prop := ∀ b, (p b).Makes q

variable {q : Exchange → Prop}

theorem makes_pure (a : α) : (pure a : Populating G α).Makes q := fun _ => Dialogue.makes_pure _

theorem Makes.bind {f : α → Populating G β} (hp : p.Makes q) (hf : ∀ a, (f a).Makes q) :
    (p >>= f).Makes q := by
  intro b
  apply (hp b).bind
  rintro ⟨e | a, b'⟩
  · exact Dialogue.makes_pure _
  · exact hf a b'

theorem makes_work (w : Work G α) : (work w).Makes q := fun _ => Dialogue.makes_pure _

theorem makes_bench : (bench : Populating G (Workbench G)).Makes q := fun _ => Dialogue.makes_pure _

theorem makes_talk {d : Dialogue α} (hd : d.Makes q) : (talk d : Populating G α).Makes q :=
  fun _ => hd.bind fun _ => Dialogue.makes_pure _

theorem Makes.saying (hp : p.Makes q) : p.Says fun xs _ => ∀ x ∈ xs, q x := hp

theorem makes_attempt (kind : StatementKind) (made : Except GenerationError String)
    (report : Report) : (attempt kind made report).Makes Exchange.IsStatement := by
  cases made with
  | error e => exact makes_log_bind (Dialogue.makes_pure _)
  | ok sql =>
    apply (makes_call fun _ => ⟨sql, rfl⟩).bind
    rintro (e | _)
    · exact makes_log_bind (Dialogue.makes_pure _)
    · exact makes_log_bind (Dialogue.makes_pure _)

theorem makes_attemptAll (kind : StatementKind)
    (works : List (Work G (Except GenerationError String))) (report : Report) :
    (attemptAll kind works report).Makes Exchange.IsStatement := by
  induction works generalizing report with
  | nil => exact makes_pure _
  | cons w works ih =>
    apply (makes_work w).bind
    intro made
    exact (makes_talk (makes_attempt kind made report)).bind ih

/-- A statement that has been made is executed. -/
theorem says_attempt_of_made (kind : StatementKind) (sql : String) (report : Report) :
    (attempt kind (.ok sql) report).Says fun xs _ => xs ≠ [] := by
  apply (says_call _).bind
  · rintro _ rfl
    exact List.cons_ne_nil _ _
  rintro _ (e | _) rfl
  · exact after_log_bind (Dialogue.after_pure (List.cons_ne_nil _ _))
  · exact after_log_bind (Dialogue.after_pure (List.cons_ne_nil _ _))

theorem says_attemptAll_cons (kind : StatementKind) {w : Work G (Except GenerationError String)}
    (works : List (Work G (Except GenerationError String))) (report : Report)
    (hw : ∀ {b made b'}, w b = (.ok made, b') → ∃ sql, made = .ok sql) :
    (attemptAll kind (w :: works) report).Says fun xs o => o ≠ none → xs ≠ [] := by
  apply (says_work hw).bind
  · exact fun xs _ h => absurd rfl h
  rintro _ made ⟨rfl, h⟩
  obtain ⟨sql, rfl⟩ := h made rfl
  apply (says_talk (says_attempt_of_made kind sql report)).bind_after
  · exact fun xs _ h => absurd rfl h
  intro xs report' hxs
  apply (makes_attemptAll kind works report').saying.after
  exact fun ys _ _ _ => List.append_ne_nil_of_left_ne_nil hxs ys

theorem says_reload (name : String) : (reload Generator.maker name).Says
    fun xs _ => ∃ complete, Probes name complete xs := by
  intro b
  have hreload : (Generator.reload name b.maker).Says
      fun xs _ => ∃ complete, Probes name complete xs := by
    apply (Probe.says_fetch name).bind
    · exact fun xs hxs => ⟨_, hxs⟩
    rintro xs (err | tables) hxs
    · exact Dialogue.after_pure ⟨_, hxs⟩
    · exact Dialogue.after_pure ⟨_, hxs⟩
  apply hreload.bind
  · exact fun xs hxs => hxs
  rintro xs ⟨err | _, g⟩ hxs
  · exact after_log_bind (Dialogue.after_pure hxs)
  · exact Dialogue.after_pure hxs

end Populating

/-- A table can always be made. -/
theorem Generator.made_createTable {b b' : Workbench Generator}
    {made : Except GenerationError String} (h : maker.createTable b = (.ok made, b')) :
    ∃ sql, made = .ok sql := by
  obtain ⟨statement, hmade, -⟩ := made_of_run_createTable h
  exact ⟨_, hmade⟩

theorem Draw.bounds_of_size {first last n : Nat} {s s' : Source}
    (h : size first last s = (.ok n, s')) : first ≤ n ∧ n ≤ last := by
  by_cases hrange : first ≤ last
  · exact (ensures_size hrange).of_run h
  · have hempty : last + 1 - first = 0 := by omega
    unfold size at h
    rw [hempty] at h
    cases h

namespace WorkingDatabase

open Populating

/-- Statements alone are the beginning of what fills a database. -/
theorem begins_of_statements (name : String) {xs : List Exchange}
    (h : ∀ x ∈ xs, x.IsStatement) : ∃ ys, Fills name (xs ++ ys) := by
  have htables : ∀ x ∈ xs ++ [⟨.exec "", none⟩], x.IsStatement :=
    List.forall_mem_append.2 ⟨h, List.forall_mem_singleton.2 ⟨"", rfl⟩⟩
  have hprobe : Probes name false [⟨.listTables name, none⟩] := .unlisted rfl
  have hfills := Fills.intro (by simp) htables hprobe fun x hx => absurd hx List.not_mem_nil
  rw [List.append_assoc] at hfills
  exact ⟨_, hfills⟩

/-- What fills the database, or the beginning of it if there is an impossible draw or a breakdown. -/
theorem says_populate (database : WorkingDatabase) : (database.populate Generator.maker).Says
    fun xs o => (∃ ys, Fills database.name (xs ++ ys)) ∧ (o ≠ none → Fills database.name xs) := by
  have broken {xs : List Exchange} (h : ∀ x ∈ xs, x.IsStatement) {o : Option Report}
      (ho : o = none) : (∃ ys, Fills database.name (xs ++ ys)) ∧
        (o ≠ none → Fills database.name xs) :=
    ⟨begins_of_statements database.name h, fun h => absurd ho h⟩
  apply (says_work fun h => (Draw.bounds_of_size (Work.run_draw_of_ok h)).1).bind
  · rintro _ ⟨rfl, -⟩
    exact broken (fun x hx => absurd hx List.not_mem_nil) rfl
  rintro _ tableCount ⟨rfl, hcount⟩
  obtain ⟨count, rfl⟩ := Nat.exists_eq_add_of_le' (hcount tableCount rfl)
  have htables (report : Report) := (makes_attemptAll .createTable
    (List.replicate (count + 1) Generator.maker.createTable) report).saying.both
    (says_attemptAll_cons .createTable _ report Generator.made_createTable)
  apply (htables {}).bind_after
  · exact fun xs hxs => broken hxs.1 rfl
  rintro tables report ⟨hstatements, hne⟩
  have hne := hne nofun
  have hfills {probe rest : List Exchange} (hprobe : ∃ complete, Probes database.name complete probe)
      (hrest : ∀ x ∈ rest, x.IsStatement) : Fills database.name (tables ++ probe ++ rest) := by
    obtain ⟨complete, hprobe⟩ := hprobe
    rw [List.append_assoc]
    exact .intro hne hstatements hprobe hrest
  apply (says_reload database.name).bind_after
  · exact fun probe hprobe => ⟨⟨[], hfills hprobe fun x hx => absurd hx List.not_mem_nil⟩,
      fun h => absurd rfl h⟩
  intro probe _ hprobe
  -- after the probe there are statements only, whatever becomes of them
  refine Says.after (Makes.saying (q := Exchange.IsStatement) ?_) fun rest o hrest =>
    ⟨⟨[], ?_⟩, fun _ => hfills hprobe hrest⟩
  · apply (makes_work _).bind
    intro indexCount
    apply (makes_attemptAll _ _ _).bind
    intro report
    apply makes_bench.bind
    intro b
    apply (makes_attemptAll _ _ _).bind
    intro report
    exact (makes_talk (makes_log_bind (Dialogue.makes_pure _))).bind fun _ => makes_pure _
  · rw [List.append_nil]
    exact hfills hprobe hrest

end WorkingDatabase

end PivotedQuery
