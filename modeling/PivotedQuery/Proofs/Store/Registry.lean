import PivotedQuery.Population.Basic
import PivotedQuery.Proofs.Dialogue.Run
import PivotedQuery.Store.DataSource
/-!
Which database a store has registered and which it shows. Main statement: however a store has been
used, a database is shown only if it is registered, and a reset either leaves an empty database of its
name or, if another one is registered, changes nothing.
-/
namespace PivotedQuery

open Dialogue (run_seq run_call)

/-! What dropping leaves. -/

theorem Item.subject_of_not_index {i : Item} (h : i.isIndex = false) : i.subject = i.name := by
  cases i with
  | table r => rfl
  | view name source => rfl
  | index i => cases h

namespace Contents

variable {c : Contents} {i : Item}

theorem mem_userItems_iff :
    i ∈ c.userItems ↔ i ∈ c.items ∧ i.isIndex = false ∧ isReserved i.name = false := by
  unfold userItems
  rw [List.mem_filter, Bool.and_eq_true, Bool.not_eq_true', Bool.not_eq_true']

/-- What is left of the users' own had another name. -/
theorem mem_userItems_of_drop {name : Identifier} (h : i ∈ (c.drop name).userItems) :
    i ∈ c.userItems ∧ (i.name == name) = false := by
  obtain ⟨hitem, hindex, hreserved⟩ := mem_userItems_iff.1 h
  obtain ⟨o, ho, rfl⟩ := List.mem_map.1 hitem
  obtain ⟨hmem, hkept⟩ := List.mem_filter.1 ho
  rw [Item.subject_of_not_index hindex, Bool.not_eq_true'] at hkept
  exact ⟨mem_userItems_iff.2 ⟨List.mem_map_of_mem hmem, hindex, hreserved⟩, hkept⟩

/-- The contents after these have been dropped, one after the other. -/
def dropAll (c : Contents) (items : List Item) : Contents :=
  items.foldl (fun c i => c.drop i.name) c

theorem mem_userItems_of_dropAll {items : List Item} (h : i ∈ (c.dropAll items).userItems) :
    i ∈ c.userItems ∧ ∀ j ∈ items, (i.name == j.name) = false := by
  induction items generalizing c with
  | nil => exact ⟨h, fun j hj => absurd hj List.not_mem_nil⟩
  | cons j items ih =>
    obtain ⟨hdropped, hothers⟩ := ih h
    obtain ⟨hmem, hname⟩ := mem_userItems_of_drop hdropped
    exact ⟨hmem, List.forall_mem_cons.2 ⟨hname, hothers⟩⟩

theorem userItems_dropAll (c : Contents) : (c.dropAll c.userItems).userItems = [] := by
  apply List.eq_nil_iff_forall_not_mem.2
  intro i hi
  obtain ⟨hmem, hnames⟩ := mem_userItems_of_dropAll hi
  have hself : (i.name == i.name) = false := hnames i hmem
  rw [BEq.rfl] at hself
  cases hself

theorem tableNames_of_userItems_nil (h : c.userItems = []) : c.tableNames = [] := by
  unfold tableNames
  rw [h]
  exact List.mergeSort_nil

end Contents

namespace Store

/-- A database is shown only while it is registered. -/
def Coherent (s : Store) : Prop := ∀ name, s.current = some name → s.created = some name

/-- Whatever has been asked of the store since it was opened with nothing registered, and whatever
statements have made of its contents. -/
inductive Visited : Store → Prop
  | opened {s : Store} (hcreated : s.created = none) (hcurrent : s.current = none) : Visited s
  | asked {s : Store} (h : Visited s) (r : Request) : Visited (s.answer r).2
  | written {s : Store} (h : Visited s) (c : Contents) : Visited { s with contents := c }

/-- The objects can be listed, and dropped if there are any. -/
structure Droppable (s : Store) : Prop where
  readable : s.damaged = false
  writable : s.contents.userItems ≠ [] → s.readOnly = false

variable {s : Store} {name : String}

/-! The registry, request by request. -/

theorem registry_typed (s : Store) (sql : String) (found : Except Refusal Found) :
    (s.typed sql found).2.created = s.created ∧ (s.typed sql found).2.current = s.current := by
  unfold typed
  cases s.statements with
  | none => exact ⟨rfl, rfl⟩
  | some p => exact ⟨rfl, rfl⟩

theorem registry_retrieve (s : Store) (r : Sql.Retrieval) :
    (s.retrieve r).2.created = s.created ∧ (s.retrieve r).2.current = s.current := by
  unfold retrieve
  split
  · exact ⟨rfl, rfl⟩
  · exact ⟨rfl, rfl⟩

theorem registry_select (s : Store) (sql : String) :
    (s.select sql).2.created = s.created ∧ (s.select sql).2.current = s.current := by
  unfold select
  cases Sql.retrieval? sql with
  | none => exact ⟨rfl, rfl⟩
  | some r =>
    obtain ⟨hcreated, hcurrent⟩ := s.registry_retrieve r
    obtain ⟨hcreated', hcurrent'⟩ := (s.retrieve r).2.registry_typed sql (s.retrieve r).1
    exact ⟨hcreated'.trans hcreated, hcurrent'.trans hcurrent⟩

theorem registry_execute {sql : String} {c : Sql.Command} {s' : Store}
    (h : s.execute sql c = .ok s') : s'.created = s.created ∧ s'.current = s.current := by
  unfold execute at h
  split at h
  · cases h
  split at h
  · cases h
  · cases hcontents : s.contents.execute sql c with
    | error e =>
      rw [hcontents] at h
      cases h
    | ok contents =>
      rw [hcontents] at h
      cases h
      exact ⟨rfl, rfl⟩

theorem registry_exec (s : Store) (sql : String) :
    (s.exec sql).2.created = s.created ∧ (s.exec sql).2.current = s.current := by
  unfold exec
  cases Sql.command? sql with
  | none => exact ⟨rfl, rfl⟩
  | some c =>
    dsimp only
    cases hexecute : s.execute sql c with
    | error e => exact ⟨rfl, rfl⟩
    | ok s' => exact registry_execute hexecute

theorem Coherent.of_registry {s' : Store} (hs : s.Coherent)
    (h : s'.created = s.created ∧ s'.current = s.current) : s'.Coherent := by
  intro name hname
  rw [h.2] at hname
  rw [h.1]
  exact hs name hname

theorem Coherent.of_none {s' : Store} (h : s'.current = none) : s'.Coherent := by
  intro name hname
  rw [h] at hname
  cases hname

/-- One drop after the other leaves the registry as it is, and the end of them empties it. -/
theorem Coherent.dropItems (hs : s.Coherent) (items : List Item) :
    (s.dropItems items).2.Coherent := by
  -- every drop leaves another store to the rest of the drops
  induction items generalizing s with
  | nil => exact .of_none rfl
  | cons i items ih =>
    unfold Store.dropItems
    split
    · exact hs
    · exact ih (hs.of_registry ⟨rfl, rfl⟩)

theorem Coherent.dropDatabase (hs : s.Coherent) (name : String) :
    (s.dropDatabase name).2.Coherent := by
  unfold Store.dropDatabase
  split
  · exact hs
  split
  · exact hs
  · exact hs.dropItems _

/-- Nothing can be shown while nothing is registered. -/
theorem Coherent.createDatabase (hs : s.Coherent) (name : String) :
    (s.createDatabase name).2.Coherent := by
  unfold Store.createDatabase
  cases hcreated : s.created with
  | some other => exact hs
  | none =>
    intro shown hshown
    have hregistered : s.created = some shown := hs shown hshown
    rw [hcreated] at hregistered
    cases hregistered

theorem Coherent.useDatabase (hs : s.Coherent) (name : String) :
    (s.useDatabase name).2.Coherent := by
  unfold Store.useDatabase
  split
  · exact hs
  case isFalse hregistered =>
    intro shown hshown
    rw [← Option.some.inj hshown]
    exact Decidable.not_not.1 hregistered

theorem Coherent.asked (hs : s.Coherent) (r : Request) : (s.answer r).2.Coherent := by
  cases r with
  | listTables database => exact hs
  | listColumns database table => exact hs
  | listIndexes database table => exact hs
  | select sql => exact hs.of_registry (s.registry_select sql)
  | exec sql => exact hs.of_registry (s.registry_exec sql)
  | dropDatabase database => exact hs.dropDatabase database
  | createDatabase database => exact hs.createDatabase database
  | useDatabase database => exact hs.useDatabase database
  | interruptHandle => exact hs
  | seedRandom seed => exact hs.of_registry ⟨rfl, rfl⟩

theorem Visited.coherent (h : Visited s) : s.Coherent := by
  induction h with
  | opened hcreated hcurrent => exact .of_none hcurrent
  | asked _ r ih => exact ih.asked r
  | written _ c ih => exact ih.of_registry ⟨rfl, rfl⟩

theorem visited_of_opened {files : Files} {prepared : Bool} {dataSource : String}
    (h : opened files prepared dataSource = .ok s) : Visited s := by
  unfold opened at h
  dsimp only at h
  cases hsource : DataSource.parse dataSource with
  | none =>
    rw [hsource] at h
    cases h
  | some source =>
    rw [hsource] at h
    cases source with
    | memory readOnly =>
      cases h
      exact .opened rfl rfl
    | file use =>
      dsimp only at h
      cases hcontent : use.content? files with
      | none =>
        rw [hcontent] at h
        cases h
      | some content =>
        rw [hcontent] at h
        cases h
        exact .opened rfl rfl

/-! A reset. -/

/-- The store without the users' own tables and views and with nothing registered. -/
def cleared (s : Store) : Store :=
  { s with contents := s.contents.dropAll s.contents.userItems, created := none, current := none }

theorem dropItems_of_writable (items : List Item) (s : Store)
    (h : items ≠ [] → s.readOnly = false) : s.dropItems items =
      (.ok (), { s with contents := s.contents.dropAll items, created := none, current := none }) := by
  induction items generalizing s with
  | nil => rfl
  | cons i items ih =>
    have hwritable : s.readOnly = false := h (List.cons_ne_nil i items)
    unfold Store.dropItems
    rw [if_neg (by simp [hwritable])]
    exact ih _ fun _ => hwritable

/-- A foreign name is registered. -/
def IsTaken (s : Store) (name : String) : Prop := ∃ other, s.created = some other ∧ other ≠ name

theorem dropDatabase_of_taken (h : s.IsTaken name) : s.dropDatabase name = (.ok (), s) := by
  obtain ⟨other, hcreated, hother⟩ := h
  unfold dropDatabase
  rw [hcreated, if_pos (by simpa using hother)]

theorem any_ne_of_not_taken (h : ¬ s.IsTaken name) : s.created.any (· ≠ name) = false := by
  cases hcreated : s.created with
  | none => rfl
  | some other =>
    have hother : other = name := Decidable.not_not.1 fun hother => h ⟨other, hcreated, hother⟩
    simp [hother]

theorem dropDatabase_of_droppable (hs : s.Droppable) (h : ¬ s.IsTaken name) :
    s.dropDatabase name = (.ok (), s.cleared) := by
  unfold dropDatabase
  rw [any_ne_of_not_taken h, hs.readable]
  exact dropItems_of_writable _ s hs.writable

theorem writable_of_dropItems {items : List Item} (hne : items ≠ [])
    (h : (s.dropItems items).1 = .ok ()) : s.readOnly = false := by
  cases items with
  | nil => exact absurd rfl hne
  | cons i items =>
    unfold Store.dropItems at h
    split at h
    · cases h
    case isFalse hwritable => exact Bool.not_eq_true _ ▸ hwritable

/-- The query and the statements of a drop succeed just where the objects can be dropped. -/
theorem dropDatabase_eq_ok_iff (h : ¬ s.IsTaken name) :
    (s.dropDatabase name).1 = .ok () ↔ s.Droppable := by
  constructor
  · intro hok
    have hown := any_ne_of_not_taken h
    unfold dropDatabase at hok
    rw [hown] at hok
    cases hdamaged : s.damaged with
    | true =>
      rw [hdamaged] at hok
      cases hok
    | false =>
      rw [hdamaged] at hok
      exact ⟨hdamaged, fun hne => writable_of_dropItems hne hok⟩
  · intro hs
    rw [dropDatabase_of_droppable hs h]

theorem createDatabase_of_none (h : s.created = none) (name : String) :
    s.createDatabase name = (.ok (), { s with created := some name }) := by
  unfold createDatabase
  rw [h]

theorem createDatabase_of_some {other : String} (h : s.created = some other) (name : String) :
    ∃ e, s.createDatabase name = (.error e, s) := by
  unfold createDatabase
  rw [h]
  exact ⟨_, rfl⟩

theorem useDatabase_of_created (h : s.created = some name) :
    s.useDatabase name = (.ok (), { s with current := some name }) := by
  unfold useDatabase
  rw [if_neg (Decidable.not_not.2 h)]

/-- The store cleared, and with an empty database of that name. -/
def renewed (s : Store) (name : String) : Store :=
  { s.cleared with created := some name, current := some name }

theorem run_call_backend {r : Request} {reply : Response r} {s' : Store} {w : World Store}
    (h : w.state.answer r = (reply, s')) :
    ∃ w', (Dialogue.call r).run backend w = (some reply, w') ∧ w'.state = s' := by
  refine ⟨backend.served w r, ?_, congrArg Prod.snd h⟩
  rw [run_call]
  exact congrArg (fun p => (some p.1, backend.served w r)) h

/-- The drop leaves a foreign database alone, and then none can be created. -/
theorem run_reset_of_taken (d : WorkingDatabase) (h : s.IsTaken d.name) :
    ∃ e, ∀ w : World Store, w.state = s →
      ∃ w', d.reset.run backend w = (some (.error e), w') ∧ w'.state = s := by
  have hdrop := dropDatabase_of_taken h
  obtain ⟨other, hcreated, -⟩ := h
  obtain ⟨e, hcreate⟩ := createDatabase_of_some hcreated d.name
  refine ⟨e, fun w hw => ?_⟩
  subst hw
  obtain ⟨w₁, hrun, hstate⟩ := run_call_backend (r := .dropDatabase d.name) hdrop
  rw [← hstate] at hcreate
  obtain ⟨w₂, hrun', hstate'⟩ := run_call_backend (r := .createDatabase d.name) hcreate
  have hreset : d.reset.run backend w = (some (.error e), w₂) :=
    (run_seq backend hrun).trans (run_seq backend hrun')
  exact ⟨w₂, hreset, hstate'.trans hstate⟩

theorem run_reset_of_droppable (d : WorkingDatabase) {w : World Store} (hs : w.state.Droppable)
    (h : ¬ w.state.IsTaken d.name) :
    ∃ w', d.reset.run backend w = (some (.ok ()), w') ∧ w'.state = w.state.renewed d.name := by
  obtain ⟨w₁, hdrop, hcleared⟩ := run_call_backend (r := .dropDatabase d.name)
    (dropDatabase_of_droppable hs h)
  have hnone : w₁.state.created = none := congrArg created hcleared
  obtain ⟨w₂, hcreate, hcreated⟩ := run_call_backend (r := .createDatabase d.name)
    (createDatabase_of_none hnone d.name)
  have hsome : w₂.state.created = some d.name := congrArg created hcreated
  obtain ⟨w₃, huse, hused⟩ := run_call_backend (r := .useDatabase d.name)
    (useDatabase_of_created hsome)
  have hreset : d.reset.run backend w = (some (.ok ()), w₃.noted (.databaseReset d.name)) :=
    (run_seq backend hdrop).trans ((run_seq backend hcreate).trans (run_seq backend huse))
  refine ⟨_, hreset, ?_⟩
  calc
    w₃.state = { w₂.state with current := some d.name } := hused
    _ = w.state.renewed d.name := by rw [hcreated, hcleared]; rfl

theorem userItems_renewed (s : Store) (name : String) :
    (s.renewed name).contents.userItems = [] :=
  s.contents.userItems_dropAll

theorem Droppable.renewed (hs : s.Droppable) (name : String) : (s.renewed name).Droppable :=
  ⟨hs.readable, fun hne => absurd (s.userItems_renewed name) hne⟩

theorem not_taken_renewed (s : Store) (name : String) : ¬ (s.renewed name).IsTaken name := by
  rintro ⟨other, hcreated, hother⟩
  exact hother (Option.some.inj hcreated).symm

theorem renewed_renewed (s : Store) (name : String) :
    (s.renewed name).renewed name = s.renewed name := by
  have hcontents : (s.renewed name).contents.dropAll (s.renewed name).contents.userItems =
      (s.renewed name).contents := by
    rw [userItems_renewed]
    rfl
  unfold renewed cleared at hcontents ⊢
  rw [hcontents]

theorem show?_of_ne {α : Type} (h : s.current ≠ some name) (what : String)
    (shown : Except Refusal α) : s.show? name what shown = .error (.unknownDatabase name) :=
  if_pos h

theorem listTables_renewed (hs : s.Droppable) (name : String) :
    (s.renewed name).listTables name = .ok [] := by
  have hcurrent : ¬ (s.renewed name).current ≠ some name := fun h => h rfl
  have hreadable : (s.renewed name).damaged = false := hs.readable
  unfold listTables show?
  rw [if_neg hcurrent, hreadable, Contents.tableNames_of_userItems_nil (s.userItems_renewed name)]
  rfl

theorem run_fetch_of_renewed {w : World Store} (hs : s.Droppable) (h : w.state = s.renewed name) :
    ((Probe.fetch name).run backend w).1 = some (.ok []) := by
  have hlist : w.state.answer (.listTables name) = (.ok [], w.state) := by
    rw [h]
    exact congrArg (·, s.renewed name) (listTables_renewed hs name)
  obtain ⟨w₁, hrun, -⟩ := run_call_backend hlist
  have hfetch : (Probe.fetch name).run backend w = (some (.ok []), w₁) := run_seq backend hrun
  rw [hfetch]

/-- Whatever has been asked of the store and whatever it holds, as long as what a drop asks for
succeeds. -/
theorem registry_and_reset (h : Visited s) :
    (∀ name, s.current = some name → s.created = some name) ∧
    (∀ name table, s.current ≠ some name →
      (s.answer (.listTables name)).1 = .error (.unknownDatabase name) ∧
      (s.answer (.listColumns name table)).1 = .error (.unknownDatabase name) ∧
      (s.answer (.listIndexes name table)).1 = .error (.unknownDatabase name)) ∧
    ∀ (d : WorkingDatabase) (w : World Store), w.state = s →
      (s.dropDatabase d.name).1 = .ok () →
      ∃ result w' w'', d.reset.run backend w = (some result, w') ∧
        (result = .ok () ↔ ∀ other, s.created = some other → other = d.name) ∧
        (result = .ok () → w'.state.created = some d.name ∧ w'.state.current = some d.name ∧
          w'.state.contents.userItems = [] ∧
          ((Probe.fetch d.name).run backend w').1 = some (.ok [])) ∧
        (result ≠ .ok () → w'.state = s) ∧
        d.reset.run backend w' = (some result, w'') ∧ w''.state = w'.state := by
  refine ⟨h.coherent, fun name table hname => ⟨show?_of_ne hname _ _, show?_of_ne hname _ _,
    show?_of_ne hname _ _⟩, fun d w hw hdrop => ?_⟩
  subst hw
  -- where the name is taken, the creation fails before anything is dropped
  by_cases htaken : w.state.IsTaken d.name
  · obtain ⟨e, hrefused⟩ := run_reset_of_taken d htaken
    obtain ⟨w', hreset, hstate⟩ := hrefused w rfl
    obtain ⟨w'', hagain, hstate'⟩ := hrefused w' hstate
    obtain ⟨other, hcreated, hother⟩ := htaken
    refine ⟨.error e, w', w'', hreset, ⟨nofun, fun hall => ?_⟩, nofun, fun _ => hstate, hagain,
      hstate'.trans hstate.symm⟩
    exact absurd (hall other hcreated) hother
  -- where it is not, a reset leaves a store that can be reset again to the same
  · have hs : w.state.Droppable := (dropDatabase_eq_ok_iff htaken).1 hdrop
    obtain ⟨w', hreset, hstate⟩ := run_reset_of_droppable d hs htaken
    have hs' : w'.state.Droppable := by
      rw [hstate]
      exact hs.renewed d.name
    have hfree : ¬ w'.state.IsTaken d.name := by
      rw [hstate]
      exact not_taken_renewed w.state d.name
    obtain ⟨w'', hagain, hstate'⟩ := run_reset_of_droppable d hs' hfree
    refine ⟨.ok (), w', w'', hreset, ⟨fun _ other hcreated => ?_, fun _ => rfl⟩, fun _ => ?_,
      fun hne => absurd rfl hne, hagain, ?_⟩
    · exact Decidable.not_not.1 fun hother => htaken ⟨other, hcreated, hother⟩
    · have hfetch := run_fetch_of_renewed hs hstate
      rw [hstate]
      exact ⟨rfl, rfl, userItems_renewed _ _, hfetch⟩
    · rw [hstate', hstate, renewed_renewed]

/-- Opened with one table in it, before a database is created. -/
def hostStore : Store := ((({
  contents := { objects := [⟨.table { name := ⟨"t"⟩, columns := [⟨⟨"a"⟩, "", true⟩] }, 2, none⟩] }
} : Store).answer (.createDatabase "other")).2)

/-- The table outlives a reset of another name and not that of the name that is registered. -/
theorem registry_and_reset_host : Visited hostStore ∧ hostStore.contents.userItems ≠ [] ∧
    (hostStore.dropDatabase "pqs").1 = .ok () ∧ (hostStore.dropDatabase "other").1 = .ok () ∧
    ∃ e w w',
      (WorkingDatabase.reset ⟨"pqs", {}⟩).run backend { state := hostStore } =
        (some (.error e), w) ∧ w.state = hostStore ∧
      (WorkingDatabase.reset ⟨"other", {}⟩).run backend { state := hostStore } =
        (some (.ok ()), w') ∧ w'.state.contents.userItems = [] ∧
      ((Probe.fetch "other").run backend w').1 = some (.ok []) := by
  have hvisited : Visited hostStore := (Visited.opened rfl rfl).asked _
  have hitems : hostStore.contents.userItems ≠ [] := by
    have hlength : hostStore.contents.userItems.length = 1 := by decide +kernel
    intro hnil
    rw [hnil] at hlength
    cases hlength
  have hforeign : (hostStore.dropDatabase "pqs").1 = .ok () := by
    rw [dropDatabase_of_taken ⟨"other", rfl, by decide⟩]
  have hown : (hostStore.dropDatabase "other").1 = .ok () := by
    rw [dropDatabase_eq_ok_iff]
    · exact ⟨rfl, fun _ => rfl⟩
    · rintro ⟨_, ⟨⟩, hother⟩
      exact hother rfl
  obtain ⟨-, -, hresets⟩ := registry_and_reset hvisited
  obtain ⟨result, w, _, hreset, hiff, -, hfailed, -⟩ :=
    hresets ⟨"pqs", {}⟩ { state := hostStore } rfl hforeign
  obtain ⟨result', w', _, hreset', hiff', hdone, -⟩ :=
    hresets ⟨"other", {}⟩ { state := hostStore } rfl hown
  have hok : result' = .ok () := hiff'.2 fun _ hcreated => (Option.some.inj hcreated).symm
  obtain ⟨-, -, hempty, hfetch⟩ := hdone hok
  rw [hok] at hreset'
  have hne : result ≠ .ok () := fun hok => absurd (hiff.1 hok "other" rfl) (by decide)
  cases result with
  | ok => exact absurd rfl hne
  | error e =>
    exact ⟨hvisited, hitems, hforeign, hown, e, w, w', hreset, hfailed hne, hreset', hempty,
      hfetch⟩

end Store

end PivotedQuery
