import PivotedQuery.Proofs.Statement.Effects
/-!
Schemas that are read again and again. A probe reads all tables or none: the first call that fails
is its last one and decides on the result. Main statement: what a snapshot and a generator hold
after any probes, of which any may fail, is what their last successful ones read and nothing else.
-/
namespace PivotedQuery.Probe

open Dialogue (After says_pure says_call after_pure after_log_bind)

/-- What is said when the table is read. -/
def tellsOf (database : String) (t : Table) : List Exchange :=
  [⟨.listColumns database t.name, some (.ok t.columns)⟩,
    ⟨.listIndexes database t.name, some (.ok t.indexes)⟩]

/-- What is said when these tables are read: one call for the names and two for each table. -/
def transcript (database : String) (tables : List Table) : List Exchange :=
  ⟨.listTables database, some (.ok (tables.map Table.name))⟩ :: tables.flatMap (tellsOf database)

/-- A call that gives an error, or none if it breaks down. -/
inductive Fails : Exchange → Option SchemaError → Prop
  | broken {r : Request} : Fails ⟨r, none⟩ none
  | tables {database : String} {e : SchemaError} :
      Fails ⟨.listTables database, some (.error e)⟩ (some e)
  | columns {database : String} {t : Identifier} {e : SchemaError} :
      Fails ⟨.listColumns database t, some (.error e)⟩ (some e)
  | indexes {database : String} {t : Identifier} {e : SchemaError} :
      Fails ⟨.listIndexes database t, some (.error e)⟩ (some e)

/-- The calls are those by which something good is read, up to one that fails. -/
def Stops {α : Type} (good : α → Prop) (tells : α → List Exchange) (xs : List Exchange)
    (f : Option SchemaError) : Prop :=
  ∃ a done y answered rest, good a ∧ tells a = done ++ ⟨y.request, answered⟩ :: rest ∧
    Fails y f ∧ xs = done ++ [y]

/-- The result that the calls lead to. -/
def LeadsTo {α : Type} (good : α → Prop) (tells : α → List Exchange) (xs : List Exchange) :
    Option (Except SchemaError α) → Prop
  | some (.ok a) => good a ∧ xs = tells a
  | some (.error e) => Stops good tells xs (some e)
  | none => Stops good tells xs none

/-- The calls are those of a probe, and its result is made into `o`. -/
def Settles {ρ : Type} (name : String) (f : Except SchemaError (List Table) → ρ)
    (xs : List Exchange) (o : Option ρ) : Prop :=
  ∃ result, LeadsTo (fun _ => True) (transcript name) xs result ∧ o = result.map f

section Calls

variable {α : Type} {good : α → Prop} {tells : α → List Exchange} {name : String}
  {ts : List Identifier} {xs : List Exchange} {f : Option SchemaError}

/-- The failing call comes after `done`, where reading `a` goes on with the same call. -/
theorem stops_at {a : α} {y : Exchange} (done : List Exchange)
    (answered : Option (Response y.request)) (rest : List Exchange) (ha : good a)
    (htells : tells a = done ++ ⟨y.request, answered⟩ :: rest) (hf : Fails y f) :
    Stops good tells (done ++ [y]) f :=
  ⟨a, done, y, answered, rest, ha, htells, hf, rfl⟩

theorem says_table_leadsTo (name : String) (t : Identifier) :
    (table name t).Says (LeadsTo (·.name = t) (tellsOf name)) := by
  apply (says_call _).bind
  · rintro _ rfl
    exact stops_at (a := ⟨t, [], []⟩) [] (some (.ok [])) _ rfl rfl .broken
  rintro _ (e | columns) rfl
  · refine after_pure ?_
    exact stops_at (a := ⟨t, [], []⟩) [] (some (.ok [])) _ rfl rfl .columns
  apply (says_call _).bind_after
  · rintro _ rfl
    exact stops_at (a := ⟨t, columns, []⟩) [_] (some (.ok [])) _ rfl rfl .broken
  rintro _ (e | indexes) rfl
  · refine after_pure ?_
    exact stops_at (a := ⟨t, columns, []⟩) [_] (some (.ok [])) _ rfl rfl .indexes
  · exact after_pure ⟨rfl, rfl⟩

/-- Behind a table that cannot be read there may be tables of any columns. -/
theorem Stops.first {t : Identifier} (h : Stops (·.name = t) (tellsOf name) xs f) :
    Stops (·.map Table.name = t :: ts) (List.flatMap (tellsOf name)) xs f := by
  obtain ⟨table, done, y, answered, rest, rfl, htells, hf, rfl⟩ := h
  let others : List Table := ts.map fun t => ⟨t, [], []⟩
  refine stops_at (a := table :: others) done answered (rest ++ others.flatMap (tellsOf name))
    ?_ ?_ hf
  · rw [List.map_cons, List.map_map]
    exact congrArg (table.name :: ·) (List.map_id ts)
  · rw [List.flatMap_cons, htells, List.append_assoc, List.cons_append]

theorem Stops.behind {t : Table}
    (h : Stops (·.map Table.name = ts) (List.flatMap (tellsOf name)) xs f) :
    Stops (·.map Table.name = t.name :: ts) (List.flatMap (tellsOf name))
      (tellsOf name t ++ xs) f := by
  obtain ⟨tables, done, y, answered, rest, rfl, htells, hf, rfl⟩ := h
  rw [← List.append_assoc]
  refine stops_at (a := t :: tables) _ answered rest rfl ?_ hf
  rw [List.flatMap_cons, htells, List.append_assoc]

theorem Stops.listed (h : Stops (·.map Table.name = ts) (List.flatMap (tellsOf name)) xs f) :
    Stops (fun _ => True) (transcript name) (⟨.listTables name, some (.ok ts)⟩ :: xs) f := by
  obtain ⟨tables, done, y, answered, rest, rfl, htells, hf, rfl⟩ := h
  rw [← List.cons_append]
  exact stops_at (a := tables) _ answered rest trivial (congrArg (_ :: ·) htells) hf

theorem Stops.exists_broken (h : Stops good tells xs none) : ∃ y ∈ xs, y.reply = none := by
  obtain ⟨a, done, y, answered, rest, -, -, hf, rfl⟩ := h
  cases hf
  exact ⟨_, List.mem_append_right _ List.mem_cons_self, rfl⟩

theorem says_tables_leadsTo (name : String) (ts : List Identifier) : (tables name ts).Says
    (LeadsTo (·.map Table.name = ts) (List.flatMap (tellsOf name))) := by
  induction ts with
  | nil => exact says_pure ⟨rfl, rfl⟩
  | cons t ts ih =>
    apply (says_table_leadsTo name t).bind
    · exact fun xs hxs => Stops.first hxs
    rintro xs (e | table) hxs
    · exact after_pure (Stops.first hxs)
    obtain ⟨rfl, rfl⟩ := hxs
    apply ih.bind_after
    · exact fun ys hys => Stops.behind hys
    rintro ys (e | tables) hys
    · exact after_pure (Stops.behind hys)
    obtain ⟨hnames, rfl⟩ := hys
    exact after_pure ⟨congrArg (table.name :: ·) hnames, rfl⟩

theorem says_fetch_leadsTo (name : String) :
    (fetch name).Says (LeadsTo (fun _ => True) (transcript name)) := by
  apply (says_call _).bind
  · rintro _ rfl
    exact stops_at (a := []) [] (some (.ok [])) [] trivial rfl .broken
  rintro _ (e | ts) rfl
  · refine after_pure ?_
    exact stops_at (a := []) [] (some (.ok [])) [] trivial rfl .tables
  apply (says_tables_leadsTo name ts).after
  rintro xs (_ | e | tables) hxs
  · exact Stops.listed hxs
  · exact Stops.listed hxs
  · obtain ⟨rfl, rfl⟩ := hxs
    exact ⟨trivial, rfl⟩

end Calls

section Outcome

variable {name : String} {ρ τ : Type} {xs : List Exchange} {f : Except SchemaError (List Table) → ρ}

/-- What is done with the result of a probe makes no further call. -/
theorem says_fetch_then {k : Except SchemaError (List Table) → Dialogue ρ}
    (hk : ∀ result, (k result).Says fun xs o => xs = [] ∧ o = some (f result)) :
    (fetch name >>= k).Says (Settles name f) := by
  apply (says_fetch_leadsTo name).bind
  · exact fun xs hxs => ⟨none, hxs, rfl⟩
  · intro xs result hxs
    apply (hk result).after
    rintro _ _ ⟨rfl, rfl⟩
    exact ⟨some result, by rwa [List.append_nil], rfl⟩

theorem says_map {d : Dialogue ρ} (hd : d.Says (Settles name f)) (g : ρ → τ) :
    (do return g (← d) : Dialogue τ).Says (Settles name fun result => g (f result)) := by
  apply hd.bind
  · rintro xs ⟨_ | result, hxs, ho⟩
    · exact ⟨none, hxs, rfl⟩
    · cases ho
  · rintro xs r ⟨_ | result, hxs, ho⟩
    · cases ho
    · cases ho
      exact after_pure ⟨some result, hxs, rfl⟩

theorem Fails.unique {y : Exchange} {f f' : Option SchemaError} (h : Fails y f)
    (h' : Fails y f') : f = f' := by
  cases h <;> cases h' <;> rfl

theorem not_fails_of_mem_transcript {tables : List Table} {y : Exchange} {f : Option SchemaError}
    (hy : y ∈ transcript name tables) : ¬ Fails y f := by
  intro h
  rcases List.mem_cons.1 hy with rfl | hy
  · cases h
  · obtain ⟨t, -, ht⟩ := List.mem_flatMap.1 hy
    rcases List.mem_cons.1 ht with rfl | ht
    · cases h
    · rw [List.mem_singleton.1 ht] at h
      cases h

/-- A call that fails is the last one, comes where a probe makes it, and decides on the result. If
none fails, each call was answered, and the result is what was read. -/
structure AllOrNothing (name : String) (f : Except SchemaError (List Table) → ρ)
    (xs : List Exchange) (o : Option ρ) : Prop where
  failed : ∀ done y rest e, xs = done ++ y :: rest → Fails y e → rest = [] ∧
    (∃ tables answered rest, transcript name tables = done ++ ⟨y.request, answered⟩ :: rest) ∧
    o = e.map fun e => f (.error e)
  read : (∀ y ∈ xs, ∀ e, ¬ Fails y e) →
    ∃ tables, xs = transcript name tables ∧ o = some (f (.ok tables))

theorem Stops.allOrNothing {e : Option SchemaError} {o : Option ρ}
    (h : Stops (fun _ => True) (transcript name) xs e) (ho : o = e.map fun e => f (.error e)) :
    AllOrNothing name f xs o := by
  obtain ⟨tables, done, y, answered, rest, -, htells, he, rfl⟩ := h
  refine ⟨?_, fun hnone => absurd he (hnone y (List.mem_append_right _ List.mem_cons_self) e)⟩
  intro done' y' rest' e' hxs he'
  rcases List.eq_nil_or_concat rest' with rfl | ⟨rest', z, rfl⟩
  · obtain ⟨rfl, hy⟩ := List.append_inj' hxs rfl
    cases hy
    exact ⟨rfl, ⟨tables, answered, rest, htells⟩, he.unique he' ▸ ho⟩
  -- those before the last call are answered as they are when the tables are read
  · rw [List.concat_eq_append, ← List.cons_append, ← List.append_assoc] at hxs
    obtain ⟨rfl, -⟩ := List.append_inj' hxs rfl
    have hmem : y' ∈ transcript name tables := by
      rw [htells]
      exact List.mem_append_left _ (List.mem_append_right _ List.mem_cons_self)
    exact absurd he' (not_fails_of_mem_transcript hmem)

theorem Settles.allOrNothing {o : Option ρ} (h : Settles name f xs o) :
    AllOrNothing name f xs o := by
  obtain ⟨result, hresult, rfl⟩ := h
  match result, hresult with
  | none, hstops => exact Stops.allOrNothing hstops rfl
  | some (.error e), hstops => exact Stops.allOrNothing hstops rfl
  | some (.ok tables), ⟨_, hxs⟩ =>
    subst hxs
    refine ⟨fun done y rest e hxs he => ?_, fun _ => ⟨tables, rfl, rfl⟩⟩
    have hmem : y ∈ transcript name tables := hxs ▸ List.mem_append_right _ List.mem_cons_self
    exact absurd he (not_fails_of_mem_transcript hmem)

/-- The tables that were read take the place of the old ones. -/
def replaced (old : List Table) :
    Except SchemaError (List Table) → Except SchemaError (List Table) × List Table
  | .error e => (.error e, old)
  | .ok tables => (.ok tables, tables)

theorem settles_refresh (name : String) (old : List Table) :
    (refresh name old).Says (Settles name (replaced old)) := by
  apply says_fetch_then
  rintro (e | tables)
  · exact says_pure ⟨rfl, rfl⟩
  · exact After.saying (after_log_bind (after_pure ⟨rfl, rfl⟩))

end Outcome

end PivotedQuery.Probe

namespace PivotedQuery

open Dialogue (says_pure after_pure)
open Probe (AllOrNothing Fails Settles)

namespace Generator

/-- The generator with the tables that were read; options and numbers are its own. -/
def reloaded (g : Generator) : Except SchemaError (List Table) → Except SchemaError Unit × Generator
  | .error e => (.error e, g)
  | .ok tables => (.ok (), { g with tables })

theorem settles_reload (name : String) (g : Generator) :
    (g.reload name).Says (Settles name g.reloaded) := by
  apply Probe.says_fetch_then
  rintro (e | tables)
  · exact says_pure ⟨rfl, rfl⟩
  · exact says_pure ⟨rfl, rfl⟩

end Generator

/-- Who keeps tables that were read. -/
inductive Holder
  | snapshot
  | generator
  deriving DecidableEq

structure Holders where
  snapshot : List Table
  generator : Generator

/-- A probe of a database by one of the two. -/
structure Renewal where
  holder : Holder
  database : String

/-- A probe with what was said and what it came to. -/
structure Probed where
  renewal : Renewal
  exchanges : List Exchange
  result : Except SchemaError (List Table)

namespace Probed

/-- The tables that the holder got from the probe. -/
def read? (holder : Holder) (p : Probed) : Option (List Table) :=
  if p.renewal.holder = holder then p.result.toOption else none

/-- The tables that the holder got last, or else the old ones. -/
def latest (holder : Holder) (old : List Table) (probes : List Probed) : List Table :=
  (probes.filterMap (read? holder)).getLastD old

theorem latest_cons (holder : Holder) (old : List Table) (p : Probed) (probes : List Probed) :
    latest holder old (p :: probes) = latest holder ((p.read? holder).getD old) probes := by
  unfold latest
  cases h : p.read? holder with
  | none => rw [List.filterMap_cons_none h, Option.getD_none]
  | some tables => rw [List.filterMap_cons_some h, List.getLastD_cons, Option.getD_some]

end Probed

namespace Holders

open Probed (latest latest_cons)

def renew (h : Holders) (r : Renewal) : Dialogue Holders :=
  match r.holder with
  | .snapshot => return { h with snapshot := (← Probe.refresh r.database h.snapshot).2 }
  | .generator => return { h with generator := (← h.generator.reload r.database).2 }

def renewAll (h : Holders) : List Renewal → Dialogue Holders
  | [] => return h
  | r :: rs => do renewAll (← h.renew r) rs

/-- What a probe makes of the two. -/
def after (h : Holders) : Holder → Except SchemaError (List Table) → Holders
  | .snapshot, result => { h with snapshot := (Probe.replaced h.snapshot result).2 }
  | .generator, result => { h with generator := (h.generator.reloaded result).2 }

theorem says_renew (h : Holders) (r : Renewal) :
    (h.renew r).Says (Settles r.database (h.after r.holder)) := by
  obtain ⟨holder, database⟩ := r
  cases holder with
  | snapshot => exact Probe.says_map (Probe.settles_refresh database h.snapshot) fun r =>
      { h with snapshot := r.2 }
  | generator => exact Probe.says_map (h.generator.settles_reload database) fun r =>
      { h with generator := r.2 }

/-- The probes one after the other, and what the two hold in the end. -/
def Renewed (h : Holders) (renewals : List Renewal) (xs : List Exchange) : Option Holders → Prop
  | none => ∃ y ∈ xs, y.reply = none
  | some h' => ∃ probes : List Probed, probes.map Probed.renewal = renewals ∧
      xs = probes.flatMap Probed.exchanges ∧
      (∀ p ∈ probes, AllOrNothing p.renewal.database id p.exchanges (some p.result)) ∧
      h'.snapshot = latest .snapshot h.snapshot probes ∧
      h'.generator = { h.generator with tables := latest .generator h.generator.tables probes }

theorem after_eq (h : Holders) (p : Probed) : h.after p.renewal.holder p.result =
    ⟨(p.read? .snapshot).getD h.snapshot,
      { h.generator with tables := (p.read? .generator).getD h.generator.tables }⟩ := by
  obtain ⟨⟨holder, database⟩, xs, result⟩ := p
  cases holder <;> cases result <;> rfl

theorem Renewed.cons {h : Holders} {renewals : List Renewal} {p : Probed} {xs : List Exchange}
    {o : Option Holders} (hp : AllOrNothing p.renewal.database id p.exchanges (some p.result))
    (hrest : Renewed (h.after p.renewal.holder p.result) renewals xs o) :
    Renewed h (p.renewal :: renewals) (p.exchanges ++ xs) o := by
  cases o with
  | none =>
    obtain ⟨y, hy, hnone⟩ := hrest
    exact ⟨y, List.mem_append_right _ hy, hnone⟩
  | some h' =>
    obtain ⟨probes, rfl, rfl, hprobes, hsnapshot, hgenerator⟩ := hrest
    rw [after_eq] at hsnapshot hgenerator
    refine ⟨p :: probes, rfl, List.flatMap_cons.symm, List.forall_mem_cons.2 ⟨hp, hprobes⟩, ?_, ?_⟩
    · rw [latest_cons, hsnapshot]
    · rw [latest_cons, hgenerator]

theorem says_renewAll (h : Holders) (renewals : List Renewal) :
    (h.renewAll renewals).Says (Renewed h renewals) := by
  induction renewals generalizing h with
  | nil => exact says_pure ⟨[], rfl, rfl, nofun, rfl, rfl⟩
  | cons r renewals ih =>
    apply (h.says_renew r).bind
    · rintro xs ⟨_ | result, hxs, ho⟩
      · exact Probe.Stops.exists_broken hxs
      · cases ho
    · rintro xs _ ⟨_ | result, hxs, ho⟩
      · cases ho
      · cases ho
        apply (ih _).after
        intro ys o hys
        exact Renewed.cons (p := ⟨r, xs, result⟩) (Settles.allOrNothing ⟨some result, hxs, rfl⟩) hys

end Holders

/-- A refresh of the snapshot and a reload of the generator end with the first call that fails and
then change nothing; if none fails, the tables that were read take the place of all old ones. After
any probes by the two, each holds what it read last. -/
theorem probes_all_or_nothing {σ : Type} (db : Backend σ) (w : World σ) :
    (∀ name old, AllOrNothing name (Probe.replaced old) ((Probe.refresh name old).exchanges db w)
      ((Probe.refresh name old).run db w).1) ∧
    (∀ name (g : Generator), AllOrNothing name g.reloaded ((g.reload name).exchanges db w)
      ((g.reload name).run db w).1) ∧
    ∀ (h : Holders) (renewals : List Renewal), h.Renewed renewals
      ((h.renewAll renewals).exchanges db w) ((h.renewAll renewals).run db w).1 :=
  ⟨fun name old => ((Probe.settles_refresh name old).of_run db w).allOrNothing,
    fun name g => ((g.settles_reload name).of_run db w).allOrNothing,
    fun h renewals => (h.says_renewAll renewals).of_run db w⟩

/-- Knows two tables, and shows no columns of the second one. -/
def halfReadable : Backend Unit where
  answer _ r := (⟨match r with
    | .listTables _ => some (.ok [⟨"t"⟩, ⟨"u"⟩])
    | .listColumns _ t => some (if t = ⟨"u"⟩ then .error (.query "columns" "locked") else .ok [])
    | .listIndexes _ _ => some (.ok [])
    | _ => none, [], []⟩, ())

/-- The columns of the second table are the fourth call. -/
theorem probes_all_or_nothing_halfReadable :
    ((Probe.refresh "pqs" [⟨⟨"v"⟩, [], []⟩]).run halfReadable { state := () }).1 =
      some (.error (.query "columns" "locked"), [⟨⟨"v"⟩, [], []⟩]) := by
  have hall := (probes_all_or_nothing halfReadable { state := () }).1 "pqs" [⟨⟨"v"⟩, [], []⟩]
  have hcalls : (Probe.refresh "pqs" [⟨⟨"v"⟩, [], []⟩]).exchanges halfReadable { state := () } =
      [⟨.listTables "pqs", some (.ok [⟨"t"⟩, ⟨"u"⟩])⟩, ⟨.listColumns "pqs" ⟨"t"⟩, some (.ok [])⟩,
        ⟨.listIndexes "pqs" ⟨"t"⟩, some (.ok [])⟩] ++
      ⟨.listColumns "pqs" ⟨"u"⟩, some (.error (.query "columns" "locked"))⟩ :: [] := rfl
  exact (hall.failed _ _ _ _ hcalls .columns).2.2

end PivotedQuery
