import PivotedQuery.Proofs.Dialogue.Says
import PivotedQuery.Proofs.Pivot.Selection
/-!
The rows that a pivot row is made of. Main statement: the drawn tables are asked in turn for a row
until a reply is at fault, the fault decides on the error, and if there is none the pivot row pairs
the columns of each table that has a row with the cells of its first one.
-/
namespace PivotedQuery.Pivot

open Dialogue (says_pure says_call after_pure after_log_bind)

/-- A table that was asked for a row, with the reply; no reply is a breakdown. -/
structure Asked where
  table : Table
  reply : Option (Except ExecutionError Rows)

namespace Asked

def exchange (a : Asked) : Exchange := ⟨.select (rowSql a.table), a.reply⟩

/-- The first row of the reply. -/
def row? (a : Asked) : Option (List Cell) :=
  match a.reply with
  | some (.ok (row :: _)) => some row
  | _ => none

/-- The columns of the table with the cells of the row. -/
def entries (a : Asked) : List (ColumnKey × Cell) :=
  match a.row? with
  | some row => a.table.keys.zip row
  | none => []

end Asked

def gathered (asked : List Asked) : List (ColumnKey × Cell) := asked.flatMap Asked.entries

def tablesWithRow (asked : List Asked) : List Table :=
  (asked.filter (·.row?.isSome)).map Asked.table

/-- No reply is an error, each row has one cell for each column, and no key comes twice. -/
structure Sound (asked : List Asked) : Prop where
  answered : ∀ a ∈ asked, ∃ rows, a.reply = some (.ok rows)
  fits : ∀ a ∈ asked, ∀ row, a.row? = some row → row.length = a.table.columns.length
  distinct : DistinctBy Prod.fst (gathered asked)

/-- The first key that came before, among `earlier` or `keys`, came as `held`. -/
def Repeats (earlier keys : List ColumnKey) (held : ColumnKey) : Prop :=
  ∃ fresh key rest, keys = fresh ++ key :: rest ∧ DistinctBy id (earlier ++ fresh) ∧
    held ∈ earlier ++ fresh ∧ (held == key) = true

/-- What is wrong with the reply for a table, after those in `done`; `none` is a breakdown. -/
def Asked.Fails (done : List Asked) (a : Asked) : Option PivotError → Prop
  | none => a.reply = none
  | some .noTables => False
  | some (.execution e) => a.reply = some (.error e)
  | some (.rowShape table expected actual) => ∃ row, a.row? = some row ∧
      row.length ≠ a.table.columns.length ∧ table = a.table.name.name ∧
      expected = a.table.columns.length ∧ actual = row.length
  | some (.duplicateKey held) => ∃ row, a.row? = some row ∧
      row.length = a.table.columns.length ∧
      Repeats ((gathered done).map Prod.fst) a.table.keys held

/-- The last reply is at fault, and it is the first that is. -/
def Stopped (asked : List Asked) (fault : Option PivotError) : Prop :=
  ∃ done a, asked = done ++ [a] ∧ Sound done ∧ a.Fails done fault

/-- The result that the replies lead to. -/
def LeadsTo (chosen : List Table) (asked : List Asked) : Option (Except PivotError Choice) → Prop
  | some (.ok c) => asked.map Asked.table = chosen ∧ Sound asked ∧
      c.used = tablesWithRow asked ∧ c.pivot.entries = gathered asked
  | some (.error e) => Stopped asked (some e)
  | none => Stopped asked none

section Keys

variable {earlier keys : List ColumnKey} {key held : ColumnKey}

theorem not_repeats_nil : ¬ Repeats earlier [] held := by
  rintro ⟨fresh, key, rest, hkeys, -⟩
  simp at hkeys

/-- The first key is compared with all earlier ones, and the others with it as well. -/
theorem repeats_cons_iff (hearlier : DistinctBy id earlier) :
    Repeats earlier (key :: keys) held ↔ (held ∈ earlier ∧ (held == key) = true) ∨
      ((∀ k ∈ earlier, (k == key) = false) ∧ Repeats (earlier ++ [key]) keys held) := by
  constructor
  · rintro ⟨fresh, first, rest, hkeys, hdistinct, hheld, hfirst⟩
    cases fresh with
    | nil =>
      obtain ⟨rfl, rfl⟩ := List.cons.inj hkeys
      exact .inl ⟨by simpa using hheld, hfirst⟩
    | cons k fresh =>
      obtain ⟨rfl, rfl⟩ := List.cons.inj hkeys
      have hnew : ∀ k' ∈ earlier, (k' == key) = false := fun k' hk' =>
        (List.pairwise_append.1 hdistinct).2.2 k' hk' key List.mem_cons_self
      rw [List.append_cons] at hdistinct hheld
      exact .inr ⟨hnew, fresh, first, rest, rfl, hdistinct, hheld, hfirst⟩
  · rintro (⟨hheld, hkey⟩ | ⟨-, fresh, first, rest, rfl, hdistinct, hheld, hfirst⟩)
    · exact ⟨[], key, keys, rfl, by simpa using hearlier, by simpa using hheld, hkey⟩
    · rw [← List.append_cons] at hdistinct hheld
      exact ⟨key :: fresh, first, rest, rfl, hdistinct, hheld, hfirst⟩

theorem not_repeats_of_distinctBy (h : DistinctBy id (earlier ++ keys)) :
    ¬ Repeats earlier keys held := by
  rintro ⟨fresh, key, rest, rfl, -, hheld, hkey⟩
  rw [← List.append_assoc] at h
  have hdiffer := (List.pairwise_append.1 h).2.2 held hheld key List.mem_cons_self
  rw [id, id, hkey] at hdiffer
  cases hdiffer

end Keys

theorem addCells_eq_error_iff {p : PivotRow} {cells : List (ColumnKey × Cell)} {e : PivotError} :
    addCells p cells = .error e ↔
      ∃ held, Repeats p.keys (cells.map Prod.fst) held ∧ e = .duplicateKey held := by
  induction cells generalizing p with
  | nil => simp [addCells, not_repeats_nil]
  | cons cell cells ih =>
    have hrest {p' : PivotRow} (h : p.insert cell.1 cell.2 = .ok p') :
        addCells p' cells = .error e ↔ ∃ held,
          Repeats (p.keys ++ [cell.1]) (cells.map Prod.fst) held ∧ e = .duplicateKey held := by
      rw [ih, PivotRow.keys_of_insert h]
    rw [addCells, Except.bind_eq_error_iff, PivotRow.insert_eq_error_iff, List.map_cons]
    simp only [repeats_cons_iff p.distinctBy_keys]
    constructor
    · rintro (⟨held, hheld, hkey, rfl⟩ | ⟨p', hinsert, herror⟩)
      · exact ⟨held, .inl ⟨hheld, hkey⟩, rfl⟩
      · obtain ⟨held, hrepeats, rfl⟩ := (hrest hinsert).1 herror
        exact ⟨held, .inr ⟨PivotRow.new_of_insert hinsert, hrepeats⟩, rfl⟩
    · rintro ⟨held, ⟨hheld, hkey⟩ | ⟨hnew, hrepeats⟩, rfl⟩
      · exact .inl ⟨held, hheld, hkey, rfl⟩
      · have hheld : p.held? cell.1 = none := PivotRow.held?_eq_none_iff_keys.2 hnew
        have hinsert : p.insert cell.1 cell.2 = .ok (p.push cell.1 cell.2 hheld) :=
          PivotRow.insert_of_not_held hheld
        exact .inr ⟨_, hinsert, (hrest hinsert).2 ⟨held, hrepeats, rfl⟩⟩

section Replies

variable {done asked : List Asked} {a : Asked} {fault fault' : Option PivotError} {e : PivotError}
  {p p' : PivotRow} {table : Table} {row : List Cell} {rows : Rows}

theorem gathered_append (done : List Asked) (a : Asked) :
    gathered (done ++ [a]) = gathered done ++ a.entries := by
  simp [gathered]

theorem tablesWithRow_append (done : List Asked) (a : Asked) :
    tablesWithRow (done ++ [a]) =
      tablesWithRow done ++ if a.row?.isSome then [a.table] else [] := by
  by_cases h : a.row?.isSome = true <;> simp [tablesWithRow, h]

theorem Sound.append (hdone : Sound done) (hreply : a.reply = some (.ok rows))
    (hfits : ∀ row, a.row? = some row → row.length = a.table.columns.length)
    (hdistinct : DistinctBy Prod.fst (gathered done ++ a.entries)) : Sound (done ++ [a]) where
  answered := List.forall_mem_append.2 ⟨hdone.answered, by simpa using ⟨rows, hreply⟩⟩
  fits := List.forall_mem_append.2 ⟨hdone.fits, by simpa using hfits⟩
  distinct := by rwa [gathered_append]

theorem fails_none_iff : (⟨table, none⟩ : Asked).Fails done fault ↔ fault = none := by
  rcases fault with _ | (_ | _ | _ | _) <;> simp [Asked.Fails, Asked.row?]

theorem fails_error_iff {x : ExecutionError} :
    (⟨table, some (.error x)⟩ : Asked).Fails done fault ↔ fault = some (.execution x) := by
  rcases fault with _ | (_ | _ | _ | _) <;> simp [Asked.Fails, Asked.row?, eq_comm]

theorem not_fails_empty : ¬ (⟨table, some (.ok [])⟩ : Asked).Fails done fault := by
  rcases fault with _ | (_ | _ | _ | _) <;> simp [Asked.Fails, Asked.row?]

/-- A row is at fault just if the pivot row made so far does not take it. -/
theorem fails_iff_addRow (hp : p.entries = gathered done) :
    (⟨table, some (.ok (row :: rows))⟩ : Asked).Fails done fault ↔
      ∃ e, addRow p table row = .error e ∧ fault = some e := by
  have hkeys : (gathered done).map Prod.fst = p.keys := by rw [← hp, PivotRow.keys]
  unfold addRow
  by_cases hlength : row.length = table.columns.length
  · have herror (e : PivotError) : addCells p (table.keys.zip row) = .error e ↔
        ∃ held, Repeats p.keys table.keys held ∧ e = .duplicateKey held := by
      rw [addCells_eq_error_iff, map_fst_zip_keys hlength]
    rcases fault with _ | (_ | _ | _ | _) <;> simp [Asked.Fails, Asked.row?, hlength, hkeys, herror]
  · rcases fault with _ | (_ | _ | _ | _) <;> simp [Asked.Fails, Asked.row?, hlength, eq_comm]

theorem Sound.not_stopped (h : Sound asked) : ¬ Stopped asked fault := by
  rintro ⟨done, a, rfl, -, hfails⟩
  have hlast : a ∈ done ++ [a] := List.mem_append_right _ List.mem_cons_self
  obtain ⟨rows, hreply⟩ := h.answered a hlast
  match fault, hfails with
  | none, hnone => simp [Asked.Fails, hreply] at hnone
  | some (.execution e), herror => simp [Asked.Fails, hreply] at herror
  | some (.rowShape ..), ⟨row, hrow, hwidth, _⟩ => exact hwidth (h.fits a hlast row hrow)
  | some (.duplicateKey held), ⟨row, hrow, hlength, hrepeats⟩ =>
    have hentries : a.entries = a.table.keys.zip row := by rw [Asked.entries, hrow]
    have hdistinct : DistinctBy id ((gathered done).map Prod.fst ++ a.table.keys) := by
      rw [← map_fst_zip_keys hlength, ← hentries, ← List.map_append, ← gathered_append]
      exact DistinctBy.map.2 h.distinct
    exact not_repeats_of_distinctBy hdistinct hrepeats

theorem Asked.Fails.unique (hdone : Sound done) (h : a.Fails done fault)
    (h' : a.Fails done fault') : fault = fault' := by
  obtain ⟨table, reply⟩ := a
  match reply with
  | none => rw [fails_none_iff.1 h, fails_none_iff.1 h']
  | some (.error x) => rw [fails_error_iff.1 h, fails_error_iff.1 h']
  | some (.ok []) => exact absurd h not_fails_empty
  | some (.ok (row :: rows)) =>
    have hp : (⟨gathered done, hdone.distinct⟩ : PivotRow).entries = gathered done := rfl
    obtain ⟨e, he, rfl⟩ := (fails_iff_addRow hp).1 h
    obtain ⟨e', he', rfl⟩ := (fails_iff_addRow hp).1 h'
    rw [he] at he'
    rw [Except.error.inj he']

theorem Stopped.unique (h : Stopped asked fault) (h' : Stopped asked fault') : fault = fault' := by
  obtain ⟨done, a, rfl, hdone, hfails⟩ := h
  obtain ⟨done', a', hasked, -, hfails'⟩ := h'
  obtain ⟨rfl, ha⟩ := List.append_inj' hasked rfl
  cases ha
  exact hfails.unique hdone hfails'

end Replies

variable {chosen : List Table} {asked : List Asked}

theorem LeadsTo.unique {o o' : Option (Except PivotError Choice)} (h : LeadsTo chosen asked o)
    (h' : LeadsTo chosen asked o') : o = o' := by
  match o, o' with
  | some (.ok c), some (.ok c') =>
    obtain ⟨-, -, hused, hentries⟩ := h
    obtain ⟨-, -, hused', hentries'⟩ := h'
    have hpivot : c.pivot = c'.pivot := PivotRow.eq_of_entries_eq (hentries.trans hentries'.symm)
    cases c
    cases c'
    cases hpivot
    cases hused.trans hused'.symm
    rfl
  | some (.ok _), some (.error _) => exact absurd h' h.2.1.not_stopped
  | some (.ok _), none => exact absurd h' h.2.1.not_stopped
  | some (.error _), some (.ok _) => exact absurd h h'.2.1.not_stopped
  | none, some (.ok _) => exact absurd h h'.2.1.not_stopped
  | some (.error _), some (.error _) =>
    cases Stopped.unique h h'
    rfl
  | some (.error _), none => cases Stopped.unique h h'
  | none, some (.error _) => cases Stopped.unique h h'
  | none, none => rfl

/-- The choice made from the replies so far. -/
structure Choice.Gathers (c : Choice) (done : List Asked) : Prop where
  used_eq : c.used = tablesWithRow done
  entries_eq : c.pivot.entries = gathered done

/-- What is said once the tables in `done` have been asked and `tables` are left. -/
def Told (done : List Asked) (tables : List Table) (xs : List Exchange)
    (o : Option (Except PivotError Choice)) : Prop :=
  ∃ asked, xs = asked.map Asked.exchange ∧ asked.map Asked.table <+: tables ∧
    LeadsTo (done.map Asked.table ++ tables) (done ++ asked) o

section Fetching

variable {done : List Asked} {tables : List Table} {c : Choice} {table : Table}
  {reply : Option (Except ExecutionError Rows)}

theorem told_nil (hdone : Sound done) (hc : c.Gathers done) : Told done [] [] (some (.ok c)) := by
  refine ⟨[], rfl, List.nil_prefix, ?_⟩
  rw [List.append_nil, List.append_nil]
  exact ⟨rfl, hdone, hc.used_eq, hc.entries_eq⟩

theorem told_of_fails {fault : Option PivotError} (hdone : Sound done)
    (hfails : Asked.Fails done ⟨table, reply⟩ fault) :
    Told done (table :: tables) [⟨.select (rowSql table), reply⟩] (fault.map .error) := by
  refine ⟨[⟨table, reply⟩], rfl, List.prefix_append [table] tables, ?_⟩
  match fault with
  | none => exact ⟨done, _, rfl, hdone, hfails⟩
  | some e => exact ⟨done, _, rfl, hdone, hfails⟩

theorem Told.cons {xs : List Exchange} {o : Option (Except PivotError Choice)}
    (h : Told (done ++ [⟨table, reply⟩]) tables xs o) :
    Told done (table :: tables) ([⟨.select (rowSql table), reply⟩] ++ xs) o := by
  obtain ⟨asked, rfl, hprefix, hleads⟩ := h
  refine ⟨⟨table, reply⟩ :: asked, rfl, (List.prefix_cons_inj table).2 hprefix, ?_⟩
  rw [List.append_cons]
  simpa using hleads

theorem Choice.Gathers.append_empty (hdone : Sound done) (hc : c.Gathers done) :
    Sound (done ++ [⟨table, some (.ok [])⟩]) ∧
      c.Gathers (done ++ [⟨table, some (.ok [])⟩]) := by
  have hentries : gathered (done ++ [⟨table, some (.ok [])⟩]) = gathered done := by
    rw [gathered_append]
    exact List.append_nil _
  refine ⟨hdone.append rfl nofun ?_, ?_, hc.entries_eq.trans hentries.symm⟩
  · rw [← gathered_append, hentries]
    exact hdone.distinct
  · rw [tablesWithRow_append, hc.used_eq]
    exact (List.append_nil _).symm

theorem Choice.Gathers.append_row {row : List Cell} {rows : Rows} {p : PivotRow}
    (hdone : Sound done) (hc : c.Gathers done) (hadd : addRow c.pivot table row = .ok p) :
    Sound (done ++ [⟨table, some (.ok (row :: rows))⟩]) ∧
      Gathers ⟨p, c.used ++ [table]⟩ (done ++ [⟨table, some (.ok (row :: rows))⟩]) := by
  obtain ⟨hlength, hcells⟩ := addRow_eq_ok_iff.1 hadd
  have hentries : p.entries = gathered (done ++ [⟨table, some (.ok (row :: rows))⟩]) := by
    rw [entries_of_addCells hcells, hc.entries_eq, gathered_append]
    rfl
  refine ⟨hdone.append rfl ?_ ?_, ?_, hentries⟩
  · rintro _ ⟨⟩
    exact hlength
  · rw [← gathered_append, ← hentries]
    exact p.distinct
  · rw [tablesWithRow_append, ← hc.used_eq]
    rfl

theorem says_fetch (hdone : Sound done) (hc : c.Gathers done) (tables : List Table) :
    (fetch c tables).Says (Told done tables) := by
  -- a table that was asked without a fault goes from `tables` to `done`, with a row or without
  induction tables generalizing c done with
  | nil => exact says_pure (told_nil hdone hc)
  | cons table tables ih =>
    apply (says_call _).bind
    · rintro xs rfl
      exact told_of_fails hdone (fails_none_iff.2 rfl)
    · rintro xs reply rfl
      match reply with
      | .error e =>
        have hfails : Asked.Fails done ⟨table, some (.error e)⟩ (some (.execution e)) :=
          fails_error_iff.2 rfl
        exact after_pure (told_of_fails hdone hfails)
      | .ok [] =>
        obtain ⟨hdone', hc'⟩ := hc.append_empty hdone
        exact after_log_bind ((ih hdone' hc').after fun xs o h => h.cons)
      | .ok (row :: rows) =>
        dsimp only
        split
        case h_1 e hadd =>
          have hfails : Asked.Fails done ⟨table, some (.ok (row :: rows))⟩ (some e) :=
            (fails_iff_addRow hc.entries_eq).2 ⟨e, hadd, rfl⟩
          exact after_pure (told_of_fails hdone hfails)
        case h_2 p hadd =>
          obtain ⟨hdone', hc'⟩ := hc.append_row hdone hadd
          exact (ih hdone' hc').after fun xs o h => h.cons

end Fetching

/-! The keys of a pivot row. -/

theorem keys_of_gathered {asked : List Asked} (h : ∀ a ∈ asked, ∀ row, a.row? = some row →
    row.length = a.table.columns.length) :
    (gathered asked).map Prod.fst = (tablesWithRow asked).flatMap Table.keys := by
  induction asked with
  | nil => rfl
  | cons a asked ih =>
    obtain ⟨ha, hasked⟩ := List.forall_mem_cons.1 h
    have hrest := ih hasked
    unfold gathered tablesWithRow at hrest ⊢
    rw [List.flatMap_cons, List.map_append, hrest, Asked.entries]
    cases hrow : a.row? with
    | none => simp [hrow]
    | some row => simp [hrow, map_fst_zip_keys (ha row hrow)]

theorem tablesWithRow_sublist (asked : List Asked) :
    (tablesWithRow asked).Sublist (asked.map Asked.table) :=
  List.filter_sublist.map _

/-- The pivot row has just the columns of the tables that are used, and those are some of the
tables given. -/
structure Choice.Covers (tables : List Table) (c : Choice) : Prop where
  keys_eq : c.pivot.keys = c.used.flatMap Table.keys
  used_subperm : c.used.Subperm tables

theorem LeadsTo.covers {chosen tables : List Table} {asked : List Asked} {c : Choice}
    (h : LeadsTo chosen asked (some (.ok c))) (hchosen : chosen.Subperm tables) :
    c.Covers tables := by
  obtain ⟨rfl, hsound, hused, hentries⟩ := h
  refine ⟨?_, ?_⟩
  · rw [PivotRow.keys, hentries, hused, keys_of_gathered hsound.fits]
  · rw [hused]
    exact (tablesWithRow_sublist asked).subperm.trans hchosen

theorem sound_nil : Sound [] := ⟨nofun, nofun, .nil⟩

/-- Whatever the database answers, the tables that are used are some of those given, each at most
once, and the pivot row has just the keys of their columns. -/
theorem choose_covers (tables : List Table) :
    (choose tables).Ensures fun r => r.2.Always fun result => ∀ c, result = .ok c →
      c.Covers tables := by
  unfold choose
  split
  · exact Draw.ensures_pure fun c h => nomatch h
  case isFalse h =>
    apply (ensures_selection (by simpa using h)).map
    intro s hs
    apply (says_fetch sound_nil (c := {}) ⟨rfl, rfl⟩ s.chosen).always
    rintro xs _ ⟨asked, -, -, hleads⟩ c rfl
    exact hleads.covers ((List.take_sublist _ _).subperm.trans hs.1.subperm)

theorem choose_of_draw {tables : List Table} (h : tables ≠ []) {selection : Selection}
    {s s' : Source} (hdraw : Selection.draw tables s = (.ok selection, s')) :
    choose tables s = (.ok (selection.tables, fetch {} selection.chosen), s') := by
  have hempty : tables.isEmpty = false := by simpa using h
  rw [choose, hempty, if_neg Bool.false_ne_true, Draw.run_bind hdraw]
  rfl

/-- The order of the tables, the number of those to use and what is left of the source are settled
before the database is asked for anything. Then the first tables in that order are asked for a row
each. The first reply at fault decides on the error; if none is, all of them decide on the tables
that are used and on every entry of the pivot row. -/
theorem choose_faithful {tables : List Table} (h : tables ≠ []) (s : Source) :
    ∃ order count d s', choose tables s = (.ok (order, d), s') ∧ order.Perm tables ∧
      1 ≤ count ∧ count ≤ order.length ∧
      ∀ (σ : Type) (db : Backend σ) (w : World σ), ∃ asked : List Asked,
        d.exchanges db w = asked.map Asked.exchange ∧
        (d.run db w).2.requests.toList =
          w.requests.toList ++ asked.map (fun a => .select (rowSql a.table)) ∧
        asked.map Asked.table <+: order.take count ∧
        ∀ o, (d.run db w).1 = o ↔ LeadsTo (order.take count) asked o := by
  obtain ⟨selection, s', hdraw, hperm, hone, hcount⟩ := ensures_selection h s
  refine ⟨selection.tables, selection.count, _, s', choose_of_draw h hdraw, hperm, hone,
    by rwa [hperm.length_eq], ?_⟩
  intro σ db w
  have hsays := says_fetch sound_nil (c := {}) ⟨rfl, rfl⟩ selection.chosen
  obtain ⟨asked, hexchanges, hprefix, hleads⟩ := hsays.of_run db w
  refine ⟨asked, hexchanges, ?_, hprefix, fun o => ?_⟩
  · rw [Dialogue.requests_run, Dialogue.calls, hexchanges, List.map_map]
    rfl
  · constructor
    · rintro rfl
      exact hleads
    · exact hleads.unique

def full : Table := ⟨⟨"t"⟩, [⟨⟨"a"⟩, "INTEGER", true⟩, ⟨⟨"b"⟩, "TEXT", true⟩], []⟩

def vacant : Table := ⟨⟨"u"⟩, [⟨⟨"a"⟩, "INTEGER", true⟩], []⟩

def five : Cell := ⟨.integer 5, ⟨"INTEGER"⟩⟩

def absent : Cell := ⟨.null, ⟨"TEXT"⟩⟩

/-- Has a row in one of the tables and breaks down over everything but selections. -/
def oneRow : Backend Unit where
  answer _ r := (⟨match r with
    | .select sql => some (.ok (if sql = rowSql full then [[five, absent]] else []))
    | _ => none, [], []⟩, ())

/-- Draws the greatest number of tables and swaps two. -/
def swapping : Source := ⟨fun i => if i = 0 then 0xFFFFFFFF else 0, 0⟩

/-- The first table that is asked has no row, so only the second one is used. -/
theorem choose_faithful_vacant : [full, vacant] ≠ [] ∧
    ∃ d s', choose [full, vacant] swapping = (.ok ([vacant, full], d), s') ∧
    ∃ asked c, d.exchanges oneRow { state := () } = asked.map Asked.exchange ∧
      (d.run oneRow { state := () }).1 = some (.ok c) ∧
      asked.map Asked.table = [vacant, full] ∧ Sound asked ∧
      c.used = tablesWithRow asked ∧ c.used = [full] ∧ c.pivot.entries = gathered asked ∧
      c.pivot.entries = [(⟨⟨"t"⟩, ⟨"a"⟩⟩, five), (⟨⟨"t"⟩, ⟨"b"⟩⟩, absent)] := by
  have hne : [full, vacant] ≠ [] := List.cons_ne_nil _ _
  obtain ⟨order, count, d, s', hchoose, -, -, -, hrun⟩ := choose_faithful hne swapping
  have hplayed : (choose [full, vacant] swapping).1.toOption.any (fun r => r.1 = [vacant, full] ∧
      (r.2.run oneRow { state := () }).2.requests.toList =
        [.select (rowSql vacant), .select (rowSql full)] ∧
      ((r.2.run oneRow { state := () }).1.bind (·.toOption)).any fun c => c.used = [full] ∧
        c.pivot.entries = [(⟨⟨"t"⟩, ⟨"a"⟩⟩, five), (⟨⟨"t"⟩, ⟨"b"⟩⟩, absent)]) = true := by
    decide +kernel
  rw [hchoose] at hplayed
  obtain ⟨rfl, hrequests, hresult⟩ := of_decide_eq_true hplayed
  obtain ⟨c, hc, hcheck⟩ := (Option.any_eq_true _ _).1 hresult
  obtain ⟨hused, hentries⟩ := of_decide_eq_true hcheck
  obtain ⟨result, hresult, hok⟩ := Option.bind_eq_some_iff.1 hc
  obtain rfl : result = .ok c := by
    cases result with
    | error _ => cases hok
    | ok _ =>
      cases hok
      rfl
  obtain ⟨asked, hexchanges, hasked, -, hleads⟩ := hrun Unit oneRow { state := () }
  obtain ⟨hall, hsound, hused', hentries'⟩ := (hleads _).1 hresult
  -- both tables have been asked, so both have been chosen
  have hlength : asked.length = 2 := by
    rw [hasked] at hrequests
    simpa using congrArg List.length hrequests
  have hcount : 2 ≤ count := by
    have htake := congrArg List.length hall
    simp only [List.length_map, List.length_take, List.length_cons, List.length_nil] at htake
    omega
  rw [List.take_of_length_le hcount] at hall
  exact ⟨hne, d, s', hchoose, asked, c, hexchanges, hresult, hall, hsound, hused', hused,
    hentries', hentries⟩

end PivotedQuery.Pivot
