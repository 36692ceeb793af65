import PivotedQuery.Proofs.Dialogue.Completion
import PivotedQuery.Proofs.Statement.Generator
/-!
Filling the working database without an impossible draw. Main statement: a database that may have a
table is filled to the end, whatever its statements and probes are answered, unless a table or an
insertion is too large for a buffer.
-/
namespace PivotedQuery

open Dialogue (Completes completes_pure completes_call completes_log)
open Draw (Granted)
open Work (succeeds_pure succeeds_draw)

variable {G α β : Type}

namespace Probe

theorem completes_table (database : String) (name : Identifier) :
    (table database name).Completes fun _ => True := by
  apply (completes_call _).bind
  rintro (err | columns) -
  · exact completes_pure trivial
  apply (completes_call _).bind
  rintro (err | indexes) -
  · exact completes_pure trivial
  · exact completes_pure trivial

theorem completes_tables (database : String) (names : List Identifier) :
    (tables database names).Completes fun _ => True := by
  induction names with
  | nil => exact completes_pure trivial
  | cons name names ih =>
    apply (completes_table database name).bind
    rintro (err | t) -
    · exact completes_pure trivial
    · exact ih.bind fun _ _ => completes_pure trivial

theorem completes_fetch (database : String) : (fetch database).Completes fun _ => True := by
  apply (completes_call _).bind
  rintro (err | names) -
  · exact completes_pure trivial
  · exact completes_tables database names

theorem completes_refresh (database : String) (old : List Table) :
    (refresh database old).Completes fun _ => True := by
  apply (completes_fetch database).bind
  rintro (err | tables) -
  · exact completes_pure trivial
  · exact (completes_log _).bind fun _ _ => completes_pure trivial

end Probe

/-- With a good maker every statement and every reload can be made, and the maker stays good. The
excuse is one for statements only. -/
structure StatementMaker.Sound (maker : StatementMaker G) (good : G → Prop) (excuse : Prop) :
    Prop where
  createTable : maker.createTable.Succeeds good excuse fun _ => True
  createIndex : ∀ options, (maker.createIndex options).Succeeds good excuse fun _ => True
  insert : ∀ table, (maker.insert table).Succeeds good excuse fun _ => True
  reload : ∀ database g, good g → (maker.reload database g).Completes fun r => good r.2

namespace Generator

variable {options : GeneratorOptions}

/-- What a probe finds replaces the tables only. -/
theorem completes_reload (database : String) {g : Generator} (hg : g.Has options) :
    (reload database g).Completes fun r => r.2.Has options := by
  apply (Probe.completes_fetch database).bind
  rintro (err | tables) -
  · exact completes_pure hg
  · exact completes_pure hg

theorem maker_sound (h : options.Sound) : maker.Sound (Has options) (¬ options.Allocable) where
  createTable := (createTable_succeeds h).bind fun _ _ => succeeds_pure trivial
  createIndex restrictions :=
    (createIndex_succeeds h restrictions).bind fun _ _ => succeeds_pure trivial
  insert table := (insert_succeeds h table).bind fun _ _ => succeeds_pure trivial
  reload database _ hg := completes_reload database hg

end Generator

namespace Populating

/-- From every bench with a good maker the result is granted, and the maker is good afterwards. -/
def Succeeds (good : G → Prop) (excuse : Prop) (p : Populating G α) (post : α → Prop) : Prop :=
  ∀ b, good b.maker → (p b).Completes fun r => good r.2.maker ∧ Granted excuse post r.1

variable {good : G → Prop} {excuse : Prop} {post : α → Prop} {p : Populating G α}

theorem succeeds_pure {a : α} (h : post a) : Succeeds good excuse (pure a : Populating G α) post :=
  fun _ hb => completes_pure ⟨hb, .ok h⟩

theorem Succeeds.bind {post : β → Prop} {mid : α → Prop} {f : α → Populating G β}
    (hp : p.Succeeds good excuse mid) (hf : ∀ a, mid a → (f a).Succeeds good excuse post) :
    (p >>= f).Succeeds good excuse post := by
  intro b hb
  refine (hp b hb).bind ?_
  rintro ⟨r, b'⟩ ⟨hgood, hgranted⟩
  cases hgranted with
  | ok hmid => exact hf _ hmid b' hgood
  | overflow h => exact completes_pure ⟨hgood, .overflow h⟩

theorem succeeds_work {w : Work G α} (hw : w.Succeeds good excuse post) :
    (work w).Succeeds good excuse post := fun b hb => completes_pure (hw b hb)

theorem succeeds_talk {d : Dialogue α} (hd : d.Completes post) :
    (talk d : Populating G α).Succeeds good excuse post :=
  fun _ hb => hd.bind fun _ ha => completes_pure ⟨hb, .ok ha⟩

theorem succeeds_bench :
    (bench : Populating G (Workbench G)).Succeeds good excuse fun b => good b.maker :=
  fun _ hb => completes_pure ⟨hb, .ok hb⟩

theorem completes_attempt (kind : StatementKind) (made : Except GenerationError String)
    (report : Report) : (attempt kind made report).Completes fun _ => True := by
  cases made with
  | error e => exact (completes_log _).bind fun _ _ => completes_pure trivial
  | ok sql =>
    apply (completes_call _).bind
    rintro (e | _) -
    · exact (completes_log _).bind fun _ _ => completes_pure trivial
    · exact (completes_log _).bind fun _ _ => completes_pure trivial

theorem succeeds_attemptAll (kind : StatementKind)
    {works : List (Work G (Except GenerationError String))} (report : Report)
    (h : ∀ w ∈ works, w.Succeeds good excuse fun _ => True) :
    (attemptAll kind works report).Succeeds good excuse fun _ => True := by
  induction works generalizing report with
  | nil => exact succeeds_pure trivial
  | cons w works ih =>
    obtain ⟨hw, hworks⟩ := List.forall_mem_cons.1 h
    apply (succeeds_work hw).bind
    intro made _
    apply (succeeds_talk (completes_attempt kind made report)).bind
    exact fun report' _ => ih report' hworks

theorem succeeds_reload {maker : StatementMaker G} (hmaker : maker.Sound good excuse)
    (database : String) : (reload maker database).Succeeds good excuse fun _ => True := by
  intro b hb
  apply (hmaker.reload database b.maker hb).bind
  rintro ⟨err | _, g⟩ hg
  · exact (completes_log _).bind fun _ _ => completes_pure ⟨hg, .ok trivial⟩
  · exact completes_pure ⟨hg, .ok trivial⟩

end Populating

namespace WorkingDatabase

theorem completes_reset (database : WorkingDatabase) :
    database.reset.Completes fun _ => True := by
  apply (completes_call _).bind
  rintro (err | _) -
  · exact completes_pure trivial
  apply (completes_call _).bind
  rintro (err | _) -
  · exact completes_pure trivial
  apply (completes_call _).bind
  rintro (err | _) -
  · exact completes_pure trivial
  · exact (completes_log _).bind fun _ _ => completes_pure trivial

open Populating

/-- The number of tables is drawn from one on, so there has to be room for one. -/
theorem succeeds_populate {maker : StatementMaker G} {good : G → Prop} {excuse : Prop}
    (hmaker : maker.Sound good excuse) {database : WorkingDatabase}
    (h : 0 < database.limits.maxTables) :
    (database.populate maker).Succeeds good excuse fun _ => True := by
  apply (succeeds_work (succeeds_draw (Draw.ensures_size h))).bind
  intro tableCount _
  have htables : ∀ w ∈ List.replicate tableCount maker.createTable,
      w.Succeeds good excuse fun _ => True := by
    intro w hw
    rw [List.eq_of_mem_replicate hw]
    exact hmaker.createTable
  apply (succeeds_attemptAll _ _ htables).bind
  intro report _
  apply (succeeds_reload hmaker _).bind
  intro _ _
  apply (succeeds_work (succeeds_draw (Draw.ensures_size (Nat.zero_le _)))).bind
  intro indexCount _
  have hindexes : ∀ w ∈ List.replicate indexCount (maker.createIndex { online := true }),
      w.Succeeds good excuse fun _ => True := by
    intro w hw
    rw [List.eq_of_mem_replicate hw]
    exact hmaker.createIndex _
  apply (succeeds_attemptAll _ _ hindexes).bind
  intro report _
  apply succeeds_bench.bind
  intro b _
  have hinserts : ∀ w ∈ (maker.tables b.maker).map maker.insert,
      w.Succeeds good excuse fun _ => True := by
    intro w hw
    obtain ⟨table, -, rfl⟩ := List.mem_map.1 hw
    exact hmaker.insert table
  apply (succeeds_attemptAll _ _ hinserts).bind
  intro report _
  exact (succeeds_talk (completes_log _)).bind fun _ _ => succeeds_pure trivial

end WorkingDatabase

end PivotedQuery
