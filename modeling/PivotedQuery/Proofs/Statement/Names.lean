import PivotedQuery.Proofs.Schema.Keys
import PivotedQuery.Proofs.Statement.Effects
import PivotedQuery.Proofs.Value.Literal
/-!
The names that a generator gives. Main statements: names with different numbers are different,
whatever stands before the numbers and however it is spelled; over all its calls a generator numbers
what it creates without a gap; so no two tables or indexes, and no two columns of a new table, have
one name.
-/
namespace PivotedQuery

/-! Names that end in a number. -/

/-- What stands behind the last mark is told by the whole list. -/
theorem eq_of_append_cons_eq {α : Type} {c : α} {xs ys ds es : List α} (hds : c ∉ ds)
    (hes : c ∉ es) (h : xs ++ c :: ds = ys ++ c :: es) : ds = es := by
  have last {zs ds es : List α} (hds : c ∉ ds) (h : c :: ds = zs ++ c :: es) : ds = es := by
    cases zs with
    | nil => exact (List.cons.inj h).2
    | cons z zs =>
      have hmem : c ∈ ds := (List.cons.inj h).2 ▸ List.mem_append_right zs List.mem_cons_self
      exact absurd hmem hds
  obtain ⟨zs, -, hzs⟩ | ⟨zs, -, hzs⟩ := List.append_eq_append_iff.1 h
  · exact last hds hzs
  · exact (last hes hzs).symm

theorem Text.toLower_of_isDigit {c : Char} (h : isDigit c = true) : c.toLower = c := by
  have hle : c.val ≤ 57 := by
    simp only [isDigit, Bool.and_eq_true, decide_eq_true_eq] at h
    exact h.2
  unfold Char.toLower
  rw [dif_neg]
  rintro ⟨hge, -⟩
  exact absurd (UInt32.le_trans hge hle) (by decide)

namespace Identifier

theorem toLower_numbered (word : String) (n : Nat) :
    (numbered word n).name.toList.map Char.toLower =
      word.toList.map Char.toLower ++ '_' :: Nat.toDigits 10 n := by
  have hdigits : (Nat.toDigits 10 n).map Char.toLower = Nat.toDigits 10 n := by
    conv_rhs => rw [← List.map_id (Nat.toDigits 10 n)]
    exact List.map_congr_left fun c hc => Text.toLower_of_isDigit (Text.isDigit_of_mem_toDigits hc)
  have hname : (numbered word n).name.toList = word.toList ++ '_' :: Nat.toDigits 10 n := by
    simp [numbered, String.toList_append]
  rw [hname, List.map_append, List.map_cons, hdigits]
  rfl

theorem number_eq_of_beq {word word' : String} {m n : Nat}
    (h : (numbered word m == numbered word' n) = true) : m = n := by
  rw [beq_eq, beq_iff_eq, toLower_numbered, toLower_numbered] at h
  have hdigits := eq_of_append_cons_eq Nat.underscore_not_in_toDigits
    Nat.underscore_not_in_toDigits h
  have hvalue := congrArg Text.digitsValue hdigits
  rwa [Text.digitsValue_toDigits, Text.digitsValue_toDigits] at hvalue

end Identifier

namespace Numbered

variable {α : Type} {name : α → Identifier} {numbers : List Nat} {xs : List α}

theorem append {numbers' : List Nat} {ys : List α} (h : Numbered name numbers xs)
    (h' : Numbered name numbers' ys) : Numbered name (numbers ++ numbers') (xs ++ ys) :=
  List.rel_append h h'

theorem distinctBy (h : Numbered name numbers xs) (hnumbers : numbers.Nodup) :
    DistinctBy name xs := by
  induction h with
  | nil => exact .nil
  | @cons n x numbers xs hx hxs ih =>
    obtain ⟨hn, hnumbers⟩ := List.nodup_cons.1 hnumbers
    refine .cons (fun y hy => ?_) (ih hnumbers)
    obtain ⟨word, hx⟩ := hx
    obtain ⟨m, hm, word', hy⟩ := exists_of_forall₂_of_mem hxs hy
    rw [hx, hy, Bool.eq_false_iff]
    intro heq
    exact hn (Identifier.number_eq_of_beq heq ▸ hm)

end Numbered

/-! The calls of one generator. -/

/-- What is created by it. -/
def Statement.created? : Statement → Option Identifier
  | .createTable table .. => some table
  | .createIndex name .. => some name
  | .insert .. => none

def created (statements : List Statement) : List Identifier := statements.filterMap (·.created?)

namespace Generator

/-- A call with what it emits. Each may draw from a source of its own, and a reload may be told
anything by any database. -/
inductive Call : Generator → List Statement → Generator → Prop
  | createTable {b b' : Workbench Generator} {statement : Statement}
      (h : createTable b = (.ok statement, b')) : Call b.maker [statement] b'.maker
  | createIndex {options : IndexOptions} {b b' : Workbench Generator}
      {r : Except GenerationError Statement} (h : createIndex options b = (.ok r, b')) :
      Call b.maker r.toOption.toList b'.maker
  | insert {t : Table} {b b' : Workbench Generator} {r : Except GenerationError Statement}
      (h : insert t b = (.ok r, b')) : Call b.maker r.toOption.toList b'.maker
  | reload {σ : Type} {db : Backend σ} {w w' : World σ} {database : String} {g g' : Generator}
      {r : Except SchemaError Unit} (h : (reload database g).run db w = (some (r, g'), w')) :
      Call g [] g'

/-- Calls one after another, in any order. -/
inductive Calls : Generator → List Statement → Generator → Prop
  | none {g : Generator} : Calls g [] g
  | next {g g₁ g₂ : Generator} {xs ys : List Statement} (h : Call g xs g₁) (hrest : Calls g₁ ys g₂) :
      Calls g (xs ++ ys) g₂

/-- What is created is numbered in turn, and the generator goes on behind the last number. -/
structure Advances (g : Generator) (xs : List Statement) (g' : Generator) : Prop where
  nextId_eq : g'.nextId = g.nextId + (created xs).length
  numbered : Numbered id (List.range' g.nextId (created xs).length) (created xs)
  columns : ∀ table columns primaryKey, .createTable table columns primaryKey ∈ xs →
    DistinctBy Column.name columns

variable {g g₁ g₂ : Generator} {xs ys : List Statement}

/-- Nothing is created. -/
theorem advances_of_nextId_eq (hid : g₁.nextId = g.nextId) (h : created xs = [])
    (htables : ∀ table columns primaryKey, .createTable table columns primaryKey ∉ xs) :
    Advances g xs g₁ where
  nextId_eq := by rw [h, hid]; rfl
  numbered := by rw [h]; exact .nil
  columns table columns primaryKey hmem := absurd hmem (htables table columns primaryKey)

theorem Advances.append (h : Advances g xs g₁) (h' : Advances g₁ ys g₂) :
    Advances g (xs ++ ys) g₂ := by
  have hcreated : created (xs ++ ys) = created xs ++ created ys := List.filterMap_append
  refine ⟨?_, ?_, fun table columns primaryKey hmem => ?_⟩
  · rw [hcreated, List.length_append, h'.nextId_eq, h.nextId_eq, Nat.add_assoc]
  · have hnumbered := h'.numbered
    rw [h.nextId_eq] at hnumbered
    rw [hcreated, List.length_append, ← List.range'_append_1]
    exact h.numbered.append hnumbered
  · rcases List.mem_append.1 hmem with hmem | hmem
    · exact h.columns table columns primaryKey hmem
    · exact h'.columns table columns primaryKey hmem

theorem Creates.advances {statement : Statement} (h : Creates g statement g₁) :
    Advances g [statement] g₁ := by
  cases h with
  | @intro word columns primaryKey hcolumns =>
    refine ⟨rfl, .cons ⟨word, rfl⟩ .nil, fun table columns' primaryKey' hmem => ?_⟩
    cases List.mem_singleton.1 hmem
    exact hcolumns.distinctBy List.nodup_range

theorem Indexes.advances {options : IndexOptions} {r : Except GenerationError Statement}
    (h : Indexes options g r g₁) : Advances g r.toOption.toList g₁ := by
  cases h with
  | noTable => exact advances_of_nextId_eq rfl rfl fun _ _ _ => List.not_mem_nil
  | made =>
    refine ⟨rfl, .cons ⟨_, rfl⟩ .nil, fun table columns primaryKey hmem => ?_⟩
    cases List.mem_singleton.1 hmem

theorem Inserts.advances {t : Table} {r : Except GenerationError Statement} (h : Inserts t r) :
    Advances g r.toOption.toList g := by
  cases h with
  | noColumns => exact advances_of_nextId_eq rfl rfl fun _ _ _ => List.not_mem_nil
  | made =>
    refine advances_of_nextId_eq rfl rfl fun table columns primaryKey hmem => ?_
    cases List.mem_singleton.1 hmem

theorem Call.advances (h : Call g xs g₁) : Advances g xs g₁ := by
  cases h with
  | createTable h => exact (creates_of_run h).advances
  | createIndex h => exact (indexes_of_run h).advances
  | insert h =>
    obtain ⟨hinserts, hmaker⟩ := inserts_of_run h
    rw [hmaker]
    exact hinserts.advances
  | @reload σ db w w' database _ _ r h =>
    have hsays := (says_reload_reads database g).of_run db w
    rw [h] at hsays
    obtain ⟨tables, -, heq⟩ := hsays _ rfl
    cases heq
    exact advances_of_nextId_eq (nextId_afterProbe g tables) rfl fun _ _ _ => List.not_mem_nil

theorem Calls.advances (h : Calls g xs g₁) : Advances g xs g₁ := by
  induction h with
  | none => exact advances_of_nextId_eq rfl rfl fun _ _ _ => List.not_mem_nil
  | next h _ ih => exact h.advances.append ih

/-- Whatever the calls draw, choose from and are told, no two of the tables and indexes that they
create have one name, and no two columns of a new table have. -/
theorem names_distinct (h : Calls g xs g₁) :
    DistinctBy id (created xs) ∧
      ∀ table columns primaryKey, .createTable table columns primaryKey ∈ xs →
        DistinctBy Column.name columns :=
  ⟨h.advances.numbered.distinctBy List.nodup_range', h.advances.columns⟩

/-- A table whose own name ends in a number. -/
def catTable : Table := ⟨⟨"cat_0"⟩, [⟨⟨"a"⟩, "TEXT", true⟩], []⟩

def catBackend : Backend Unit := .fixed fun
  | .listTables _ => .ok [catTable.name]
  | .listColumns _ _ => .ok catTable.columns
  | .listIndexes _ _ | .select _ => .ok []
  | .exec _ | .dropDatabase _ | .createDatabase _ | .useDatabase _ | .seedRandom _ => .ok ()
  | .interruptHandle => ()

/-- A table is made, and after a reload an index of the other one. -/
theorem names_distinct_cat : ∃ (table index : Statement) (g : Generator),
    Calls {} [table, index] g ∧ created [table, index] = [⟨"red_cat_0"⟩, ⟨"idx_cat_0_1"⟩] ∧
      DistinctBy id (created [table, index]) := by
  have htable : (createTable ⟨{}, .cycle #[0]⟩).1 =
      .ok (.createTable ⟨"red_cat_0"⟩ [⟨⟨"cat_0"⟩, "INTEGER", false⟩] true) := by decide +kernel
  obtain ⟨b, htable⟩ := Work.exists_run_eq htable
  have hread : (reload "pqs" b.maker).run catBackend { state := () } =
      (some (.ok (), b.maker.afterProbe (.ok [catTable])), _) := rfl
  have hmaker : b.maker.afterProbe (.ok [catTable]) = { tables := [catTable], nextId := 1 } := by
    rw [(creates_of_run htable).eq_next]
    rfl
  rw [hmaker] at hread
  have hindex : (createIndex {} ⟨{ tables := [catTable], nextId := 1 }, .cycle #[0]⟩).1 =
      .ok (.ok (.createIndex ⟨"idx_cat_0_1"⟩ ⟨"cat_0"⟩ [⟨⟨"a"⟩, false⟩] true)) := by
    decide +kernel
  obtain ⟨b', hindex⟩ := Work.exists_run_eq hindex
  have hcalls := Calls.next (.createTable htable)
    (.next (.reload hread) (.next (.createIndex hindex) .none))
  exact ⟨_, _, _, hcalls, rfl, (names_distinct hcalls).1⟩

end Generator

end PivotedQuery
