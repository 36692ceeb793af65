import PivotedQuery.Fault
import PivotedQuery.Value.Cell
/-!
The pivot row: cells by column key, in the order in which the keys came. No key occurs twice.
-/
namespace PivotedQuery

structure PivotRow where
  entries : List (ColumnKey × Cell) := []
  distinct : entries.Pairwise (fun a b => (a.1 == b.1) = false) := by simp

namespace PivotRow

def empty : PivotRow := {}

def held? (p : PivotRow) (key : ColumnKey) : Option (ColumnKey × Cell) :=
  p.entries.find? (·.1 == key)

def get? (p : PivotRow) (key : ColumnKey) : Option Cell := (p.held? key).map (·.2)

def value? (p : PivotRow) (key : ColumnKey) : Option Value := (p.get? key).map (·.value)

def contains (p : PivotRow) (key : ColumnKey) : Bool := (p.held? key).isSome

def size (p : PivotRow) : Nat := p.entries.length

theorem held?_eq_none_iff {p : PivotRow} {key : ColumnKey} :
    p.held? key = none ↔ ∀ e ∈ p.entries, (e.1 == key) = false := by
  simp [held?]

/-- The row with one more entry at its end, for a key that it does not hold. -/
def push (p : PivotRow) (key : ColumnKey) (cell : Cell) (h : p.held? key = none) : PivotRow where
  entries := p.entries ++ [(key, cell)]
  distinct := by
    rw [List.pairwise_append]
    refine ⟨p.distinct, by simp, fun a ha b hb => ?_⟩
    simp only [List.mem_singleton] at hb
    subst hb
    exact held?_eq_none_iff.1 h a ha

/-- A key that is held already is refused, under the spelling that is held. -/
def insert (p : PivotRow) (key : ColumnKey) (cell : Cell) : Except PivotError PivotRow :=
  match h : p.held? key with
  | some held => .error (.duplicateKey held.1)
  | none => .ok (p.push key cell h)

def replaceAt (key : ColumnKey) (cell : Cell) (e : ColumnKey × Cell) : ColumnKey × Cell :=
  if e.1 == key then (e.1, cell) else e

@[simp] theorem replaceAt_fst (key : ColumnKey) (cell : Cell) (e : ColumnKey × Cell) :
    (replaceAt key cell e).1 = e.1 := by
  unfold replaceAt; split <;> rfl

/-- A key that is held already keeps its place and spelling and takes the new cell. -/
def set (p : PivotRow) (key : ColumnKey) (cell : Cell) : PivotRow :=
  match h : p.held? key with
  | some _ => ⟨p.entries.map (replaceAt key cell), by
      rw [List.pairwise_map]
      exact p.distinct.imp (by simp)⟩
  | none => p.push key cell h

def ofList (entries : List (ColumnKey × Cell)) : PivotRow :=
  entries.foldl (fun p e => p.set e.1 e.2) empty

def entryText (e : ColumnKey × Cell) : String :=
  "key: " ++ e.1.text ++ ", value: [null: " ++ Cell.yesNo e.2.isNull ++ ", value: " ++ e.2.plain ++
    "]\n"

def text (p : PivotRow) : String := String.join (p.entries.map entryText)

end PivotRow

end PivotedQuery
