/-!
Text between two marks, in which the mark itself is written twice: quoted names and texts.
Main statement: the reader takes back what was written and stops at its end.
-/
namespace PivotedQuery.Text

def double (mark : Char) (s : List Char) : List Char :=
  s.flatMap fun c => if c = mark then [mark, mark] else [c]

def enclose (mark : Char) (s : String) : String :=
  String.ofList (mark :: (double mark s.toList ++ [mark]))

/-- Reads up to the first mark that is not followed by another, and past it. -/
def readDoubled (mark : Char) : List Char → Option (List Char × List Char)
  | [] => none
  | [c] => if c = mark then some ([], []) else none
  | c :: d :: rest =>
    if c = mark then
      if d = mark then (readDoubled mark rest).map fun (s, r) => (mark :: s, r)
      else some ([], d :: rest)
    else (readDoubled mark (d :: rest)).map fun (s, r) => (c :: s, r)

theorem readDoubled_mark {mark : Char} {rest : List Char} (h : rest.head? ≠ some mark) :
    readDoubled mark (mark :: rest) = some ([], rest) := by
  cases rest with
  | nil => simp [readDoubled]
  | cons d rest => simp_all [readDoubled]

theorem readDoubled_cons {mark c : Char} {s rest : List Char} (hc : c ≠ mark) (hs : s ≠ []) :
    readDoubled mark (c :: (s ++ rest)) =
      (readDoubled mark (s ++ rest)).map fun (t, r) => (c :: t, r) := by
  obtain ⟨d, s, rfl⟩ := List.exists_cons_of_ne_nil hs
  simp [readDoubled, hc]

theorem readDoubled_double {mark : Char} (s : List Char) {rest : List Char}
    (h : rest.head? ≠ some mark) :
    readDoubled mark (double mark s ++ mark :: rest) = some (s, rest) := by
  induction s with
  | nil => simpa [double] using readDoubled_mark h
  | cons c s ih =>
    by_cases hc : c = mark
    · subst hc
      simpa [double, readDoubled] using ih
    · have step := @readDoubled_cons mark c (double mark s ++ [mark]) rest hc (by simp)
      simp only [List.append_assoc, List.singleton_append] at step
      simp [double, hc] at step ih ⊢
      simp [step, ih]

end PivotedQuery.Text
