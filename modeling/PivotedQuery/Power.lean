/-!
Powers of the bases of machine words and of written numbers.
-/
namespace PivotedQuery

abbrev twoTo (n : Nat) : Nat := Nat.pow 2 n

abbrev tenTo (n : Nat) : Nat := Nat.pow 10 n

end PivotedQuery
