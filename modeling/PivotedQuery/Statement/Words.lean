/-!
Words from which readable names are made.
-/
namespace PivotedQuery

def adjectives : List String :=
  ["red", "blue", "green", "fast", "slow", "big", "small", "old", "new", "hot", "cold", "dark",
   "light", "soft", "hard", "loud", "quiet", "sweet", "sour", "fresh", "dry", "wet", "clean",
   "dirty", "empty", "full", "happy", "sad", "angry", "calm", "brave", "shy", "smart", "wild"]

def nouns : List String :=
  ["cat", "dog", "bird", "fish", "tree", "rock", "lake", "river", "cloud", "star", "moon", "sun",
   "book", "desk", "chair", "door", "wall", "roof", "floor", "road", "path", "hill", "cave",
   "leaf", "root", "seed", "fruit", "flower", "grass", "stone", "sand", "wave", "wind", "rain"]

/-- Declared types of random columns: several spellings of each affinity, and none at all. -/
def declaredTypes : List String :=
  ["INTEGER", "BIGINT", "REAL", "DOUBLE", "TEXT", "VARCHAR(16)", "BLOB", "NUMERIC", ""]

end PivotedQuery
