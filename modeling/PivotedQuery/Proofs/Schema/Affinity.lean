import Mathlib.Data.List.Infix
import PivotedQuery.Schema.Affinity
/-!
Which affinity a declared type is given. The rule of SQL takes the ASCII letters alone in either
case, while a type is put into the capitals of all letters. Main statement: the affinity is the
rule's one for the type in which every letter that borrows capitals from ASCII has given way to
them; so it is the rule's one for every type without such a letter.
-/
namespace PivotedQuery

namespace Text

def IsAscii (c : Char) : Prop := c.toNat < 128

instance (c : Char) : Decidable (IsAscii c) := inferInstanceAs (Decidable (c.toNat < 128))

/-! Words of ASCII characters inside texts. -/

/-- The texts differ only in stretches of characters beyond ASCII, none of them empty. -/
inductive SameAscii : List Char → List Char → Prop
  | nil : SameAscii [] []
  | cons (c : Char) {xs ys : List Char} (h : SameAscii xs ys) : SameAscii (c :: xs) (c :: ys)
  | foreign {us vs xs ys : List Char} (hus : us ≠ []) (hvs : vs ≠ []) (hu : ∀ c ∈ us, ¬IsAscii c)
      (hv : ∀ c ∈ vs, ¬IsAscii c) (h : SameAscii xs ys) : SameAscii (us ++ xs) (vs ++ ys)

variable {word us xs ys : List Char}

theorem not_isPrefix_of_foreign (hword : ∀ c ∈ word, IsAscii c) (hne : word ≠ []) (hus : us ≠ [])
    (hu : ∀ c ∈ us, ¬IsAscii c) : ¬word <+: us ++ xs := by
  obtain ⟨c, cs, rfl⟩ := List.exists_cons_of_ne_nil hne
  obtain ⟨d, ds, rfl⟩ := List.exists_cons_of_ne_nil hus
  intro h
  have hcd : c = d := (List.cons_prefix_cons.1 h).1
  exact hu d List.mem_cons_self (hcd ▸ hword c List.mem_cons_self)

theorem isInfix_append_of_foreign (hword : ∀ c ∈ word, IsAscii c) (hne : word ≠ [])
    (hu : ∀ c ∈ us, ¬IsAscii c) : word <:+: us ++ xs ↔ word <:+: xs := by
  induction us with
  | nil => rfl
  | cons d ds ih =>
    have hhead : ¬word <+: d :: ds ++ xs :=
      not_isPrefix_of_foreign hword hne (List.cons_ne_nil d ds) hu
    have htail := ih fun c hc => hu c (List.mem_cons_of_mem d hc)
    rw [List.cons_append] at hhead ⊢
    rw [List.infix_cons_iff, htail]
    exact or_iff_right hhead

namespace SameAscii

theorem isPrefix_iff (h : SameAscii xs ys) (hword : ∀ c ∈ word, IsAscii c) :
    word <+: xs ↔ word <+: ys := by
  induction h generalizing word with
  | nil => rfl
  | cons c _ ih =>
    cases word with
    | nil => exact iff_of_true List.nil_prefix List.nil_prefix
    | cons d word =>
      rw [List.cons_prefix_cons, List.cons_prefix_cons]
      exact and_congr_right fun _ => ih fun c hc => hword c (List.mem_cons_of_mem d hc)
  | foreign hus hvs hu hv _ _ =>
    by_cases hne : word = []
    · rw [hne]
      exact iff_of_true List.nil_prefix List.nil_prefix
    · exact iff_of_false (not_isPrefix_of_foreign hword hne hus hu)
        (not_isPrefix_of_foreign hword hne hvs hv)

theorem isInfix_iff (h : SameAscii xs ys) (hword : ∀ c ∈ word, IsAscii c) (hne : word ≠ []) :
    word <:+: xs ↔ word <:+: ys := by
  induction h with
  | nil => rfl
  | cons c h ih =>
    rw [List.infix_cons_iff, List.infix_cons_iff, ih, (h.cons c).isPrefix_iff hword]
  | foreign _ _ hu hv _ ih =>
    rw [isInfix_append_of_foreign hword hne hu, isInfix_append_of_foreign hword hne hv, ih]

theorem refl (xs : List Char) : SameAscii xs xs := by
  induction xs with
  | nil => exact .nil
  | cons c xs ih => exact .cons c ih

theorem append {xs' ys' : List Char} (h : SameAscii xs ys) (h' : SameAscii xs' ys') :
    SameAscii (xs ++ xs') (ys ++ ys') := by
  induction h with
  | nil => exact h'
  | cons c _ ih => exact .cons c ih
  | foreign hus hvs hu hv _ ih =>
    rw [List.append_assoc, List.append_assoc]
    exact .foreign hus hvs hu hv ih

theorem flatMap {f g : Char → List Char} (h : ∀ c, SameAscii (f c) (g c)) (xs : List Char) :
    SameAscii (xs.flatMap f) (xs.flatMap g) := by
  induction xs with
  | nil => exact .nil
  | cons c xs ih =>
    rw [List.flatMap_cons, List.flatMap_cons]
    exact (h c).append ih

end SameAscii

/-! The tables of capitals. -/

/-- The letters beyond ASCII that have an ASCII letter in their capitals. -/
def borrowers : List Char :=
  ['ß', 'ı', 'ŉ', 'ſ', 'ǰ', 'ẖ', 'ẗ', 'ẘ', 'ẙ', 'ẚ', 'ﬀ', 'ﬁ', 'ﬂ', 'ﬃ', 'ﬄ', 'ﬅ', 'ﬆ']

/-- The first and the last code point of each stretch of blanks. -/
def blankRuns : List (Nat × Nat) :=
  [(9, 13), (0x20, 0x20), (0x85, 0x85), (0xA0, 0xA0), (0x1680, 0x1680), (0x2000, 0x200A),
   (0x2028, 0x2029), (0x202F, 0x202F), (0x205F, 0x205F), (0x3000, 0x3000)]

theorem isBlank_eq_false_of {c : Char} (h : ∀ b ∈ blankRuns, c.toNat < b.1 ∨ b.2 < c.toNat) :
    isBlank c = false := by
  simp only [blankRuns, List.forall_mem_cons, List.not_mem_nil, IsEmpty.forall_iff] at h
  rw [Bool.eq_false_iff]
  simp only [isBlank, Ne, Bool.or_eq_true, Bool.and_eq_true, decide_eq_true_eq, beq_iff_eq]
  omega

/-- The code point of a character that is neither ASCII nor blank. -/
def IsForeign (n : Nat) : Prop :=
  n.isValidChar ∧ 128 ≤ n ∧ ∀ b ∈ blankRuns, n < b.1 ∨ b.2 < n

instance (n : Nat) : Decidable (IsForeign n) := inferInstanceAs (Decidable (_ ∧ _ ∧ _))

theorem IsForeign.ofNat {n : Nat} (h : IsForeign n) :
    ¬IsAscii (Char.ofNat n) ∧ isBlank (Char.ofNat n) = false := by
  obtain ⟨hvalid, hhigh, hblank⟩ := h
  have hcode : (Char.ofNat n).toNat = n := by
    rw [Char.ofNat, dif_pos hvalid]
    rfl
  refine ⟨?_, ?_⟩
  · rw [IsAscii, hcode]
    omega
  · apply isBlank_eq_false_of
    rwa [hcode]

/-- From `first` to `last` the code points are those of characters that are neither ASCII nor
blank. -/
def AllForeign (first last : Int) : Prop :=
  128 ≤ first ∧ (last < 0xD800 ∨ 0xE000 ≤ first ∧ last < 0x110000) ∧
    ∀ b ∈ blankRuns, (b.2 : Int) < first ∨ last < b.1

instance (first last : Int) : Decidable (AllForeign first last) :=
  inferInstanceAs (Decidable (_ ∧ _ ∧ _))

theorem AllForeign.isForeign {first last : Int} {n : Nat} (h : AllForeign first last)
    (hfirst : first ≤ n) (hlast : n ≤ last) : IsForeign n := by
  obtain ⟨hhigh, hvalid, hblank⟩ := h
  refine ⟨?_, by omega, fun b hb => ?_⟩
  · unfold Nat.isValidChar
    omega
  · have := hblank b hb
    omega

theorem upperRuns_cases : ∀ r ∈ upperRuns,
    r.last < 128 ∨ (r.first = r.last ∧ Char.ofNat r.first ∈ borrowers) ∨
      AllForeign r.first r.last ∧ AllForeign (r.first + r.shift) (r.last + r.shift) := by
  decide +kernel

theorem upperExpansions_cases : ∀ entry ∈ upperExpansions,
    Char.ofNat entry.1 ∈ borrowers ∨
      IsForeign entry.1 ∧ entry.2 ≠ [] ∧ ∀ n ∈ entry.2, IsForeign n := by
  decide +kernel

/-- A letter that borrows nothing keeps away from ASCII and from blanks. -/
theorem upperCode_cases {c : Char} (hascii : ¬IsAscii c) (hc : c ∉ borrowers) :
    upperCode c.toNat = [c.toNat] ∨
      IsForeign c.toNat ∧ upperCode c.toNat ≠ [] ∧ ∀ n ∈ upperCode c.toNat, IsForeign n := by
  have hchar : Char.ofNat c.toNat = c := Char.ofNat_toNat c
  unfold upperCode
  split
  case h_1 cs hlookup =>
    obtain ⟨before, after, hentries, -⟩ := List.lookup_eq_some_iff.1 hlookup
    have hmem : (c.toNat, cs) ∈ upperExpansions := by simp [hentries]
    rcases upperExpansions_cases _ hmem with hborrows | hforeign
    · exact absurd (hchar ▸ hborrows) hc
    · exact .inr hforeign
  case h_2 =>
    split
    case h_1 r hfind =>
      have hcovers := List.find?_some hfind
      simp only [CaseRun.covers, Bool.and_eq_true, decide_eq_true_eq] at hcovers
      obtain ⟨⟨hfirst, hlast⟩, -⟩ := hcovers
      rcases upperRuns_cases r (List.mem_of_find?_eq_some hfind) with hlow | ⟨hone, hborrows⟩ |
        ⟨hletters, hcapitals⟩
      · unfold IsAscii at hascii
        omega
      · rw [show r.first = c.toNat by omega, hchar] at hborrows
        exact absurd hborrows hc
      · have hletter : IsForeign c.toNat := hletters.isForeign (by omega) (by omega)
        have hhigh := hcapitals.1
        have hcapital : IsForeign (c.toNat + r.shift).toNat :=
          hcapitals.isForeign (by omega) (by omega)
        exact .inr ⟨hletter, List.cons_ne_nil _ _, List.forall_mem_singleton.2 hcapital⟩
    case h_2 => exact .inl rfl

/-! A text in capitals beside one in which only the borrowers have them. -/

def respelledChar (c : Char) : List Char := if c ∈ borrowers then upperChar c else [c]

/-- The text with the capitals of the borrowers in their place. -/
def respelled (s : String) : String := String.ofList (s.toList.flatMap respelledChar)

theorem respelled_eq_self {s : String} (h : ∀ c ∈ s.toList, c ∉ borrowers) : respelled s = s := by
  have hchars (cs : List Char) (hcs : ∀ c ∈ cs, c ∉ borrowers) : cs.flatMap respelledChar = cs := by
    induction cs with
    | nil => rfl
    | cons c cs ih =>
      obtain ⟨hc, hcs⟩ := List.forall_mem_cons.1 hcs
      rw [List.flatMap_cons, ih hcs, respelledChar, if_neg hc]
      rfl
  rw [respelled, hchars s.toList h, String.ofList_toList]

theorem map_toUpper_borrowed : ∀ c ∈ borrowers, (upperChar c).map Char.toUpper = upperChar c := by
  have hall : borrowers.all (fun c => (upperChar c).map Char.toUpper = upperChar c) = true := by
    decide +kernel
  exact fun c hc => of_decide_eq_true (List.all_eq_true.1 hall c hc)

theorem toUpper_of_not_isAscii {c : Char} (h : ¬IsAscii c) : c.toUpper = c := by
  unfold Char.toUpper
  rw [dif_neg]
  rintro ⟨-, hle⟩
  have : c.toNat ≤ 122 := hle
  unfold IsAscii at h
  omega

theorem isBlank_toUpper {c : Char} (h : IsAscii c) : isBlank c.toUpper = isBlank c := by
  have hcodes : ∀ n < 128, isBlank (Char.ofNat n).toUpper = isBlank (Char.ofNat n) := by
    decide +kernel
  have hcode := hcodes c.toNat h
  rwa [Char.ofNat_toNat] at hcode

theorem upperChar_of_not_isAscii {c : Char} (h : ¬IsAscii c) :
    upperChar c = (upperCode c.toNat).map Char.ofNat := if_neg h

theorem sameAscii_upperChar (c : Char) :
    SameAscii (upperChar c) ((respelledChar c).map Char.toUpper) := by
  unfold respelledChar
  split
  case isTrue hc =>
    rw [map_toUpper_borrowed c hc]
    exact .refl _
  case isFalse hc =>
    by_cases hascii : IsAscii c
    · rw [upperChar_of_ascii hascii]
      exact .refl _
    · rw [List.map_singleton, toUpper_of_not_isAscii hascii, upperChar_of_not_isAscii hascii]
      rcases upperCode_cases hascii hc with hsame | ⟨-, hne, hforeign⟩
      · rw [hsame, List.map_singleton, Char.ofNat_toNat]
        exact .refl _
      · have hcapitals : ∀ d ∈ (upperCode c.toNat).map Char.ofNat, ¬IsAscii d := by
          intro d hd
          obtain ⟨n, hn, rfl⟩ := List.mem_map.1 hd
          exact (hforeign n hn).ofNat.1
        have hfar := SameAscii.foreign (mt List.map_eq_nil_iff.1 hne) (List.cons_ne_nil c [])
          hcapitals (List.forall_mem_singleton.2 hascii) .nil
        simpa only [List.append_nil] using hfar

theorem all_isBlank_upperChar (c : Char) :
    (upperChar c).all isBlank = (respelledChar c).all isBlank := by
  unfold respelledChar
  split
  case isTrue => rfl
  case isFalse hc =>
    by_cases hascii : IsAscii c
    · rw [upperChar_of_ascii hascii]
      simp [isBlank_toUpper hascii]
    · rw [upperChar_of_not_isAscii hascii]
      rcases upperCode_cases hascii hc with hsame | ⟨hletter, hne, hforeign⟩
      · rw [hsame, List.map_singleton, Char.ofNat_toNat]
      · obtain ⟨n, ns, hcodes⟩ := List.exists_cons_of_ne_nil hne
        have hcapital : isBlank (Char.ofNat n) = false :=
          (hforeign n (hcodes ▸ List.mem_cons_self)).ofNat.2
        have hblank : isBlank c = false := by
          have := hletter.ofNat.2
          rwa [Char.ofNat_toNat] at this
        simp [hcodes, hcapital, hblank]

end Text

namespace Affinity

open Text (borrowers respelled upper IsAscii)

/-- The word stands in the type, whose ASCII letters count as capitals. -/
def Mentions (declared word : String) : Prop :=
  word.toList <:+: declared.toList.map Char.toUpper

instance (declared word : String) : Decidable (Mentions declared word) :=
  inferInstanceAs (Decidable (_ <:+: _))

def IsBlank (declared : String) : Prop := ∀ c ∈ declared.toList, Text.isBlank c = true

instance (declared : String) : Decidable (IsBlank declared) :=
  List.decidableBAll (fun c => Text.isBlank c = true) declared.toList

/-- The rule of SQL. -/
def assigned (declared : String) : Affinity :=
  if Mentions declared "INT" then integer
  else if Mentions declared "CHAR" ∨ Mentions declared "CLOB" ∨ Mentions declared "TEXT" then text
  else if Mentions declared "BLOB" ∨ IsBlank declared then blob
  else if Mentions declared "REAL" ∨ Mentions declared "FLOA" ∨ Mentions declared "DOUB" then real
  else numeric

theorem contains_iff {part whole : List Char} :
    Text.contains part whole = true ↔ part <:+: whole := by
  induction whole with
  | nil =>
    rw [Text.contains, Bool.or_false, List.isPrefixOf_iff_prefix, List.prefix_nil, List.infix_nil]
  | cons c whole ih =>
    rw [Text.contains, Bool.or_eq_true, List.isPrefixOf_iff_prefix, ih, List.infix_cons_iff]

variable (declared : String)

theorem isInfix_upper_iff {word : String} (hword : ∀ c ∈ word.toList, IsAscii c)
    (hne : word.toList ≠ []) :
    word.toList <:+: (upper declared).toList ↔ Mentions (respelled declared) word := by
  unfold Mentions upper respelled
  rw [String.toList_ofList, String.toList_ofList, List.map_flatMap]
  exact (Text.SameAscii.flatMap Text.sameAscii_upperChar _).isInfix_iff hword hne

theorem hasAny_upper_iff (words : List String)
    (h : words.all (fun w => w.toList.all (IsAscii ·) && !w.toList.isEmpty) = true) :
    hasAny (upper declared).toList words = true ↔
      ∃ w ∈ words, Mentions (respelled declared) w := by
  rw [hasAny, List.any_eq_true]
  refine exists_congr fun w => and_congr_right fun hw => ?_
  obtain ⟨hascii, hne⟩ := Bool.and_eq_true_iff.1 (List.all_eq_true.1 h w hw)
  have hword : ∀ c ∈ w.toList, IsAscii c :=
    fun c hc => of_decide_eq_true (List.all_eq_true.1 hascii c hc)
  rw [contains_iff, isInfix_upper_iff declared hword (by simpa using hne)]

theorem all_isBlank_upper_iff :
    (upper declared).toList.all Text.isBlank = true ↔ IsBlank (respelled declared) := by
  have hchars (cs : List Char) : (cs.flatMap Text.upperChar).all Text.isBlank =
      (cs.flatMap Text.respelledChar).all Text.isBlank := by
    simp only [List.all_flatMap, Text.all_isBlank_upperChar]
  rw [upper, String.toList_ofList, hchars, List.all_eq_true, IsBlank, respelled,
    String.toList_ofList]

theorem ofDeclaredType_eq : ofDeclaredType declared = assigned (respelled declared) := by
  have hint := hasAny_upper_iff declared ["INT"] (by decide)
  have hchar := hasAny_upper_iff declared ["CHAR", "CLOB", "TEXT"] (by decide)
  have hblob := hasAny_upper_iff declared ["BLOB"] (by decide)
  have hreal := hasAny_upper_iff declared ["REAL", "FLOA", "DOUB"] (by decide)
  simp only [List.mem_cons, List.not_mem_nil, or_false, exists_eq_or_imp, exists_eq_left]
    at hint hchar hblob hreal
  simp only [ofDeclaredType, ofCapitals, assigned, hint, hchar, hblob, hreal, Bool.or_eq_true,
    all_isBlank_upper_iff]

/-- The affinity is the one of the rule, but for the letters that borrow their capitals. -/
theorem declared_affinity_assigned : ofDeclaredType declared = assigned (respelled declared) ∧
    ((∀ c ∈ declared.toList, c ∉ borrowers) → ofDeclaredType declared = assigned declared) := by
  refine ⟨ofDeclaredType_eq declared, fun h => ?_⟩
  rw [ofDeclaredType_eq, Text.respelled_eq_self h]

theorem declared_affinity_assigned_wide : (∀ c ∈ "ｉｎｔ clob".toList, c ∉ borrowers) ∧
    assigned "ｉｎｔ clob" = text ∧ ofDeclaredType "ｉｎｔ clob" = text := by
  have hall : "ｉｎｔ clob".toList.all (· ∉ borrowers) = true := by decide +kernel
  have hchars : ∀ c ∈ "ｉｎｔ clob".toList, c ∉ borrowers :=
    fun c hc => of_decide_eq_true (List.all_eq_true.1 hall c hc)
  have hrule : assigned "ｉｎｔ clob" = text := by decide +kernel
  exact ⟨hchars, hrule, ((declared_affinity_assigned _).2 hchars).trans hrule⟩

/-- Without the dot, the letter has the capital of the one with it. -/
theorem dotless_affinity_not_assigned : ofDeclaredType "ınt" ≠ assigned "ınt" := by
  have hdeclared : ofDeclaredType "ınt" = integer := by decide +kernel
  have hrule : assigned "ınt" = numeric := by decide +kernel
  rw [hdeclared, hrule]
  decide

end Affinity

end PivotedQuery
