import PivotedQuery.Proofs.Real64.Decimal
import PivotedQuery.Value.Literal
/-!
Literals. Main statements: what a literal says is read back from it and the reader stops where it
ends, so two literals that stand before the same text are of one value.
-/
namespace PivotedQuery

namespace Text

/-- What may stand behind a literal inside a statement. -/
def Breaks (rest : List Char) : Prop := ∀ c ∈ rest.head?, c = ' ' ∨ c = ',' ∨ c = ')'

theorem breaks_nil : Breaks [] := by
  rintro _ ⟨⟩

theorem breaks_cons {c : Char} (h : c = ' ' ∨ c = ',' ∨ c = ')') (rest : List Char) :
    Breaks (c :: rest) := by
  rintro _ ⟨⟩
  exact h

theorem Breaks.head?_ne {rest : List Char} (h : Breaks rest) {c : Char} (hspace : c ≠ ' ')
    (hcomma : c ≠ ',') (hparen : c ≠ ')') : rest.head? ≠ some c := by
  intro hc
  obtain rfl | rfl | rfl := h c hc
  · exact hspace rfl
  · exact hcomma rfl
  · exact hparen rfl

theorem isDigit_zero : isDigit '0' = true := rfl

theorem isDigit_of_mem_toDigits {n : Nat} {c : Char} (h : c ∈ Nat.toDigits 10 n) :
    isDigit c = true :=
  Nat.isDigit_of_mem_toDigits (by decide) (by decide) h

theorem digitsValue_toDigits (n : Nat) : digitsValue (Nat.toDigits 10 n) = n :=
  Nat.ofDigitChars_ten_toDigits

theorem digitsValue_append_zeros (ds : List Char) (k : Nat) :
    digitsValue (ds ++ zeros k) = digitsValue ds * 10 ^ k := by
  change Nat.ofDigitChars 10 (ds ++ List.replicate k '0') 0 = _
  rw [Nat.ofDigitChars_append, Nat.ofDigitChars_replicate_zero, Nat.mul_comm]
  rfl

theorem digitsValue_zeros_append (ds : List Char) (k : Nat) :
    digitsValue (zeros k ++ ds) = digitsValue ds := by
  change Nat.ofDigitChars 10 (List.replicate k '0' ++ ds) 0 = _
  rw [Nat.ofDigitChars_append, Nat.ofDigitChars_replicate_zero]
  rfl

theorem isDigit_or_of_mem_hex {bytes : List UInt8} {c : Char} (h : c ∈ hex bytes) :
    isDigit c = true ∨ ('A' ≤ c ∧ c ≤ 'F') := by
  have hdigit : ∀ n < 16, isDigit (hexDigit n) = true ∨ ('A' ≤ hexDigit n ∧ hexDigit n ≤ 'F') := by
    decide
  obtain ⟨b, -, hc⟩ := List.mem_flatMap.1 h
  have hb : b.toNat < 256 := b.toNat_lt
  rcases List.mem_cons.1 hc with rfl | hc
  · exact hdigit _ (by omega)
  · rw [List.mem_singleton.1 hc]
    exact hdigit _ (by omega)

theorem splitDigits_append {ds rest : List Char} (hds : ∀ c ∈ ds, isDigit c = true)
    (hrest : ∀ c ∈ rest.head?, isDigit c = false) : splitDigits (ds ++ rest) = (ds, rest) := by
  unfold splitDigits
  rw [List.takeWhile_append_of_pos hds, List.dropWhile_append_of_pos hds]
  cases rest with
  | nil => simp
  | cons c rest =>
    have hc := hrest c rfl
    simp [hc]

theorem eq_append_of_expectChars {word cs rest : List Char}
    (h : expectChars word cs = some rest) : cs = word ++ rest := by
  induction word generalizing cs with
  | nil => exact Option.some.inj h
  | cons w word ih =>
    cases cs with
    | nil => cases h
    | cons c cs =>
      unfold expectChars at h
      split at h
      case isTrue hc => rw [hc, ih h, List.cons_append]
      case isFalse => cases h

end Text

namespace Real64

/-- One of the words of a number that is none. -/
def nan : Real64 := ⟨0x7FF8000000000000⟩

end Real64

namespace Value

open Text (Breaks isDigit digitsValue splitDigits splitDigits_append isDigit_of_mem_toDigits
  digitsValue_toDigits)

theorem Breaks.not_isDigit {rest : List Char} (h : Breaks rest) :
    ∀ c ∈ rest.head?, isDigit c = false := by
  intro c hc
  obtain rfl | rfl | rfl := h c hc
  · rfl
  · rfl
  · rfl

/-! Integers and exponents. -/

theorem toList_toString_ofNat (n : Nat) : (toString (n : Int)).toList = Nat.toDigits 10 n := by
  change (Nat.repr n).toList = _
  rw [Nat.repr_eq_ofList_toDigits, String.toList_ofList]

theorem toList_toString_negSucc (n : Nat) :
    (toString (Int.negSucc n)).toList = '-' :: Nat.toDigits 10 (n + 1) := by
  change ("-" ++ Nat.repr (n + 1)).toList = _
  rw [String.toList_append, Nat.repr_eq_ofList_toDigits]
  exact congrArg ('-' :: ·) String.toList_ofList

theorem exists_cons_toDigits (n : Nat) :
    ∃ d ds, Nat.toDigits 10 n = d :: ds ∧ isDigit d = true := by
  obtain ⟨d, ds, h⟩ := List.exists_cons_of_ne_nil (@Nat.toDigits_ne_nil n 10)
  exact ⟨d, ds, h, isDigit_of_mem_toDigits (h ▸ List.mem_cons_self)⟩

theorem splitDigits_toDigits (n : Nat) {rest : List Char} (h : Breaks rest) :
    splitDigits (Nat.toDigits 10 n ++ rest) = (Nat.toDigits 10 n, rest) :=
  splitDigits_append (fun _ => isDigit_of_mem_toDigits) (Breaks.not_isDigit h)

theorem readExponent_of_breaks {rest : List Char} (h : Breaks rest) :
    readExponent rest = some (none, rest) := by
  unfold readExponent
  split
  · exact absurd rfl (h.head?_ne (by decide) (by decide) (by decide))
  · exact absurd rfl (h.head?_ne (by decide) (by decide) (by decide))
  · rfl

theorem readExponent_toString (e : Int) {rest : List Char} (h : Breaks rest) :
    readExponent ('e' :: ((toString e).toList ++ rest)) = some (some e, rest) := by
  cases e with
  | ofNat n =>
    obtain ⟨d, ds, hds, hd⟩ := exists_cons_toDigits n
    have hsplit := splitDigits_toDigits n h
    have hvalue := digitsValue_toDigits n
    rw [Int.ofNat_eq_natCast, toList_toString_ofNat]
    rw [hds] at hsplit hvalue ⊢
    unfold readExponent
    split
    case h_1 heq =>
      cases heq
      cases hd
    case h_2 heq =>
      cases heq
      rw [hsplit]
      simp [hvalue]
    case h_3 hother => exact (hother _ rfl).elim
  | negSucc n =>
    have hread (cs : List Char) : readExponent ('e' :: '-' :: cs) =
        if (splitDigits cs).1.isEmpty then none
        else some (some (-digitsValue (splitDigits cs).1 : Int), (splitDigits cs).2) := rfl
    rw [toList_toString_negSucc, List.cons_append, hread, splitDigits_toDigits _ h]
    have hne : (Nat.toDigits 10 (n + 1)).isEmpty = false := by
      simp
    simp only [hne, digitsValue_toDigits]
    rfl

/-! Numbers. -/

variable (toReal : DecimalReading) (negative : Bool)

theorem readNumber_point {whole places tail rest : List Char} {exponent : Option Int}
    {d : Decimal} (hwhole : ∀ c ∈ whole, isDigit c = true) (hne : whole ≠ [])
    (hplaces : ∀ c ∈ places, isDigit c = true) (htail : ∀ c ∈ tail.head?, isDigit c = false)
    (hexponent : readExponent tail = some (exponent, rest))
    (hd : digitsValue (whole ++ places) = d.digits)
    (he : exponent.getD 0 - places.length = d.exponent) :
    readNumber toReal negative (whole ++ '.' :: (places ++ tail)) =
      some (real (toReal negative d), rest) := by
  obtain ⟨c, cs, rfl⟩ := List.exists_cons_of_ne_nil hne
  have hsplit : splitDigits (c :: cs ++ '.' :: (places ++ tail)) =
      (c :: cs, '.' :: (places ++ tail)) := splitDigits_append hwhole (by rintro _ ⟨⟩; rfl)
  unfold readNumber
  rw [hsplit]
  simp only [splitDigits_append hplaces htail, hexponent, Option.bind_eq_bind, Option.bind_some,
    hd, he]
  rfl

/-- What digits without a point stand for. -/
def ofWhole (toReal : DecimalReading) (negative : Bool) (digits : Nat) : Option Int → Value
  | none => ofDigits toReal negative digits
  | some e => real (toReal negative ⟨digits, e⟩)

theorem readNumber_whole {whole tail rest : List Char} {exponent : Option Int}
    (hwhole : ∀ c ∈ whole, isDigit c = true) (hne : whole ≠ [])
    (htail : ∀ c ∈ tail.head?, isDigit c = false) (hpoint : tail.head? ≠ some '.')
    (hexponent : readExponent tail = some (exponent, rest)) :
    readNumber toReal negative (whole ++ tail) =
      some (ofWhole toReal negative (digitsValue whole) exponent, rest) := by
  obtain ⟨d, ds, rfl⟩ := List.exists_cons_of_ne_nil hne
  unfold readNumber
  rw [splitDigits_append hwhole htail]
  split
  case h_1 heq => cases heq
  case h_2 heq =>
    cases heq
    exact absurd rfl hpoint
  case h_3 heq =>
    cases heq
    rw [hexponent]
    cases exponent with
    | none => rfl
    | some e => rfl

/-! Texts of decimals. -/

theorem digits_zeros (k : Nat) : ∀ c ∈ zeros k, isDigit c = true := by
  intro c hc
  rw [List.eq_of_mem_replicate hc]
  rfl

theorem digits_append {cs ds : List Char} (hcs : ∀ c ∈ cs, isDigit c = true)
    (hds : ∀ c ∈ ds, isDigit c = true) : ∀ c ∈ cs ++ ds, isDigit c = true := by
  intro c hc
  rcases List.mem_append.1 hc with hc | hc
  · exact hcs c hc
  · exact hds c hc

variable {d : Decimal} {rest : List Char}

/-- The point in front of the digits, among them or behind them. -/
theorem readNumber_positional (hrest : Breaks rest)
    (hle : (Nat.toDigits 10 d.digits).length + d.exponent ≤ 16) :
    readNumber toReal negative (positional (Nat.toDigits 10 d.digits)
      ((Nat.toDigits 10 d.digits).length + d.exponent) ++ rest) =
      some (real (toReal negative d.written), rest) := by
  unfold Decimal.written
  have hdigits (c : Char) : c ∈ Nat.toDigits 10 d.digits → isDigit c = true :=
    isDigit_of_mem_toDigits
  have hvalue := digitsValue_toDigits d.digits
  have hne := @Nat.toDigits_ne_nil d.digits 10
  have htail := Breaks.not_isDigit hrest
  have hexponent := readExponent_of_breaks hrest
  generalize Nat.toDigits 10 d.digits = ds at hdigits hvalue hne hle ⊢
  have hlength := List.length_pos_iff.2 hne
  unfold positional
  split
  case isTrue hpoint =>
    rw [if_pos (by omega)]
    have hplaces := digits_append (digits_zeros (-(ds.length + d.exponent)).toNat) hdigits
    apply readNumber_point _ _ (List.forall_mem_singleton.2 Text.isDigit_zero)
      (List.cons_ne_nil '0' []) hplaces htail hexponent
    · rw [← hvalue]
      exact Text.digitsValue_zeros_append ds (_ + 1)
    · simp [zeros]
      omega
  case isFalse hpoint =>
    split
    case isTrue hless =>
      rw [if_pos (by omega)]
      have htake : ds.take (ds.length + d.exponent).toNat ≠ [] := by
        rw [Ne, List.take_eq_nil_iff]
        rintro (h | h)
        · omega
        · exact hne h
      rw [List.append_assoc]
      apply readNumber_point _ _ (fun c hc => hdigits c (List.mem_of_mem_take hc)) htake
        (fun c hc => hdigits c (List.mem_of_mem_drop hc)) htail hexponent
      · rw [List.take_append_drop, hvalue]
      · rw [List.length_drop]
        change 0 - _ = _
        omega
    case isFalse hless =>
      rw [if_neg (by omega), show (ds.length + d.exponent).toNat - ds.length =
        d.exponent.toNat by omega]
      generalize d.exponent.toNat = k
      have hread : readNumber toReal negative (ds ++ zeros k ++ '.' :: (['0'] ++ rest)) =
          some (real (toReal negative ⟨d.digits * 10 ^ (k + 1), -1⟩), rest) := by
        apply readNumber_point _ _ (digits_append hdigits (digits_zeros k)) (by simp [hne])
          (List.forall_mem_singleton.2 Text.isDigit_zero) htail hexponent
        · rw [List.append_assoc, show zeros k ++ ['0'] = zeros (k + 1) from
            List.replicate_succ'.symm, Text.digitsValue_append_zeros, hvalue]
        · rfl
      rw [← hread]
      simp

/-- One digit in front of the point, if there are more. -/
theorem readNumber_scientific (hrest : Breaks rest) :
    readNumber toReal negative (scientific (Nat.toDigits 10 d.digits)
      ((Nat.toDigits 10 d.digits).length + d.exponent) ++ rest) =
      some (real (toReal negative d), rest) := by
  have hdigits (c : Char) : c ∈ Nat.toDigits 10 d.digits → isDigit c = true :=
    isDigit_of_mem_toDigits
  have hvalue := digitsValue_toDigits d.digits
  have hne := @Nat.toDigits_ne_nil d.digits 10
  generalize Nat.toDigits 10 d.digits = ds at hdigits hvalue hne
  have hexponent := readExponent_toString (ds.length + d.exponent - 1) hrest
  unfold scientific
  rw [List.append_assoc]
  match ds with
  | [] => exact absurd rfl hne
  | [c] =>
    have hread := readNumber_whole toReal negative hdigits hne
      (by rintro _ ⟨⟩; rfl) (by simp) hexponent
    refine hread.trans ?_
    rw [hvalue, List.length_singleton, Nat.cast_one, add_sub_cancel_left]
    rfl
  | c :: c' :: cs =>
    obtain ⟨hc, hcs⟩ := List.forall_mem_cons.1 hdigits
    apply readNumber_point _ _ (List.forall_mem_singleton.2 hc) (List.cons_ne_nil c []) hcs
      (by rintro _ ⟨⟩; rfl) hexponent hvalue
    simp
    omega

theorem readNumber_text (hrest : Breaks rest) :
    readNumber toReal negative (d.text ++ rest) =
      some (real (toReal negative d.written), rest) := by
  have hlength := List.length_pos_iff.2 (@Nat.toDigits_ne_nil d.digits 10)
  unfold Decimal.text
  dsimp only
  split
  case isTrue hpoint => exact readNumber_positional toReal negative hrest hpoint.2
  case isFalse hpoint =>
    have hwritten : d.written = d := if_pos (by omega)
    rw [hwritten]
    exact readNumber_scientific toReal negative hrest

/-! Literals by storage class. -/

theorem readLiteral_of_readNumber {toReal : DecimalReading} {cs : List Char}
    {r : Value × List Char} (h : readNumber toReal false cs = some r) :
    readLiteral toReal cs = some r := by
  unfold readLiteral
  -- no other literal starts with a digit
  split
  case h_6 => exact h
  all_goals cases h

/-- A number with or without a sign. -/
theorem readLiteral_sign {toReal : DecimalReading} {negative : Bool} {cs : List Char}
    {r : Value × List Char} (h : readNumber toReal negative cs = some r) :
    readLiteral toReal ((if negative then ['-'] else []) ++ cs) = some r := by
  cases negative with
  | true => exact h
  | false => exact readLiteral_of_readNumber h

theorem ofDigits_of_toInt {toReal : DecimalReading} {i : Int64} {n : Nat}
    (h : (if negative then -(n : Int) else n) = i.toInt) :
    ofDigits toReal negative n = integer i := by
  unfold ofDigits
  rw [h]
  have hlow : Int64.minValue.toInt ≤ i.toInt := i.le_toInt
  have hhigh : i.toInt ≤ Int64.maxValue.toInt := Int.le_of_lt_add_one i.toInt_lt
  rw [if_pos ⟨hlow, hhigh⟩, Int64.ofInt_toInt]

theorem readLiteral_integer (toReal : DecimalReading) (i : Int64) (hrest : Breaks rest) :
    readLiteral toReal ((integer i).literal.toList ++ rest) = some (integer i, rest) := by
  have hread (negative : Bool) (n : Nat) := readNumber_whole toReal negative
    (fun _ => @isDigit_of_mem_toDigits n _) (@Nat.toDigits_ne_nil n 10)
    (Breaks.not_isDigit hrest) (hrest.head?_ne (by decide) (by decide) (by decide))
    (readExponent_of_breaks hrest)
  simp only [digitsValue_toDigits, ofWhole] at hread
  simp only [literal]
  split
  case isTrue hleast =>
    rw [hleast]
    change (Text.expectChars leastInteger.toList (leastInteger.toList ++ rest)).map _ = _
    rw [Text.expectChars_append]
    rfl
  case isFalse =>
    cases hi : i.toInt with
    | ofNat n =>
      rw [Int.ofNat_eq_natCast, toList_toString_ofNat]
      apply readLiteral_of_readNumber
      rw [hread, ofDigits_of_toInt false hi.symm]
    | negSucc n =>
      rw [toList_toString_negSucc]
      have hvalue : ofDigits toReal true (n + 1) = integer i := ofDigits_of_toInt true hi.symm
      exact (hread true (n + 1)).trans (by rw [hvalue])

theorem toReal_infinite {r : Real64} (hr : r.isInfinite = true) :
    Decimal.toReal r.isNegative ⟨9, 999⟩ = r := by
  have hinfinity : ∀ negative, Decimal.toReal negative ⟨9, 999⟩ = .infinity negative := by
    decide +kernel
  obtain ⟨hbiased, hfraction⟩ := Bool.and_eq_true_iff.1 hr
  have hunsigned : r.unsignedBits = Real64.infinityBits := by
    rw [Real64.unsignedBits, beq_iff_eq.1 hbiased, beq_iff_eq.1 hfraction]
    rfl
  rw [hinfinity, Real64.infinity, ← hunsigned]
  exact r.ofBits_unsignedBits

theorem readLiteral_infinite {r : Real64} (hr : r.isInfinite = true) (hrest : Breaks rest) :
    readLiteral Decimal.toReal ((infinityLiteral r.isNegative).toList ++ rest) =
      some (real r, rest) := by
  have hread : readNumber Decimal.toReal r.isNegative
      (['9'] ++ 'e' :: ((toString (999 : Int)).toList ++ rest)) = some (real r, rest) := by
    rw [readNumber_whole _ _ (List.forall_mem_singleton.2 rfl) (List.cons_ne_nil '9' [])
      (by rintro _ ⟨⟩; rfl) (by simp) (readExponent_toString 999 hrest)]
    exact congrArg (fun s => some (real s, rest)) (toReal_infinite hr)
  have hliteral : (infinityLiteral r.isNegative).toList ++ rest =
      (if r.isNegative then ['-'] else []) ++
        (['9'] ++ 'e' :: ((toString (999 : Int)).toList ++ rest)) := by
    cases r.isNegative with
    | true => rfl
    | false => rfl
  rw [hliteral]
  exact readLiteral_sign hread

/-- The digits of zero are an exception in writing, not in reading. -/
theorem readLiteral_written (toReal : DecimalReading) {r : Real64} (hr : r.IsFinite)
    (hrest : Breaks rest) : readLiteral toReal (r.text.toList ++ rest) =
      some (real (toReal r.isNegative r.written), rest) := by
  obtain ⟨hnan, hinfinite⟩ := Real64.isFinite_iff.1 hr
  unfold Real64.text Real64.written
  rw [hnan, hinfinite]
  simp only [Bool.false_eq_true, if_false]
  split
  case isTrue hzero =>
    rw [String.toList_ofList, List.append_assoc]
    apply readLiteral_sign
    exact readNumber_point _ _ (List.forall_mem_singleton.2 Text.isDigit_zero)
      (List.cons_ne_nil '0' []) (List.forall_mem_singleton.2 Text.isDigit_zero)
      (Breaks.not_isDigit hrest) (readExponent_of_breaks hrest) rfl rfl
  case isFalse =>
    rw [String.toList_ofList, List.append_assoc]
    exact readLiteral_sign (readNumber_text toReal r.isNegative hrest)

theorem readLiteral_text {r : Real64} (hr : r.IsFinite) (hrest : Breaks rest) :
    readLiteral Decimal.toReal (r.text.toList ++ rest) = some (real r, rest) := by
  rw [readLiteral_written _ hr hrest, Real64.toReal_written hr]

theorem readLiteral_real {r : Real64} (hr : r.isNaN = false) (hrest : Breaks rest) :
    readLiteral Decimal.toReal ((real r).literal.toList ++ rest) = some (real r, rest) := by
  simp only [literal]
  split
  case isTrue hinfinite => exact readLiteral_infinite hinfinite hrest
  case isFalse hfinite =>
    exact readLiteral_text (Real64.isFinite_iff.2 ⟨hr, by simpa using hfinite⟩) hrest

theorem readLiteral_quoted (toReal : DecimalReading) (s : String) (hrest : Breaks rest) :
    readLiteral toReal ((text s).literal.toList ++ rest) = some (text s, rest) := by
  have hread := Text.readDoubled_double s.toList
    (hrest.head?_ne (c := '\x27') (by decide) (by decide) (by decide))
  simp only [literal, Text.enclose, String.toList_ofList, List.cons_append, List.append_assoc]
  change readText _ = _
  rw [readText, List.nil_append, hread]
  simp

theorem readLiteral_blob (toReal : DecimalReading) (bytes : List UInt8) (rest : List Char) :
    readLiteral toReal ((blob bytes).literal.toList ++ rest) = some (blob bytes, rest) := by
  have hmark : ∀ c ∈ Text.hex bytes, decide (c ≠ '\x27') = true := by
    intro c hc
    apply decide_eq_true
    rintro rfl
    obtain hdigit | hletter := Text.isDigit_or_of_mem_hex hc
    · cases hdigit
    · exact absurd hletter (by decide)
  simp only [literal, String.toList_append, String.toList_ofList, List.append_assoc]
  change readBlob (Text.hex bytes ++ '\x27' :: rest) = _
  unfold readBlob
  rw [List.takeWhile_append_of_pos hmark, List.dropWhile_append_of_pos hmark]
  simp [Text.unhex_hex, Text.expect, Text.expectChars]

theorem readLiteral_literal {v : Value} (hv : ∀ r, v = real r → r.isNaN = false)
    (hrest : Breaks rest) :
    readLiteral Decimal.toReal (v.literal.toList ++ rest) = some (v, rest) := by
  cases v with
  | null => rfl
  | integer i => exact readLiteral_integer _ i hrest
  | real r => exact readLiteral_real (hv r rfl) hrest
  | text s => exact readLiteral_quoted _ s hrest
  | blob bytes => exact readLiteral_blob _ bytes rest

/-- The value with no mark of its own on a number that is none. -/
def canonical : Value → Value
  | real r => if r.isNaN then real .nan else real r
  | v => v

theorem literal_nan {r : Real64} (hr : r.isNaN = true) : (real r).literal = "NaN" := by
  have hfinite : r.isInfinite = false := by
    simp only [Real64.isNaN, Real64.isInfinite, Bool.and_eq_true, bne_iff_ne] at hr ⊢
    simp [hr.2]
  simp [literal, hfinite, Real64.text, hr]

theorem literal_canonical (v : Value) : v.canonical.literal = v.literal := by
  unfold canonical
  split
  case h_1 r =>
    split
    case isTrue hr => rw [literal_nan hr, literal_nan (by decide)]
    case isFalse => rfl
  case h_2 => rfl

theorem readLiteral_nan {r : Real64} (hr : r.isNaN = true) (toReal : DecimalReading)
    (rest : List Char) : readLiteral toReal ((real r).literal.toList ++ rest) = none := by
  rw [literal_nan hr]
  rfl

theorem isNaN_cases (v : Value) :
    (∃ r, v = real r ∧ r.isNaN = true) ∨ ∀ r, v = real r → r.isNaN = false := by
  cases v with
  | real r =>
    cases hr : r.isNaN with
    | true => exact .inl ⟨r, rfl, hr⟩
    | false =>
      refine .inr ?_
      rintro _ ⟨⟩
      exact hr
  | _ => exact .inr nofun

/-- Literals of values that differ in more than such marks differ, whatever stands behind them. -/
theorem literal_append_inj {v w : Value} {s t : List Char} (hs : Text.Breaks s)
    (ht : Text.Breaks t) (h : v.literal.toList ++ s = w.literal.toList ++ t) :
    v.canonical = w.canonical ∧ s = t := by
  obtain ⟨r, rfl, hr⟩ | hv := v.isNaN_cases
  · obtain ⟨q, rfl, hq⟩ | hw := w.isNaN_cases
    · rw [literal_nan hr, literal_nan hq] at h
      exact ⟨by simp [canonical, hr, hq], List.append_cancel_left h⟩
    · have hread := readLiteral_literal hw ht
      rw [← h, readLiteral_nan hr] at hread
      cases hread
  · have hread := readLiteral_literal hv hs
    obtain ⟨q, rfl, hq⟩ | hw := w.isNaN_cases
    · rw [h, readLiteral_nan hq] at hread
      cases hread
    · rw [h, readLiteral_literal hw ht] at hread
      cases hread
      exact ⟨rfl, rfl⟩

end Value

end PivotedQuery
