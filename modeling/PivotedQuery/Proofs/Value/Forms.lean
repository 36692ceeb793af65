import PivotedQuery.Proofs.Value.Literal
/-!
The forms of literals as a grammar. Main statements: before what may stand behind a literal, the
reader finds a value just if a form of it stands there; so the literal of a value is a form of that
value alone, and it is read back in one way only.
-/
namespace PivotedQuery

namespace Text

theorem eq_of_readDoubled {mark : Char} {cs s rest : List Char}
    (h : readDoubled mark cs = some (s, rest)) : cs = double mark s ++ mark :: rest := by
  fun_induction readDoubled mark cs generalizing s with
  | case1 => cases h
  | case2 =>
    cases h
    rfl
  | case3 => cases h
  | case4 rest' ih =>
    obtain ⟨⟨t, r⟩, hread, heq⟩ := Option.map_eq_some_iff.1 h
    cases heq
    rw [ih hread]
    simp [double]
  | case5 =>
    cases h
    rfl
  | case6 c d rest' hc ih =>
    obtain ⟨⟨t, r⟩, hread, heq⟩ := Option.map_eq_some_iff.1 h
    cases heq
    rw [ih hread]
    simp [double, hc]

theorem hexValue_isSome_of_mem {ds : List Char} {bytes : List UInt8} (h : unhex ds = some bytes) :
    ∀ c ∈ ds, (hexValue c).isSome = true := by
  fun_induction unhex ds generalizing bytes with
  | case1 => exact fun _ hc => absurd hc List.not_mem_nil
  | case2 => cases h
  | case3 high low rest ih =>
    simp only [Option.bind_eq_bind, Option.bind_eq_some_iff] at h
    obtain ⟨n, hn, m, hm, bytes', hbytes, -⟩ := h
    intro c hc
    rcases List.mem_cons.1 hc with rfl | hc
    · rw [hn]; rfl
    · rcases List.mem_cons.1 hc with rfl | hc
      · rw [hm]; rfl
      · exact ih hbytes c hc

end Text

namespace Value

open Text (Breaks isDigit digitsValue splitDigits splitDigits_append double readDoubled unhex)

/-- A decimal exponent, or none. -/
inductive SpellsExponent : List Char → Option Int → Prop
  | absent : SpellsExponent [] none
  | positive {ds : List Char} (hds : ∀ c ∈ ds, isDigit c = true) (hne : ds ≠ []) :
      SpellsExponent ('e' :: ds) (some (digitsValue ds))
  | negative {ds : List Char} (hds : ∀ c ∈ ds, isDigit c = true) (hne : ds ≠ []) :
      SpellsExponent ('e' :: '-' :: ds) (some (-digitsValue ds))

/-- Digits are an integer; with a point or an exponent they are a real. -/
inductive SpellsNumber (toReal : DecimalReading) (negative : Bool) : List Char → Value → Prop
  | whole {ds : List Char} (hds : ∀ c ∈ ds, isDigit c = true) (hne : ds ≠ []) :
      SpellsNumber toReal negative ds (ofDigits toReal negative (digitsValue ds))
  | exponent {ds x : List Char} {e : Int} (hds : ∀ c ∈ ds, isDigit c = true) (hne : ds ≠ [])
      (hx : SpellsExponent x (some e)) :
      SpellsNumber toReal negative (ds ++ x) (real (toReal negative ⟨digitsValue ds, e⟩))
  | point {ds ps x : List Char} {e : Option Int} (hds : ∀ c ∈ ds, isDigit c = true)
      (hne : ds ≠ []) (hps : ∀ c ∈ ps, isDigit c = true) (hx : SpellsExponent x e) :
      SpellsNumber toReal negative (ds ++ '.' :: (ps ++ x))
        (real (toReal negative ⟨digitsValue (ds ++ ps), e.getD 0 - ps.length⟩))

/-- The forms of literals with what each stands for. -/
inductive Spells (toReal : DecimalReading) : List Char → Value → Prop
  | null : Spells toReal ['N', 'U', 'L', 'L'] null
  | number (negative : Bool) {x : List Char} {v : Value} (h : SpellsNumber toReal negative x v) :
      Spells toReal ((if negative then ['-'] else []) ++ x) v
  | least : Spells toReal leastInteger.toList (integer Int64.minValue)
  | text (s : List Char) :
      Spells toReal ('\x27' :: (double '\x27' s ++ ['\x27'])) (text (String.ofList s))
  | blob {ds : List Char} {bytes : List UInt8} (h : unhex ds = some bytes) :
      Spells toReal ('X' :: '\x27' :: (ds ++ ['\x27'])) (blob bytes)

variable {toReal : DecimalReading} {negative : Bool} {x cs rest : List Char} {v : Value}

/-! A form is read. -/

theorem SpellsExponent.not_isDigit {e : Option Int} (h : SpellsExponent x e) (hrest : Breaks rest) :
    ∀ c ∈ (x ++ rest).head?, isDigit c = false := by
  cases h with
  | absent => exact Breaks.not_isDigit hrest
  | positive => rintro _ ⟨⟩; rfl
  | negative => rintro _ ⟨⟩; rfl

theorem SpellsExponent.read {e : Option Int} (h : SpellsExponent x e) (hrest : Breaks rest) :
    readExponent (x ++ rest) = some (e, rest) := by
  cases h with
  | absent => exact readExponent_of_breaks hrest
  | @positive ds hds hne =>
    obtain ⟨d, ds, rfl⟩ := List.exists_cons_of_ne_nil hne
    have hsplit := splitDigits_append hds (Breaks.not_isDigit hrest)
    have hd : isDigit d = true := hds d List.mem_cons_self
    rw [List.cons_append]
    unfold readExponent
    split
    case h_1 heq =>
      cases heq
      cases hd
    case h_2 heq =>
      cases heq
      rw [hsplit]
      simp
    case h_3 hother => exact (hother _ rfl).elim
  | @negative ds hds hne =>
    have hsplit := splitDigits_append hds (Breaks.not_isDigit hrest)
    rw [List.cons_append, List.cons_append, readExponent, hsplit]
    simp [hne]

theorem SpellsNumber.read (h : SpellsNumber toReal negative x v) (hrest : Breaks rest) :
    readNumber toReal negative (x ++ rest) = some (v, rest) := by
  cases h with
  | whole hds hne =>
    exact readNumber_whole _ _ hds hne (Breaks.not_isDigit hrest)
      (hrest.head?_ne (by decide) (by decide) (by decide)) (readExponent_of_breaks hrest)
  | exponent hds hne hx =>
    rw [List.append_assoc]
    refine readNumber_whole _ _ hds hne (hx.not_isDigit hrest) ?_ (hx.read hrest)
    cases hx <;> simp
  | point hds hne hps hx =>
    rw [List.append_assoc, List.cons_append, List.append_assoc]
    exact readNumber_point _ _ hds hne hps (hx.not_isDigit hrest) (hx.read hrest) rfl rfl

theorem Spells.read (h : Spells toReal x v) (hrest : Breaks rest) :
    readLiteral toReal (x ++ rest) = some (v, rest) := by
  cases h with
  | null => rfl
  | number negative h =>
    rw [List.append_assoc]
    exact readLiteral_sign (h.read hrest)
  | least => exact readLiteral_integer toReal Int64.minValue hrest
  | text s =>
    have hread := Text.readDoubled_double s
      (hrest.head?_ne (c := '\x27') (by decide) (by decide) (by decide))
    rw [List.cons_append, List.append_assoc]
    change readText (double '\x27' s ++ '\x27' :: rest) = _
    rw [readText, hread]
    rfl
  | @blob ds bytes h =>
    have hmark : ∀ c ∈ ds, decide (c ≠ '\x27') = true := by
      intro c hc
      apply decide_eq_true
      rintro rfl
      cases Text.hexValue_isSome_of_mem h _ hc
    rw [List.cons_append, List.cons_append, List.append_assoc]
    change readBlob (ds ++ '\x27' :: rest) = _
    unfold readBlob
    rw [List.takeWhile_append_of_pos hmark, List.dropWhile_append_of_pos hmark]
    simp [h, Text.expect, Text.expectChars]

/-! What is read has a form. -/

theorem splitDigits_spec (cs : List Char) : cs = (splitDigits cs).1 ++ (splitDigits cs).2 ∧
    ∀ c ∈ (splitDigits cs).1, isDigit c = true :=
  ⟨List.takeWhile_append_dropWhile.symm, List.all_eq_true.1 List.all_takeWhile⟩

theorem spellsExponent_of_read {e : Option Int} (h : readExponent cs = some (e, rest)) :
    ∃ x, SpellsExponent x e ∧ cs = x ++ rest := by
  unfold readExponent at h
  split at h
  case h_1 cs =>
    obtain ⟨hsplit, hds⟩ := splitDigits_spec cs
    generalize splitDigits cs = r at h hsplit hds
    dsimp only at h
    split at h
    case isTrue => cases h
    case isFalse hne =>
      cases h
      refine ⟨_, .negative hds (by simpa using hne), ?_⟩
      rw [List.cons_append, List.cons_append, ← hsplit]
  case h_2 cs _ =>
    obtain ⟨hsplit, hds⟩ := splitDigits_spec cs
    generalize splitDigits cs = r at h hsplit hds
    dsimp only at h
    split at h
    case isTrue => cases h
    case isFalse hne =>
      cases h
      refine ⟨_, .positive hds (by simpa using hne), ?_⟩
      rw [List.cons_append, ← hsplit]
  case h_3 =>
    cases h
    exact ⟨[], .absent, rfl⟩

theorem spellsNumber_of_read (h : readNumber toReal negative cs = some (v, rest)) :
    ∃ x, SpellsNumber toReal negative x v ∧ cs = x ++ rest := by
  obtain ⟨hcs, hds⟩ := splitDigits_spec cs
  unfold readNumber at h
  split at h
  case h_1 => cases h
  case h_2 whole tail hne hsplit =>
    rw [hsplit] at hcs hds
    simp only [Option.bind_eq_bind, Option.bind_eq_some_iff, Prod.exists] at h
    obtain ⟨e, rest', he, h⟩ := h
    cases h
    obtain ⟨x, hx, htail⟩ := spellsExponent_of_read he
    obtain ⟨hplaces, hps⟩ := splitDigits_spec tail
    refine ⟨_, .point hds (by simpa using hne) hps hx, ?_⟩
    rw [hcs, List.append_assoc, List.cons_append, List.append_assoc, ← htail, ← hplaces]
  case h_3 whole tail hne _ hsplit =>
    rw [hsplit] at hcs hds
    simp only [Option.bind_eq_bind, Option.bind_eq_some_iff, Prod.exists] at h
    obtain ⟨e, rest', he, h⟩ := h
    obtain ⟨x, hx, htail⟩ := spellsExponent_of_read he
    cases e with
    | none =>
      cases h
      cases hx
      exact ⟨_, .whole hds (by simpa using hne), hcs.trans (by rw [htail]; rfl)⟩
    | some e =>
      cases h
      refine ⟨_, .exponent hds (by simpa using hne) hx, ?_⟩
      rw [hcs, List.append_assoc, ← htail]

theorem spells_of_readBlob (h : readBlob cs = some (v, rest)) :
    ∃ x, Spells toReal ('X' :: '\x27' :: x) v ∧ cs = x ++ rest := by
  unfold readBlob at h
  simp only [Option.bind_eq_bind, Option.bind_eq_some_iff] at h
  obtain ⟨rest', hmark, bytes, hbytes, h⟩ := h
  cases h
  refine ⟨_, .blob hbytes, ?_⟩
  rw [List.append_assoc]
  exact List.takeWhile_append_dropWhile.symm.trans
    (congrArg (_ ++ ·) (Text.eq_append_of_expectChars hmark))

theorem spells_of_readText (h : readText cs = some (v, rest)) :
    ∃ x, Spells toReal ('\x27' :: x) v ∧ cs = x ++ rest := by
  obtain ⟨⟨s, rest'⟩, hread, heq⟩ := Option.map_eq_some_iff.1 h
  cases heq
  refine ⟨_, .text s, ?_⟩
  rw [List.append_assoc]
  exact Text.eq_of_readDoubled hread

theorem spells_of_readLiteral (h : readLiteral toReal cs = some (v, rest)) :
    ∃ x, Spells toReal x v ∧ cs = x ++ rest := by
  unfold readLiteral at h
  split at h
  case h_1 =>
    cases h
    exact ⟨_, .null, rfl⟩
  case h_2 =>
    obtain ⟨x, hx, rfl⟩ := spells_of_readBlob h
    exact ⟨_, hx, rfl⟩
  case h_3 =>
    obtain ⟨x, hx, rfl⟩ := spells_of_readText h
    exact ⟨_, hx, rfl⟩
  case h_4 =>
    obtain ⟨x, hx, rfl⟩ := spellsNumber_of_read h
    exact ⟨_, .number true hx, rfl⟩
  case h_5 =>
    obtain ⟨rest', hrest, heq⟩ := Option.map_eq_some_iff.1 h
    cases heq
    exact ⟨_, .least, Text.eq_append_of_expectChars hrest⟩
  case h_6 =>
    obtain ⟨x, hx, rfl⟩ := spellsNumber_of_read h
    exact ⟨_, .number false hx, rfl⟩

/-- The reader knows these forms and no others. -/
theorem readLiteral_eq_some_iff (hrest : Breaks rest) :
    readLiteral toReal cs = some (v, rest) ↔ ∃ x, Spells toReal x v ∧ cs = x ++ rest := by
  refine ⟨spells_of_readLiteral, ?_⟩
  rintro ⟨x, hx, rfl⟩
  exact hx.read hrest

/-- Before what may stand behind a literal no form is the start of another. -/
theorem Spells.unambiguous {y rest' : List Char} {w : Value} (hx : Spells toReal x v)
    (hy : Spells toReal y w) (hrest : Breaks rest) (hrest' : Breaks rest')
    (h : x ++ rest = y ++ rest') : x = y ∧ v = w ∧ rest = rest' := by
  have hread := hx.read hrest
  rw [h, hy.read hrest'] at hread
  cases hread
  exact ⟨List.append_cancel_right h, rfl, rfl⟩

theorem spells_literal (hv : ∀ r, v = real r → r.isNaN = false) :
    Spells Decimal.toReal v.literal.toList v := by
  obtain ⟨x, hx, hliteral⟩ := spells_of_readLiteral (readLiteral_literal hv Text.breaks_nil)
  rw [List.append_nil, List.append_nil] at hliteral
  rwa [hliteral]

/-- The literal of a value is a form of it. Before a blank, a comma or a closing parenthesis the
reader takes it back and leaves the rest, and no form of any value stands there but this one. -/
theorem literal_read_back (hv : ∀ r, v = real r → r.isNaN = false) (hrest : Breaks rest) :
    Spells Decimal.toReal v.literal.toList v ∧
      readLiteral Decimal.toReal (v.literal.toList ++ rest) = some (v, rest) ∧
      ∀ y w rest', Spells Decimal.toReal y w → Breaks rest' →
        v.literal.toList ++ rest = y ++ rest' → v.literal.toList = y ∧ v = w ∧ rest = rest' := by
  have hliteral := spells_literal hv
  exact ⟨hliteral, hliteral.read hrest, fun y w rest' hy hrest' h =>
    hliteral.unambiguous hy hrest hrest' h⟩

/-- Text with a quote, and behind it what looks like more of it. -/
theorem literal_read_back_quote :
    (∀ r, text "it's" = real r → r.isNaN = false) ∧ Breaks [',', ' ', '\x27', 'x', '\x27'] ∧
      readLiteral Decimal.toReal ("'it''s'".toList ++ [',', ' ', '\x27', 'x', '\x27']) =
        some (text "it's", [',', ' ', '\x27', 'x', '\x27']) := by
  have hliteral : (text "it's").literal.toList = "'it''s'".toList := by decide +kernel
  have hrest : Breaks [',', ' ', '\x27', 'x', '\x27'] := Text.breaks_cons (.inr (.inl rfl)) _
  have hread := (literal_read_back (v := text "it's") nofun hrest).2.1
  rw [hliteral] at hread
  exact ⟨nofun, hrest, hread⟩

end Value

end PivotedQuery
