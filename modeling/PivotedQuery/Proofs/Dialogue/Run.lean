import PivotedQuery.Dialogue.Run
/-!
What a dialogue gives. `Always` speaks of every result that any database may lead to, `Reaches` of a
result that a given database leads to from every world. Main statements: both are kept by doing one
dialogue after another, and what always holds of a tree holds of its runs.
-/
namespace PivotedQuery

/-- The world after a request has been served. -/
def Backend.served {σ : Type} (db : Backend σ) (w : World σ) (r : Request) : World σ :=
  { w with
    state := (db.answer w r).2
    cancelled := (db.answer w r).1.cancels ++ w.cancelled
    requests := w.requests.push r
    events := w.events ++ (db.answer w r).1.reports }

/-- The world after somebody has looked whether a token is cancelled. -/
def Backend.looked {σ : Type} (db : Backend σ) (w : World σ) : World σ :=
  { w with
    state := (db.cancels w).2
    cancelled := (db.cancels w).1 ++ w.cancelled }

/-- In every world the request is answered, and by something with the property. -/
def Backend.Replies {σ : Type} (db : Backend σ) (r : Request) (post : Response r → Prop) : Prop :=
  ∀ w, ∃ a, (db.answer w r).1.reply = some a ∧ post a

def World.noted {σ : Type} (w : World σ) (e : Event) : World σ :=
  { w with events := w.events.push e }

namespace Dialogue

variable {σ α β : Type}

/-- Every result has the property, whatever is answered. -/
def Always (post : α → Prop) : Dialogue α → Prop
  | done a => post a
  | crash => True
  | ask _ k => ∀ a, (k a).Always post
  | isCancelled _ k => ∀ b, (k b).Always post
  | cancel _ d => d.Always post
  | report _ d => d.Always post

theorem always_pure {post : α → Prop} {a : α} (h : post a) :
    (pure a : Dialogue α).Always post := h

theorem Always.bind {mid : α → Prop} {post : β → Prop} {d : Dialogue α} {f : α → Dialogue β}
    (hd : d.Always mid) (hf : ∀ a, mid a → (f a).Always post) : (d >>= f).Always post := by
  change (d.bind f).Always post
  induction d with
  | done a => exact hf a hd
  | crash => trivial
  | ask r k ih => exact fun a => ih a (hd a)
  | isCancelled t k ih => exact fun b => ih b (hd b)
  | cancel t d ih => exact ih hd
  | report e d ih => exact ih hd

theorem Always.mono {mid post : α → Prop} {d : Dialogue α} (hd : d.Always mid)
    (h : ∀ a, mid a → post a) : d.Always post := by
  rw [← bind_done d]
  exact hd.bind fun a ha => h a ha

theorem always_trivial (d : Dialogue α) : d.Always fun _ => True := by
  induction d with
  | done a => trivial
  | crash => trivial
  | ask r k ih => exact ih
  | isCancelled t k ih => exact ih
  | cancel t d ih => exact ih
  | report e d ih => exact ih

/-- A breakdown is a result of the attempt, and the only one without the property. -/
theorem Always.attempt {post : α → Prop} {d : Dialogue α} (hd : d.Always post) :
    d.attempt.Always fun r => ∀ a, r = some a → post a := by
  induction d with
  | done a =>
    rintro _ ⟨⟩
    exact hd
  | crash => exact fun a h => nomatch h
  | ask r k ih => exact fun a => ih a (hd a)
  | isCancelled t k ih => exact fun b => ih b (hd b)
  | cancel t d ih => exact ih hd
  | report e d ih => exact ih hd

theorem always_call {r : Request} : (call r).Always fun _ => True := by
  intro a
  cases a with
  | none => trivial
  | some a => trivial

theorem always_log (e : Event) : (log e).Always fun _ => True := trivial

theorem Always.of_run {post : α → Prop} {d : Dialogue α} (hd : d.Always post) {db : Backend σ}
    {w w' : World σ} {a : α} (h : d.run db w = (some a, w')) : post a := by
  induction d generalizing w with
  | done b =>
    cases h
    exact hd
  | crash => cases h
  | ask r k ih => exact ih _ (hd _) h
  | isCancelled t k ih => exact ih _ (hd _) h
  | cancel t d ih => exact ih hd h
  | report e d ih => exact ih hd h

/-! Runs, step by step. -/

theorem run_pure (db : Backend σ) (a : α) (w : World σ) :
    (pure a : Dialogue α).run db w = (some a, w) := rfl

theorem run_pure_eq_some_iff {db : Backend σ} {a b : α} {w w' : World σ} :
    (pure a : Dialogue α).run db w = (some b, w') ↔ a = b ∧ w = w' := by
  rw [run_pure, Prod.mk.injEq, Option.some.injEq]

theorem run_seq (db : Backend σ) {d : Dialogue α} {f : α → Dialogue β} {w w' : World σ} {a : α}
    (h : d.run db w = (some a, w')) : (d >>= f).run db w = (f a).run db w' := by
  change (d.bind f).run db w = _
  rw [run_bind, h]

theorem run_seq_none (db : Backend σ) {d : Dialogue α} {f : α → Dialogue β} {w w' : World σ}
    (h : d.run db w = (none, w')) : (d >>= f).run db w = (none, w') := by
  change (d.bind f).run db w = _
  rw [run_bind, h]

/-- What comes after a dialogue gives a result just where the dialogue gives one to go on from. -/
theorem run_seq_eq_some_iff {db : Backend σ} {d : Dialogue α} {f : α → Dialogue β} {w w' : World σ}
    {b : β} : (d >>= f).run db w = (some b, w') ↔
      ∃ a w₁, d.run db w = (some a, w₁) ∧ (f a).run db w₁ = (some b, w') := by
  constructor
  · intro h
    cases hd : d.run db w with
    | mk r w₁ =>
      cases r with
      | none =>
        rw [run_seq_none db hd] at h
        cases h
      | some a =>
        rw [run_seq db hd] at h
        exact ⟨a, w₁, rfl, h⟩
  · rintro ⟨a, w₁, hd, hf⟩
    rw [run_seq db hd, hf]

theorem run_map_fst (db : Backend σ) {d : Dialogue α} {f : α → β} {w : World σ} {a : α}
    (h : (d.run db w).1 = some a) :
    ((do let a ← d; return f a : Dialogue β).run db w).1 = some (f a) := by
  rw [run_seq db (Prod.ext h rfl), run_pure]

/-- Nothing happens in what comes after. -/
theorem run_bind_snd (db : Backend σ) (d : Dialogue α) {f : α → Dialogue β} (w : World σ)
    (hf : ∀ a w, ((f a).run db w).2 = w) : ((d >>= f).run db w).2 = (d.run db w).2 := by
  cases hd : d.run db w with
  | mk r w' =>
    cases r with
    | none => rw [run_seq_none db hd]
    | some a => rw [run_seq db hd, hf]

theorem run_log (db : Backend σ) (e : Event) (w : World σ) :
    (log e).run db w = (some (), w.noted e) := rfl

theorem run_call (db : Backend σ) (r : Request) (w : World σ) :
    (call r).run db w = ((db.answer w r).1.reply, db.served w r) := by
  unfold call run
  dsimp only
  cases (db.answer w r).1.reply with
  | none => rfl
  | some a => rfl

theorem requests_of_run_call {db : Backend σ} {r : Request} {a : Response r} {w w' : World σ}
    (h : (call r).run db w = (some a, w')) : w'.requests.toList = w.requests.toList ++ [r] := by
  rw [run_call] at h
  obtain ⟨-, rfl⟩ := Prod.mk.inj h
  exact Array.toList_push

theorem run_cancelled (db : Backend σ) (t : Token) (w : World σ) :
    (cancelled t).run db w = (some ((db.looked w).cancelled.contains t), db.looked w) := rfl

theorem run_cancelToken (db : Backend σ) (t : Token) (w : World σ) :
    (cancelToken t).run db w = (some (), { w with cancelled := t :: w.cancelled }) := rfl

/-- No token is ever taken back. -/
theorem cancelled_subset_run (db : Backend σ) (d : Dialogue α) (w : World σ) :
    w.cancelled ⊆ (d.run db w).2.cancelled := by
  induction d generalizing w with
  | done a => exact List.Subset.refl _
  | crash => exact List.Subset.refl _
  | ask r k ih => exact fun t ht => ih _ (db.served w r) (List.mem_append_right _ ht)
  | isCancelled t k ih => exact fun t ht => ih _ (db.looked w) (List.mem_append_right _ ht)
  | cancel t d ih =>
    exact fun u hu => ih { w with cancelled := t :: w.cancelled } (List.mem_cons_of_mem _ hu)
  | report e d ih => exact ih (w.noted e)

theorem mem_cancelled_of_run {db : Backend σ} {d : Dialogue α} {w w' : World σ} {r : Option α}
    (h : d.run db w = (r, w')) {t : Token} (ht : t ∈ w.cancelled) : t ∈ w'.cancelled := by
  have := cancelled_subset_run db d w ht
  rwa [h] at this

/-- The database leads to a result with the property from every world. -/
def Reaches (db : Backend σ) (d : Dialogue α) (post : α → Prop) : Prop :=
  ∀ w, ∃ a w', d.run db w = (some a, w') ∧ post a

theorem reaches_pure {db : Backend σ} {post : α → Prop} {a : α} (h : post a) :
    Reaches db (pure a) post :=
  fun w => ⟨a, w, rfl, h⟩

theorem Reaches.bind {db : Backend σ} {mid : α → Prop} {post : β → Prop} {d : Dialogue α}
    {f : α → Dialogue β} (hd : Reaches db d mid) (hf : ∀ a, mid a → Reaches db (f a) post) :
    Reaches db (d >>= f) post := by
  intro w
  obtain ⟨a, w₁, ha, hmid⟩ := hd w
  obtain ⟨b, w₂, hb, hpost⟩ := hf a hmid w₁
  exact ⟨b, w₂, (run_seq db ha).trans hb, hpost⟩

theorem Reaches.mono {db : Backend σ} {mid post : α → Prop} {d : Dialogue α}
    (hd : Reaches db d mid) (h : ∀ a, mid a → post a) : Reaches db d post := by
  intro w
  obtain ⟨a, w', ha, hmid⟩ := hd w
  exact ⟨a, w', ha, h a hmid⟩

theorem reaches_log (db : Backend σ) (e : Event) : Reaches db (log e) fun _ => True :=
  fun w => ⟨(), w.noted e, rfl, trivial⟩

theorem reaches_call {db : Backend σ} {r : Request} {post : Response r → Prop}
    (h : db.Replies r post) : Reaches db (call r) post := by
  intro w
  obtain ⟨a, ha, hpost⟩ := h w
  exact ⟨a, db.served w r, by rw [run_call, ha], hpost⟩

end Dialogue

end PivotedQuery
