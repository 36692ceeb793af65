import PivotedQuery.Proofs.Dialogue.Run
/-!
Dialogues that do not break down by themselves, or not without an excuse. Main statement: against a
database that answers every request, be it by an error, such a dialogue comes to a result from every
world.
-/
namespace PivotedQuery

/-- Every request gets an answer in every world. Nothing is said about what it is. -/
def Backend.Answers {σ : Type} (db : Backend σ) : Prop :=
  ∀ w r, (db.answer w r).1.reply.isSome = true

namespace Dialogue

variable {σ α β : Type} {excuse : Prop} {post mid : α → Prop} {d : Dialogue α}

/-- Whatever is answered, there is a result with the property. Only with an excuse may the dialogue
break down instead. -/
def CompletesUnless (excuse : Prop) (post : α → Prop) : Dialogue α → Prop
  | done a => post a
  | crash => excuse
  | ask _ k => ∀ a, (k (some a)).CompletesUnless excuse post
  | isCancelled _ k => ∀ b, (k b).CompletesUnless excuse post
  | cancel _ d => d.CompletesUnless excuse post
  | report _ d => d.CompletesUnless excuse post

/-- Whatever is answered, there is a result, and it has the property. -/
abbrev Completes (post : α → Prop) (d : Dialogue α) : Prop := d.CompletesUnless False post

theorem completes_pure {a : α} (h : post a) : (pure a : Dialogue α).CompletesUnless excuse post := h

theorem completes_crash (h : excuse) : (crash : Dialogue α).CompletesUnless excuse post := h

theorem CompletesUnless.bind {post : β → Prop} {f : α → Dialogue β}
    (hd : d.CompletesUnless excuse mid) (hf : ∀ a, mid a → (f a).CompletesUnless excuse post) :
    (d >>= f).CompletesUnless excuse post := by
  change (d.bind f).CompletesUnless excuse post
  induction d with
  | done a => exact hf a hd
  | crash => exact hd
  | ask r k ih => exact fun a => ih _ (hd a)
  | isCancelled t k ih => exact fun b => ih b (hd b)
  | cancel t d ih => exact ih hd
  | report e d ih => exact ih hd

theorem CompletesUnless.mono (hd : d.CompletesUnless excuse mid) (h : ∀ a, mid a → post a) :
    d.CompletesUnless excuse post := by
  rw [← bind_done d]
  exact hd.bind fun a ha => h a ha

theorem CompletesUnless.imp {excuse' : Prop} (hd : d.CompletesUnless excuse post)
    (h : excuse → excuse') : d.CompletesUnless excuse' post := by
  induction d with
  | done a => exact hd
  | crash => exact h hd
  | ask r k ih => exact fun a => ih _ (hd a)
  | isCancelled t k ih => exact fun b => ih b (hd b)
  | cancel t d ih => exact ih hd
  | report e d ih => exact ih hd

/-- What needs no excuse may have one. -/
theorem Completes.unless (hd : d.Completes post) : d.CompletesUnless excuse post :=
  hd.imp False.elim

/-- What always holds of the results holds of this one. -/
theorem CompletesUnless.and (hd : d.CompletesUnless excuse post) (halways : d.Always mid) :
    d.CompletesUnless excuse fun a => post a ∧ mid a := by
  induction d with
  | done a => exact ⟨hd, halways⟩
  | crash => exact hd
  | ask r k ih => exact fun a => ih _ (hd a) (halways _)
  | isCancelled t k ih => exact fun b => ih b (hd b) (halways b)
  | cancel t d ih => exact ih hd halways
  | report e d ih => exact ih hd halways

theorem completes_call (r : Request) : (call r).CompletesUnless excuse fun _ => True :=
  fun _ => trivial

theorem completes_log (e : Event) : (log e).CompletesUnless excuse fun _ => True := trivial

theorem completes_cancelled (t : Token) : (cancelled t).CompletesUnless excuse fun _ => True :=
  fun _ => trivial

theorem completes_cancelToken (t : Token) : (cancelToken t).CompletesUnless excuse fun _ => True :=
  trivial

theorem Completes.attempt (hd : d.Completes post) :
    d.attempt.Completes fun r => ∃ a, r = some a ∧ post a := by
  induction d with
  | done a => exact ⟨a, rfl, hd⟩
  | crash => cases hd
  | ask r k ih => exact fun a => ih _ (hd a)
  | isCancelled t k ih => exact fun b => ih b (hd b)
  | cancel t d ih => exact ih hd
  | report e d ih => exact ih hd

/-- An answer to each request is all that a run needs to come to the result. -/
theorem CompletesUnless.run_cases (hd : d.CompletesUnless excuse post) {db : Backend σ}
    (hdb : db.Answers) (w : World σ) :
    (∃ a w', d.run db w = (some a, w') ∧ post a) ∨ (excuse ∧ (d.run db w).1 = none) := by
  induction d generalizing w with
  | done a => exact .inl ⟨a, w, rfl, hd⟩
  | crash => exact .inr ⟨hd, rfl⟩
  | ask r k ih =>
    obtain ⟨a, ha⟩ := Option.isSome_iff_exists.1 (hdb w r)
    have hrest := ih (some a) (hd a) (db.served w r)
    rw [← ha] at hrest
    exact hrest
  | isCancelled t k ih => exact ih _ (hd _) (db.looked w)
  | cancel t d ih => exact ih hd _
  | report e d ih => exact ih hd (w.noted e)

theorem Completes.reaches (hd : d.Completes post) {db : Backend σ} (hdb : db.Answers) :
    Reaches db d post := fun w => (hd.run_cases hdb w).resolve_right fun h => h.1

-- from here on only by its rules, so that no goal is taken for the tree behind it
attribute [irreducible] CompletesUnless

end Dialogue

end PivotedQuery
