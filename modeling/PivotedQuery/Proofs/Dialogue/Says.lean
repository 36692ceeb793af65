import PivotedQuery.Proofs.Dialogue.Transcript
/-!
What a dialogue says, together with what it comes to. Main statements: what is said by one dialogue
after another is put together from what is said by each, and what a tree says of every run is true of
the exchanges of each run.
-/
namespace PivotedQuery.Dialogue

variable {σ α β : Type} {mid post : List Exchange → Option α → Prop} {d : Dialogue α}

/-- Whatever is answered, the exchanges and the result have the property. A breakdown is no result. -/
def Says : (List Exchange → Option α → Prop) → Dialogue α → Prop
  | post, done a => post [] (some a)
  | post, crash => post [] none
  | post, ask r k => ∀ a, Says (fun xs o => post (⟨r, a⟩ :: xs) o) (k a)
  | post, isCancelled _ k => ∀ b, Says post (k b)
  | post, cancel _ d => Says post d
  | post, report _ d => Says post d

theorem says_pure {a : α} (h : post [] (some a)) : (pure a : Dialogue α).Says post := h

theorem Says.mono (hd : d.Says mid) (h : ∀ xs o, mid xs o → post xs o) : d.Says post := by
  induction d generalizing mid post with
  | done a => exact h _ _ hd
  | crash => exact h _ _ hd
  | ask r k ih => exact fun a => ih a (hd a) fun xs o => h _ o
  | isCancelled t k ih => exact fun b => ih b (hd b) h
  | cancel t d ih => exact ih hd h
  | report e d ih => exact ih hd h

/-- After a breakdown nothing more is said. -/
theorem Says.bind_append {post : List Exchange → Option β → Prop} {f : α → Dialogue β}
    (hd : d.Says mid) (hnone : ∀ xs, mid xs none → post xs none)
    (hf : ∀ xs a, mid xs (some a) → (f a).Says fun ys o => post (xs ++ ys) o) :
    (d >>= f).Says post := by
  change (d.bind f).Says post
  induction d generalizing mid post with
  | done a => exact hf [] a hd
  | crash => exact hnone [] hd
  | ask r k ih => exact fun a => ih a (hd a) (fun xs => hnone _) fun xs a => hf _ a
  | isCancelled t k ih => exact fun b => ih b (hd b) hnone hf
  | cancel t d ih => exact ih hd hnone hf
  | report e d ih => exact ih hd hnone hf

/-- The same of all that has been said once the dialogue is over, if it begins after `said`. -/
def After (said : List Exchange) (post : List Exchange → Option α → Prop) (d : Dialogue α) : Prop :=
  d.Says fun xs o => post (said ++ xs) o

theorem Says.after {said : List Exchange} (hd : d.Says mid)
    (h : ∀ xs o, mid xs o → post (said ++ xs) o) : d.After said post := hd.mono h

theorem After.saying (hd : d.After [] post) : d.Says post := hd

theorem after_pure {said : List Exchange} {a : α} (h : post said (some a)) :
    (pure a : Dialogue α).After said post := by
  change post (said ++ []) (some a)
  rwa [List.append_nil]

theorem after_crash {said : List Exchange} (h : post said none) :
    (crash : Dialogue α).After said post := by
  change post (said ++ []) none
  rwa [List.append_nil]

theorem Says.bind_after {said : List Exchange} {post : List Exchange → Option β → Prop}
    {f : α → Dialogue β} (hd : d.Says mid) (hnone : ∀ xs, mid xs none → post (said ++ xs) none)
    (hf : ∀ xs a, mid xs (some a) → (f a).After (said ++ xs) post) :
    (d >>= f).After said post := by
  apply Says.bind_append hd hnone
  intro xs a h
  apply (hf xs a h).mono
  intro ys o hys
  rwa [← List.append_assoc]

theorem Says.bind {post : List Exchange → Option β → Prop} {f : α → Dialogue β}
    (hd : d.Says mid) (hnone : ∀ xs, mid xs none → post xs none)
    (hf : ∀ xs a, mid xs (some a) → (f a).After xs post) : (d >>= f).Says post :=
  hd.bind_append hnone hf

theorem Says.both {post' : List Exchange → Option α → Prop} (hd : d.Says post)
    (hd' : d.Says post') : d.Says fun xs o => post xs o ∧ post' xs o := by
  induction d generalizing post post' with
  | done a => exact ⟨hd, hd'⟩
  | crash => exact ⟨hd, hd'⟩
  | ask r k ih => exact fun a => ih a (hd a) (hd' a)
  | isCancelled t k ih => exact fun b => ih b (hd b) (hd' b)
  | cancel t d ih => exact ih hd hd'
  | report e d ih => exact ih hd hd'

theorem Says.and {post' : α → Prop} (hd : d.Says post) (halways : d.Always post') :
    d.Says fun xs o => post xs o ∧ ∀ a, o = some a → post' a := by
  induction d generalizing post with
  | done a =>
    refine ⟨hd, ?_⟩
    rintro _ ⟨⟩
    exact halways
  | crash => exact ⟨hd, fun a h => nomatch h⟩
  | ask r k ih => exact fun a => ih a (hd a) (halways a)
  | isCancelled t k ih => exact fun b => ih b (hd b) (halways b)
  | cancel t d ih => exact ih hd halways
  | report e d ih => exact ih hd halways

/-- Whatever was said on the way to it, of each result the same can be told. -/
theorem Says.always {post' : α → Prop} (hd : d.Says post)
    (h : ∀ xs a, post xs (some a) → post' a) : d.Always post' := by
  induction d generalizing post with
  | done a => exact h [] a hd
  | crash => trivial
  | ask r k ih => exact fun a => ih a (hd a) fun xs => h _
  | isCancelled t k ih => exact fun b => ih b (hd b) h
  | cancel t d ih => exact ih hd h
  | report e d ih => exact ih hd h

theorem says_call (r : Request) : (call r).Says fun xs o => xs = [⟨r, o⟩] := by
  intro a
  cases a with
  | none => rfl
  | some a => rfl

/-! Reports and tokens are not said. -/

theorem says_log (e : Event) : (log e).Says fun xs _ => xs = [] := rfl

variable {said : List Exchange}

theorem after_log_bind {e : Event} {f : Unit → Dialogue α} (h : (f ()).After said post) :
    (log e >>= f).After said post := h

theorem after_cancelled_bind {t : Token} {f : Bool → Dialogue α}
    (h : ∀ b, (f b).After said post) : (cancelled t >>= f).After said post := h

theorem after_cancelToken_bind {t : Token} {f : Unit → Dialogue α}
    (h : (f ()).After said post) : (cancelToken t >>= f).After said post := h

theorem Says.attempt (hd : d.Says post) :
    d.attempt.Says fun xs o => ∃ r, o = some r ∧ post xs r := by
  induction d generalizing post with
  | done a => exact ⟨_, rfl, hd⟩
  | crash => exact ⟨_, rfl, hd⟩
  | ask r k ih => exact fun a => ih a (hd a)
  | isCancelled t k ih => exact fun b => ih b (hd b)
  | cancel t d ih => exact ih hd
  | report e d ih => exact ih hd

theorem Says.of_run (hd : d.Says post) (db : Backend σ) (w : World σ) :
    post (d.exchanges db w) (d.run db w).1 := by
  induction d generalizing post w with
  | done a => exact hd
  | crash => exact hd
  | ask r k ih => exact ih _ (hd _) (db.served w r)
  | isCancelled t k ih => exact ih _ (hd _) (db.looked w)
  | cancel t d ih => exact ih hd _
  | report e d ih => exact ih hd (w.noted e)

-- from here on only by their rules, so that no goal is taken for the tree behind it
attribute [irreducible] Says After

/-! Dialogues in which every exchange has a property. -/

variable {p : Exchange → Prop}

/-- Only such exchanges are made. -/
def Makes (p : Exchange → Prop) (d : Dialogue α) : Prop := d.Says fun xs _ => ∀ x ∈ xs, p x

theorem makes_pure (a : α) : (pure a : Dialogue α).Makes p :=
  says_pure fun _ h => absurd h List.not_mem_nil

theorem Makes.bind {f : α → Dialogue β} (hd : d.Makes p) (hf : ∀ a, (f a).Makes p) :
    (d >>= f).Makes p := by
  apply Says.bind hd
  · exact fun xs hxs => hxs
  · exact fun xs a hxs => (hf a).after fun ys _ hys => List.forall_mem_append.2 ⟨hxs, hys⟩

theorem makes_call {r : Request} (h : ∀ o, p ⟨r, o⟩) : (call r).Makes p := by
  apply (says_call r).mono
  rintro _ o rfl
  exact List.forall_mem_singleton.2 (h o)

theorem makes_log_bind {e : Event} {f : Unit → Dialogue α} (h : (f ()).Makes p) :
    (log e >>= f).Makes p := After.saying (after_log_bind (h.after fun _ _ hxs => hxs))

end PivotedQuery.Dialogue
