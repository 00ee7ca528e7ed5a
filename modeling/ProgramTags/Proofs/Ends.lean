import Mathlib.Order.Defs.Unbundled
import ProgramTags.Session

/-!
# How steps end

`Ends act s good bad` says what holds of the value and the state that the step `act` ends in, or of
the error and the state, when it starts in `s`. `Moves R act` says that the state a step ends in,
however it ends, is in the relation `R` to the state it starts in. Where `R` is a preorder, steps
that move so can be put together.
-/

namespace ProgramTags

section

variable {ε δ σ α β : Type}

/-- From `s` the step ends with a value that is `good` or with an error that is `bad`. -/
def Ends (act : EStateM ε σ α) (s : σ) (good : α → σ → Prop) (bad : ε → σ → Prop) : Prop :=
  match act s with
  | .ok a t => good a t
  | .error e t => bad e t

namespace Ends

variable {act : EStateM ε σ α} {f : α → EStateM ε σ β} {s : σ}
  {good : α → σ → Prop} {bad : ε → σ → Prop}

theorem of_ok {a : α} {t : σ} (h : Ends act s good bad) (hr : act s = .ok a t) : good a t := by
  rw [Ends, hr] at h
  exact h

theorem of_error {e : ε} {t : σ} (h : Ends act s good bad) (hr : act s = .error e t) :
    bad e t := by
  rw [Ends, hr] at h
  exact h

theorem mono {good' : α → σ → Prop} {bad' : ε → σ → Prop} (h : Ends act s good bad)
    (hg : ∀ a t, good a t → good' a t) (hb : ∀ e t, bad e t → bad' e t) :
    Ends act s good' bad' := by
  unfold Ends at h ⊢
  cases hr : act s with
  | ok a t => rw [hr] at h; exact hg a t h
  | error e t => rw [hr] at h; exact hb e t h

/-- A step ends as it does. -/
theorem result (act : EStateM ε σ α) (s : σ) :
    Ends act s (fun a t => act s = .ok a t) fun e t => act s = .error e t := by
  unfold Ends
  cases act s <;> rfl

theorem trivial (act : EStateM ε σ α) (s : σ) :
    Ends act s (fun _ _ => True) fun _ _ => True := by
  unfold Ends
  split <;> exact True.intro

/-- A step that cannot fail has a value. -/
theorem exists_ok (h : Ends act s good fun _ _ => False) : ∃ a t, act s = .ok a t ∧ good a t := by
  cases hr : act s with
  | ok a t => exact ⟨a, t, rfl, h.of_ok hr⟩
  | error e t => exact (h.of_error hr).elim

protected theorem pure {a : α} (h : good a s) : Ends (pure a) s good bad := h

protected theorem throw {e : ε} (h : bad e s) : Ends (throw e) s good bad := h

protected theorem get {good : σ → σ → Prop} (h : good s s) : Ends get s good bad := h

protected theorem modify {g : σ → σ} {good : Unit → σ → Prop} (h : good () (g s)) :
    Ends (modify g) s good bad := h

protected theorem bind {good' : β → σ → Prop}
    (h : Ends act s (fun a t => Ends (f a) t good' bad) bad) :
    Ends (act >>= f) s good' bad := by
  show (match EStateM.bind act f s with | .ok a t => good' a t | .error e t => bad e t)
  unfold Ends at h
  unfold EStateM.bind
  cases hr : act s with
  | ok a t => rw [hr] at h; exact h
  | error e t => rw [hr] at h; exact h

protected theorem tryCatch {handle : ε → EStateM ε σ α}
    (h : Ends act s good fun e t => Ends (handle e) t good bad) :
    Ends (tryCatch act handle) s good bad := by
  show (match EStateM.tryCatch act handle s with | .ok a t => good a t | .error e t => bad e t)
  unfold Ends at h
  unfold EStateM.tryCatch
  cases hr : act s with
  | ok a t => rw [hr] at h; exact h
  | error e t => rw [hr] at h; exact h

/-- Two steps in a row succeed if the first does and then the second. -/
theorem bind_eq_ok {b : β} {t : σ} (h : (act >>= f) s = .ok b t) :
    ∃ a u, act s = .ok a u ∧ f a u = .ok b t := by
  change EStateM.bind act f s = .ok b t at h
  unfold EStateM.bind at h
  cases hr : act s with
  | ok a u => rw [hr] at h; exact ⟨a, u, rfl, h⟩
  | error e u => rw [hr] at h; cases h

theorem bind_ok {a : α} {u : σ} {r : EStateM.Result ε σ β} (h : act s = .ok a u)
    (hf : f a u = r) : (act >>= f) s = r := by
  show EStateM.bind act f s = r
  unfold EStateM.bind
  rw [h]
  exact hf

theorem bind_error {e : ε} {t : σ} (h : act s = .error e t) : (act >>= f) s = .error e t := by
  show EStateM.bind act f s = .error e t
  unfold EStateM.bind
  rw [h]

/-- Two steps in a row fail if the first does, or if it succeeds and the second fails. -/
theorem bind_eq_error {e : ε} {t : σ} (h : (act >>= f) s = .error e t) :
    act s = .error e t ∨ ∃ a u, act s = .ok a u ∧ f a u = .error e t := by
  change EStateM.bind act f s = .error e t at h
  unfold EStateM.bind at h
  cases hr : act s with
  | ok a u => rw [hr] at h; exact .inr ⟨a, u, rfl, h⟩
  | error e u => rw [hr] at h; cases h; exact .inl rfl

/-- A loop that fails has gone through the rounds before the one that fails. -/
theorem mapM_eq_error {g : α → EStateM ε σ β} {xs : List α} {e : ε} {t : σ}
    (h : xs.mapM g s = .error e t) :
    ∃ before x after bs u, xs = before ++ x :: after ∧ before.mapM g s = .ok bs u ∧
      g x u = .error e t := by
  induction xs generalizing s with
  | nil => cases h
  | cons x xs ih =>
    rw [List.mapM_cons] at h
    rcases bind_eq_error h with h | ⟨b, u, hx, h⟩
    · exact ⟨[], x, xs, [], s, rfl, rfl, h⟩
    · rcases bind_eq_error h with h | ⟨bs, v, -, h⟩
      · obtain ⟨before, y, after, bs, v, rfl, hbefore, hy⟩ := ih h
        refine ⟨x :: before, y, after, b :: bs, v, rfl, ?_, hy⟩
        rw [List.mapM_cons]
        exact bind_ok hx (bind_ok hbefore rfl)
      · cases h

/-- A loop ends well if every round of it does, or with the first round that does not. -/
protected theorem forM {g : α → EStateM ε σ Unit} {xs : List α} {good : α → Prop}
    {bad : α → ε → Prop} (h : ∀ x ∈ xs, ∀ s, Ends (g x) s (fun _ _ => good x) fun e _ => bad x e) :
    Ends (xs.forM g) s (fun _ _ => ∀ x ∈ xs, good x) fun e _ => ∃ before x after,
      xs = before ++ x :: after ∧ (∀ b ∈ before, good b) ∧ bad x e := by
  induction xs generalizing s with
  | nil => exact Ends.pure nofun
  | cons x xs ih =>
    obtain ⟨hx, hxs⟩ := List.forall_mem_cons.mp h
    refine Ends.bind ((hx s).mono (fun _ t hgood => ?_) fun e _ hbad => ?_)
    · refine (ih hxs).mono (fun _ _ hall => List.forall_mem_cons.mpr ⟨hgood, hall⟩) ?_
      rintro e _ ⟨before, y, after, rfl, hbefore, hbad⟩
      exact ⟨x :: before, y, after, rfl, List.forall_mem_cons.mpr ⟨hgood, hbefore⟩, hbad⟩
    · exact ⟨[], x, xs, rfl, nofun, hbad⟩

/-- A loop fails as its first round that does not end well. -/
theorem forM_error {g : α → EStateM ε σ Unit} {before after : List α} {x : α} {e : ε}
    (hbefore : ∀ b ∈ before, ∀ s, ∃ t, g b s = .ok () t) (hx : ∀ s, ∃ t, g x s = .error e t) :
    ∃ t, (before ++ x :: after).forM g s = .error e t := by
  induction before generalizing s with
  | nil =>
    obtain ⟨t, ht⟩ := hx s
    exact ⟨t, bind_error ht⟩
  | cons b before ih =>
    obtain ⟨hb, hrest⟩ := List.forall_mem_cons.mp hbefore
    obtain ⟨t, ht⟩ := hb s
    obtain ⟨u, hu⟩ := ih hrest
    exact ⟨u, bind_ok ht hu⟩

/-- What holds of every way to end holds of what is left. -/
theorem after {act : Work ε α} {s : Session} {P : Session → Prop}
    (h : Ends act s (fun _ => P) fun _ => P) : P (act.after s) := by
  unfold Work.after
  cases hr : act s with
  | ok a t => exact h.of_ok hr
  | error e t => exact h.of_error hr

end Ends

/-! ## Steps that move along a relation -/

/-- However the step ends, it moves along `R`. -/
def Moves (R : σ → σ → Prop) (act : EStateM ε σ α) : Prop :=
  ∀ s, Ends act s (fun _ => R s) fun _ => R s

namespace Moves

variable {R : σ → σ → Prop} {act : EStateM ε σ α} {f : α → EStateM ε σ β}

/-- A step that moves along `R` may be followed by what ends well from wherever it arrives. -/
theorem ends_bind {s : σ} {good : β → σ → Prop} {bad : ε → σ → Prop} (h : Moves R act)
    (hg : ∀ a t, R s t → Ends (f a) t good bad) (hb : ∀ e t, R s t → bad e t) :
    Ends (act >>= f) s good bad :=
  Ends.bind ((h s).mono hg hb)

theorem mono {R' : σ → σ → Prop} (h : Moves R act) (hR : ∀ s t, R s t → R' s t) : Moves R' act :=
  fun s => (h s).mono (fun _ t => hR s t) fun _ t => hR s t

protected theorem modify {g : σ → σ} (h : ∀ s, R s (g s)) :
    Moves R (modify g : EStateM ε σ Unit) :=
  fun s => Ends.modify (h s)

protected theorem get_bind {f : σ → EStateM ε σ β} (h : ∀ s, Moves R (f s)) :
    Moves R (get >>= f) :=
  fun s => h s s

variable [IsPreorder σ R]

protected theorem pure (a : α) : Moves R (pure a : EStateM ε σ α) :=
  fun s => Ends.pure (refl s)

protected theorem throw (e : ε) : Moves R (throw e : EStateM ε σ α) :=
  fun s => Ends.throw (refl s)

/-- What moves along `R` from a state that was reached along `R` is reached along `R`. -/
theorem onward {s t : σ} (h : Moves R act) (hst : R s t) :
    Ends act t (fun _ => R s) fun _ => R s :=
  (h t).mono (fun _ _ => IsTrans.trans _ _ _ hst) fun _ _ => IsTrans.trans _ _ _ hst

protected theorem bind (h : Moves R act) (hf : ∀ a, Moves R (f a)) : Moves R (act >>= f) :=
  fun _ => h.ends_bind (fun a _ hst => (hf a).onward hst) fun _ _ hst => hst

protected theorem tryCatch {handle : ε → EStateM ε σ α} (h : Moves R act)
    (hh : ∀ e, Moves R (handle e)) : Moves R (tryCatch act handle) :=
  fun s => Ends.tryCatch ((h s).mono (fun _ _ hst => hst) fun e _ hst => (hh e).onward hst)

protected theorem mapM {g : α → EStateM ε σ β} (h : ∀ a, Moves R (g a)) (as : List α) :
    Moves R (as.mapM g) := by
  induction as with
  | nil => exact Moves.pure []
  | cons a as ih =>
    rw [List.mapM_cons]
    exact (h a).bind fun b => ih.bind fun bs => Moves.pure (b :: bs)

end Moves

end

end ProgramTags
