import ProgramTags.Proofs.Ends

/-!
# Steps side by side

`SameEnd R x y`: both results are the same value or both the same error, and their states are in
the relation `R`. `Parallel R act act'` says that two steps end the same whenever they start in
related states. Steps that run in parallel can be put together as they are, so whatever `R` leaves
open has no influence on them. `Follows bad act act'` says that `act` ends exactly as `act'` does
unless it fails with an error that is `bad`.
-/

namespace ProgramTags

section

variable {ε σ α β : Type} {R : σ → σ → Prop}

/-- The results are the same but for what `R` leaves open in their states. -/
inductive SameEnd (R : σ → σ → Prop) :
    EStateM.Result ε σ α → EStateM.Result ε σ α → Prop
  | ok {a : α} {s t : σ} (h : R s t) : SameEnd R (.ok a s) (.ok a t)
  | error {e : ε} {s t : σ} (h : R s t) : SameEnd R (.error e s) (.error e t)

namespace SameEnd

variable {x y : EStateM.Result ε σ α} {a : α} {e : ε} {s : σ}

theorem exists_of_ok (h : SameEnd R (.ok a s) y) : ∃ t, y = .ok a t ∧ R s t := by
  cases h with
  | ok h => exact ⟨_, rfl, h⟩

theorem exists_of_error (h : SameEnd R (.error e s : EStateM.Result ε σ α) y) :
    ∃ t, y = .error e t ∧ R s t := by
  cases h with
  | error h => exact ⟨_, rfl, h⟩

protected theorem bind {act act' : EStateM ε σ α} {f f' : α → EStateM ε σ β} {s t : σ}
    (h : SameEnd R (act s) (act' t))
    (hf : ∀ a s' t', R s' t' → SameEnd R (f a s') (f' a t')) :
    SameEnd R ((act >>= f) s) ((act' >>= f') t) := by
  show SameEnd R (EStateM.bind act f s) (EStateM.bind act' f' t)
  unfold EStateM.bind
  cases hr : act s with
  | ok a s' =>
    rw [hr] at h
    obtain ⟨t', ht, hR⟩ := h.exists_of_ok
    rw [ht]
    exact hf a s' t' hR
  | error e s' =>
    rw [hr] at h
    obtain ⟨t', ht, hR⟩ := h.exists_of_error
    rw [ht]
    exact .error hR

end SameEnd

/-- From related states the two steps end the same. -/
def Parallel (R : σ → σ → Prop) (act act' : EStateM ε σ α) : Prop :=
  ∀ s t, R s t → SameEnd R (act s) (act' t)

namespace Parallel

variable {act act' : EStateM ε σ α} {f f' : α → EStateM ε σ β}

protected theorem pure (a : α) : Parallel R (pure a : EStateM ε σ α) (pure a) :=
  fun _ _ h => .ok h

protected theorem throw (e : ε) : Parallel R (throw e : EStateM ε σ α) (throw e) :=
  fun _ _ h => .error h

protected theorem modify {g g' : σ → σ} (h : ∀ s t, R s t → R (g s) (g' t)) :
    Parallel R (modify g : EStateM ε σ Unit) (modify g') :=
  fun s t hR => .ok (h s t hR)

protected theorem bind (h : Parallel R act act') (hf : ∀ a, Parallel R (f a) (f' a)) :
    Parallel R (act >>= f) (act' >>= f') :=
  fun s t hR => (h s t hR).bind hf

/-- Steps that read their state go on in parallel if each goes on as the other would. -/
protected theorem get_bind {k k' : σ → EStateM ε σ β}
    (h : ∀ s t, R s t → SameEnd R (k s s) (k' t t)) :
    Parallel R (get >>= k) (get >>= k') :=
  fun s t hR => h s t hR

protected theorem tryCatch {handle handle' : ε → EStateM ε σ α} (h : Parallel R act act')
    (hh : ∀ e, Parallel R (handle e) (handle' e)) :
    Parallel R (tryCatch act handle) (tryCatch act' handle') := by
  intro s t hR
  have hends := h s t hR
  show SameEnd R (EStateM.tryCatch act handle s) (EStateM.tryCatch act' handle' t)
  unfold EStateM.tryCatch
  cases hr : act s with
  | ok a s' =>
    rw [hr] at hends
    obtain ⟨t', ht, hR'⟩ := hends.exists_of_ok
    rw [ht]
    exact .ok hR'
  | error e s' =>
    rw [hr] at hends
    obtain ⟨t', ht, hR'⟩ := hends.exists_of_error
    rw [ht]
    exact hh e s' t' hR'

protected theorem mapM {g : α → EStateM ε σ β} (h : ∀ a, Parallel R (g a) (g a)) (as : List α) :
    Parallel R (as.mapM g) (as.mapM g) := by
  induction as with
  | nil => exact Parallel.pure []
  | cons a as ih =>
    rw [List.mapM_cons]
    exact (h a).bind fun b => ih.bind fun bs => Parallel.pure (b :: bs)

end Parallel

/-! ## Steps that fail more often -/

/-- The first step ends as the second does, or fails with an error that is `bad`. -/
def Follows (bad : ε → Prop) (act act' : EStateM ε σ α) : Prop :=
  ∀ s, act s = act' s ∨ ∃ e t, act s = .error e t ∧ bad e

namespace Follows

variable {bad : ε → Prop} {act act' : EStateM ε σ α} {f f' : α → EStateM ε σ β}

theorem refl (act : EStateM ε σ α) : Follows bad act act := fun _ => .inl rfl

protected theorem throw {e : ε} (h : bad e) : Follows bad (throw e) act := fun s =>
  .inr ⟨e, s, rfl, h⟩

protected theorem bind (h : Follows bad act act') (hf : ∀ a, Follows bad (f a) (f' a)) :
    Follows bad (act >>= f) (act' >>= f') := by
  intro s
  rcases h s with hs | ⟨e, t, ht, he⟩
  · cases hr : act' s with
    | ok a t =>
      have hact : act s = .ok a t := hs.trans hr
      rcases hf a t with ht | ⟨e, u, hu, he⟩
      · exact .inl ((Ends.bind_ok hact ht).trans (Ends.bind_ok hr rfl).symm)
      · exact .inr ⟨e, u, Ends.bind_ok hact hu, he⟩
    | error e t => exact .inl ((Ends.bind_error (hs.trans hr)).trans (Ends.bind_error hr).symm)
  · exact .inr ⟨e, t, Ends.bind_error ht, he⟩

protected theorem get_bind {k k' : σ → EStateM ε σ β} (h : ∀ s, Follows bad (k s) (k' s)) :
    Follows bad (get >>= k) (get >>= k') :=
  fun s => h s s

protected theorem mapM {g g' : α → EStateM ε σ β} (h : ∀ a, Follows bad (g a) (g' a))
    (as : List α) : Follows bad (as.mapM g) (as.mapM g') := by
  induction as with
  | nil => exact refl _
  | cons a as ih =>
    rw [List.mapM_cons, List.mapM_cons]
    exact (h a).bind fun b => ih.bind fun bs => refl _

protected theorem forM {g g' : α → EStateM ε σ Unit} (h : ∀ a, Follows bad (g a) (g' a))
    (as : List α) : Follows bad (as.forM g) (as.forM g') := by
  induction as with
  | nil => exact refl _
  | cons a as ih => exact (h a).bind fun _ => ih

theorem of_ok {a : α} {s t : σ} (h : Follows bad act act') (hr : act s = .ok a t) :
    act' s = .ok a t := by
  rcases h s with hs | ⟨e, u, hu, -⟩
  · exact hs.symm.trans hr
  · rw [hr] at hu
    cases hu

theorem of_error {e : ε} {s t : σ} (h : Follows bad act act') (hr : act s = .error e t) :
    act' s = .error e t ∨ bad e := by
  rcases h s with hs | ⟨e', u, hu, he⟩
  · exact .inl (hs.symm.trans hr)
  · rw [hr] at hu
    cases hu
    exact .inr he

end Follows

end

end ProgramTags
