import Mathlib.Data.List.Forall2

/-!
# Readings and their faults

`Reports x faults`: the reading `x` succeeds if `faults` is empty and fails with the first of them
otherwise. Readings one after the other report the faults of the first before those of the second,
and a reading of every item of a list reports the faults of the items in their order.
-/

namespace ProgramTags

variable {ε α β : Type}

def Reports (x : Except ε α) (faults : List ε) : Prop :=
  match faults with
  | [] => ∃ a, x = .ok a
  | e :: _ => x = .error e

namespace Reports

variable {x : Except ε α} {f : α → Except ε β} {fs gs : List ε}

protected theorem ok (a : α) : Reports (.ok a : Except ε α) [] := ⟨a, rfl⟩

protected theorem error (e : ε) : Reports (.error e : Except ε α) [e] := rfl

protected theorem bind (h : Reports x fs) (hf : ∀ a, x = .ok a → Reports (f a) gs) :
    Reports (x >>= f) (fs ++ gs) := by
  cases fs with
  | nil =>
    obtain ⟨a, rfl⟩ := h
    exact hf a rfl
  | cons e fs =>
    have hx : x = .error e := h
    rw [hx]
    exact rfl

theorem of_ok_bind {a : α} (hx : x = .ok a) (h : Reports (f a) gs) : Reports (x >>= f) gs := by
  rw [hx]
  exact h

theorem bind_pure (h : Reports x fs) (g : α → β) :
    Reports (x >>= fun a => pure (g a)) fs := by
  have hbind := h.bind fun a _ => Reports.ok (ε := ε) (g a)
  rwa [List.append_nil] at hbind

protected theorem mapM {g : α → List ε} {xs : List α} (h : ∀ a ∈ xs, Reports (f a) (g a)) :
    Reports (xs.mapM f) (xs.flatMap g) := by
  induction xs with
  | nil => exact .ok []
  | cons a xs ih =>
    have ha := h a List.mem_cons_self
    have hxs := ih fun b hb => h b (List.mem_cons_of_mem a hb)
    rw [List.mapM_cons, List.flatMap_cons]
    exact ha.bind fun b _ => hxs.bind_pure (b :: ·)

theorem exists_ok_iff (h : Reports x fs) : (∃ a, x = .ok a) ↔ fs = [] := by
  cases fs with
  | nil => exact ⟨fun _ => rfl, fun _ => h⟩
  | cons e fs =>
    have hx : x = .error e := h
    rw [hx]
    exact ⟨nofun, nofun⟩

theorem eq_error {e : ε} (h : Reports x (e :: fs)) : x = .error e := h

end Reports

/-! ## Readings that succeed -/

@[simp] theorem Except.ok_bind (a : α) (f : α → Except ε β) : (Except.ok a >>= f) = f a := rfl

@[simp] theorem Except.pure_eq_ok (a : α) : (pure a : Except ε α) = .ok a := rfl

@[simp] theorem Except.mapError_ok {ε' : Type} (f : ε → ε') (a : α) :
    (Except.ok a : Except ε α).mapError f = .ok a := rfl

@[simp] theorem Except.mapError_error {ε' : Type} (f : ε → ε') (e : ε) :
    (Except.error e : Except ε α).mapError f = .error (f e) := rfl

theorem Except.bind_eq_ok {x : Except ε α} {f : α → Except ε β} {b : β} (h : (x >>= f) = .ok b) :
    ∃ a, x = .ok a ∧ f a = .ok b := by
  cases x with
  | error e => cases h
  | ok a => exact ⟨a, rfl, h⟩

theorem Except.eq_ok_of_toOption {x : Except ε α} {a : α} (h : x.toOption = some a) :
    x = .ok a := by
  cases x with
  | error e => cases h
  | ok a' => exact congrArg Except.ok (Option.some.inj h)

theorem Except.mapError_eq_ok {ε' : Type} {f : ε → ε'} {x : Except ε α} {a : α}
    (h : x.mapError f = .ok a) : x = .ok a := by
  cases x with
  | error e => cases h
  | ok a' => exact congrArg Except.ok (Except.ok.inj h)

/-- A list of items that can be read can be read. -/
theorem Except.exists_mapM_eq_ok {f : α → Except ε β} {R : α → β → Prop} {xs : List α}
    (h : ∀ x ∈ xs, ∃ y, f x = .ok y ∧ R x y) : ∃ ys, xs.mapM f = .ok ys ∧ List.Forall₂ R xs ys := by
  induction xs with
  | nil => exact ⟨[], rfl, .nil⟩
  | cons x xs ih =>
    obtain ⟨y, hy, hR⟩ := h x List.mem_cons_self
    obtain ⟨ys, hys, hRs⟩ := ih fun z hz => h z (List.mem_cons_of_mem x hz)
    refine ⟨y :: ys, ?_, .cons hR hRs⟩
    rw [List.mapM_cons, hy, hys]
    rfl

/-- A list fails as the first of its items does that fails. -/
theorem Except.mapM_append_cons_eq_error {f : α → Except ε β} {before after : List α} {x : α}
    {e : ε} (hbefore : ∀ y ∈ before, ∃ b, f y = .ok b) (h : f x = .error e) :
    (before ++ x :: after).mapM f = .error e := by
  induction before with
  | nil =>
    rw [List.nil_append, List.mapM_cons, h]
    rfl
  | cons y before ih =>
    obtain ⟨⟨b, hb⟩, hbefore⟩ := List.forall_mem_cons.mp hbefore
    rw [List.cons_append, List.mapM_cons, hb, ih hbefore]
    rfl

/-- A list cannot be read if one of its items cannot. -/
theorem Except.mapM_error_iff {f : α → Except ε β} {xs : List α} :
    (∃ e, xs.mapM f = .error e) ↔ ∃ x ∈ xs, ∃ e, f x = .error e := by
  induction xs with
  | nil => simp
  | cons x xs ih =>
    rw [List.mapM_cons, List.exists_mem_cons_iff, ← ih]
    cases hx : f x with
    | error e => exact iff_of_true ⟨e, rfl⟩ (.inl ⟨e, rfl⟩)
    | ok b =>
      cases hxs : xs.mapM f with
      | error e => exact iff_of_true ⟨e, rfl⟩ (.inr ⟨e, rfl⟩)
      | ok bs => exact iff_of_false nofun (by simp)

/-- A list that cannot be read fails at the first item that cannot. -/
theorem Except.exists_first_of_mapM_eq_error {f : α → Except ε β} {xs : List α} {e : ε}
    (h : xs.mapM f = .error e) : ∃ before x after, xs = before ++ x :: after ∧
      (∀ y ∈ before, ∃ b, f y = .ok b) ∧ f x = .error e := by
  induction xs with
  | nil => cases h
  | cons x xs ih =>
    rw [List.mapM_cons] at h
    cases hx : f x with
    | error e' =>
      rw [hx] at h
      cases h
      exact ⟨[], x, xs, rfl, nofun, hx⟩
    | ok b =>
      rw [hx] at h
      cases hxs : xs.mapM f with
      | error e' =>
        rw [hxs] at h
        cases h
        obtain ⟨before, y, after, rfl, hbefore, hy⟩ := ih hxs
        exact ⟨x :: before, y, after, rfl, List.forall_mem_cons.mpr ⟨⟨b, hx⟩, hbefore⟩, hy⟩
      | ok bs =>
        rw [hxs] at h
        cases h

theorem Except.length_of_mapM_eq_ok {f : α → Except ε β} {xs : List α} {ys : List β}
    (h : xs.mapM f = .ok ys) : ys.length = xs.length := by
  induction xs generalizing ys with
  | nil =>
    cases h
    rfl
  | cons x xs ih =>
    rw [List.mapM_cons] at h
    obtain ⟨b, -, h⟩ := Except.bind_eq_ok h
    obtain ⟨bs, hbs, h⟩ := Except.bind_eq_ok h
    cases h
    rw [List.length_cons, List.length_cons, ih hbs]

/-- What is read from the items of a list is read from one of them. -/
theorem Except.mem_of_mapM_eq_ok {f : α → Except ε β} {xs : List α} {ys : List β}
    (h : xs.mapM f = .ok ys) : ∀ y ∈ ys, ∃ x ∈ xs, f x = .ok y := by
  induction xs generalizing ys with
  | nil =>
    cases h
    exact nofun
  | cons x xs ih =>
    rw [List.mapM_cons] at h
    obtain ⟨b, hb, h⟩ := Except.bind_eq_ok h
    obtain ⟨bs, hbs, h⟩ := Except.bind_eq_ok h
    cases h
    intro y hy
    rcases List.mem_cons.mp hy with rfl | hy
    · exact ⟨x, List.mem_cons_self, hb⟩
    · obtain ⟨z, hz, hread⟩ := ih hbs y hy
      exact ⟨z, List.mem_cons_of_mem x hz, hread⟩

end ProgramTags
