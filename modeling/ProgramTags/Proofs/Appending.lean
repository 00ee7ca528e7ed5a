/-!
# Steps that append

`appends more fault` is the step that puts `more` at the end of its state and then fails if it is
given a fault. What it adds does not hang on what the state holds. Such steps are closed under
sequence (`appends_bind`) and under loops: `forM_eq_appends` for a loop that goes through,
`forM_eq_appends_fault` for one that a round stops. `Adds P` is such a step that adds something in
`P`, where neither what nor whether it fails is told.
-/

namespace ProgramTags

/-- Things that are put end to end, among them one that adds nothing. -/
class Appendable (σ : Type) extends Append σ where
  nothing : σ
  append_nothing (a : σ) : a ++ nothing = a
  append_assoc (a b c : σ) : a ++ b ++ c = a ++ (b ++ c)

namespace Appendable

attribute [simp] append_nothing

variable {σ : Type} [Appendable σ]

/-- The things one after the other. -/
def concat (as : List σ) : σ :=
  as.foldr (· ++ ·) nothing

@[simp] theorem concat_nil : concat ([] : List σ) = nothing := rfl

@[simp] theorem concat_cons (a : σ) (as : List σ) : concat (a :: as) = a ++ concat as := rfl

end Appendable

open Appendable

variable {ε σ α : Type} [Appendable σ]

/-- The step that appends `more` and then fails if it is given a fault. -/
def appends (more : σ) (fault : Option ε := none) : EStateM ε σ Unit := fun s =>
  match fault with
  | none => .ok () (s ++ more)
  | some e => .error e (s ++ more)

theorem pure_eq_appends : (pure () : EStateM ε σ Unit) = appends nothing := by
  funext s
  simp only [appends, append_nothing]
  rfl

theorem appends_bind (a b : σ) (fault : Option ε) :
    (appends a >>= fun _ => appends b fault) = appends (a ++ b) fault := by
  funext s
  cases fault with
  | none => exact congrArg (EStateM.Result.ok ()) (append_assoc s a b)
  | some e => exact congrArg (EStateM.Result.error e) (append_assoc s a b)

theorem appends_fault_bind (a : σ) (e : ε) (k : Unit → EStateM ε σ Unit) :
    (appends a (some e) >>= k) = appends a (some e) := rfl

theorem appends_bind_throw (a : σ) (e : ε) (k : α → EStateM ε σ Unit) :
    (appends a >>= fun _ => throw e >>= k) = appends a (some e) := rfl

/-! ## Loops -/

variable {f : α → EStateM ε σ Unit} {g : α → σ}

/-- A loop whose rounds append appends what its rounds do. -/
theorem forM_eq_appends {xs : List α} (h : ∀ x ∈ xs, f x = appends (g x)) :
    xs.forM f = appends (concat (xs.map g)) := by
  induction xs with
  | nil => exact pure_eq_appends
  | cons x xs ih =>
    have hx := h x List.mem_cons_self
    have hxs := ih fun y hy => h y (List.mem_cons_of_mem x hy)
    show (f x >>= fun _ => xs.forM f) = _
    rw [hx, hxs, appends_bind, List.map_cons, concat_cons]

/-- A loop stops in its first round that fails, and keeps what that round has appended. -/
theorem forM_eq_appends_fault {before after : List α} {x : α} {e : ε}
    (h : ∀ y ∈ before, f y = appends (g y)) (hx : f x = appends (g x) (some e)) :
    (before ++ x :: after).forM f = appends (concat ((before ++ [x]).map g)) (some e) := by
  induction before with
  | nil =>
    show (f x >>= fun _ => after.forM f) = _
    rw [hx, appends_fault_bind]
    simp [append_nothing]
  | cons y before ih =>
    have hy := h y List.mem_cons_self
    have hrest := ih fun z hz => h z (List.mem_cons_of_mem y hz)
    show (f y >>= fun _ => (before ++ x :: after).forM f) = _
    rw [hy, hrest, appends_bind, List.cons_append, List.map_cons, concat_cons]

/-! ## Steps that add something of a kind -/

/-- The step appends something that is in `P`, whatever its state holds, and may fail then. -/
def Adds (P : σ → Prop) (act : EStateM ε σ Unit) : Prop :=
  ∃ more fault, P more ∧ act = appends more fault

namespace Adds

variable {P : σ → Prop} {act next : EStateM ε σ Unit}

theorem of_eq {more : σ} {fault : Option ε} (h : act = appends more fault) (hmore : P more) :
    Adds P act :=
  ⟨more, fault, hmore, h⟩

variable (happend : ∀ {a b}, P a → P b → P (a ++ b))
include happend

theorem bind (h : Adds P act) (h' : Adds P next) : Adds P (act >>= fun _ => next) := by
  obtain ⟨a, fault, ha, rfl⟩ := h
  cases fault with
  | some e => exact .of_eq (appends_fault_bind a e _) ha
  | none =>
    obtain ⟨b, fault, hb, rfl⟩ := h'
    exact .of_eq (appends_bind a b fault) (happend ha hb)

theorem forM (hnothing : P nothing) {xs : List α} (h : ∀ x, Adds P (f x)) :
    Adds P (xs.forM f) := by
  induction xs with
  | nil => exact .of_eq pure_eq_appends hnothing
  | cons x xs ih => exact (h x).bind happend ih

end Adds

end ProgramTags
