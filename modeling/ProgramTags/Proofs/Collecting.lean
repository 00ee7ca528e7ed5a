import Mathlib.Logic.Function.Basic
import ProgramTags.Proofs.Gathering

/-!
# Runs of gathering operations

`Gather.held start steps` is what each of several collectors holds after `steps`, operations that
are done on them in turn, whether they fail or not. What an operation adds is `Operation.gathered`,
what it would have gathered from nothing, and how it ends does not hang on what there is already. So
what a collector holds in the end is said by `steps.on k` alone, the operations on it in their order
(`held_eq_gathered`).
-/

namespace ProgramTags

theorem Collection.eq_of_parts {c d : Collection} (hattributes : c.attributes = d.attributes)
    (hkeys : c.keys = d.keys) : c = d := by
  cases c
  cases d
  cases hattributes
  cases hkeys
  rfl

theorem Collection.concat_attributes (cs : List Collection) :
    (Appendable.concat cs).attributes = cs.flatMap (·.attributes) := by
  induction cs with
  | nil => rfl
  | cons c cs ih => rw [Appendable.concat_cons, append_def, ih, List.flatMap_cons]

theorem Collection.concat_keys (cs : List Collection) :
    (Appendable.concat cs).keys = cs.flatMap (·.keys) := by
  induction cs with
  | nil => rfl
  | cons c cs ih => rw [Appendable.concat_cons, append_def, ih, List.flatMap_cons]

namespace Gather

/-! ## Operations -/

/-- Something that a collector can be asked for. -/
inductive Operation where
  | programClass (c : ProgramClass) (includeBodies : Bool)
  | classTags (c : ProgramClass)
  | fieldTags (f : Field)
  | methodTags (m : Method)
  | bodyTags (statements : List Statement)
  | keyTags (c : ProgramClass)
  deriving DecidableEq, Repr

namespace Operation

def act : Operation → Gather Unit
  | .programClass c includeBodies => Gather.programClass c includeBodies
  | .classTags c => Gather.classTags c
  | .fieldTags f => Gather.fieldTags f
  | .methodTags m => Gather.methodTags m
  | .bodyTags statements => Gather.bodyTags statements
  | .keyTags c => Gather.keyTags c

/-- The operation gathers keys; all others gather attributes. -/
def isForKeys : Operation → Bool
  | .keyTags _ => true
  | _ => false

/-- Why the operation fails, if it does, and what has been gathered then. -/
def result (op : Operation) (c : Collection) : Option GatherError × Collection :=
  match op.act.run c with
  | .ok _ after => (none, after)
  | .error e after => (some e, after)

/-- What the operation gathers from nothing, up to where it fails. -/
def gathered (op : Operation) : Collection :=
  (op.result {}).2

end Operation

/-- No keys are gathered, or nothing but keys. -/
def IsFor (keys : Bool) (c : Collection) : Prop :=
  if keys then c.attributes = [] else c.keys = []

theorem IsFor.append {keys : Bool} {a b : Collection} (ha : IsFor keys a) (hb : IsFor keys b) :
    IsFor keys (a ++ b) := by
  unfold IsFor at *
  rw [Collection.append_def]
  cases keys with
  | true => simp only [if_true] at *; rw [ha, hb, List.append_nil]
  | false => simp only [Bool.false_eq_true, if_false] at *; rw [ha, hb, List.append_nil]

theorem keyTags_adds (c : ProgramClass) : Adds (IsFor true) (keyTags c) :=
  Adds.forM IsFor.append (P := IsFor true) rfl fun t => .of_eq (keyTag_eq_appends t) rfl

theorem programClass_adds (c : ProgramClass) (includeBodies : Bool) :
    Adds (IsFor false) (programClass c includeBodies) := by
  cases h : c.firstBroken? includeBodies with
  | none => exact .of_eq (programClass_eq_appends h) rfl
  | some m => exact .of_eq (programClass_eq_appends_fault h) rfl

namespace Operation

/-- An operation for keys adds nothing but keys, and any other one adds none. -/
theorem adds (op : Operation) : Adds (IsFor op.isForKeys) op.act := by
  cases op with
  | programClass c includeBodies => exact programClass_adds c includeBodies
  | classTags c => exact .of_eq (classTags_eq_appends c) rfl
  | fieldTags f => exact .of_eq (fieldTags_eq_appends f) rfl
  | methodTags m => exact .of_eq (methodTags_eq_appends m) rfl
  | bodyTags statements => exact .of_eq (bodyTags_eq_appends statements) rfl
  | keyTags c => exact keyTags_adds c

/-- An operation ends as it does on nothing, and adds what it gathers there. -/
theorem result_eq (op : Operation) (c : Collection) :
    op.result c = ((op.result {}).1, c ++ op.gathered) := by
  obtain ⟨more, fault, -, h⟩ := op.adds
  unfold gathered result
  rw [h]
  cases fault <;> rfl

theorem gathered_isFor (op : Operation) : IsFor op.isForKeys op.gathered := by
  obtain ⟨more, fault, hmore, h⟩ := op.adds
  have hgathered : op.gathered = more := by
    unfold gathered result
    rw [h]
    cases fault <;> rfl
  rwa [hgathered]

/-- Keys are changed by operations for keys alone, and those leave the attributes as they are. -/
theorem result_keeps (op : Operation) (c : Collection) :
    if op.isForKeys then (op.result c).2.attributes = c.attributes
    else (op.result c).2.keys = c.keys := by
  have hfor := op.gathered_isFor
  rw [result_eq, Collection.append_def]
  cases hop : op.isForKeys with
  | true =>
    have hnone : op.gathered.attributes = [] := by simpa [IsFor, hop] using hfor
    simp [hnone]
  | false =>
    have hnone : op.gathered.keys = [] := by simpa [IsFor, hop] using hfor
    simp [hnone]

end Operation

/-! ## Runs -/

variable {κ : Type} [DecidableEq κ]

/-- Operations, each on one of the collectors, in the order in which they are done. -/
abbrev Steps (κ : Type) := List (κ × Operation)

def Steps.on (k : κ) (steps : Steps κ) : List Operation :=
  (steps.filter (·.1 = k)).map Prod.snd

/-- What the collectors hold after the steps. -/
def held (start : κ → Collection) (steps : Steps κ) : κ → Collection :=
  steps.foldl (fun now step => Function.update now step.1 (step.2.result (now step.1)).2) start

theorem Steps.on_append (k : κ) (steps later : Steps κ) :
    Steps.on k (steps ++ later) = Steps.on k steps ++ Steps.on k later := by
  rw [on, List.filter_append, List.map_append]
  rfl

/-- After any steps a collector holds what it held before and what each operation on it gathers. -/
theorem held_eq_concat (start : κ → Collection) (steps : Steps κ) (k : κ) :
    held start steps k =
      start k ++ Appendable.concat ((Steps.on k steps).map Operation.gathered) := by
  induction steps generalizing start with
  | nil => exact (Appendable.append_nothing (start k)).symm
  | cons step steps ih =>
    obtain ⟨j, op⟩ := step
    have hrest := ih (Function.update start j (op.result (start j)).2)
    show held _ steps k = _
    rw [hrest]
    by_cases hj : j = k
    · subst hj
      have hon : Steps.on j ((j, op) :: steps) = op :: Steps.on j steps := by simp [Steps.on]
      rw [hon, Function.update_self, op.result_eq, List.map_cons, Appendable.concat_cons,
        Appendable.append_assoc]
    · have hon : Steps.on k ((j, op) :: steps) = Steps.on k steps := by simp [Steps.on, hj]
      rw [hon, Function.update_of_ne (Ne.symm hj)]

/-- What gives nothing can be left out. -/
theorem flatMap_filter_of_eq_nil {α β : Type} {p : α → Bool} {f : α → List β}
    (h : ∀ a, p a = false → f a = []) (as : List α) : (as.filter p).flatMap f = as.flatMap f := by
  induction as with
  | nil => rfl
  | cons a as ih =>
    cases ha : p a with
    | true => rw [List.filter_cons_of_pos ha, List.flatMap_cons, List.flatMap_cons, ih]
    | false =>
      rw [List.filter_cons_of_neg (by simp [ha]), List.flatMap_cons, h a ha, ih, List.nil_append]

def Operation.only (keys : Bool) (ops : List Operation) : List Operation :=
  ops.filter (·.isForKeys = keys)

theorem flatMap_only_false (ops : List Operation) :
    (Operation.only false ops).flatMap (·.gathered.attributes) =
      ops.flatMap (·.gathered.attributes) := by
  refine flatMap_filter_of_eq_nil (fun op hop => ?_) ops
  have hkeys : op.isForKeys = true := by simpa using hop
  simpa [IsFor, hkeys] using op.gathered_isFor

theorem flatMap_only_true (ops : List Operation) :
    (Operation.only true ops).flatMap (·.gathered.keys) = ops.flatMap (·.gathered.keys) := by
  refine flatMap_filter_of_eq_nil (fun op hop => ?_) ops
  have hkeys : op.isForKeys = false := by simpa using hop
  simpa [IsFor, hkeys] using op.gathered_isFor

theorem held_attributes (start : κ → Collection) (steps : Steps κ) (k : κ) :
    (held start steps k).attributes =
      (start k).attributes ++ (Steps.on k steps).flatMap (·.gathered.attributes) := by
  rw [held_eq_concat, Collection.append_def, Collection.concat_attributes, List.flatMap_map]

theorem held_keys (start : κ → Collection) (steps : Steps κ) (k : κ) :
    (held start steps k).keys =
      (start k).keys ++ (Steps.on k steps).flatMap (·.gathered.keys) := by
  rw [held_eq_concat, Collection.append_def, Collection.concat_keys, List.flatMap_map]

/-- Operations on a collector that differ in how those for keys stand among the others leave the
same in it, whatever is done to other collectors. -/
theorem held_eq_of_only {start start' : κ → Collection} {steps steps' : Steps κ} {k : κ}
    (hstart : start' k = start k)
    (honly : ∀ keys, Operation.only keys (Steps.on k steps') =
      Operation.only keys (Steps.on k steps)) : held start' steps' k = held start steps k := by
  have hattributes : (held start' steps' k).attributes = (held start steps k).attributes := by
    rw [held_attributes, held_attributes, hstart, ← flatMap_only_false, honly, flatMap_only_false]
  have hkeys : (held start' steps' k).keys = (held start steps k).keys := by
    rw [held_keys, held_keys, hstart, ← flatMap_only_true, honly, flatMap_only_true]
  exact Collection.eq_of_parts hattributes hkeys

/-- After any steps on any collectors, some of which may fail, a collector holds what it held before
and then, in their order, what the operations on it gather from nothing, and each of those has ended
as it does on nothing. What a collector has held stays at the beginning of what it holds. Keys are
changed by operations for keys alone and attributes by all others alone, and neither what is done to
other collectors nor how the operations for keys stand among the others makes a difference. -/
theorem held_eq_gathered (start : κ → Collection) (steps : Steps κ) (k : κ) :
    (held start steps k).attributes =
        (start k).attributes ++ (Steps.on k steps).flatMap (·.gathered.attributes) ∧
    (held start steps k).keys =
        (start k).keys ++ (Steps.on k steps).flatMap (·.gathered.keys) ∧
    (∀ before op after, steps = before ++ (k, op) :: after →
      (op.result (held start before k)).1 = (op.result {}).1) ∧
    (∀ before after, steps = before ++ after →
      (held start before k).attributes <+: (held start steps k).attributes ∧
        (held start before k).keys <+: (held start steps k).keys) ∧
    (∀ (op : Operation) (c : Collection),
      if op.isForKeys then (op.result c).2.attributes = c.attributes
      else (op.result c).2.keys = c.keys) ∧
    ∀ start' steps', start' k = start k →
      (∀ keys, Operation.only keys (Steps.on k steps') =
        Operation.only keys (Steps.on k steps)) → held start' steps' k = held start steps k := by
  refine ⟨held_attributes start steps k, held_keys start steps k, fun before op after _ => ?_,
    fun before after hsteps => ?_, Operation.result_keeps, fun _ _ => held_eq_of_only⟩
  · rw [op.result_eq]
  · have hon : Steps.on k steps = Steps.on k before ++ Steps.on k after := by
      rw [hsteps, Steps.on_append]
    rw [held_attributes, held_attributes, held_keys, held_keys, hon, List.flatMap_append,
      List.flatMap_append, ← List.append_assoc, ← List.append_assoc]
    exact ⟨List.prefix_append _ _, List.prefix_append _ _⟩

/-- A class whose last method is broken and whose last tag is no key though it reports one. Both
collectors keep what has been gathered before the failures. -/
example :
    let c : ProgramClass := ⟨"A", [.key 1 2 3 "k" "", .foreign ⟨"Mark", .key, "Mark()", none⟩], [],
      [⟨"m", [.bare], .active []⟩, ⟨"n", [.lineNumber 4], .lost⟩]⟩
    let steps : Steps Bool := [(true, .keyTags c), (false, .programClass c true),
      (true, .programClass c false), (false, .fieldTags ⟨"f", [.text "t" ""]⟩)]
    let whole : List Attribute := [⟨c.tags⟩, ⟨[.bare]⟩, ⟨[.lineNumber 4]⟩]
    held (fun _ => {}) steps true = ⟨whole, [⟨1, 2, 3, "k", ""⟩]⟩ ∧
      held (fun _ => {}) steps false = ⟨whole ++ [⟨[.text "t" ""]⟩], []⟩ := by
  decide

end Gather

end ProgramTags
