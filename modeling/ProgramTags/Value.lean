import ProgramTags.Calendar

/-!
# Values

What a dump or a settings file holds once it has been read: plain data in lists and mappings. The
entries of a mapping keep their order. A document can hold itself: `anchored id v` gives `v` the
number `id`, and `again id` within it stands for the whole of it. Every list and mapping that can be
met again from within has a number, the same at every place where it stands. `Value.unfold` takes
the anchor off, so that `items?` and `entries?` see through it.
-/

namespace ProgramTags

/-- Data without a schema. -/
inductive Value where
  | null
  | bool (b : Bool)
  | int (n : Int)
  | float (x : Float)
  | text (s : String)
  | bytes (b : List UInt8)
  | date (d : Date)
  | dateTime (t : DateTime)
  | list (items : List Value)
  /-- Two values that belong together, as an entry of an ordered mapping. -/
  | pair (first second : Value)
  | mapping (entries : List (Value × Value))
  | set (items : List Value)
  | anchored (id : Nat) (v : Value)
  | again (id : Nat)

namespace Value

mutual

/-- The value with every `again id` replaced by `whole`. -/
def close (id : Nat) (whole : Value) : Value → Value
  | .list items => .list (closeItems id whole items)
  | .pair first second => .pair (close id whole first) (close id whole second)
  | .mapping entries => .mapping (closeEntries id whole entries)
  | .set items => .set (closeItems id whole items)
  | .anchored other v =>
    if other = id then .anchored other v else .anchored other (close id whole v)
  | .again other => if other = id then whole else .again other
  | v => v

def closeItems (id : Nat) (whole : Value) : List Value → List Value
  | [] => []
  | v :: rest => close id whole v :: closeItems id whole rest

def closeEntries (id : Nat) (whole : Value) : List (Value × Value) → List (Value × Value)
  | [] => []
  | (k, v) :: rest => (close id whole k, close id whole v) :: closeEntries id whole rest

end

/-- The value without the anchor around it. -/
def unfold : Value → Value
  | .anchored id v => close id (.anchored id v) v
  | v => v

def items? (v : Value) : Option (List Value) :=
  match v.unfold with
  | .list items => some items
  | _ => none

def entries? (v : Value) : Option (List (Value × Value)) :=
  match v.unfold with
  | .mapping entries => some entries
  | _ => none

def isText (s : String) : Value → Bool
  | .text t => t = s
  | _ => false

def lookup? (key : String) (entries : List (Value × Value)) : Option Value :=
  (entries.find? fun entry => entry.1.isText key).map (·.2)

/-- The value under the key; null where there is none. -/
def lookup (key : String) (entries : List (Value × Value)) : Value :=
  (lookup? key entries).getD .null

def isNull : Value → Bool
  | .null => true
  | _ => false

end Value

/-- What the interpreter says if its stack is used up when a text is read into a value and the value
is looked through. Lists and mappings that nest too deep use it up; how deep that is depends on the
interpreter and on how much of the stack is in use, which is not known here. -/
abbrev Stack := List Char → Option String

/-- The stack of an interpreter that never says so. -/
def Stack.unbounded : Stack := fun _ => none

end ProgramTags
