import ProgramTags.Yaml.Node

/-!
# Merge keys

A mapping takes over the entries of other mappings that stand under merge keys. They come before
its own entries, so that its own entries win; of the mappings in a list the first one wins. A key
that is an equals sign becomes a text in the course of it.
-/

namespace ProgramTags.Yaml

abbrev Rework := StateT Graph (Except Error)

namespace Rework

def setEntries (id : Nat) (entries : List (Nat × Nat)) : Rework Unit :=
  modify fun g => g.modify id ({ · with content := .mapping entries })

/-- The entries of a mapping; none of any other node. -/
def entries (id : Nat) : Rework (List (Nat × Nat)) := do
  match ((← get).node id).content with
  | .mapping entries => return entries
  | _ => return []

/-- Makes texts of the keys that are equals signs. -/
def retag (entries : List (Nat × Nat)) : Rework Unit :=
  entries.forM fun (key, _) =>
    modify fun g =>
      if (g.node key).tag = TypeTag.ofType "value" then
        g.modify key ({ · with tag := TypeTag.ofType "str" })
      else g

def fail {α : Type} (mapping at_ : Nat) (problem : Problem) : Rework α := do
  let g ← get
  throw (.malformed
    ⟨problem, (g.node at_).start, some .mapping, some (g.node mapping).start⟩)

mutual

/-- Merges into the mapping `id` what its merge keys name, and then puts `merged` before its
entries. Every call but the first takes the place of a merge key that is gone. -/
def flatten : (fuel : Nat) → (id : Nat) → (merged : List (Nat × Nat)) → Rework Unit
  | 0, _, _ => return
  | fuel + 1, id, merged => do
    let g ← get
    let entries ← entries id
    match entries.find? fun (key, _) => (g.node key).tag = TypeTag.ofType "merge" with
    | none =>
      retag entries
      setEntries id (merged ++ entries)
    | some (key, value) =>
      setEntries id (entries.erase (key, value))
      let more ← merge fuel id value
      flatten fuel id (merged ++ more)

/-- The entries that the mapping `id` takes over from the node under a merge key. -/
def merge : (fuel : Nat) → (id value : Nat) → Rework (List (Nat × Nat))
  | 0, _, _ => return []
  | fuel + 1, id, value => do
    match ((← get).node value).content with
    | .mapping _ =>
      flatten fuel value []
      entries value
    | .sequence items => mergeItems fuel id items
    | .scalar _ => fail id value (.notMergeable .scalar)

/-- The entries that the mapping `id` takes over from a list of mappings, those of the last one
first. -/
def mergeItems : (fuel : Nat) → (id : Nat) → (items : List Nat) → Rework (List (Nat × Nat))
  | 0, _, _ => return []
  | _ + 1, _, [] => return []
  | fuel + 1, id, item :: rest => do
    match ((← get).node item).content with
    | .mapping _ =>
      flatten fuel item []
      let first ← entries item
      return (← mergeItems fuel id rest) ++ first
    | content => fail id item (.notMergeableItem content.shape)

end

/-- As many calls within calls as merging can need: each merge key is replaced once, by a call for
itself and one for each item under it, and there are no more of either than `size`. -/
def fuel : Rework Nat := do
  let parts := fun (n : Node) => match n.content with
    | .scalar _ => 0
    | .sequence items => items.length
    | .mapping entries => entries.length
  let size := (← get).foldl (fun sum n => sum + parts n) 0
  return (size + 1) * (size + 3)

def flattenMapping (id : Nat) : Rework Unit := do
  flatten (← fuel) id []

end Rework

end ProgramTags.Yaml
