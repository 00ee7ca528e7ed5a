import ProgramTags.Text.Surrogates
import ProgramTags.Value.Same
import ProgramTags.Yaml.Document
import ProgramTags.Yaml.Merge
import ProgramTags.Yaml.Scalar

/-!
# YAML

`Yaml.read` gives the value of a YAML text. Once the document is there, its nodes are read in the
order in which they are met: a scalar at once, a collection as a promise that is kept after
everything that was promised before. So a collection can hold itself, and the first fault in that
order is the one that is reported. A text without a document has no value.
-/

namespace ProgramTags.Yaml

inductive StandardType where
  | null
  | truth
  | int
  | float
  | binary
  | timestamp
  | orderedMap
  | pairs
  | set
  | text
  | sequence
  | mapping
  deriving DecidableEq, Repr

def StandardType.names : List (String × StandardType) :=
  [("null", .null), ("bool", .truth), ("int", .int), ("float", .float), ("binary", .binary),
    ("timestamp", .timestamp), ("omap", .orderedMap), ("pairs", .pairs), ("set", .set),
    ("str", .text), ("seq", .sequence), ("map", .mapping)]

def StandardType.ofTag? (tag : String) : Option StandardType :=
  (names.find? fun (name, _) => TypeTag.ofType name = tag).map (·.2)

/-- What a node has been read as; collections hold the numbers of nodes. -/
inductive Reading where
  /-- A scalar. One that is `unlike` is the same key as no other. -/
  | scalar (v : Value) (unlike : Bool)
  | list (items : List Nat)
  | pairs (entries : List (Nat × Nat))
  | mapping (entries : List (Nat × Nat))
  | set (items : List Nat)

structure Reader where
  nodes : Graph
  /-- What has been read, by the numbers of the nodes. -/
  readings : Array (Option Reading)
  /-- The collections that have been promised and not been read yet, the newest first. -/
  promised : List Nat := []

abbrev Read := StateT Reader (Except Error)

namespace Read

def node (id : Nat) : Read Node :=
  return (← get).nodes.node id

def fail {α : Type} (at_ : Nat) (problem : Problem) : Read α := do
  throw (.malformed ⟨problem, (← node at_).start, none, none⟩)

/-- Fails at a node, while the collection `id` is read. -/
def failIn {α : Type} (during : Activity) (id at_ : Nat) (problem : Problem) : Read α := do
  throw (.malformed ⟨problem, (← node at_).start, during, (← node id).start⟩)

/-- Keeps what a node has been read as. -/
def keep (id : Nat) (r : Reading) : Read Unit :=
  modify fun s => { s with readings := s.readings.modify id fun _ => some r }

/-- Promises a collection, which is empty until then. -/
def promise (id : Nat) (empty : Reading) : Read Unit := do
  keep id empty
  modify fun s => { s with promised := id :: s.promised }

/-- The text of a scalar. A mapping with an equals sign for a key stands for what is under it. -/
def text : (fuel : Nat) → (id : Nat) → Read (List Char)
  | 0, id => fail id .endless
  | fuel + 1, id => do
    let nodes := (← get).nodes
    match (nodes.node id).content with
    | .scalar text => return text
    | .sequence _ => fail id (.notShape .scalar .sequence)
    | .mapping entries =>
      match entries.find? fun (key, _) => (nodes.node key).tag = TypeTag.ofType "value" with
      | some (_, value) => text fuel value
      | none => fail id (.notShape .scalar .mapping)

def keepScalar (id : Nat) (v : Except ScalarError Value) (unlike : Bool := false) : Read Unit :=
  match v with
  | .ok v => keep id (.scalar v unlike)
  | .error e => throw (.scalar e)

def keepFloat (id : Nat) (text : List Char) : Read Unit :=
  let x := Scalar.float text
  keepScalar id (x.map .float) ((x.toOption.map Float.isNaN).getD false && !Scalar.isNoNumber text)

def scalar (id : Nat) (type : StandardType) : Read Unit := do
  let text ← text ((← get).nodes.size + 1) id
  match type with
  | .null => keepScalar id (.ok .null)
  | .truth => keepScalar id ((Scalar.truth text).map .bool)
  | .int => keepScalar id ((Scalar.int text).map .int)
  | .float => keepFloat id text
  | .timestamp =>
    match (← node id).content with
    | .scalar _ => keepScalar id (Scalar.timestamp text)
    | _ => throw (.scalar .mappedTime)
  | .binary =>
    match Scalar.binary text with
    | .ok bytes => keepScalar id (.ok (.bytes bytes))
    | .error problem => fail id problem
  | _ => keepScalar id (.ok (.text (String.ofList text)))

/-- Reads a node, or promises it if it is a collection. -/
def object (id : Nat) : Read Unit := do
  if ((← get).readings[id]?.bind (·)).isSome then return
  let tag := (← node id).tag
  match StandardType.ofTag? tag with
  | none => fail id (.unknownTag tag)
  | some .sequence => promise id (.list [])
  | some .orderedMap => promise id (.pairs [])
  | some .pairs => promise id (.pairs [])
  | some .mapping => promise id (.mapping [])
  | some .set => promise id (.set [])
  | some type => scalar id type

def isScalar (readings : Array (Option Reading)) (id : Nat) : Bool :=
  match readings[id]? with
  | some (some (.scalar ..)) => true
  | _ => false

def isSameKey (readings : Array (Option Reading)) (a b : Nat) : Bool :=
  a = b ||
    match readings[a]?, readings[b]? with
    | some (some (.scalar v false)), some (some (.scalar w false)) => v.sameKey w
    | _, _ => false

/-- The entries with `value` under `key`, in its old place if the key is there already. -/
def put (readings : Array (Option Reading)) (key value : Nat) :
    List (Nat × Nat) → List (Nat × Nat)
  | [] => [(key, value)]
  | (k, old) :: rest =>
    if isSameKey readings k key then (k, value) :: rest
    else (k, old) :: put readings key value rest

/-- Reads the entries of a mapping. No key is a collection. -/
def readEntries (id : Nat) : (entries read : List (Nat × Nat)) → Read (List (Nat × Nat))
  | [], read => return read
  | (key, value) :: rest, read => do
    object key
    unless isScalar (← get).readings key do failIn .mapping id key .unhashableKey
    object value
    readEntries id rest (put (← get).readings key value read)

/-- The entries of the mapping with the given number, after merging. -/
def mergedEntries (id : Nat) : Read (List (Nat × Nat)) := do
  match (← node id).content with
  | .mapping _ =>
    let s ← get
    let ((), nodes) ← (Rework.flattenMapping id).run s.nodes
    set { s with nodes }
    match (nodes.node id).content with
    | .mapping entries => readEntries id entries []
    | _ => return []
  | content => fail id (.notShape .mapping content.shape)

/-- Reads the pairs of an ordered map, or plain pairs. -/
def readPairs (during : Activity) (id : Nat) : Read (List (Nat × Nat)) := do
  match (← node id).content with
  | .sequence items =>
    items.mapM fun item => do
      match (← node item).content with
      | .mapping [(key, value)] =>
        object key
        object value
        return (key, value)
      | .mapping entries => failIn during id item (.notSingle entries.length)
      | content => failIn during id item (.notSingleton content.shape)
  | content => failIn during id id (.notSequence content.shape)

/-- Keeps the promise of a collection. -/
def collection (id : Nat) : Read Unit := do
  match StandardType.ofTag? (← node id).tag with
  | some .sequence =>
    match (← node id).content with
    | .sequence items =>
      items.forM object
      keep id (.list items)
    | content => fail id (.notShape .sequence content.shape)
  | some .mapping => keep id (.mapping (← mergedEntries id))
  | some .set => keep id (.set ((← mergedEntries id).map (·.1)))
  | some .orderedMap => keep id (.pairs (← readPairs .orderedMap id))
  | some .pairs => keep id (.pairs (← readPairs .pairs id))
  | _ => return

/-- Keeps all promises, those that are made in the course of it last. Every round keeps a promise
for a node that no other round keeps. -/
def collections : (fuel : Nat) → Read Unit
  | 0 => return
  | fuel + 1 => do
    let promised := (← get).promised
    if promised.isEmpty then return
    modify fun s => { s with promised := [] }
    promised.reverse.forM collection
    collections fuel

end Read

mutual

/-- The value of a node, and the numbers of the nodes on the way to it that it holds. `path` is the
way to it, which is never longer than there are nodes. A collection that can be met again from
within is one that holds itself or something on the way to it, and gets its number. -/
def valueOf (readings : Array (Option Reading)) : (fuel : Nat) → (path : List Nat) → (id : Nat) →
    Value × List Nat
  | 0, _, id => (.again id, [id])
  | fuel + 1, path, id =>
    if path.contains id then (.again id, [id])
    else
      let (v, again) : Value × List Nat := match readings[id]?.bind (·) with
        | some (.scalar v _) => (v, [])
        | some (.list items) =>
          let parts := items.map (valueOf readings fuel (id :: path))
          (.list (parts.map (·.1)), parts.flatMap (·.2))
        | some (.set items) =>
          let parts := items.map (valueOf readings fuel (id :: path))
          (.set (parts.map (·.1)), parts.flatMap (·.2))
        | some (.mapping entries) =>
          let parts := entries.map (entryOf readings fuel (id :: path))
          (.mapping (parts.map (·.1)), parts.flatMap (·.2))
        | some (.pairs entries) =>
          let parts := entries.map (entryOf readings fuel (id :: path))
          (.list (parts.map fun ((k, v), _) => .pair k v), parts.flatMap (·.2))
        | none => (.null, [])
      if again.isEmpty then (v, []) else (.anchored id v, again.filter (· ≠ id))

def entryOf (readings : Array (Option Reading)) : (fuel : Nat) → (path : List Nat) →
    (entry : Nat × Nat) → (Value × Value) × List Nat
  | 0, _, (k, v) => ((.again k, .again v), [k, v])
  | fuel + 1, path, (k, v) =>
    let (key, again) := valueOf readings fuel path k
    let (value, more) := valueOf readings fuel path v
    ((key, value), again ++ more)

end

def Document.value (d : Document) : Except Error Value := do
  let size := d.nodes.size
  let start : Reader := { nodes := d.nodes, readings := Array.replicate size none }
  let ((), s) ← (do Read.object d.root; Read.collections (size + 1) : Read Unit).run start
  return (valueOf s.readings (2 * size + 1) [] d.root).1

/-- The value of a text; nothing if there is no document in it. -/
def read? (text : List Char) (surrogates : Text.Surrogates := .none) :
    Except Error (Option Value) := do
  match ← Document.ofText? surrogates.stand text with
  | some d => return some (← d.value)
  | none => return none

/-- The value of a text, null if there is no document in it. -/
def read (text : List Char) (surrogates : Text.Surrogates := .none) : Except Error Value :=
  return (← read? text surrogates).getD .null

end ProgramTags.Yaml
