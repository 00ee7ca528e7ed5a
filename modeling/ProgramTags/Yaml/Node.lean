import ProgramTags.Yaml.Error

/-!
# Nodes

The document that a YAML text describes is a graph: an alias is an edge to a node that is already
there, and a collection can hold itself. A `Graph` numbers its nodes, and collections hold
numbers.
-/

namespace ProgramTags.Yaml

open Text (Position)

inductive Content where
  | scalar (text : List Char)
  | sequence (items : List Nat)
  | mapping (entries : List (Nat × Nat))
  deriving DecidableEq, Repr

def Content.shape : Content → Shape
  | .scalar _ => .scalar
  | .sequence _ => .sequence
  | .mapping _ => .mapping

/-- A node with its tag, and the place where it starts. -/
structure Node where
  tag : String
  start : Position
  content : Content
  deriving DecidableEq, Repr

/-- The nodes of a document by their numbers. -/
abbrev Graph := Array Node

def Graph.node (g : Graph) (id : Nat) : Node :=
  g[id]?.getD ⟨"", {}, .scalar []⟩

/-! ## Tags -/

namespace TypeTag

/-- The address that the tags of the standard types begin with. -/
def standard : String :=
  "tag:yaml.org,2002:"

def ofType (name : String) : String :=
  standard ++ name

/-- The handles that need no directive, with what they stand for. -/
def handles : List (String × String) :=
  [("!", "!"), ("!!", standard)]

end TypeTag

end ProgramTags.Yaml
