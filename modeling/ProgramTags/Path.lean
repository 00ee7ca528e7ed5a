/-!
# Paths

A path as it is written: where it starts, and the names on the way. Empty names and single dots
are left out, two dots are kept, since what they mean depends on links. A path that begins with
exactly two slashes keeps both of them.
-/

namespace ProgramTags

inductive PathRoot where
  /-- In the working directory. -/
  | relative
  | slash
  | twoSlashes
  deriving DecidableEq, Repr

def PathRoot.text : PathRoot → String
  | .relative => ""
  | .slash => "/"
  | .twoSlashes => "//"

/-- A path as it is written. -/
structure Path where
  root : PathRoot := .relative
  names : List String
  deriving DecidableEq, Repr

namespace Path

/-- What stands between slashes. -/
def piecesOf (s : String) : List String :=
  (s.toList.splitOn '/').map String.ofList

/-- The piece is empty or a single dot: it stays in the directory that it stands in. -/
def isIdle (piece : String) : Bool :=
  piece = "" || piece = "."

/-- The names between slashes, empty ones and single dots left out. -/
def namesOf (s : String) : List String :=
  (piecesOf s).filter fun piece => !isIdle piece

def ofText (s : String) : Path :=
  let root := match (s.toList.takeWhile (· = '/')).length with
    | 0 => .relative
    | 2 => .twoSlashes
    | _ => .slash
  ⟨root, namesOf s⟩

/-- The path as a text; a dot if there is nothing to write. -/
def text (p : Path) : String :=
  if p.root = .relative ∧ p.names = [] then "."
  else p.root.text ++ "/".intercalate p.names

/-- The path `q` seen from `p`. -/
def join (p q : Path) : Path :=
  if q.root = .relative then ⟨p.root, p.names ++ q.names⟩ else q

def child (p : Path) (name : String) : Path :=
  ⟨p.root, p.names ++ [name]⟩

/-- The last name, empty if there is none. -/
def name (p : Path) : String :=
  p.names.getLast?.getD ""

def parent (p : Path) : Path :=
  ⟨p.root, p.names.dropLast⟩

/-- The end of the last name from its last dot on, unless the dot is its first or its last
character. -/
def extension (p : Path) : String :=
  let reversed := p.name.toList.reverse
  let after := reversed.takeWhile (· ≠ '.')
  match reversed.drop after.length with
  | [] => ""
  | [_] => ""
  | dot :: _ => if after.isEmpty then "" else String.ofList (dot :: after.reverse)

/-- The path seen from a directory that is given by its names from the root, if it leads through
it. -/
def relativeTo? (p : Path) (directory : List String) : Option Path :=
  if p.root = .slash ∧ directory.isPrefixOf p.names then
    some ⟨.relative, p.names.drop directory.length⟩
  else none

@[simp] theorem parent_child (p : Path) (name : String) : (p.child name).parent = p := by
  simp [parent, child]

@[simp] theorem name_child (p : Path) (name : String) : (p.child name).name = name := by
  simp [Path.name, child]

end Path

end ProgramTags
