import ProgramTags.Tag

/-!
# Programs

The part of a compiled program that tags are attached to: classes with fields and methods, method
bodies as lists of statements, and statements with the operands they use or define.
-/

namespace ProgramTags

/-- An operand that a statement uses or defines. -/
structure Operand where
  value : String
  tags : List Tag
  deriving DecidableEq, Repr

structure Statement where
  text : String
  tags : List Tag
  operands : List Operand
  deriving DecidableEq, Repr

inductive Body where
  /-- The method is abstract or native. -/
  | absent
  /-- The statements of the body. -/
  | active (statements : List Statement)
  /-- The method is said to have a body, and there is none to be found. -/
  | lost
  deriving DecidableEq, Repr

structure Method where
  name : String
  tags : List Tag
  body : Body
  deriving DecidableEq, Repr

/-- A method's body was asked for and is not there. -/
structure MissingBody where
  method : String
  deriving DecidableEq, Repr

def MissingBody.message (e : MissingBody) : String :=
  s!"Method '{e.method}' has no active body"

namespace Method

def hasActiveBody (m : Method) : Bool :=
  m.body ≠ .absent

def activeBody (m : Method) : Except MissingBody (List Statement) :=
  match m.body with
  | .active statements => .ok statements
  | _ => .error ⟨m.name⟩

end Method

structure Field where
  name : String
  tags : List Tag
  deriving DecidableEq, Repr

/-- A class with its fields and methods in the order of declaration. -/
structure ProgramClass where
  name : String
  tags : List Tag
  fields : List Field
  methods : List Method
  deriving DecidableEq, Repr

/-- The classes of a program in the order of the dump. -/
structure Program where
  classes : List ProgramClass
  deriving DecidableEq, Repr

def Program.findClass? (p : Program) (name : String) : Option ProgramClass :=
  p.classes.find? (·.name = name)

end ProgramTags
