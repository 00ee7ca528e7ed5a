import ProgramTags.Path

/-!
# Settings

What the user can choose: which tags are gathered, where documents go and how much the program
tells. `Settings.standard` is what holds where nothing has been chosen.
-/

namespace ProgramTags

/-- What is gathered from a class besides its own tags and those of its fields and methods. -/
structure CollectSettings where
  /-- The statements of method bodies. -/
  includeBodies : Bool := true
  /-- The keys among the tags of the class. -/
  keys : Bool := true
  deriving DecidableEq, Repr

/-- Where documents are written, and which. -/
structure OutputSettings where
  directory : Path := ⟨.relative, ["attributes"]⟩
  /-- A class without attributes and keys gets no document. -/
  skipEmpty : Bool := true
  deriving DecidableEq, Repr

/-- How much the program tells, and where besides the console. -/
structure JournalSettings where
  verbose : Bool := false
  file : Option Path := none
  deriving DecidableEq, Repr

/-- What the user can choose. -/
structure Settings where
  /-- The directory that paths among the settings start from. -/
  root : Path
  collect : CollectSettings := {}
  output : OutputSettings := {}
  journal : JournalSettings := {}
  deriving DecidableEq, Repr

/-- The settings under a root where nothing has been chosen. -/
def Settings.standard (root : Path) : Settings :=
  { root, output := { directory := root.child "attributes" } }

end ProgramTags
