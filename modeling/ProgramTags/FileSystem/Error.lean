import ProgramTags.Text.Surrogates

/-!
# Faults of file operations
-/

namespace ProgramTags

inductive Refusal where
  | noEntry
  | exists
  | notDirectory
  | isDirectory
  | nameTooLong
  | tooManyLinks
  deriving DecidableEq, Repr

namespace Refusal

/-- The number under which the system knows the refusal. -/
def code : Refusal → Nat
  | .noEntry => 2
  | .exists => 17
  | .notDirectory => 20
  | .isDirectory => 21
  | .nameTooLong => 36
  | .tooManyLinks => 40

def text : Refusal → String
  | .noEntry => "No such file or directory"
  | .exists => "File exists"
  | .notDirectory => "Not a directory"
  | .isDirectory => "Is a directory"
  | .nameTooLong => "File name too long"
  | .tooManyLinks => "Too many levels of symbolic links"

end Refusal

inductive FileError where
  | refused (why : Refusal) (path : String)
  /-- The path holds a null character. -/
  | nullInPath
  /-- The path holds a lone surrogate. -/
  | surrogate (e : Text.SurrogateFault)
  /-- Links lead back to themselves. -/
  | linkLoop (path : String)
  /-- The path begins in the home directory of somebody unknown. -/
  | noHome
  deriving DecidableEq, Repr

def FileError.message : FileError → String
  | .refused why path => s!"[Errno {why.code}] {why.text}: {Text.quoted path}"
  | .nullInPath => "embedded null byte"
  | .surrogate e => e.message
  | .linkLoop path => s!"Symlink loop from {Text.quoted path}"
  | .noHome => "Could not determine home directory."

end ProgramTags
