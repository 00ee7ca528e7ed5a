import ProgramTags.Command

/-!
# What a command reaches

The paths that a command looks at or writes to, as far as the files that are known say so. Settings
and dumps name further paths, so each of them that becomes known can make the list longer.
-/

namespace ProgramTags.Command

def documentPaths (directory : Path) (p : Program) : List Path :=
  p.classes.filterMap fun c => (Export.documentName? c.name).map directory.child

/-- The paths that gathering from a source leads to. -/
def Source.reach (s : Source) (directory : Option String) (fs : FileSystem) : List Path :=
  let dump := Path.ofText s.program
  let settings := (fs.expandHome (settingsPath s)).toOption.getD (settingsPath s)
  let told := match Settings.load fs (settingsPath s) with
    | .ok known =>
      let directory := (pathGiven? directory).getD known.output.directory
      let documents := match Dump.load fs dump with
        | .ok p => documentPaths directory p
        | .error _ => []
      known.journal.file.toList ++ directory :: documents
    | .error _ => []
  [dump, settings, settings.child Settings.fileName] ++ told

def Invocation.reach (i : Invocation) (fs : FileSystem) : List Path :=
  let inside := match i.job with
    | .toFiles s directory => s.reach directory fs
    | .toOutput s _ => s.reach none fs
    | .serve .. => []
  (pathGiven? i.logFile).toList ++ inside

end ProgramTags.Command
