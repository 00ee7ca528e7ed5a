import ProgramTags.Command.Reach
import ProgramTags.Json.Printer
import ProgramTags.Service
import Std.Time

/-!
# The program

The files that a command reaches are read into a `FileSystem`, `Command.run` does its work there,
and what it has changed is written back. After `serve`, each line of the input is a request, which
is answered on a line of the output.
-/

namespace ProgramTags.Main

/-- How often the files that have become known are asked for more paths. -/
def rounds : Nat := 4

/-- How many links lead from one path to the next. -/
def linkRounds : Nat := 40

def textOf (loc : Location) : String :=
  (Path.ofLocation loc).text

/-- What there is at a location whose parent is no link. -/
def look (loc : Location) : IO (Option Entry) := do
  match ← (IO.FS.realPath (textOf loc)).toBaseIO with
  | .error _ => return none
  | .ok found =>
    if toString found ≠ textOf loc then return some (.link (toString found))
    match ← (IO.FS.readBinFile (textOf loc)).toBaseIO with
    | .ok bytes => return some (.file bytes.toList)
    | .error _ => return some .directory

/-- Adds what there is on the way of a path. -/
def survey : (links : Nat) → FileSystem → Path → IO FileSystem
  | 0, fs, _ => return fs
  | links + 1, fs, p => do
    let mut fs := fs
    for n in List.range p.names.length do
      let above : Path := ⟨p.root, p.names.take n⟩
      let name := p.names[n]?.getD ""
      match fs.resolve above with
      | .error _ => return fs
      | .ok loc =>
        let next := loc ++ [name]
        if name ≠ ".." && (fs.get? next).isNone then
          match ← look next with
          | none => return fs
          | some e =>
            fs := fs.put next e
            if let .link target := e then
              fs ← survey links fs (Path.ofText target)
    return fs

/-- Adds what there is on the way of the paths that a command reaches. -/
def surveyAll (i : Command.Invocation) : (rounds : Nat) → FileSystem → IO FileSystem
  | 0, fs => return fs
  | rounds + 1, fs => do
    let fs ← (i.reach fs).foldlM (survey linkRounds) fs
    surveyAll i rounds fs

/-- Writes what is new or has changed. -/
def writeBack (before after : FileSystem) : IO Unit := do
  for (loc, e) in after.entries do
    if before.get? loc ≠ some e then
      match e with
      | .directory => IO.FS.createDir (textOf loc)
      | .file bytes =>
        let mode := if (before.get? loc).isNone then IO.FS.Mode.writeNew else .write
        let handle ← IO.FS.Handle.mk (textOf loc) mode
        handle.write (ByteArray.mk bytes.toArray)
        handle.flush
      | .link _ => return

/-- The time as lines of a journal file show it. -/
def now : IO String := do
  let time ← Std.Time.PlainDateTime.now
  return time.format "uuuu-MM-dd HH:mm:ss,SSS"

partial def answerLines (input output : IO.FS.Stream) : IO Unit := do
  let line ← input.getLine
  if line.isEmpty then return
  let text := line.toList.reverse.dropWhile (· = '\n') |>.reverse
  let answer := Service.answer Service.collector (Text.Utf8.encode text)
  let body := (Json.print answer.body).getD ""
  output.putStrLn s!"{answer.status} {body}"
  output.flush
  answerLines input output

def failureText : Command.Failure → String
  | .settings e => e.message
  | .journal e => e.message
  | .load e => e.message
  | .documents e => e.message
  | .unknownClass name => name.getD ""
  | .output e => e.message
  | .left code => toString code
  | .server fault => fault

/-- The homes of the people whom the system knows, by their names. -/
def homes : IO (List (String × String)) := do
  match ← (IO.FS.lines "/etc/passwd").toBaseIO with
  | .error _ => return []
  | .ok lines =>
    return lines.toList.filterMap fun line =>
      match line.splitOn ":" with
      | name :: _ :: _ :: _ :: _ :: home :: _ => some (name, home)
      | _ => none

def filesFor (args : List String) : IO FileSystem := do
  let here := Path.ofText (toString (← IO.currentDir))
  let home := (← IO.getEnv "HOME").getD "/"
  let empty : FileSystem := { workdir := here.names, home, homes := ← homes }
  let fs ← survey linkRounds empty here
  match Command.Invocation.ofArguments args with
  | .ok i => surveyAll i rounds fs
  | .error _ => return fs

def run (args : List String) : IO UInt32 := do
  let files ← filesFor args
  let (ending, after) := Command.run {} args { files, time := ← now }
  writeBack files after.files
  (← IO.getStdout).putStr after.output
  (← IO.getStderr).putStr after.console
  match ending with
  | .done (some _) => answerLines (← IO.getStdin) (← IO.getStdout)
  | .broken e => IO.eprintln (failureText e)
  | .halted (.help speaker) => IO.println s!"usage: {speaker} [options]"
  | _ => return (ending.code?.getD 1).toUInt32
  return (ending.code?.getD 1).toUInt32

end ProgramTags.Main

def main (args : List String) : IO UInt32 :=
  ProgramTags.Main.run args
