import ProgramTags.Command.Word

/-!
# What a command line gives

`Scan.read` goes through the words once and sorts them: switches with their values, what stands
besides them, and words that there is nothing for. A switch whose value is not attached takes the
word after it, which has to be a plain one.
-/

namespace ProgramTags.Command

/-- What the words so far give. -/
structure Scan where
  /-- The switches, each with its value if it has one. -/
  given : List (Switch × Option String) := []
  /-- The words of what stands besides the switches; none if it has not come yet. -/
  positional : List String := []
  /-- The words that there is nothing for. -/
  leftOver : List String := []
  /-- A switch whose value is to come. -/
  awaiting : Option Switch := none
  /-- The word before was the positional one. -/
  justPlaced : Bool := false
  deriving DecidableEq, Repr

namespace Scan

def has (s : Scan) (switch : Switch) : Bool :=
  s.given.any (·.1 = switch)

/-- The value that the switch has been given last. -/
def value? (s : Scan) (switch : Switch) : Option String :=
  (s.given.reverse.find? (·.1 = switch)).bind (·.2)

def check (switch : Switch) (value : String) : Except UsageError Unit :=
  if switch = .portNumber then
    match Decimal.readInteger 10 value.toList with
    | .ok _ => .ok ()
    | .error _ => .error (.notInteger switch value)
  else .ok ()

def takeFlag (g : Grammar) (s : Scan) (switch : Switch) : Except Halt Scan :=
  if switch = .help then .error (.help g.speaker)
  else .ok { s with given := s.given ++ [(switch, none)] }

/-- Takes a switch with its value. The separator is no value, even where it is attached: the switch
has none then. -/
def takeValue (g : Grammar) (s : Scan) (switch : Switch) (value : String) : Except Halt Scan := do
  if value = separator then
    return { s with given := s.given ++ [(switch, none)], awaiting := none }
  (check switch value).mapError (.usage g.speaker)
  return { s with given := s.given ++ [(switch, some value)], awaiting := none }

/-- The switches of one word: those whose letters come first, and the last one with what is left of
the word. -/
structure Cluster where
  flags : List Switch := []
  last : Switch
  value : Option String := none
  deriving DecidableEq, Repr

/-- The switches that follow a letter in its word, `s` being the switch of the letter. -/
def readLetters (g : Grammar) (s : Switch) : List Char → Except UsageError Cluster
  | [] => .ok { last := s }
  | c :: rest =>
    if s.takesValue then .ok { last := s, value := some (String.ofList (c :: rest)) }
    else match g.switch? (String.ofList ['-', c]) with
      | none => .error (.unwantedValue s (String.ofList (c :: rest)))
      | some next => do
        let after ← readLetters g next rest
        return { after with flags := s :: after.flags }

/-- The switches that a word gives. -/
def readCluster (g : Grammar) (s : Switch) : Attached → Except UsageError Cluster
  | .nothing => .ok { last := s }
  | .equals value =>
    if s.takesValue then .ok { last := s, value := some value }
    else .error (.unwantedValue s value)
  | .tail rest => readLetters g s rest

def takeCluster (g : Grammar) (s : Scan) (c : Cluster) : Except Halt Scan := do
  let s ← c.flags.foldlM (takeFlag g) s
  match c.value with
  | some value => takeValue g s c.last value
  | none => if c.last.takesValue then .ok { s with awaiting := c.last } else takeFlag g s c.last

/-- Everything that comes belongs to the command. -/
def handsOver (g : Grammar) (s : Scan) : Bool :=
  g.positional = some .command && !s.positional.isEmpty

/-- What stands besides the switches is still to come. -/
def wantsPositional (g : Grammar) (s : Scan) : Bool :=
  g.positional.isSome && s.positional.isEmpty

def step (g : Grammar) (s : Scan) (w : Word) : Except Halt Scan :=
  if handsOver g s then .ok { s with positional := s.positional ++ [w.text] }
  else
    let now := { s with justPlaced := false }
    match s.awaiting, w with
    | some switch, .plain value => takeValue g now switch value
    | some switch, _ => .error (.usage g.speaker (.noValue switch))
    | none, .plain text =>
      if wantsPositional g s then .ok { s with positional := [text], justPlaced := true }
      else .ok { now with leftOver := s.leftOver ++ [text] }
    | none, .unknown text => .ok { now with leftOver := s.leftOver ++ [text] }
    | none, .switch _ switch attached => do
      let cluster ← (readCluster g switch attached).mapError (.usage g.speaker)
      takeCluster g now cluster

/-- Takes the separator and the words after it. -/
def takeAfter (g : Grammar) (s : Scan) (words : List String) : Scan :=
  if handsOver g s then { s with positional := s.positional ++ separator :: words }
  else if s.justPlaced then { s with leftOver := s.leftOver ++ words }
  else match words, g.positional with
    | word :: rest, some .program =>
      if s.positional.isEmpty then
        { s with positional := [word], leftOver := s.leftOver ++ rest }
      else { s with leftOver := s.leftOver ++ separator :: words }
    | _ :: _, some .command => { s with positional := separator :: words }
    | _, _ => { s with leftOver := s.leftOver ++ separator :: words }

def missing? (g : Grammar) (s : Scan) : Option UsageError :=
  match s.awaiting, g.positional with
  | some switch, _ => some (.noValue switch)
  | none, some p => if s.positional.isEmpty then some (.missing p) else none
  | none, none => none

def read (g : Grammar) (args : List String) : Except Halt Scan := do
  let words ← (readWords g args).mapError (.usage g.speaker)
  let s ← words.before.foldlM (step g) {}
  let s := match s.awaiting, words.after with
    | none, some after => takeAfter g s after
    | _, _ => s
  match missing? g s with
  | some e => .error (.usage g.speaker e)
  | none => return s

end Scan

end ProgramTags.Command
