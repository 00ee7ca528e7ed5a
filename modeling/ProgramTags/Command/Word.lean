import ProgramTags.Command.Grammar
import ProgramTags.Text.Digit

/-!
# The words of a command line

A word that begins with a dash names a switch, in full or by a beginning that no other name has. Its
value may be attached to it: after an equals sign, or directly after a single letter. Negative
numbers, words with a space, and everything after a word of two dashes are plain words.
-/

namespace ProgramTags.Command

/-- What is attached to the name of a switch. -/
inductive Attached where
  | nothing
  /-- What follows an equals sign. -/
  | equals (value : String)
  /-- What follows a single letter directly. -/
  | tail (rest : List Char)
  deriving DecidableEq, Repr

inductive Word where
  | plain (text : String)
  | switch (text : String) (s : Switch) (attached : Attached)
  /-- It looks like a switch and names none. -/
  | unknown (text : String)
  deriving DecidableEq, Repr

def Word.text : Word → String
  | .plain text => text
  | .switch text _ _ => text
  | .unknown text => text

/-- The word that ends the switches. -/
def separator : String := "--"

/-- A number with a minus sign, with or without a point in it. -/
def isNegativeNumber : List Char → Bool
  | '-' :: rest =>
    let rest := if rest.getLast? = some '\n' then rest.dropLast else rest
    let isDigit (c : Char) : Bool := (Text.decimalDigit? c).isSome
    match rest.dropWhile isDigit with
    | [] => !rest.isEmpty
    | '.' :: places => !places.isEmpty && places.all isDigit
    | _ => false
  | _ => false

def splitEquals (text : List Char) : List Char × Option (List Char) :=
  match text.dropWhile (· ≠ '=') with
  | [] => (text, none)
  | _ :: value => (text.takeWhile (· ≠ '='), some value)

/-- The name of a switch is a single letter after its dash. -/
def isLetter : List Char → Bool
  | [_, c] => c ≠ '-'
  | _ => false

/-- What an equals sign attaches to a name. After a single letter the sign can be left out, and
makes no difference if something follows it. -/
def Attached.ofValue (name : List Char) : Option (List Char) → Attached
  | none => .nothing
  | some value =>
    if isLetter name && !value.isEmpty then .tail value else .equals (String.ofList value)

/-- The switches that an abbreviated word can mean, with their names and what is attached. -/
def candidates (g : Grammar) (text : List Char) : List (Switch × String × Attached) :=
  match text with
  | '-' :: '-' :: _ =>
    let (start, value) := splitEquals text
    (g.names.filter fun entry => start.isPrefixOf entry.2.toList).map fun (s, name) =>
      (s, name, .ofValue start value)
  | '-' :: letter :: rest =>
    (g.names.filter fun entry => entry.2 = String.ofList ['-', letter]).map fun (s, name) =>
      (s, name, .tail rest)
  | _ => []

/-- What a word that begins with a dash and is more than a dash means. -/
def readDashed (g : Grammar) (text : List Char) : Except UsageError Word :=
  let word := String.ofList text
  let (start, value) := splitEquals text
  match g.switch? (String.ofList start) with
  | some s => .ok (.switch word s (.ofValue start value))
  | none =>
    match candidates g text with
    | [] => .ok (if isNegativeNumber text || text.contains ' ' then .plain word else .unknown word)
    | [(s, _, attached)] => .ok (.switch word s attached)
    | several => .error (.ambiguous word (several.map fun (_, name, _) => name))

def readWord (g : Grammar) (word : String) : Except UsageError Word :=
  match word.toList with
  | '-' :: c :: rest => readDashed g ('-' :: c :: rest)
  | _ => .ok (.plain word)

/-- The words of a command line: those before the separator, and those after it if there is one. -/
structure Words where
  before : List Word
  after : Option (List String)
  deriving DecidableEq, Repr

def readWords (g : Grammar) (args : List String) : Except UsageError Words := do
  let before ← (args.takeWhile (· ≠ separator)).mapM (readWord g)
  let after := match args.dropWhile (· ≠ separator) with
    | [] => none
    | _ :: rest => some rest
  return { before, after }

example : (readWord mainGrammar "--log=x").toOption =
    some (.switch "--log=x" .logFile (.equals "x")) := by
  decide +kernel

example : (readWord mainGrammar "-v=x").toOption =
    some (.switch "-v=x" .verbose (.tail ['x'])) := by
  decide +kernel

example : (readWord mainGrammar "-1.5").toOption = some (.plain "-1.5") := by decide +kernel

end ProgramTags.Command
