import ProgramTags.FileSystem.Error
import ProgramTags.Path
import ProgramTags.Text.LineEnd
import ProgramTags.Text.Utf8

/-!
# The file system

Directories, files and links by their locations. `FileSystem.find` follows a path as the system
does, links included; `FileSystem.resolve` follows it as far as there is something to follow and
goes on from there by the names alone. Operations that change the file system keep what they have
changed when they fail.
-/

namespace ProgramTags

/-- The names on the way from the root to an entry. -/
abbrev Location := List String

/-- What a location holds. -/
inductive Entry where
  | directory
  | file (bytes : List UInt8)
  | link (target : String)
  deriving DecidableEq, Repr

/-- What each location holds, from where relative paths start, and where people are at home. -/
structure FileSystem where
  entries : List (Location × Entry) := []
  workdir : Location := []
  home : String := "/"
  /-- The homes of others, by their names. -/
  homes : List (String × String) := []
  deriving DecidableEq, Repr

def Path.ofLocation (loc : Location) : Path :=
  ⟨.slash, loc⟩

namespace FileSystem

/-- What the location holds. The root is a directory. -/
def get? (fs : FileSystem) (loc : Location) : Option Entry :=
  if loc = [] then some .directory else fs.entries.lookup loc

/-- The entries with `e` at `loc`, in its old place if there was something. -/
def putEntry (loc : Location) (e : Entry) : List (Location × Entry) → List (Location × Entry)
  | [] => [(loc, e)]
  | (l, old) :: rest => if l = loc then (l, e) :: rest else (l, old) :: putEntry loc e rest

def put (fs : FileSystem) (loc : Location) (e : Entry) : FileSystem :=
  { fs with entries := putEntry loc e fs.entries }

theorem lookup_cons_ite (loc l : Location) (e : Entry) (rest : List (Location × Entry)) :
    ((l, e) :: rest).lookup loc = if loc = l then some e else rest.lookup loc := by
  by_cases h : loc = l
  · simp [h]
  · rw [List.lookup_cons, beq_false_of_ne h, if_neg h]

theorem lookup_putEntry (loc loc' : Location) (e : Entry) (entries : List (Location × Entry)) :
    (putEntry loc e entries).lookup loc' = if loc' = loc then some e else entries.lookup loc' := by
  induction entries with
  | nil => simp [putEntry, lookup_cons_ite]
  | cons entry rest ih =>
    obtain ⟨l, old⟩ := entry
    by_cases hl : l = loc
    · subst hl
      by_cases h : loc' = l <;> simp [putEntry, lookup_cons_ite, h]
    · by_cases h : loc' = l
      · subst h
        simp [putEntry, hl]
      · simp [putEntry, lookup_cons_ite, hl, h, ih]

/-- What is put at a location is there, and everything else stays. -/
theorem get?_put {loc : Location} (fs : FileSystem) (h : loc ≠ []) (loc' : Location) (e : Entry) :
    (fs.put loc e).get? loc' = if loc' = loc then some e else fs.get? loc' := by
  by_cases h' : loc' = []
  · subst h'
    simp [get?, Ne.symm h]
  · simp [get?, put, h', lookup_putEntry]

@[simp] theorem workdir_put (fs : FileSystem) (loc : Location) (e : Entry) :
    (fs.put loc e).workdir = fs.workdir := rfl

def start (fs : FileSystem) (root : PathRoot) : Location :=
  if root = .relative then fs.workdir else []

/-! ## Finding -/

inductive Found where
  | entry (loc : Location) (e : Entry)
  /-- There is nothing at the location, which is in a directory. -/
  | missing (loc : Location)
  deriving DecidableEq, Repr

inductive Purpose where
  /-- For what it leads to. -/
  | visit
  /-- For the entry of its last name, even if that is a link. -/
  | entry
  /-- For a file that is to be written, and may have to be made. -/
  | write
  deriving DecidableEq, Repr

/-- How many octets a name may have. -/
def nameLimit : Nat := 255

/-- How many octets a path has to be short of. -/
def pathLimit : Nat := 4096

/-- How many links a path may lead through. -/
def linkLimit : Nat := 40

/-- The location that a link's target starts from, the link being in `loc`. -/
def targetStart (loc : Location) (target : String) : Location :=
  if (Path.ofText target).root = .relative then loc else []

/-- Nothing but slashes follows a name. -/
def isSlashed (rest : List String) : Bool :=
  !rest.isEmpty && rest.all (· = "")

/-- Follows the pieces of a path from a directory; `onLink` goes on from a link. All pieces but the
last have to lead to directories, and a slash at the end makes the name before it one of those. No
file is written under such a name. -/
def findPieces (fs : FileSystem) (purpose : Purpose)
    (onLink : Location → List String → Except Refusal Found) :
    Location → List String → Except Refusal Found
  | loc, [] => .ok (.entry loc .directory)
  | loc, name :: rest =>
    let next := loc ++ [name]
    if Path.isIdle name then findPieces fs purpose onLink loc rest
    else if name = ".." then findPieces fs purpose onLink loc.dropLast rest
    else if purpose = .write ∧ isSlashed rest then .error .isDirectory
    else if nameLimit < name.utf8ByteSize then .error .nameTooLong
    else match fs.get? next with
      | none => if rest.isEmpty then .ok (.missing next) else .error .noEntry
      | some .directory => findPieces fs purpose onLink next rest
      | some (.file bytes) =>
        if rest.isEmpty then .ok (.entry next (.file bytes)) else .error .notDirectory
      | some (.link target) =>
        if rest.isEmpty ∧ purpose = .entry then .ok (.entry next (.link target))
        else onLink (targetStart loc target) (Path.piecesOf target ++ rest)

/-- Follows pieces from a directory through at most `links` links. -/
def findWithin (fs : FileSystem) (purpose : Purpose) : (links : Nat) → Location → List String →
    Except Refusal Found
  | 0 => findPieces fs purpose fun _ _ => .error .tooManyLinks
  | links + 1 => findPieces fs purpose (findWithin fs purpose links)

def hasNull (p : Path) : Bool :=
  p.names.any (·.toList.contains '\x00')

def find (fs : FileSystem) (p : Path) (purpose : Purpose := .visit) : Except FileError Found :=
  if hasNull p then .error .nullInPath
  else
    let found := if pathLimit ≤ p.text.utf8ByteSize then .error .nameTooLong
      else findWithin fs purpose linkLimit (fs.start p.root) p.names
    found.mapError fun why => .refused why p.text

/-- Whether the path leads to an entry that satisfies `good`. A path that leads nowhere does not,
but one that is too long is an error. -/
def test (fs : FileSystem) (p : Path) (good : Entry → Bool) : Except FileError Bool :=
  match fs.find p with
  | .ok (.entry _ e) => .ok (good e)
  | .ok (.missing _) => .ok false
  | .error (.refused .nameTooLong path) => .error (.refused .nameTooLong path)
  | .error _ => .ok false

def doesExist (fs : FileSystem) (p : Path) : Except FileError Bool :=
  fs.test p fun _ => true

def isDirectory (fs : FileSystem) (p : Path) : Except FileError Bool :=
  fs.test p (· = .directory)

/-- The path, if file names can have it. -/
def encodable (surrogates : Text.Surrogates) (p : Path) : Except FileError Path :=
  match surrogates.nameFault? p.text with
  | none => .ok p
  | some e => .error (.surrogate e)

@[simp] theorem encodable_none (p : Path) : encodable .none p = .ok p := by
  simp [encodable]

/-! ## Resolving -/

/-- The location reached by pieces alone. -/
def goLexically (loc : Location) (pieces : List String) : Location :=
  pieces.foldl (fun loc piece =>
    if Path.isIdle piece then loc else if piece = ".." then loc.dropLast else loc ++ [piece]) loc

/-- The location reached from `loc` by the rest of a path alone. A rest that begins with a slash
starts at the root. -/
def goOn (loc : Location) : List String → Location
  | "" :: piece :: rest => goLexically [] (piece :: rest)
  | rest => goLexically loc rest

/-- Where pieces lead: a location, and whether it was found without a loop of links. -/
structure Resolved where
  loc : Location
  whole : Bool
  deriving DecidableEq, Repr

/-- Follows pieces as far as there are links, and by themselves where there is nothing. `opened`
are the links that are being followed, and `onLink` follows the target of one more. A link that is
met while it is being followed is left as it is, and so is everything after it. -/
def resolvePieces (fs : FileSystem) (opened : List Location)
    (onLink : List Location → Location → List String → Resolved) :
    Location → List String → Resolved
  | loc, [] => ⟨loc, true⟩
  | loc, name :: rest =>
    let next := loc ++ [name]
    if Path.isIdle name then resolvePieces fs opened onLink loc rest
    else if name = ".." then resolvePieces fs opened onLink loc.dropLast rest
    else match fs.get? next with
      | some (.link target) =>
        if next ∈ opened then ⟨goOn next rest, false⟩
        else
          let r := onLink (next :: opened) (targetStart loc target) (Path.piecesOf target)
          if r.whole then resolvePieces fs opened onLink r.loc rest
          else ⟨goOn r.loc rest, false⟩
      | _ => resolvePieces fs opened onLink next rest

/-- Follows pieces through links within links, at most `depth` of them. -/
def resolveWithin (fs : FileSystem) : (depth : Nat) → (opened : List Location) → Location →
    List String → Resolved
  | 0, opened => resolvePieces fs opened fun _ loc pieces => ⟨goLexically loc pieces, false⟩
  | depth + 1, opened => resolvePieces fs opened (resolveWithin fs depth)

/-- The location that the path leads to, whether there is something or not. A link is never
followed within itself, so links nest no deeper than there are entries. -/
def resolve (fs : FileSystem) (p : Path) : Except FileError Location :=
  if hasNull p then .error .nullInPath
  else
    let loc := (fs.resolveWithin fs.entries.length [] (fs.start p.root) p.names).loc
    match fs.find (.ofLocation loc) with
    | .error (.refused .tooManyLinks path) => .error (.linkLoop path)
    | _ => .ok loc

/-- The path seen from the root, by its names alone. -/
def absolute (fs : FileSystem) (p : Path) : Path :=
  let root := if p.root = .relative then .slash else p.root
  ⟨root, goLexically (fs.start p.root) p.names⟩

/-- The home of the person of a name; without a name, the own one. -/
def homeOf? (fs : FileSystem) (person : String) : Option String :=
  if person = "" then some fs.home else fs.homes.lookup person

/-- The path with a home directory for a tilde at its beginning and the name after that. -/
def expandHome (fs : FileSystem) (p : Path) : Except FileError Path :=
  match p.root, p.names.map String.toList with
  | .relative, ('~' :: person) :: _ =>
    match fs.homeOf? (String.ofList person) with
    | some home => .ok ((Path.ofText home).join ⟨.relative, p.names.tail⟩)
    | none => .error .noHome
  | _, _ => .ok p

/-! ## Reading -/

def read (fs : FileSystem) (p : Path) : Except FileError (List UInt8) :=
  match fs.find p with
  | .ok (.entry _ (.file bytes)) => .ok bytes
  | .ok (.entry _ _) => .error (.refused .isDirectory p.text)
  | .ok (.missing _) => .error (.refused .noEntry p.text)
  | .error e => .error e

inductive ReadError where
  | file (e : FileError)
  | notUtf8 (e : Text.Utf8.Fault)
  deriving DecidableEq, Repr

def ReadError.message : ReadError → String
  | .file e => e.message
  | .notUtf8 e => e.message

/-- The text of a file, its lines ended by line feeds. -/
def readText (fs : FileSystem) (p : Path) : Except ReadError (List Char) :=
  match fs.read p with
  | .error e => .error (.file e)
  | .ok bytes =>
    match Text.Utf8.decode bytes with
    | .error e => .error (.notUtf8 e)
    | .ok text => .ok (Text.unifyLineEnds text)

/-! ## Changing -/

/-- The octets at a location; none unless it holds a file. -/
def bytesAt (fs : FileSystem) (loc : Location) : List UInt8 :=
  match fs.get? loc with
  | some (.file bytes) => bytes
  | _ => []

/-- The file system with more octets at the end of the file at a location. -/
def append (fs : FileSystem) (loc : Location) (bytes : List UInt8) : FileSystem :=
  fs.put loc (.file (fs.bytesAt loc ++ bytes))

theorem bytesAt_append {loc : Location} (fs : FileSystem) (h : loc ≠ []) (bytes : List UInt8) :
    (fs.append loc bytes).bytesAt loc = fs.bytesAt loc ++ bytes := by
  simp [append, bytesAt, get?_put fs h]

end FileSystem

/-- A step that changes the file system and may fail. -/
abbrev Files := EStateM FileError FileSystem

namespace Files

open FileSystem (Found)

/-- A step that only looks. -/
def look {α : Type} (f : FileSystem → Except FileError α) : Files α := do
  match f (← get) with
  | .ok a => return a
  | .error e => throw e

/-- The path, if file names can have it. -/
def encodable (surrogates : Text.Surrogates) (p : Path) : Files Path :=
  look fun _ => FileSystem.encodable surrogates p

def makeDirectory (p : Path) : Files Unit := do
  match ← look (·.find p .entry) with
  | .missing loc => modify (·.put loc .directory)
  | .entry _ _ => throw (.refused .exists p.text)

def ensureDirectory (p : Path) : Files Unit :=
  tryCatch (makeDirectory p) fun e => do
    match e with
    | .refused .noEntry _ => throw e
    | .refused _ _ => unless ← look (·.isDirectory p) do throw e
    | _ => throw e

/-- Makes a directory that is `above` names above `p`, and those above it that are missing, unless
there is one. -/
def ensureDirectoriesUpTo (p : Path) : (depth : Nat) → Files Unit
  | 0 => ensureDirectory p
  | depth + 1 =>
    tryCatch (ensureDirectory p) fun e => do
      match e with
      | .refused .noEntry _ =>
        if p.parent = p then throw e
        else do
          ensureDirectoriesUpTo p.parent depth
          ensureDirectory p
      | _ => throw e

/-- Makes a directory, and those above it that are missing, unless there is one. -/
def ensureDirectories (p : Path) : Files Unit :=
  ensureDirectoriesUpTo p p.names.length

/-- Opens a file to write into it, and makes it if there is none. Gives its location. -/
def openFile (p : Path) : Files Location := do
  match ← look (·.find p .write) with
  | .entry loc (.file _) => return loc
  | .entry _ _ => throw (.refused .isDirectory p.text)
  | .missing loc =>
    modify (·.put loc (.file []))
    return loc

/-- Opens the file of a log, which is made if there is none, together with the directories above
it. -/
def openLog (p : Path) (surrogates : Text.Surrogates := .none) : Files Location := do
  let absolute := (← get).absolute p
  ensureDirectories (← encodable surrogates p.parent)
  openFile (← encodable surrogates absolute)

def writeAt (loc : Location) (bytes : List UInt8) : Files Unit :=
  modify (·.put loc (.file bytes))

end Files

end ProgramTags
