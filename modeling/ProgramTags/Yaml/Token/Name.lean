import ProgramTags.Yaml.Token.Scan

/-!
# Directives, anchors and tags

The tokens that hold names. The names of anchors and handles are made of letters, digits, dashes
and underscores; a tag is an address, in which octets may be written with percent signs.
-/

namespace ProgramTags.Yaml.Scan

open Text (Position)

/-! ## Tags -/

/-- The character may stand in an address. A percent sign begins an octet. -/
def isAddressChar (c : Char) : Bool :=
  isNameChar c || "-;/?:@&=+$,_.!~*'()[]%".toList.contains c

/-- Takes octets written with percent signs, at most `fuel` of them. -/
def octets (during : Activity) (since : Position) : (fuel : Nat) → Scan (List UInt8)
  | 0 => return []
  | fuel + 1 => do
    if (← peek) = '%' then
      advance 1
      let n ← hexNumber 2 .octetDigits during since
      return n.toUInt8 :: (← octets during since fuel)
    else return []

def octetChars (during : Activity) (since : Position) : Scan (List Char) := do
  let start ← place
  let bytes ← octets during since (← get).rest.length
  match Text.Utf8.decode bytes with
  | .ok chars => return chars
  | .error e => throw (.malformed ⟨.notUtf8 e, start, during, since⟩)

/-- Takes the characters of an address; each round takes a run of characters or of octets. -/
def addressChars (during : Activity) (since : Position) : (fuel : Nat) → Scan (List Char)
  | 0 => return []
  | fuel + 1 => do
    let run ← take fun c => isAddressChar c && c ≠ '%'
    if (← peek) = '%' then
      let chars ← octetChars during since
      return run ++ chars ++ (← addressChars during since fuel)
    else return run

def address (during empty : Activity) (since : Position) : Scan String := do
  unless isAddressChar (← peek) do failExpected .address empty since
  return String.ofList (← addressChars during since ((← get).rest.length + 1))

/-- Takes a handle: an exclamation mark, or a name between two of them. -/
def handle (during : Activity) (since : Position) : Scan String := do
  unless (← peek) = '!' do failExpected .exclamation during since
  if (← peek 1) = ' ' then
    advance 1
    return "!"
  else
    advance 1
    let name ← take isNameChar
    unless (← peek) = '!' do failExpected .exclamation during since
    advance 1
    return "!" ++ String.ofList name ++ "!"

/-- Takes a tag: an address between angle brackets, a lone exclamation mark, or a handle and an
address. The handle is a lone exclamation mark unless there is a second one in the word. -/
def tag : Scan TagName := do
  let start ← place
  let name ← do
    if (← peek 1) = '<' then
      advance 2
      let rest ← address .tag .tagAddress start
      unless (← peek) = '>' do failExpected .closingAngle .tagAddress start
      advance 1
      pure { handle := none, rest }
    else if isGap (← peek 1) then
      advance 1
      pure { handle := none, rest := "!" }
    else
      let word := (((← get).advance 1).span (!isWordEnd ·)).1
      let handle ←
        if word.contains '!' then handle .tag start
        else do
          advance 1
          pure "!"
      pure { handle := some handle, rest := ← address .tag .tagAddress start }
  unless isWordEnd (← peek) do failExpected .space .tag start
  return name

/-! ## Anchors -/

/-- The character may follow the name of an anchor. -/
def endsAnchor (c : Char) : Bool :=
  isGap c || "?:,]\x7d%@`".toList.contains c

def anchorName (during : Activity) : Scan String := do
  let start ← place
  advance 1
  let name ← take isNameChar
  if name.isEmpty || !endsAnchor (← peek) then failExpected .nameChar during start
  return String.ofList name

/-! ## Directives -/

def versionNumber (since : Position) : Scan Nat := do
  let digits ← take fun c => '0' ≤ c && c ≤ '9'
  if digits.isEmpty then failExpected .digit .directive since
  else if Decimal.digitLimit < digits.length then
    throw (.scalar (.numeral (.tooLong ⟨digits.length⟩)))
  else return Decimal.decimalNumber digits

def version (since : Position) : Scan Directive := do
  modify Cursor.skipSpaces
  let major ← versionNumber since
  unless (← peek) = '.' do failExpected .digitOrPoint .directive since
  advance 1
  let minor ← versionNumber since
  unless isWordEnd (← peek) do failExpected .digitOrSpace .directive since
  return .version major minor

def handleAddress (since : Position) : Scan Directive := do
  modify Cursor.skipSpaces
  let name ← handle .directive since
  unless (← peek) = ' ' do failExpected .space .directive since
  modify Cursor.skipSpaces
  let begins ← address .directive .directiveAddress since
  unless isWordEnd (← peek) do failExpected .space .directive since
  return .handle name begins

def directive : Scan Directive := do
  let start ← place
  advance 1
  let name ← take isNameChar
  if name.isEmpty || !isWordEnd (← peek) then failExpected .nameChar .directive start
  let read ←
    if name = "YAML".toList then version start
    else if name = "TAG".toList then handleAddress start
    else do
      let _ ← take (!isLineEnd ·)
      pure .other
  restOfLine .directive start
  return read

end ProgramTags.Yaml.Scan
