import ProgramTags.Json
import ProgramTags.Proofs.Document.Reader
import ProgramTags.Text.LineEnd

/-!
# A reader of XML

What a reader of XML 1.0 finds in a text: `Xml.read?` gives the root element of a well-formed
document and nothing for any other text. Line ends become line feeds before anything else is read;
then references give the characters that they stand for, and literal white space in the value of an
attribute becomes a space. Documents with a document type declaration are left out, so that the
entities are the five that every document has, and no attribute is declared.
-/

namespace ProgramTags.Xml

open Document (Reader)
open Document.Reader (many markup)

/-! ## Characters -/

def isIn (ranges : List (Nat × Nat)) (c : Char) : Bool :=
  ranges.any fun (first, last) => first ≤ c.toNat && c.toNat ≤ last

/-- A character that may stand in a document. -/
def isChar : Char → Bool :=
  isIn [(0x9, 0x9), (0xA, 0xA), (0xD, 0xD), (0x20, 0xD7FF), (0xE000, 0xFFFD), (0x10000, 0x10FFFF)]

def isSpace : Char → Bool :=
  isIn [(0x9, 0x9), (0xA, 0xA), (0xD, 0xD), (0x20, 0x20)]

def nameStart : List (Nat × Nat) :=
  [(0x3A, 0x3A), (0x41, 0x5A), (0x5F, 0x5F), (0x61, 0x7A), (0xC0, 0xD6), (0xD8, 0xF6),
    (0xF8, 0x2FF), (0x370, 0x37D), (0x37F, 0x1FFF), (0x200C, 0x200D), (0x2070, 0x218F),
    (0x2C00, 0x2FEF), (0x3001, 0xD7FF), (0xF900, 0xFDCF), (0xFDF0, 0xFFFD), (0x10000, 0xEFFFF)]

def nameRest : List (Nat × Nat) :=
  nameStart ++
    [(0x2D, 0x2E), (0x30, 0x39), (0xB7, 0xB7), (0x300, 0x36F), (0x203F, 0x2040)]

/-! ## Pieces of markup -/

section

variable {α : Type}

def satisfying (good : Char → Bool) : Reader Char
  | c :: rest => if good c then some (c, rest) else none
  | [] => none

def run (good : Char → Bool) : Reader (List Char) := fun text =>
  some (text.takeWhile good, text.dropWhile good)

/-- Takes everything up to the next `stop`, and that. What stands before it has to mean
something. -/
def upTo (stop : Char) (meaning : List Char → Option α) : Reader α := fun text =>
  match text.dropWhile (· ≠ stop) with
  | [] => none
  | _ :: rest => (meaning (text.takeWhile (· ≠ stop))).map (·, rest)

/-- Takes everything up to the next place where the given text stands, and that. -/
def upToText (stop : List Char) : Reader (List Char)
  | [] => none
  | c :: rest =>
    match stop.isPrefixOf? (c :: rest) with
    | some after => some ([], after)
    | none => (upToText stop rest).map fun (before, after) => (c :: before, after)

/-- Takes a text between quotes, double or single ones. -/
def quoted (meaning : List Char → Option α) : Reader α := do
  let quote ← satisfying fun c => c = '"' || c = '\''
  upTo quote meaning

end

def spaces : Reader Unit := do
  let _ ← run isSpace

def someSpaces : Reader Unit := do
  let _ ← satisfying isSpace
  spaces

def equals : Reader Unit := do
  spaces
  markup "="
  spaces

def name : Reader String := do
  let first ← satisfying (isIn nameStart)
  let rest ← run (isIn nameRest)
  return String.ofList (first :: rest)

/-! ## References -/

/-- The number of a character, as a reference spells it. -/
def codePoint? : List Char → Option Nat
  | 'x' :: digits => if digits = [] then none else Json.hexNumber? digits
  | digits => (Document.magnitude? digits).map Int.toNat

def entities : List (String × Char) :=
  [("lt", '<'), ("gt", '>'), ("amp", '&'), ("apos", '\''), ("quot", '"')]

/-- What stands between the ampersand and the semicolon of a reference refers to this. -/
def referenced? : List Char → Option Char
  | '#' :: number =>
    match codePoint? number with
    | some n => if isChar (Char.ofNat n) then some (Char.ofNat n) else none
    | none => none
  | entity => entities.lookup (String.ofList entity)

def reference : Reader Char := do
  markup "&"
  upTo ';' referenced?

/-! ## Attributes -/

def flatChar (c : Char) : Char :=
  if isSpace c then ' ' else c

/-- A character of the value of an attribute. -/
def valueChar : Reader Char :=
  reference <|> do
    let c ← satisfying fun c => c ≠ '<' && c ≠ '&'
    return flatChar c

/-- The value of an attribute, given what stands between the quotes. -/
def value? (text : List Char) : Option String :=
  match many valueChar text with
  | some (cs, []) => some (String.ofList cs)
  | _ => none

/-- An attribute, the space before it included. -/
def field : Reader (String × String) := do
  someSpaces
  let n ← name
  equals
  let v ← quoted value?
  return (n, v)

/-- The attributes of an element; no two of them have the same name. -/
def fields : Reader (List (String × String)) := do
  let found ← many field
  spaces
  if (found.map Prod.fst).Nodup then return found else failure

/-! ## Elements -/

/-- What an element contains: elements and characters. -/
inductive Node where
  | element (name : String) (attributes : List (String × String)) (children : List Node)
  | char (c : Char)

def literal : Reader Char := fun text =>
  if "]]>".toList.isPrefixOf text then none
  else satisfying (fun c => c ≠ '<' && c ≠ '&') text

def comment : Reader Unit := do
  markup "<!--"
  let _ ← upToText "--".toList
  markup ">"

/-- Takes a processing instruction. It is not for XML itself. -/
def instruction : Reader Unit := do
  markup "<?"
  let target ← name
  if target.toList.map Char.toLower = "xml".toList then failure
  markup "?>" <|> do
    someSpaces
    let _ ← upToText "?>".toList

/-- Takes a section in which nothing is markup. -/
def verbatim : Reader (List Char) := do
  markup "<![CDATA["
  upToText "]]>".toList

/-- Takes something that may stand between the tags of an element, and gives what is left of it. -/
def item (element : Reader Node) : Reader (List Node) :=
  (do comment; return []) <|> (do instruction; return []) <|>
    (do return (← verbatim).map .char) <|> (do return [← element]) <|>
    (do return [.char (← literal)]) <|> (do return [.char (← reference)])

/-- Takes an element with at most so many elements around one another. -/
def element : (depth : Nat) → Reader Node
  | 0 => failure
  | depth + 1 => do
    markup "<"
    let n ← name
    let found ← fields
    (do markup "/>"; return .element n found []) <|> do
      markup ">"
      let children ← many (item (element depth))
      markup "</"
      markup n
      spaces
      markup ">"
      return .element n found children.flatten

/-! ## Documents -/

def isVersion : List Char → Bool
  | '1' :: '.' :: digits => digits ≠ [] && digits.all Char.isDigit
  | _ => false

def isEncoding : List Char → Bool
  | c :: rest =>
    c.isAlpha && rest.all fun c => c.isAlphanum || c = '.' || c = '_' || c = '-'
  | [] => false

def declared (part : String) (good : List Char → Bool) : Reader Unit := do
  someSpaces
  markup part
  equals
  quoted fun text => if good text then some () else none

def declaration : Reader Unit := do
  markup "<?xml"
  declared "version" isVersion
  declared "encoding" isEncoding <|> pure ()
  declared "standalone" (fun text => text = "yes".toList || text = "no".toList) <|> pure ()
  spaces
  markup "?>"

def around : Reader Unit :=
  comment <|> instruction <|> do
    let _ ← satisfying isSpace

/-- Takes a document and gives its root. No more elements than there are characters can be around
one another. -/
def document : Reader Node := do
  declaration <|> pure ()
  let _ ← many around
  let root ← element (← get).length
  let _ ← many around
  return root

/-- The root of the document, if the text is a well-formed one. -/
def read? (text : String) : Option Node :=
  if text.toList.all isChar then
    match document (Text.unifyLineEnds text.toList) with
    | some (root, []) => some root
    | _ => none
  else none

/-- What literal white space and references become. -/
example : read? "<?xml version='1.0'?><a  b='1\r\n&#xA;&lt;&#9;'>]<!-- - --><c/>\r</a >\n" =
    some (.element "a" [("b", "1 \n<\t")] [.char ']', .element "c" [] [], .char '\n']) := by
  cbv

end ProgramTags.Xml
