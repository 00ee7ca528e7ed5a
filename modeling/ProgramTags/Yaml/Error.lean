import ProgramTags.Calendar
import ProgramTags.Decimal.Numeral
import ProgramTags.Text.Base64
import ProgramTags.Text.Utf8
import ProgramTags.Yaml.Cursor
import ProgramTags.Yaml.Token

/-!
# Faults of a YAML text

A text can fail in two ways. It is malformed, and a `Fault` says what is wrong, where, and what was
being read at the time. Or it is well formed and a scalar in it has no value, as the thirteenth
month has none; a `ScalarError` says why, without a place.
-/

namespace ProgramTags.Yaml

open Text (Position)

/-- What was being read when a fault was met. -/
inductive Activity where
  | nextToken
  | simpleKey
  | directive
  | alias
  | anchor
  | tag
  | blockScalar
  | doubleQuotedScalar
  | quotedScalar
  /-- The address that a tag, or the shorthand of a tag, stands for. -/
  | directiveAddress
  | tagAddress
  | node
  | blockNode
  | flowNode
  | blockCollection
  | blockMapping
  | flowSequence
  | flowMapping
  | orderedMap
  | pairs
  | mapping
  /-- An anchor with a name that was used before. -/
  | firstAnchor (name : String)
  | document
  deriving DecidableEq, Repr

def Activity.message : Activity → String
  | .nextToken => "while scanning for the next token"
  | .simpleKey => "while scanning a simple key"
  | .directive => "while scanning a directive"
  | .alias => "while scanning an alias"
  | .anchor => "while scanning an anchor"
  | .tag => "while scanning a tag"
  | .blockScalar => "while scanning a block scalar"
  | .doubleQuotedScalar => "while scanning a double-quoted scalar"
  | .quotedScalar => "while scanning a quoted scalar"
  | .directiveAddress => "while parsing a directive"
  | .tagAddress => "while parsing a tag"
  | .node => "while parsing a node"
  | .blockNode => "while parsing a block node"
  | .flowNode => "while parsing a flow node"
  | .blockCollection => "while parsing a block collection"
  | .blockMapping => "while parsing a block mapping"
  | .flowSequence => "while parsing a flow sequence"
  | .flowMapping => "while parsing a flow mapping"
  | .orderedMap => "while constructing an ordered map"
  | .pairs => "while constructing pairs"
  | .mapping => "while constructing a mapping"
  | .firstAnchor name => s!"found duplicate anchor {Text.quoted name}; first occurrence"
  | .document => "expected a single document in the stream"

/-- What may stand at a place where another character stands. -/
inductive Wanted where
  | nameChar
  | digit
  | digitOrPoint
  | digitOrSpace
  | space
  | exclamation
  | closingAngle
  | address
  | lineEnd
  | blockIndicators
  /-- So many hexadecimal digits, after a backslash and a letter. -/
  | hexDigits (n : Nat)
  /-- Two hexadecimal digits, after a percent sign. -/
  | octetDigits
  deriving DecidableEq, Repr

def Wanted.message : Wanted → String
  | .nameChar => "alphabetic or numeric character"
  | .digit => "a digit"
  | .digitOrPoint => "a digit or '.'"
  | .digitOrSpace => "a digit or ' '"
  | .space => "' '"
  | .exclamation => "'!'"
  | .closingAngle => "'>'"
  | .address => "URI"
  | .lineEnd => "a comment or a line break"
  | .blockIndicators => "chomping or indentation indicators"
  | .hexDigits n => s!"escape sequence of {n} hexadecimal numbers"
  | .octetDigits => "URI escape sequence of 2 hexadecimal numbers"

inductive Shape where
  | scalar
  | sequence
  | mapping
  deriving DecidableEq, Repr

def Shape.name : Shape → String
  | .scalar => "scalar"
  | .sequence => "sequence"
  | .mapping => "mapping"

inductive Problem where
  | cannotStart (c : Char)
  | noValueMark
  | sequenceNotAllowed
  | keyNotAllowed
  | valueNotAllowed
  | expected (wanted : Wanted) (found : Char)
  | zeroIndentation
  | unknownEscape (c : Char)
  | endInQuotes
  | documentInQuotes
  | notUtf8 (e : Text.Utf8.Fault)
  | noContent (found : String)
  | noBlockEnd (found : String)
  | noSequenceEnd (found : String)
  | noMappingEnd (found : String)
  | noDocumentStart (found : String)
  | repeatedVersion
  | unsupportedVersion
  | repeatedHandle (name : String)
  | unknownHandle (name : String)
  | unknownAlias (name : String)
  | secondAnchor
  | secondDocument
  | unknownTag (tag : String)
  | notShape (wanted found : Shape)
  | notSequence (found : Shape)
  | notSingleton (found : Shape)
  | notSingle (items : Nat)
  | notMergeable (found : Shape)
  | notMergeableItem (found : Shape)
  | unhashableKey
  | notAscii (first : Char) (index length : Nat)
  | base64 (e : Text.Base64.Error)
  | endless
  deriving DecidableEq, Repr

def quotedChar (c : Char) : String :=
  String.ofList (Text.quotedChars [c])

def notAsciiMessage (first : Char) (index length : Nat) : String :=
  let n := first.toNat
  let code := if n ≤ 0xFF then 'x' :: Text.hexDigits 2 n
    else if n ≤ 0xFFFF then 'u' :: Text.hexDigits 4 n
    else 'U' :: Text.hexDigits 8 n
  let characters :=
    if length = 1 then s!"character '\\{String.ofList code}' in position {index}"
    else s!"characters in position {index}-{index + length - 1}"
  s!"failed to convert base64 data into ascii: 'ascii' codec can't encode {characters}: " ++
    "ordinal not in range(128)"

def Problem.message : Problem → String
  | .cannotStart c => s!"found character {quotedChar c} that cannot start any token"
  | .noValueMark => "could not find expected ':'"
  | .sequenceNotAllowed => "sequence entries are not allowed here"
  | .keyNotAllowed => "mapping keys are not allowed here"
  | .valueNotAllowed => "mapping values are not allowed here"
  | .expected wanted found => s!"expected {wanted.message}, but found {quotedChar found}"
  | .zeroIndentation => "expected indentation indicator in the range 1-9, but found 0"
  | .unknownEscape c => s!"found unknown escape character {quotedChar c}"
  | .endInQuotes => "found unexpected end of stream"
  | .documentInQuotes => "found unexpected document separator"
  | .notUtf8 e => e.message
  | .noContent found => s!"expected the node content, but found {Text.quoted found}"
  | .noBlockEnd found => s!"expected <block end>, but found {Text.quoted found}"
  | .noSequenceEnd found => s!"expected ',' or ']', but got {Text.quoted found}"
  | .noMappingEnd found => s!"expected ',' or '\x7d', but got {Text.quoted found}"
  | .noDocumentStart found => s!"expected '<document start>', but found {Text.quoted found}"
  | .repeatedVersion => "found duplicate YAML directive"
  | .unsupportedVersion => "found incompatible YAML document (version 1.* is required)"
  | .repeatedHandle name => s!"duplicate tag handle {Text.quoted name}"
  | .unknownHandle name => s!"found undefined tag handle {Text.quoted name}"
  | .unknownAlias name => s!"found undefined alias {Text.quoted name}"
  | .secondAnchor => "second occurrence"
  | .secondDocument => "but found another document"
  | .unknownTag tag => s!"could not determine a constructor for the tag {Text.quoted tag}"
  | .notShape .scalar found => s!"expected a scalar node, but found {found.name}"
  | .notShape .sequence found => s!"expected a sequence node, but found {found.name}"
  | .notShape .mapping found => s!"expected a mapping node, but found {found.name}"
  | .notSequence found => s!"expected a sequence, but found {found.name}"
  | .notSingleton found => s!"expected a mapping of length 1, but found {found.name}"
  | .notSingle items => s!"expected a single mapping item, but found {items} items"
  | .notMergeable found =>
    s!"expected a mapping or list of mappings for merging, but found {found.name}"
  | .notMergeableItem found => s!"expected a mapping for merging, but found {found.name}"
  | .unhashableKey => "found unhashable key"
  | .notAscii first index length => notAsciiMessage first index length
  | .base64 e => "failed to decode base64 data: " ++ e.message
  | .endless => "found unconstructable recursive node"

/-- What is wrong, where it was found, and what was being read, with the place where that
began. -/
structure Fault where
  problem : Problem
  at_ : Position
  during : Option Activity := none
  since : Option Position := none
  deriving DecidableEq, Repr

/-- The fault as it is shown: what was being read, since where, what is wrong, and where. The
beginning is left out if it is in the same line and column as the fault. -/
def Fault.message (text : List Char) (f : Fault) : String :=
  let begins := f.since.filter fun p => p.line ≠ f.at_.line ∨ p.column ≠ f.at_.column
  let lines := (f.during.map Activity.message).toList ++ (begins.map (placeText text)).toList ++
    [f.problem.message, placeText text f.at_]
  "\n".intercalate lines

/-- Why a scalar of a well-formed text has no value. -/
inductive ScalarError where
  /-- The scalar is tagged as a number, and nothing is left of it without its sign and its
  underscores. -/
  | emptyNumber
  | numeral (e : Decimal.NumeralError)
  | calendar (e : CalendarError)
  /-- The text, in lower case, is no truth value. -/
  | truth (text : String)
  /-- The scalar is tagged as a time and is not written like one. -/
  | noTime
  /-- A mapping that stands for its default value is tagged as a time. -/
  | mappedTime
  /-- There is no character of this code. -/
  | codePoint (code : Nat)
  /-- A number in base sixty has so many places that its size is no floating-point number. -/
  | tooGreat
  deriving DecidableEq, Repr

def ScalarError.message : ScalarError → String
  | .emptyNumber => "string index out of range"
  | .numeral e => e.message
  | .calendar e => e.message
  | .truth text => text
  | .noTime => "'NoneType' object has no attribute 'groupdict'"
  | .mappedTime => "expected string or bytes-like object, got 'list'"
  | .codePoint code =>
    if code < 0x80000000 then "chr() arg not in range(0x110000)"
    else "Python int too large to convert to C int"
  | .tooGreat => "int too large to convert to float"

inductive Error where
  /-- The character at `index` may not stand in a text. -/
  | unprintable (c : Char) (index : Nat)
  | malformed (f : Fault)
  | scalar (e : ScalarError)
  deriving DecidableEq, Repr

/-- A character that may not stand in a text, none of which has a code of more than four digits,
and its index. -/
def unprintableMessage (c : Char) (index : Nat) : String :=
  let code := String.ofList (Text.hexDigits 4 c.toNat)
  s!"unacceptable character #x{code}: special characters are not allowed\n" ++
    s!"  in \"<unicode string>\", position {index}"

def Error.message (text : List Char) : Error → String
  | .unprintable c index => unprintableMessage c index
  | .malformed f => f.message text
  | .scalar e => e.message

end ProgramTags.Yaml
