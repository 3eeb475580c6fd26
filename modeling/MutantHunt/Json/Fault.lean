import MutantHunt.Numeric.Shortest
import MutantHunt.Text.Quoted

/-!
# What can be wrong with a JSON text

A text can break the grammar (`SyntaxFault`), or be JSON that does not describe the value asked for
(`ShapeFault`). Both are causes; `Fault.message` words them.
-/

namespace MutantHunt.Json

/-- A break of the grammar, or a string that is no text. -/
inductive SyntaxFault where
  | endInValue
  | endInString
  | endInList
  | endInObject
  | expectedValue
  | expectedIdent
  | expectedColon
  | expectedCommaOrBracket
  | expectedCommaOrBrace
  | keyNotString
  | trailingComma
  | trailingCharacters
  | invalidNumber
  | numberOutOfRange
  | invalidEscape
  | controlCharacter
  | loneSurrogate
  | endOfSurrogatePair
  | invalidText
  deriving DecidableEq, Repr

/-- The wording of a break of the grammar. -/
def SyntaxFault.message : SyntaxFault → String
  | endInValue => "EOF while parsing a value"
  | endInString => "EOF while parsing a string"
  | endInList => "EOF while parsing a list"
  | endInObject => "EOF while parsing an object"
  | expectedValue => "expected value"
  | expectedIdent => "expected ident"
  | expectedColon => "expected `:`"
  | expectedCommaOrBracket => "expected `,` or `]`"
  | expectedCommaOrBrace => "expected `,` or `\x7d`"
  | keyNotString => "key must be a string"
  | trailingComma => "trailing comma"
  | trailingCharacters => "trailing characters"
  | invalidNumber => "invalid number"
  | numberOutOfRange => "number out of range"
  | invalidEscape => "invalid escape"
  | controlCharacter => "control character (\\u0000-\\u001F) found while parsing a string"
  | loneSurrogate => "lone leading surrogate in hex escape"
  | endOfSurrogatePair => "unexpected end of hex escape"
  | invalidText => "invalid unicode code point"

/-- A value that was met where another kind was asked for. -/
inductive Found where
  | null
  | boolean (value : Bool)
  | integer (value : Int)
  | floating (value : Binary64)
  | string (value : String)
  | list
  | object
  /-- A bare tag where a tag with a content was asked for. -/
  | bareTag
  deriving DecidableEq, Repr

/-- How a value that was met is described. -/
def Found.describe : Found → String
  | null => "null"
  | boolean true => "boolean `true`"
  | boolean false => "boolean `false`"
  | integer n => "integer `" ++ (if n < 0 then "-" else "") ++ n.natAbs.repr ++ "`"
  | floating x => "floating point `" ++ x.text ++ "`"
  | string s => "string " ++ Text.quoted s
  | list => "sequence"
  | object => "map"
  | bareTag => "unit variant"

/-- What a place asks for. -/
inductive Wanted where
  /-- A natural number of so many bits. -/
  | word (bits : Nat)
  | list
  | text
  | path
  | unit
  /-- A tag together with a content. -/
  | taggedContent
  /-- A record of a name with so many fields. -/
  | record (name : String) (fields : Nat)
  deriving DecidableEq, Repr

/-- How a place describes what it asks for, where something else was found. -/
def Wanted.describe : Wanted → String
  | word bits => "u" ++ bits.repr
  | list => "a sequence"
  | text => "a string"
  | path => "path string"
  | unit => "unit"
  | taggedContent => "newtype variant"
  | record name _ => "struct " ++ name

/-- Describes a record by its name and how many fields it has. -/
def Wanted.describeLength : Wanted → String
  | record name fields =>
    "struct " ++ name ++ " with " ++ fields.repr ++ (if fields = 1 then " element" else " elements")
  | wanted => wanted.describe

/-- JSON that does not describe the value asked for. -/
inductive ShapeFault where
  | wrongKind (found : Found) (wanted : Wanted)
  /-- The right kind, but out of range. -/
  | wrongValue (found : Found) (wanted : Wanted)
  /-- A record written as a list that ends after so many of its fields. -/
  | tooShort (length : Nat) (wanted : Wanted)
  | missingField (name : String)
  | repeatedField (name : String)
  | unknownTag (tag : String) (known : List String)
  deriving DecidableEq, Repr

/-- The tags a place knows, as a message lists them. -/
def describeTags (known : List String) : String :=
  let marked := known.map fun tag => "`" ++ tag ++ "`"
  match marked with
  | [one] => one
  | [one, two] => one ++ " or " ++ two
  | many => "one of " ++ ", ".intercalate many

/-- The wording of a fault of shape. -/
def ShapeFault.message : ShapeFault → String
  | wrongKind found wanted => "invalid type: " ++ found.describe ++ ", expected " ++ wanted.describe
  | wrongValue found wanted =>
    "invalid value: " ++ found.describe ++ ", expected " ++ wanted.describe
  | tooShort length wanted =>
    "invalid length " ++ length.repr ++ ", expected " ++ wanted.describeLength
  | missingField name => "missing field `" ++ name ++ "`"
  | repeatedField name => "duplicate field `" ++ name ++ "`"
  | unknownTag tag known => "unknown variant `" ++ tag ++ "`, expected " ++ describeTags known

/-- Why a JSON text does not give the value asked for. -/
inductive Fault where
  | grammar (fault : SyntaxFault)
  | shape (fault : ShapeFault)
  deriving DecidableEq, Repr

/-- The wording of a fault. -/
def Fault.message : Fault → String
  | grammar fault => fault.message
  | shape fault => fault.message

instance : Coe SyntaxFault Fault := ⟨.grammar⟩

instance : Coe ShapeFault Fault := ⟨.shape⟩

end MutantHunt.Json
