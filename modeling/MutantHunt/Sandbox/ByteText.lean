import MutantHunt.Text.Unicode

/-!
# Bytes as characters

Scripts, names and arguments are bytes, which need not be text in any encoding. Inside the sandbox
they are strings all the same: each character stands for one byte and lies below 256. `ofText` and
`toText` lead from proper text to this form and back.
-/

namespace MutantHunt.Sandbox.ByteText

/-- The string whose characters are the given bytes. -/
def ofBytes (bytes : List UInt8) : String :=
  String.ofList (bytes.map fun b => Char.ofNat b.toNat)

/-- The bytes that the characters of a string stand for. -/
def toBytes (text : String) : List UInt8 :=
  text.toList.map fun c => UInt8.ofNat c.toNat

/-- The bytes of a text, as characters. -/
def ofText (text : String) : String :=
  ofBytes (Text.encode text)

/-- The text that the bytes encode. Bytes that encode none are replaced. -/
def toText (text : String) : String :=
  Text.decodeLossy (toBytes text)

end MutantHunt.Sandbox.ByteText
