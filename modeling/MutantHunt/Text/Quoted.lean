import MutantHunt.Text.Hidden

/-!
# Quoted text in messages

A message that repeats a text it found puts it between double quotes, so that the reader sees where
it ends. Inside, a quote and a backslash carry a backslash, the common controls have short names,
and characters that cannot be seen are given by number.
-/

namespace MutantHunt.Text

/-- The hexadecimal digits of a number, lower case, without leading zeros. -/
def hexadecimal (n : Nat) : String :=
  String.ofList (Nat.toDigits 16 n)

/-- How one character is shown between quotes. -/
def quotedChar (c : Char) : String :=
  match c with
  | '\x00' => "\\0"
  | '\t' => "\\t"
  | '\n' => "\\n"
  | '\r' => "\\r"
  | '"' => "\\\""
  | '\\' => "\\\\"
  | c => if isHidden c then "\\u\x7b" ++ hexadecimal c.toNat ++ "\x7d" else c.toString

/-- The text between double quotes, with everything escaped that would mislead. -/
def quoted (text : String) : String :=
  "\"" ++ String.join (text.toList.map quotedChar) ++ "\""

end MutantHunt.Text
