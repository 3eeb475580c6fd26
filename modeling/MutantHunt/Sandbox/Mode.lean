import MutantHunt.Sandbox.Shell.Format

/-!
# Modes of files

A mode says in bits who may read, write and execute a file. `Mode.change?` reads what a text such as `755`
or `u+x,g=r` asks to be done to a mode.
-/

namespace MutantHunt.Sandbox.Mode

/-- The number that octal digits write. -/
def ofOctal? (text : String) : Option Nat :=
  if !text.isEmpty && text.toList.all Shell.Format.isOctal then
    some (text.toList.foldl (fun n c => n * 8 + (c.toNat - 48)) 0)
  else none

/-- The bits that a letter of a symbolic mode stands for, given the mode so far. -/
def letterBits (mode : Nat) (letter : Char) : Nat :=
  match letter with
  | 'r' => 0o444
  | 'w' => 0o222
  | 'x' => 0o111
  | 'X' => if mode &&& 0o111 != 0 then 0o111 else 0
  | 'u' => (mode >>> 6 &&& 7) * 0o111
  | 'g' => (mode >>> 3 &&& 7) * 0o111
  | 'o' => (mode &&& 7) * 0o111
  | 't' => 0o1000
  | 's' => 0o6000
  | _ => 0

/-- The bits that belong to those a symbolic mode is for. Where it names none it is for all, except for the
bits that new files do not get. -/
def whoBits (mask : Nat) (who : List Char) : Nat :=
  if who.isEmpty then 0o7777 ^^^ (mask &&& 0o777)
  else
    who.foldl
      (fun bits c =>
        match c with
        | 'u' => bits ||| 0o4700
        | 'g' => bits ||| 0o2070
        | 'o' => bits ||| 0o1007
        | _ => bits ||| 0o7777)
      0

/-- Reads operators with the letters behind them. The number bounds how many characters are left. -/
def actions? (mask : Nat) (who : List Char) : Nat → List Char → Option (Nat → Nat)
  | 0, _ => none
  | _ + 1, [] => some id
  | n + 1, operator :: rest => do
    let letters := rest.takeWhile fun c => !"+-=".toList.contains c
    let next ← actions? mask who n (rest.drop letters.length)
    let bits (mode : Nat) : Nat :=
      letters.foldl (fun b c => b ||| letterBits mode c) 0 &&& whoBits mask who
    if !letters.all (fun c => "rwxXstugo".toList.contains c) then none
    else
      match operator with
      | '+' => some fun mode => next (mode ||| bits mode)
      | '-' => some fun mode => next (mode &&& (0o7777 ^^^ bits mode))
      | '=' =>
        let cleared := whoBits 0 (if who.isEmpty then ['a'] else who) &&& 0o777
        some fun mode => next (mode &&& (0o7777 ^^^ cleared) ||| bits mode)
      | _ => none

/-- The change of a mode that a symbolic mode such as `u+x` asks for. -/
def ofSymbols? (mask : Nat) (text : String) : Option (Nat → Nat) :=
  let who := text.toList.takeWhile fun c => "ugoa".toList.contains c
  let parts := text.toList.drop who.length
  if parts.isEmpty then none else actions? mask who (parts.length + 1) parts

/-- The change of a mode that a text asks for: a number in octal, or symbolic modes. -/
def change? (mask : Nat) (text : String) : Option (Nat → Nat) :=
  match ofOctal? text with
  | some mode => if mode ≤ 0o7777 then some fun _ => mode else none
  | none =>
    (text.splitOn ",").foldlM
      (fun change part => (ofSymbols? mask part).map fun next => fun mode => next (change mode))
      id

end MutantHunt.Sandbox.Mode
