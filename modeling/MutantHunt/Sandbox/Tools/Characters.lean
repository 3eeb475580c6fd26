import MutantHunt.Sandbox.Tools.Basic
import MutantHunt.Sandbox.Shell.Format
import MutantHunt.Sandbox.Shell.Pattern

/-!
# Tools that work on characters

`tr` replaces, deletes and squeezes characters; `cut` picks fields and characters out of lines.
-/

namespace MutantHunt.Sandbox.Tools

/-- Reads a set of characters for `tr`: escapes, ranges and classes. The number bounds how many
characters are left. -/
def charSet : Nat → List Char → List Char
  | 0, _ => []
  | _ + 1, [] => []
  | n + 1, '[' :: ':' :: rest =>
    let name := rest.takeWhile Char.isAlpha
    let ranges := Shell.PatternPart.classRanges (String.ofList name)
    let members := (List.range 256).map Char.ofNat |>.filter fun c =>
      ranges.any fun (low, high) => low ≤ c && c ≤ high
    members ++ charSet n (rest.drop (name.length + 2))
  | n + 1, chars =>
    let one : List Char → Option (Char × List Char)
      | '\\' :: c :: rest =>
        if Shell.Format.isOctal c then
          let digits := ((c :: rest).take 3).takeWhile Shell.Format.isOctal
          some (Shell.Format.octalByte digits, (c :: rest).drop digits.length)
        else some ((Shell.Format.letterEscape? c).getD c, rest)
      | c :: rest => some (c, rest)
      | [] => none
    match one chars with
    | none => []
    | some (low, '-' :: rest) =>
      match one rest with
      | some (high, rest) =>
        (List.range (high.toNat + 1 - low.toNat)).map (fun i => Char.ofNat (low.toNat + i))
          ++ charSet n rest
      | none => [low, '-']
    | some (c, rest) => c :: charSet n rest

/-- Leaves one of each run of equal characters that are in a set. -/
def squeeze (members : List Char) : List Char → List Char
  | a :: b :: rest =>
    if a == b && members.contains a then squeeze members (b :: rest)
    else a :: squeeze members (b :: rest)
  | short => short

/-- Replaces, deletes or squeezes characters. -/
def tr : Tool := fun process machine =>
  let options := Options.read [] [("delete", 'd'), ("squeeze-repeats", 's'), ("complement", 'c')]
    process.arguments
  let sets := options.operands.map fun text => charSet (text.length + 1) text.toList
  let complement := options.has 'c' || options.has 'C'
  let isTranslation := !options.has 'd' && !options.has 's'
  if isTranslation && options.operands.length = 1 then
    let wording := "missing operand after " ++ quoted (options.operands.headD "")
    misuse process machine 1 (wording ++ "\nTwo strings must be given when translating.")
  else
  match sets with
  | [] => misuse process machine 1 "missing operand"
  | first :: others =>
    let first :=
      if complement then (List.range 256).map Char.ofNat |>.filter fun c => !first.contains c
      else first
    let second := others.headD []
    let (input, machine) := machine.readAll process 0
    let table := first.zipIdx.reverse
    let swap (c : Char) : Char :=
      if second.isEmpty then c
      else
        match table.lookup c with
        | some i => second.getD i (second.getLastD c)
        | none => c
    let change (bytes : List UInt8) : List UInt8 :=
      let chars := (ByteText.ofBytes bytes).toList
      let changed :=
        if options.has 'd' then chars.filter fun c => !first.contains c else chars.map swap
      let squeezed :=
        if options.has 's' then squeeze (if second.isEmpty then first else second) changed else changed
      ByteText.toBytes (String.ofList squeezed)
    (0, pass process machine
      { bytes := change input.bytes, endless := change input.endless })

/-- The numbers that a list such as `1,3-5` names. -/
def inRanges (spec : String) (n : Nat) : Bool :=
  (spec.splitOn ",").any fun part =>
    match part.splitOn "-" with
    | [one] => one.toNat? == some n
    | [low, high] => (low.toNat?.getD 1) ≤ n && (high.toNat?.all fun h => n ≤ h)
    | _ => false

/-- Prints fields or characters of each line. -/
def cut : Tool := fun process machine =>
  let options := Options.read ['d', 'f', 'c', 'b', 'O'] [("delimiter", 'd'), ("fields", 'f'), ("characters", 'c'), ("bytes", 'b'),
    ("only-delimited", 's'), ("complement", 'C'), ("output-delimiter", 'O')] process.arguments
  let lists := options.given.filter fun entry => ['f', 'c', 'b'].contains entry.1
  if lists.isEmpty then misuse process machine 1 "you must specify a list of bytes, characters, or fields"
  else if lists.length != 1 then misuse process machine 1 "only one type of list may be specified"
  else
  let (inputs, good, machine) := wholeSources process machine options.operands
  let delimiter := (options.value? 'd').getD "\t"
  let pick (line : List Char) : Option (List Char) :=
    match options.value? 'f' with
    | some spec =>
      let fields := (String.ofList line).splitOn delimiter
      if fields.length = 1 then if options.has 's' then none else some line
      else
        let kept := fields.zipIdx.filterMap fun (field, i) =>
          if inRanges spec (i + 1) != options.has 'C' then some field else none
        some (((options.value? 'O').getD delimiter).intercalate kept).toList
    | none =>
      let spec := ((options.value? 'c').orElse fun _ => options.value? 'b').getD ""
      some (line.zipIdx.filterMap fun (c, i) =>
        if inRanges spec (i + 1) != options.has 'C' then some c else none)
  let lines := (inputs.flatMap fun entry => linesOf entry.2.bytes).filterMap pick
  (if good then 0 else 1, say process machine (unlines lines))

end MutantHunt.Sandbox.Tools
