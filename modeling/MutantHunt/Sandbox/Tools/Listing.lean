import MutantHunt.Sandbox.Tools.Names

/-!
# Listing directories

`ls` prints the names in directories, in ascending order, with what is known about them where that is asked
for.
-/

namespace MutantHunt.Sandbox.Tools

/-- What is shown behind a name for what it leads to. -/
def nameMark (options : Options) (item : Item) : String :=
  match item with
  | .directory _ => if options.has 'F' || options.has 'p' then "/" else ""
  | .link _ => if options.has 'F' then "@" else ""
  | .queue _ _ => if options.has 'F' then "|" else ""
  | _ => if options.has 'F' && item.mode &&& 0o111 != 0 then "*" else ""

/-- Names, with what they lead to, in the order in which they are shown. -/
def inOrder (options : Options) (entries : List (String × Item)) : List (String × Item) :=
  let entries :=
    if options.has 'S' then entries.mergeSort fun a b => decide (b.2.size ≤ a.2.size) else entries
  if options.has 'r' then entries.reverse else entries

/-- The lines that names are shown in, with what they lead to. -/
def nameLines (options : Options) (entries : List (String × Item)) : String :=
  let entries := inOrder options entries
  let shown := entries.map fun (name, item) =>
    (if options.has 'Q' then "\"" ++ name ++ "\"" else name) ++ nameMark options item
  if options.has 'l' then
    let width := entries.foldl (fun width entry => max width entry.2.size.repr.length) 0
    String.join ((entries.zip shown).map fun ((_, item), shown) =>
      let target := match item with | .link path => " -> " ++ path | _ => ""
      let size := item.size.repr
      modeLetters item ++ " 1 user user " ++ String.ofList (List.replicate (width - size.length) ' ') ++ size
        ++ " Jan  1 00:00 " ++ shown ++ target ++ "\n")
  else if options.has 'm' then
    if shown.isEmpty then "" else ", ".intercalate shown ++ "\n"
  else String.join (shown.map (· ++ "\n"))

/-- The line above the names in a directory that says how much they take. -/
def totalLine (options : Options) (entries : List (String × Item)) : String :=
  if options.has 'l' then
    let blocks := entries.foldl (fun total entry => total + (entry.2.size + 4095) / 4096 * 4) 0
    "total " ++ blocks.repr ++ "\n"
  else ""

/-- Prints the names in a directory, and in those inside it where that is asked for. The number bounds how
deep directories stand inside directories. -/
def listDirectory (options : Options) (files : Files) (titled : Bool) :
    Nat → String → Place → Except OsError String
  | 0, _, _ => .error .tooManyLinks
  | n + 1, path, place => do
    let _ ← files.listing place
    let entries := (files.inside place).filter fun entry =>
      options.has 'a' || options.has 'A' || !entry.1.startsWith "."
    let dots := if options.has 'a' then [(".", Item.directory openMode), ("..", .directory openMode)] else []
    let here :=
      (if titled then path ++ ":\n" else "") ++ totalLine options (dots ++ entries) ++ nameLines options (dots ++ entries)
    if options.has 'R' then
      let inner := entries.filter fun entry => entry.2.isDirectory
      let more ← inner.mapM fun entry =>
        (listDirectory options files true n (path ++ "/" ++ entry.1) (place ++ [entry.1])).map ("\n" ++ ·)
      .ok (here ++ String.join more)
    else .ok here

/-- Prints the names in directories. -/
def ls : Tool := fun process machine =>
  let options := Options.read ['I', 'w', 'T'] [("all", 'a'), ("almost-all", 'A'), ("directory", 'd'),
    ("reverse", 'r'), ("recursive", 'R'), ("classify", 'F'), ("quote-name", 'Q')] process.arguments
  let operands := if options.operands.isEmpty then ["."] else options.operands
  let operands := operands.mergeSort fun a b => decide (a ≤ b)
  let files := machine.files
  let find (operand : String) : Except OsError (Place × Item) :=
    match files.find process.directory operand, options.has 'l' || options.has 'd' with
    | .ok (place, .directory mode), false => .ok (place, .directory mode)
    | .ok (place, .directory mode), true =>
      match files.findEntry process.directory operand with
      | .ok (entry, .link path) => .ok (entry, .link path)
      | _ => .ok (place, .directory mode)
    | _, _ => files.findEntry process.directory operand
  let found := operands.map fun operand => (operand, find operand)
  let (status, machine) := found.foldl
    (fun (status, machine) (operand, found) =>
      match found with
      | .error e => fail process machine 2 ("cannot access '" ++ operand ++ "': " ++ e.wording)
      | .ok _ => (status, machine))
    (0, machine)
  let plain := found.filterMap fun (operand, found) =>
    match found with
    | .ok (_, item) => if item.isDirectory && !options.has 'd' then none else some (operand, item)
    | .error _ => none
  let machine := say process machine (nameLines options plain)
  let directories := found.filterMap fun (operand, found) =>
    match found with
    | .ok (place, item) => if item.isDirectory && !options.has 'd' then some (operand, place) else none
    | .error _ => none
  let titled := operands.length > 1 || options.has 'R'
  directories.zipIdx.foldl
    (fun (status, machine) ((operand, place), i) =>
      match listDirectory options files titled (files.items.length + 2) operand place with
      | .ok text =>
        (status, say process machine ((if i = 0 && plain.isEmpty then "" else "\n") ++ text))
      | .error e => fail process machine 2 ("cannot open directory '" ++ operand ++ "': " ++ e.wording))
    (status, machine)

end MutantHunt.Sandbox.Tools
