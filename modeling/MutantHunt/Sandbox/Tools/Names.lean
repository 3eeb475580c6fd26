import MutantHunt.Sandbox.Tools.Basic

/-!
# Tools that work on names

Tools that take paths apart or complete them, and what other tools need for naming files: the last name of a
path (`lastName`) and the letters of a mode (`modeLetters`).
-/

namespace MutantHunt.Sandbox.Tools

/-- The last name of a path. -/
def lastName (path : String) : String :=
  match (Files.namesOf path).getLast? with
  | some name => name
  | none => if path.isEmpty then "" else "/"

/-- The letters that say who may do what. -/
def modeLetters (item : Item) : String :=
  let kind :=
    match item with
    | .directory _ => "d"
    | .link _ => "l"
    | .queue _ _ => "p"
    | .sink | .endless _ => "c"
    | .file _ _ => "-"
  let three (shift special : Nat) (letter : Char) : String :=
    let bits := item.mode >>> shift
    let last : Char :=
      if item.mode &&& special != 0 then if bits &&& 1 != 0 then letter else letter.toUpper
      else if bits &&& 1 != 0 then 'x' else '-'
    (if bits &&& 4 != 0 then "r" else "-") ++ (if bits &&& 2 != 0 then "w" else "-") ++ last.toString
  kind ++ three 6 0o4000 's' ++ three 3 0o2000 's' ++ three 0 0o1000 't'

/-- The part of a path before its last name. -/
def parentName (path : String) : String :=
  let trimmed := path.toList.reverse.dropWhile (· == '/')
  let rest := trimmed.dropWhile (· != '/')
  if rest.isEmpty then if trimmed.isEmpty && path.startsWith "/" then "/" else "."
  else
    let outer := (rest.dropWhile (· == '/')).reverse
    if outer.isEmpty then "/" else String.ofList outer

/-- Prints what stands before the last name of each path. -/
def dirname : Tool := fun process machine =>
  let options := Options.read [] [] process.arguments
  if options.operands.isEmpty then misuse process machine 1 "missing operand"
  else
    (0, say process machine (String.join (options.operands.map fun p => parentName p ++ "\n")))

/-- A name without an ending, unless that is all there is of it. -/
def withoutEnding (name ending : String) : String :=
  if name.endsWith ending && name != ending then (name.dropEnd ending.length).toString else name

/-- Prints the last name of a path, without an ending if one is given. -/
def basename : Tool := fun process machine =>
  let options := Options.read ['s'] [("suffix", 's'), ("multiple", 'a'), ("zero", 'z')] process.arguments
  let print (names : List String) : Nat × Machine := (0, say process machine (String.join (names.map (· ++ "\n"))))
  match options.operands with
  | [] => misuse process machine 1 "missing operand"
  | path :: rest =>
    if options.has 'a' || options.has 's' then
      print ((path :: rest).map fun p => withoutEnding (lastName p) ((options.value? 's').getD ""))
    else
      match rest with
      | [] => print [lastName path]
      | [ending] => print [withoutEnding (lastName path) ending]
      | _ :: extra :: _ => misuse process machine 1 ("extra operand " ++ quoted extra)

/-- Prints the path of the directory it works in. -/
def pwd : Tool := fun process machine =>
  (0, say process machine (process.directory.path ++ "\n"))

/-- Prints the full paths of its operands. -/
def realpath : Tool := fun process machine =>
  let options := Options.read [] [("canonicalize-existing", 'e'), ("canonicalize-missing", 'm')]
    process.arguments
  if options.operands.isEmpty then misuse process machine 1 "missing operand"
  else
    options.operands.foldl
      (fun (status, machine) operand =>
        let found := machine.files.find process.directory operand
        let outer := (machine.files.locate process.directory operand).toOption.bind fun place =>
          if machine.files.isDirectory place.dropLast then some place else none
        match found, outer with
        | .ok (place, _), _ => (status, say process machine (place.path ++ "\n"))
        | .error .notFound, some place =>
          if options.has 'e' then fail process machine 1 (operand ++ ": No such file or directory")
          else (status, say process machine (place.path ++ "\n"))
        | .error e, _ => fail process machine 1 (operand ++ ": " ++ e.wording))
      (0, machine)

/-- Prints where links lead. -/
def readlink : Tool := fun process machine =>
  let options := Options.read [] [("canonicalize", 'f'), ("no-newline", 'n')] process.arguments
  let ending := if options.has 'n' then "" else "\n"
  if options.has 'f' || options.has 'e' || options.has 'm' then
    options.operands.foldl
      (fun (status, machine) operand =>
        match machine.files.locate process.directory operand with
        | .ok place =>
          if machine.files.isDirectory place.dropLast && (!options.has 'e' || (machine.files.get? place).isSome) then
            (status, say process machine (place.path ++ ending))
          else (1, machine)
        | .error _ => (1, machine))
      (0, machine)
  else
    options.operands.foldl
      (fun (status, machine) operand =>
        match machine.files.findEntry process.directory operand with
        | .ok (_, .link path) => (status, say process machine (path ++ ending))
        | _ => (1, machine))
      (if options.operands.isEmpty then 1 else 0, machine)

end MutantHunt.Sandbox.Tools
