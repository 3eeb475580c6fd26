import MutantHunt.Sandbox.Shell.Redirect

/-!
# Setting variables

What the assignments in front of a command do. `assignAll` sets variables for good, and `withAssignments`
only as long as something is done.
-/

namespace MutantHunt.Sandbox.Shell

section

variable (run : Runner)

/-- The element of an array that an index stands for. In a table it is a name, and otherwise a number. -/
def elementKey (name index : String) (sh : Shell) : String × Shell :=
  let (text, sh) := joinedText (capture run) (Word.ofText sh.dialect index) sh
  match sh.stored? name with
  | some (.table _) => (text, sh)
  | _ => if sh.goesOn then compute text sh else ("", sh)

/-- Splits an element of an array that says where it belongs. -/
def placedElement? (word : Word) : Option (String × Word) :=
  match splitAtEquals "" word with
  | some ('[' :: before, value) =>
    if before.getLast? == some ']' then some (String.ofList before.dropLast, value) else none
  | _ => none

/-- Adds elements to an array from a number on. -/
def addElements (name : String) : List String → Nat → Shell → Shell
  | [], _, sh => sh
  | text :: rest, n, sh => addElements name rest (n + 1) (storeElement sh name n.repr text)

/-- Adds names and elements in turn to a table. -/
def addPairs (name : String) : List String → Shell → Shell
  | key :: text :: rest, sh => addPairs name rest (storeElement sh name key text)
  | [key], sh => storeElement sh name key ""
  | [], sh => sh

/-- The number behind the last element of an array. -/
def nextNumber (sh : Shell) (name : String) : Nat :=
  match (sh.stored? name).map Value.numbered with
  | some elements => (elements.getLast?.map fun entry => entry.1 + 1).getD 0
  | none => 0

/-- Sets the elements of an array one after the other. `n` is the number of the next one that does not say
where it belongs. -/
def assignElements (name : String) : List Word → Nat → Shell → Shell
  | [], _, sh => sh
  | word :: rest, n, sh =>
    if !sh.goesOn then sh
    else
      match placedElement? word with
      | some (index, value) =>
        let (key, sh) := elementKey run name index sh
        let (text, sh) := joinedText (capture run) value sh
        if sh.goesOn then
          assignElements name rest ((key.toNat?).getD n + 1) (storeElement sh name key text)
        else sh
      | none =>
        let (texts, sh) := fields (capture run) [word] sh
        assignElements name rest (n + texts.length) (addElements name texts n sh)

/-- Sets an array. -/
def assignArray (name : String) (adds : Bool) (elements : List Word) (sh : Shell) : Shell :=
  let isTable :=
    match sh.stored? name with
    | some (.table _) => true
    | _ => false
  let start := if isTable then Value.table [] else .array []
  if sh.isMarked 'r' name then sh.store name start
  else
    let sh := if adds then Builtin.makeArray isTable name sh else sh.restore name start
    let placed := elements.any fun word => (placedElement? word).isSome
    if isTable && !placed then
      let (texts, sh) := fields (capture run) elements sh
      addPairs name texts sh
    else assignElements run name elements (nextNumber sh name) sh

/-- Carries out one assignment. -/
def assignOne (assignment : Assignment) (sh : Shell) : Shell :=
  match assignment with
  | .text name none adds word =>
    let (text, sh) := joinedText (capture run) word sh
    if sh.goesOn then Builtin.assign name none adds text sh else sh
  | .text name (some index) adds word =>
    let (key, sh) := elementKey run name index sh
    let (text, sh) := joinedText (capture run) word sh
    if sh.goesOn then Builtin.assign name (some key) adds text sh else sh
  | .array name adds elements => assignArray run name adds elements sh

/-- Sets variables one after the other. -/
def assignAll (assignments : List Assignment) (sh : Shell) : Shell :=
  assignments.foldl (fun sh assignment => if sh.goesOn then assignOne run assignment sh else sh) sh

/-- The name of the variable that an assignment sets. -/
def Assignment.name : Assignment → String
  | .text name _ _ _ | .array name _ _ => name

/-- Whether an assignment is allowed. -/
def Assignment.isAllowed (sh : Shell) (assignment : Assignment) : Bool :=
  !sh.isMarked 'r' assignment.name

/-- Does something with variables set that have their old values afterwards. One of the shells leaves out
those that are constant. -/
def withAssignments (assignments : List Assignment) (body : Shell → Shell) (sh : Shell) : Shell :=
  if assignments.isEmpty then body sh
  else
    let assignments := if sh.isBash then assignments.filter (Assignment.isAllowed sh) else assignments
    let old := assignments.map fun assignment =>
      (assignment.name, sh.stored? assignment.name, sh.exported.contains assignment.name)
    let set := (old.map Prod.fst).foldl Shell.export (assignAll run assignments sh)
    let after := if set.goesOn then body set else set
    old.foldl
      (fun sh (name, value, wasExported) =>
        let sh :=
          match value with
          | some value => sh.restore name value
          | none => { sh with bindings := sh.bindings.filter fun entry => entry.1 != name }
        if wasExported then sh
        else { sh with exported := sh.exported.filter (· != name) })
      after

end

end MutantHunt.Sandbox.Shell
