import MutantHunt.Json.Skip

/-!
# Reading values of a known shape

The readers here know what they ask for, and say so when they find something else. Records are
written as an object, with members in any order and others among them, or as the list of their
fields. Choices are written as an object with the tag as its only key, or as the bare tag where the
choice has no content.

A repeated field is refused as soon as its key is read, a missing one when the record ends, and a
faulty value when it is met: of two faults the first in the text is reported.

Readers of lists and records take a bound on the length of the input. It is met by the length of the
whole text, so it runs out only where the input does.
-/

namespace MutantHunt.Json

/-! ## What was found instead -/

/-- Finishes a number that was met in the wrong place. -/
def refuseNumber (wanted : Wanted) (parsed : Except Fault (Number × Bytes)) : Fault :=
  match parsed with
  | .ok (number, _) => ShapeFault.wrongKind number.found wanted
  | .error fault => fault

/-- Finishes a word that was met in the wrong place. -/
def refuseWord (wanted : Wanted) (found : Found) (parsed : Except Fault Bytes) : Fault :=
  match parsed with
  | .ok _ => ShapeFault.wrongKind found wanted
  | .error fault => fault

/-- The fault of a value of another kind than asked for, given its first byte. A word, a number or a
string is read in full first, so that it can be named. -/
def refuse (wanted : Wanted) (b : UInt8) (rest : Bytes) : Fault :=
  if b = letterN then refuseWord wanted .null (completeWord restOfNull rest)
  else if b = letterT then refuseWord wanted (.boolean true) (completeWord restOfTrue rest)
  else if b = letterF then refuseWord wanted (.boolean false) (completeWord restOfFalse rest)
  else if b = minusSign then refuseNumber wanted (readNumber true rest)
  else if isDigit b then refuseNumber wanted (readNumber false (b :: rest))
  else if b = quoteMark then
    match readText rest with
    | .ok (text, _) => ShapeFault.wrongKind (.string text) wanted
    | .error fault => fault
  else if b = openBracket then ShapeFault.wrongKind .list wanted
  else if b = openBrace then ShapeFault.wrongKind .object wanted
  else SyntaxFault.expectedValue

/-! ## Scalars -/

/-- The natural number below `2 ^ bits` that a number is. -/
def wordOf (bits : Nat) : Number → Except Fault Nat
  | .floating x => .error (ShapeFault.wrongKind (.floating x) (.word bits))
  | .integer n =>
    if 0 ≤ n ∧ n.toNat < 1 <<< bits then .ok n.toNat
    else .error (ShapeFault.wrongValue (.integer n) (.word bits))

/-- Reads a natural number below `2 ^ bits`. -/
def readWord (bits : Nat) : Reader Nat := fun input =>
  match skipBlanks input with
  | [] => .error SyntaxFault.endInValue
  | b :: rest =>
    if b = minusSign then do
      let (number, rest) ← readNumber true rest
      (wordOf bits number).map (·, rest)
    else if isDigit b then do
      let (number, rest) ← readNumber false (b :: rest)
      (wordOf bits number).map (·, rest)
    else .error (refuse (.word bits) b rest)

/-- Reads a string. -/
def readString (wanted : Wanted) : Reader String := fun input =>
  match skipBlanks input with
  | [] => .error SyntaxFault.endInValue
  | b :: rest => if b = quoteMark then readText rest else .error (refuse wanted b rest)

/-- Reads a null. -/
def readUnit : Reader Unit := fun input =>
  match skipBlanks input with
  | [] => .error SyntaxFault.endInValue
  | b :: rest =>
    if b = letterN then (completeWord restOfNull rest).map ((), ·)
    else .error (refuse .unit b rest)

/-! ## Lists -/

/-- Whether a list goes on, after the elements so far. Moves in front of the next element, or stays
in front of the closing bracket. -/
def moreElements (first : Bool) (input : Bytes) : Except Fault (Bool × Bytes) :=
  match skipBlanks input with
  | [] => .error SyntaxFault.endInList
  | b :: rest =>
    if b = closeBracket then .ok (false, b :: rest)
    else if first then .ok (true, b :: rest)
    else if b = comma then
      match skipBlanks rest with
      | [] => .error SyntaxFault.endInValue
      | c :: more =>
        if c = closeBracket then .error SyntaxFault.trailingComma else .ok (true, c :: more)
    else .error SyntaxFault.expectedCommaOrBracket

/-- Reads the bracket that closes a list. -/
def endList (input : Bytes) : Except Fault Bytes :=
  match skipBlanks input with
  | [] => .error SyntaxFault.endInList
  | b :: rest =>
    if b = closeBracket then .ok rest
    else if b = comma then
      match skipBlanks rest with
      | c :: _ =>
        if c = closeBracket then .error SyntaxFault.trailingComma
        else .error SyntaxFault.trailingCharacters
      | [] => .error SyntaxFault.trailingCharacters
    else .error SyntaxFault.trailingCharacters

/-- Reads the elements of a list and its closing bracket. `taken` holds those before, last first. -/
def readElements (item : Reader α) : Nat → Bool → List α → Bytes → Except Fault (List α × Bytes)
  | 0, _, _, _ => .error SyntaxFault.endInList
  | n + 1, first, taken, input =>
    match moreElements first input with
    | .error fault => .error fault
    | .ok (false, input) => (endList input).map (taken.reverse, ·)
    | .ok (true, input) =>
      match item input with
      | .error fault => .error fault
      | .ok (a, input) => readElements item n false (a :: taken) input

/-- Reads a list. -/
def readList (bound : Nat) (item : Reader α) : Reader (List α) := fun input =>
  match skipBlanks input with
  | [] => .error SyntaxFault.endInValue
  | b :: rest =>
    if b = openBracket then readElements item bound true [] rest else .error (refuse .list b rest)

/-! ## Records -/

/-- A field of a record, for a record that is being filled. -/
structure Field (σ : Type) where
  name : String
  /-- Whether the field was read already. -/
  isGiven : σ → Bool
  /-- Reads the value of the field. -/
  read : σ → Reader σ

/-- Whether an object goes on, after the members so far. Moves behind the opening quote of the next
key, or stays in front of the closing brace. -/
def moreMembers (first : Bool) (input : Bytes) : Except Fault (Bool × Bytes) :=
  let key (input : Bytes) : Except Fault (Bool × Bytes) :=
    match input with
    | [] => .error SyntaxFault.endInValue
    | c :: more =>
      if c = quoteMark then .ok (true, more)
      else if c = closeBrace then .error SyntaxFault.trailingComma
      else .error SyntaxFault.keyNotString
  match skipBlanks input with
  | [] => .error SyntaxFault.endInObject
  | b :: rest =>
    if b = closeBrace then .ok (false, b :: rest)
    else if first then key (b :: rest)
    else if b = comma then key (skipBlanks rest)
    else .error SyntaxFault.expectedCommaOrBrace

/-- Reads the brace that closes an object. -/
def endObject (input : Bytes) : Except Fault Bytes :=
  match skipBlanks input with
  | [] => .error SyntaxFault.endInObject
  | b :: rest =>
    if b = closeBrace then .ok rest
    else if b = comma then .error SyntaxFault.trailingComma
    else .error SyntaxFault.trailingCharacters

/-- Reads the value of a member: that of a known field, which must be new, or any other. -/
def readMember (fields : List (Field σ)) (bound : Nat) (key : String) (s : σ) (input : Bytes) :
    Except Fault (σ × Bytes) :=
  match fields.find? fun field => field.name == key with
  | some field =>
    if field.isGiven s then .error (ShapeFault.repeatedField field.name)
    else do
      let input ← readColon input
      field.read s input
  | none => do
    let input ← readColon input
    let input ← skipValue bound input
    .ok (s, input)

/-- Reads the members of an object up to its closing brace. -/
def readMembers (fields : List (Field σ)) : Nat → Bool → σ → Bytes → Except Fault (σ × Bytes)
  | 0, _, _, _ => .error SyntaxFault.endInObject
  | n + 1, first, s, input =>
    match moreMembers first input with
    | .error fault => .error fault
    | .ok (false, input) => .ok (s, input)
    | .ok (true, input) =>
      match readText input with
      | .error fault => .error fault
      | .ok (key, input) =>
        match readMember fields n key s input with
        | .error fault => .error fault
        | .ok (s, input) => readMembers fields n false s input

/-- Reads the fields of a record from a list, in the order of their declaration. -/
def readPositions (wanted : Wanted) : List (Field σ) → Nat → σ → Bytes → Except Fault (σ × Bytes)
  | [], _, s, input => .ok (s, input)
  | field :: fields, index, s, input =>
    match moreElements (index == 0) input with
    | .error fault => .error fault
    | .ok (false, _) => .error (ShapeFault.tooShort index wanted)
    | .ok (true, input) =>
      match field.read s input with
      | .error fault => .error fault
      | .ok (s, input) => readPositions wanted fields (index + 1) s input

/-- Reads a record: its members one by one into `empty`, then `complete`, which knows the fields
that must not be missing. -/
def readRecord (name : String) (bound : Nat) (fields : List (Field σ)) (empty : σ)
    (complete : σ → Except Fault α) : Reader α := fun input =>
  let wanted := Wanted.record name fields.length
  match skipBlanks input with
  | [] => .error SyntaxFault.endInValue
  | b :: rest =>
    if b = openBrace then do
      let (s, rest) ← readMembers fields bound true empty rest
      let a ← complete s
      (endObject rest).map (a, ·)
    else if b = openBracket then do
      let (s, rest) ← readPositions wanted fields 0 empty rest
      let a ← complete s
      (endList rest).map (a, ·)
    else .error (refuse wanted b rest)

/-- The value of a field that must not be missing. -/
def required (name : String) : Option α → Except Fault α
  | some a => .ok a
  | none => .error (ShapeFault.missingField name)

/-- A field of a record with one field. -/
def onlyField (name : String) (item : Reader α) : Field (Option α) where
  name := name
  isGiven := Option.isSome
  read _ := some <$> item

/-- The first field of a record with two fields. -/
def firstField (name : String) (item : Reader α) : Field (Option α × Option β) where
  name := name
  isGiven s := s.1.isSome
  read s := (fun a => (some a, s.2)) <$> item

/-- The second field of a record with two fields. -/
def secondField (name : String) (item : Reader β) : Field (Option α × Option β) where
  name := name
  isGiven s := s.2.isSome
  read s := (fun b => (s.1, some b)) <$> item

/-- Reads a record with one field. -/
def readSingle (name : String) (bound : Nat) (field : String) (item : Reader α) : Reader α :=
  readRecord name bound [onlyField field item] none (required field)

/-- Reads a record with two fields. -/
def readPair (name : String) (bound : Nat) (field₁ : String) (item₁ : Reader α) (field₂ : String)
    (item₂ : Reader β) : Reader (α × β) :=
  readRecord name bound [firstField field₁ item₁, secondField field₂ item₂] (none, none) fun s => do
    let a ← required field₁ s.1
    let b ← required field₂ s.2
    .ok (a, b)

/-! ## Choices -/

/-- The choice that a tag stands for. -/
def choiceOf (choices : List (String × τ)) (tag : String) : Except Fault τ :=
  match choices.find? fun choice => choice.1 == tag with
  | some choice => .ok choice.2
  | none => .error (ShapeFault.unknownTag tag (choices.map Prod.fst))

/-- Reads a tag and its content, after the opening brace. The tag is the only key. -/
def readTagged (choices : List (String × τ)) (content : τ → Reader α) : Reader α := fun input =>
  match moreMembers true input with
  | .error fault => .error fault
  | .ok (false, _) => .error SyntaxFault.expectedValue
  | .ok (true, rest) => do
    let (tag, rest) ← readText rest
    let choice ← choiceOf choices tag
    let rest ← readColon rest
    let (a, rest) ← content choice rest
    match skipBlanks rest with
    | [] => .error SyntaxFault.endInObject
    | c :: more => if c = closeBrace then .ok (a, more) else .error SyntaxFault.expectedValue

/-- Reads a choice: `content` reads what belongs to a tag, `bare` is for a tag without content. -/
def readChoice (choices : List (String × τ)) (content : τ → Reader α) (bare : τ → Except Fault α) :
    Reader α := fun input =>
  match skipBlanks input with
  | [] => .error SyntaxFault.endInValue
  | b :: rest =>
    if b = openBrace then readTagged choices content rest
    else if b = quoteMark then do
      let (tag, rest) ← readText rest
      let choice ← choiceOf choices tag
      (bare choice).map (·, rest)
    else .error SyntaxFault.expectedValue

/-- Reads a choice whose tags have no content: a bare tag, or a tag with a null. -/
def readBareChoice (choices : List (String × τ)) : Reader τ :=
  readChoice choices (fun choice => (fun _ => choice) <$> readUnit) .ok

/-! ## Documents -/

/-- Reads a whole text: nothing but blanks may follow the value. -/
def readDocument (reader : Reader α) (input : Bytes) : Except Fault α := do
  let (a, rest) ← reader input
  match skipBlanks rest with
  | [] => .ok a
  | _ :: _ => .error SyntaxFault.trailingCharacters

end MutantHunt.Json
