import MutantHunt.Sandbox.Shell.Arithmetic
import MutantHunt.Sandbox.Shell.Braces
import MutantHunt.Sandbox.Shell.Pattern
import MutantHunt.Sandbox.Shell.State

/-!
# What words become

Before a command is run, its words become *fields*: variables and commands in them are replaced by their
values, what was replaced without quotes is split at separators, and patterns become the names of files
they fit. `fields` does all this; `joined` only replaces, for places that take exactly one field.

Running a command inside a word is left to whoever uses this module: it is passed as `capture`, which
gives what a script prints.
-/

namespace MutantHunt.Sandbox.Shell

/-- Runs a script beside the current one and gives what it prints. -/
abbrev Capture := String → Shell → String × Shell

/-- A piece of what a word becomes. -/
inductive Chunk where
  /-- Text that stays as it is. -/
  | fixed (text : String) (quoted : Bool)
  /-- Text that is split at separators. -/
  | split (text : String)
  /-- One field ends here, and another starts. -/
  | gap
  deriving DecidableEq, Repr, Inhabited

/-- Puts gaps between texts. -/
def gapped (quoted : Bool) : List String → List Chunk
  | [] => []
  | [text] => [if quoted then .fixed text true else .split text]
  | text :: rest => (if quoted then .fixed text true else .split text) :: .gap :: gapped quoted rest

/-- The text of chunks as a single field. -/
def joinChunks (chunks : List Chunk) : List Glyph :=
  chunks.flatMap fun chunk =>
    match chunk with
    | .fixed text quoted => Glyph.ofText quoted text
    | .split text => Glyph.ofText false text
    | .gap => [⟨' ', false⟩]

/-- The directory that a name behind a tilde stands for. Without a name, it is that of the user. -/
def tildeDirectory? (sh : Shell) (name : String) : Option String :=
  match name with
  | "" => sh.value? "HOME"
  | "root" => some "/root"
  | "+" => if sh.isBash then some sh.process.directory.path else none
  | "-" => if sh.isBash then sh.value? "OLDPWD" else none
  | _ => none

/-- Replaces a tilde at the beginning of a word, with the name behind it, by the directory that they stand for.
-/
def expandTilde (sh : Shell) (word : Word) : Word :=
  match word with
  | .text text false :: rest =>
    match text.toList with
    | '~' :: more =>
      let name := more.takeWhile (· != '/')
      let behind := more.drop name.length
      match tildeDirectory? sh (String.ofList name) with
      | some directory =>
        if behind.isEmpty && !rest.isEmpty then word
        else .text directory true :: .text (String.ofList behind) false :: rest
      | none => word
    | _ => word
  | _ => word

/-! ## Arithmetic -/

/-- The variables as numbers are computed with them. -/
def quantities (sh : Shell) : Expression.Variables :=
  let kept := ["RANDOM", "SECONDS", "LINENO"].filterMap fun name => (sh.kept? name).map fun text => (name, text)
  let stored := sh.bindings.flatMap fun (name, value) =>
    match value with
    | .text text => [(name, text)]
    | .array elements =>
      (name, value.toText) :: elements.map fun (n, text) => (Expression.elementName name n, text)
    | .table elements => elements.map fun (key, text) => (name ++ "[" ++ key ++ "]", text)
  stored ++ kept

/-- Sets an element of an array by the text of its index. -/
def storeElement (sh : Shell) (name key value : String) : Shell :=
  let value := sh.recased name value
  match sh.stored? name, key.toInt? with
  | some (.table elements), _ =>
    let changed :=
      if elements.any fun entry => entry.1 == key then
        elements.map fun entry => if entry.1 == key then (key, value) else entry
      else elements ++ [(key, value)]
    sh.store name (.table changed)
  | old, some n =>
    let elements := (old.map Value.numbered).getD []
    let next : Nat := (elements.getLast?.map fun entry => entry.1 + 1).getD 0
    let place : Int := if n < 0 then n + next else n
    if place < 0 then sh.stop (name ++ "[" ++ key ++ "]: bad array subscript")
    else sh.store name (.array (Value.insert place.toNat value elements))
  | _, none => sh.stop (name ++ "[" ++ key ++ "]: bad array subscript")

/-- Sets what an expression set. -/
def storeQuantity (name value : String) (sh : Shell) : Shell :=
  match name.splitOn "[" with
  | [name, index] => storeElement sh name (String.ofList index.toList.dropLast) value
  | _ => sh.storeText name value

/-- The value of an expression, which may set variables. -/
def compute? (text : String) (sh : Shell) : Option Int × Shell :=
  let before := quantities sh
  match Expression.evaluate sh.isBash text before with
  | .ok (value, after) =>
    let set := after.take (after.length - before.length)
    (some value, set.foldr (fun (name, value) sh => storeQuantity name value sh) sh)
  | .error failure => (none, sh.abort failure.plainWording (sh.spoken ++ failure.richWording))

/-- The value of an expression as text. -/
def compute (text : String) (sh : Shell) : String × Shell :=
  match compute? text sh with
  | (some value, sh) => (toString value, sh)
  | (none, sh) => ("", sh)

/-! ## Variables -/

/-- Whether there is a value, which must not be empty where that is asked for. -/
def isGiven (value? : Option String) (nonempty : Bool) : Bool :=
  value?.any fun text => !(nonempty && text.isEmpty)

/-- What a variable in a word stands for. -/
inductive Meaning where
  | one (value : Option String)
  /-- All elements of an array, or all parameters. With a star they may be joined. -/
  | all (values : List String) (star : Bool)
  deriving Repr

/-- The value as one text, if there is one. -/
def Meaning.value? : Meaning → Option String
  | one value => value
  | all values _ => if values.isEmpty then none else some (" ".intercalate values)

/-- Does the same to each text. -/
def Meaning.map (f : String → String) : Meaning → Meaning
  | one value => .one (value.map f)
  | all values star => .all (values.map f) star

/-- The chunks that a meaning gives. -/
def Meaning.chunks (sh : Shell) (quoted : Bool) : Meaning → List Chunk
  | one value => [if quoted then .fixed (value.getD "") true else .split (value.getD "")]
  | all values star =>
    if quoted && star then [.fixed ((String.ofList (sh.separators.take 1)).intercalate values) true]
    else gapped quoted values

/-- A part of a text, from an offset on and up to a length. A negative offset counts from the end, and a
negative length says where to end before it. -/
def sliceText (offset : Int) (size : Option Int) (text : String) : String :=
  let length : Int := text.length
  let start := if offset < 0 then offset + length else offset
  let stop :=
    match size with
    | some n => if n < 0 then length + n else start + n
    | none => length
  if start < 0 || stop < start then "" else ((text.drop start.toNat).take (stop - start).toNat).toString

/-- Some of the elements of a list. -/
def sliceList {α : Type} (offset : Int) (size : Option Int) (items : List α) : List α :=
  let start := if offset < 0 then offset + items.length else offset
  if start < 0 then []
  else
    let rest := items.drop start.toNat
    match size with
    | some n => rest.take n.toNat
    | none => rest

/-- A text in single quotes. -/
def inQuotes (text : String) : String :=
  "\x27" ++ text.replace "\x27" "\x27\\\x27\x27" ++ "\x27"

/-- A text in quotes, where single quotes stand between double ones. The number bounds how many characters are
left. -/
def mixQuotes : Nat → List Char → List Char
  | 0, text => text
  | n + 1, text =>
    let plain := text.takeWhile (· != '\x27')
    let marks := (text.drop plain.length).takeWhile (· == '\x27')
    let rest := text.drop (plain.length + marks.length)
    ['\x27'] ++ plain ++ ['\x27'] ++ (if marks.isEmpty then [] else ['"'] ++ marks ++ ['"'])
      ++ if rest.isEmpty then [] else mixQuotes n rest

/-- A text in the quotes of a shell. -/
def quote (sh : Shell) (text : String) : String :=
  sh.wording (String.ofList (mixQuotes text.length text.toList)) (inQuotes text)

section

variable (capture : Capture)

mutual

/-- Replaces a part of a word. The number bounds how deep words stand inside words. -/
def expandPart : Nat → WordPart → Shell → List Chunk × Shell
  | 0, _, sh => ([], sh)
  | n + 1, part, sh =>
    match part with
    | .text text quoted => ([.fixed text quoted], sh)
    | .command script quoted =>
      let (output, sh) := capture script sh
      let text := String.ofList (output.toList.reverse.dropWhile (· == '\n')).reverse
      ([if quoted then .fixed text true else .split text], sh)
    | .arithmetic expression quoted =>
      let (chunks, sh) := expandWord n (Word.ofQuoted sh.dialect expression) sh
      let (text, sh) := if sh.goesOn then compute (Glyph.text (joinChunks chunks)) sh else ("", sh)
      ([if quoted then .fixed text true else .split text], sh)
    | .channel script prints =>
      let (output, sh) := if prints then capture script sh else ("", sh)
      let number := 63 - (sh.machine.files.names ["dev", "fd"]).length
      let content := ByteText.toBytes output
      let machine := sh.machine.change fun files =>
        files.set ["dev", "fd", number.repr] (.file content 0o600)
      ([.fixed ("/dev/fd/" ++ number.repr) true], { sh with machine })
    | .variable name index use quoted =>
      if name.startsWith "!" && name.length > 1 then
        let target := (name.drop 1).toString
        match index with
        | some "@" | some "*" =>
          ((Meaning.all (((sh.contents? target).map Value.keys).getD []) (index == some "*")).chunks sh quoted, sh)
        | _ =>
          if target.endsWith "*" || target.endsWith "@" then
            let start := String.ofList target.toList.dropLast
            let names := (sh.bindings.map Prod.fst).filter fun other => other.startsWith start
            let names := names.mergeSort fun a b => decide (a ≤ b)
            ((Meaning.all names (target.endsWith "*")).chunks sh quoted, sh)
          else
            let (chunks, sh) := expandPart n (.variable target index .value true) sh
            match braced sh.dialect quoted (Glyph.text (joinChunks chunks)).toList with
            | .variable name index _ _ =>
              if name.isEmpty then ([], sh.stop (target ++ ": invalid indirect expansion"))
              else expandPart n (.variable name index use quoted) sh
            | _ => ([], sh)
      else
      let (meaning, sh) : Meaning × Shell :=
        match name, index with
        | "@", none => (.all sh.parameters false, sh)
        | "*", none => (.all sh.parameters true, sh)
        | _, none => (.one (sh.value? name), sh)
        | _, some "@" => (.all (((sh.contents? name).map Value.toList).getD []) false, sh)
        | _, some "*" => (.all (((sh.contents? name).map Value.toList).getD []) true, sh)
        | _, some index =>
          let (chunks, sh) := expandWord n (Word.ofText sh.dialect index) sh
          let key := Glyph.text (joinChunks chunks)
          match sh.contents? name with
          | some (.table elements) => (.one (elements.lookup key), sh)
          | value =>
            let (place, sh) := compute? key sh
            let elements := (value.map Value.numbered).getD []
            let next : Nat := (elements.getLast?.map fun entry => entry.1 + 1).getD 0
            let place := (place.getD 0)
            let place := if place < 0 then place + next else place
            (.one (if place < 0 then none else elements.lookup place.toNat), sh)
      let value? := meaning.value?
      let shown (text : String) : List Chunk := [if quoted then .fixed text true else .split text]
      let replaced (word : String) (sh : Shell) : List Chunk × Shell :=
        if quoted then
          let (chunks, sh) := expandWord n (Word.ofQuoted sh.dialect (Word.unquoted word)) sh
          (if chunks.isEmpty then [.fixed "" true] else chunks, sh)
        else
          let (chunks, sh) := expandWord n (expandTilde sh (Word.ofText sh.dialect word)) sh
          let chunks := chunks.map fun chunk =>
            match chunk with
            | .fixed text false => .split text
            | other => other
          (chunks, sh)
      let pattern (text : String) (sh : Shell) : List PatternPart × Shell :=
        let (chunks, sh) := expandWord n (Word.ofText sh.dialect text) sh
        (PatternPart.read (sh.features.contains "extglob") (joinChunks chunks), sh)
      let number (text : String) (sh : Shell) : Int × Shell :=
        let (chunks, sh) := expandWord n (Word.ofQuoted sh.dialect text) sh
        let (value, sh) := compute? (Glyph.text (joinChunks chunks)) sh
        (value.getD 0, sh)
      if !sh.goesOn then ([], sh)
      else
      match use with
      | .value =>
        match meaning with
        | .one none =>
          if sh.options.contains 'u' then ([], sh.miss name index)
          else (meaning.chunks sh quoted, sh)
        | _ => (meaning.chunks sh quoted, sh)
      | .length =>
        match meaning with
        | .all values _ => (shown values.length.repr, sh)
        | .one none =>
          if sh.options.contains 'u' then ([], sh.miss name index)
          else (shown "0", sh)
        | .one (some text) => (shown text.length.repr, sh)
      | .otherwise word nonempty =>
        if isGiven value? nonempty then (meaning.chunks sh quoted, sh) else replaced word sh
      | .assign word nonempty =>
        if isGiven value? nonempty then (meaning.chunks sh quoted, sh)
        else
          let (chunks, sh) := replaced word sh
          let text := Glyph.text (joinChunks chunks)
          if isName name then
            match index with
            | some index => (shown text, storeElement sh name index text)
            | none => (shown text, sh.storeText name text)
          else
            ([], sh.abort (name ++ ": bad variable name") ("$" ++ name ++ ": cannot assign in this way"))
      | .demand word nonempty =>
        if isGiven value? nonempty then (meaning.chunks sh quoted, sh)
        else
          let (chunks, sh) := replaced word sh
          let text := Glyph.text (joinChunks chunks)
          let unset := if nonempty then sh.wording "not set or null" "null or not set" else "not set"
          let message := name ++ ": " ++ (if text.isEmpty then "parameter " ++ unset else text)
          ([], sh.abandon message message)
      | .instead word nonempty => if isGiven value? nonempty then replaced word sh else (shown "", sh)
      | .cut text front longest =>
        let (parts, sh) := pattern text sh
        let cut := if front then cutFront parts longest else cutBack parts longest
        ((meaning.map cut).chunks sh quoted, sh)
      | .slice offset size =>
        let (offset, sh) := number offset sh
        let (size, sh) :=
          match size with
          | some text =>
            let (size, sh) := number text sh
            (some size, sh)
          | none => (none, sh)
        match meaning with
        | .one value => (shown (sliceText offset size (value.getD "")), sh)
        | .all values star =>
          let items := if index.isNone then sh.process.name :: values else values
          ((Meaning.all (sliceList offset size items) star).chunks sh quoted, sh)
      | .replace text replacement every atFront =>
        let (parts, sh) := pattern text sh
        let (chunks, sh) := expandWord n (Word.ofText sh.dialect replacement) sh
        let replacement := Glyph.text (joinChunks chunks)
        ((meaning.map (replaceFits parts every atFront replacement)).chunks sh quoted, sh)
      | .recase text upper every =>
        let (parts, sh) := pattern text sh
        ((meaning.map (recaseFits parts upper every)).chunks sh quoted, sh)
      | .transform letter =>
        let change :=
          match letter with
          | 'Q' => inQuotes
          | 'U' => String.map Char.toUpper
          | 'L' => String.map Char.toLower
          | 'u' => recaseFits [] true false
          | _ => id
        ((meaning.map change).chunks sh quoted, sh)
      | .senseless text =>
        ([], sh.abort "Bad substitution" ("$\x7b" ++ text ++ "\x7d: bad substitution"))

/-- Replaces all parts of a word. -/
def expandWord : Nat → Word → Shell → List Chunk × Shell
  | 0, _, sh => ([], sh)
  | _ + 1, [], sh => ([], sh)
  | n + 1, part :: rest, sh =>
    if sh.goesOn then
      let (chunks, sh) := expandPart n part sh
      let (more, sh) := expandWord n rest sh
      (chunks ++ more, sh)
    else ([], sh)

end

/-- How deep words may stand inside words, and how many parts a word may have. -/
def expansionDepth : Nat := 10000

/-- What a word becomes where exactly one field is wanted. -/
def joined (word : Word) (sh : Shell) : List Glyph × Shell :=
  let (chunks, sh) := expandWord capture expansionDepth (expandTilde sh word) sh
  (joinChunks chunks, sh)

/-- The text of what a word becomes where exactly one field is wanted. -/
def joinedText (word : Word) (sh : Shell) : String × Shell :=
  let (glyphs, sh) := joined capture word sh
  (Glyph.text glyphs, sh)

end

/-! ## Splitting -/

/-- Fields that are being built. -/
structure Fields where
  /-- Finished fields, the latest first. -/
  done : List (List Glyph) := []
  /-- The field being built, if one has started; its latest glyph first. -/
  current : Option (List Glyph) := none
  /-- Whether blanks have just ended a field. -/
  afterBlank : Bool := false

namespace Fields

/-- Adds glyphs to the current field, and starts one if there is none. -/
def add (fields : Fields) (glyphs : List Glyph) : Fields :=
  { fields with current := some (glyphs.reverse ++ fields.current.getD []), afterBlank := false }

/-- Ends the current field, if one has started. -/
def stop (fields : Fields) : Fields :=
  match fields.current with
  | some glyphs => { fields with done := glyphs.reverse :: fields.done, current := none }
  | none => fields

/-- Ends the current field, which may be empty. -/
def cutHere (fields : Fields) : Fields :=
  { done := (fields.current.getD []).reverse :: fields.done }

/-- Adds a character of text that is split. -/
def addSplit (separators : List Char) (fields : Fields) (c : Char) : Fields :=
  if !separators.contains c then fields.add [⟨c, false⟩]
  else if c == ' ' || c == '\t' || c == '\n' then
    match fields.current with
    | some _ => { fields.stop with afterBlank := true }
    | none => fields
  else if fields.afterBlank && fields.current.isNone then { fields with afterBlank := false }
  else fields.cutHere

/-- Adds a chunk. -/
def addChunk (separators : List Char) (fields : Fields) : Chunk → Fields
  | .fixed text quoted =>
    if text.isEmpty && !quoted then fields else fields.add (Glyph.ofText quoted text)
  | .split text => text.toList.foldl (addSplit separators) fields
  | .gap => fields.stop

end Fields

/-- Splits chunks into fields. -/
def splitChunks (separators : List Char) (chunks : List Chunk) : List (List Glyph) :=
  (chunks.foldl (Fields.addChunk separators) {}).stop.done.reverse

/-! ## Names of files -/

/-- Splits glyphs at slashes. -/
def splitPath : List Glyph → List (List Glyph)
  | [] => [[]]
  | g :: rest =>
    match splitPath rest with
    | part :: parts => if g.char == '/' then [] :: part :: parts else (g :: part) :: parts
    | [] => [[g]]

/-- The paths that fit a pattern given part by part, behind those found so far. -/
def matchPaths (sh : Shell) : List (List Glyph) → List String → List String
  | [], found => found
  | part :: rest, found =>
    let files := sh.machine.files
    let dotted := (part.head?.map Glyph.char) == some '.'
    let next :=
      if isPattern part then
        let parts := PatternPart.read (sh.features.contains "extglob") part
        found.flatMap fun base =>
          match files.locate sh.process.directory (if base.isEmpty then "." else base) with
          | .ok place =>
            let names := (files.listing place).toOption.getD []
            let names := if dotted && !sh.isBash then "." :: ".." :: names else names
            let names := names.filter fun name =>
              PatternPart.isFor parts name.toList
                && (!name.startsWith "." || dotted || sh.features.contains "dotglob")
            names.map fun name => base ++ name
          | .error _ => []
      else found.map fun base => base ++ Glyph.text part
    let next := if rest.isEmpty then next else next.map (· ++ "/")
    matchPaths sh rest next

/-- The names of files that a field fits, or the field itself if there are none. -/
def expandPath (sh : Shell) (field : List Glyph) : List String :=
  if !isPattern field || sh.options.contains 'f' then [Glyph.text field]
  else
    let found := matchPaths sh (splitPath field) [""]
    let found := found.filter fun path =>
      (sh.machine.files.findEntry sh.process.directory path).toOption.isSome
    if !found.isEmpty then found
    else if sh.features.contains "nullglob" then []
    else [Glyph.text field]

/-- The fields that a word becomes once its braces are expanded. -/
def fieldsOfWord (capture : Capture) (word : Word) (sh : Shell) : List String × Shell :=
  let (chunks, sh) := expandWord capture expansionDepth (expandTilde sh word) sh
  ((splitChunks sh.separators chunks).flatMap (expandPath sh), sh)

/-- The fields that words become. -/
def fieldsOfWords (capture : Capture) : List Word → Shell → List String × Shell
  | [], sh => ([], sh)
  | word :: rest, sh =>
    if sh.goesOn then
      let (here, sh) := fieldsOfWord capture word sh
      let (more, sh) := fieldsOfWords capture rest sh
      (here ++ more, sh)
    else ([], sh)

/-- The fields that words become. Where braces are known, they come first. -/
def fields (capture : Capture) (words : List Word) (sh : Shell) : List String × Shell :=
  fieldsOfWords capture (if sh.isBash then words.flatMap Word.withoutBraces else words) sh

/-- The fields that the words of a command become that declares variables. What sets a variable stays one
field. -/
def declaredFields (capture : Capture) : List Word → Shell → List String × Shell
  | [], sh => ([], sh)
  | word :: rest, sh =>
    if sh.goesOn then
      let (here, sh) :=
        match splitAssignment? sh.dialect word with
        | some (.text name index adds value) =>
          let (text, sh) := joinedText capture value sh
          let place := (index.map fun index => "[" ++ index ++ "]").getD ""
          ([name ++ place ++ (if adds then "+=" else "=") ++ text], sh)
        | _ => fields capture [word] sh
      let (more, sh) := declaredFields capture rest sh
      (here ++ more, sh)
    else ([], sh)

end MutantHunt.Sandbox.Shell
