/-!
# Words of scripts

A script is read character by character into words and operators. A *word* is a list of parts, which are
text, uses of variables, and commands or computations whose result is put in their place; each part
remembers whether it was quoted. What stands inside braces or parentheses is kept as text, and is read
when the word is used.

`Word.read` reads one word from the beginning of a script. `Word.ofQuoted` reads text that behaves as if
it stood between double quotes. There are two shells, and one of them knows more kinds of words than the
other (`Dialect`).
-/

namespace MutantHunt.Sandbox.Shell

/-- Which shell this is. -/
inductive Dialect where
  | dash
  | bash
  deriving DecidableEq, Repr, Inhabited

/-- What is done with the value of a variable. Where a text follows, it is a word still to be read. The
flag tells whether an empty value counts as none. -/
inductive Use where
  | value
  | length
  /-- The word, if there is no value. -/
  | otherwise (word : String) (nonempty : Bool)
  /-- The word, if there is no value; the variable is set to it. -/
  | assign (word : String) (nonempty : Bool)
  /-- Stops the script, if there is no value. -/
  | demand (word : String) (nonempty : Bool)
  /-- The word, if there is a value. -/
  | instead (word : String) (nonempty : Bool)
  /-- The value without what a pattern stands for at its beginning or end. -/
  | cut (pattern : String) (front longest : Bool)
  /-- The value from an offset on, up to a length. -/
  | slice (offset : String) (length : Option String)
  /-- The value with what a pattern stands for replaced, everywhere or where it is found first. It may
  have to be found at the beginning or at the end. -/
  | replace (pattern replacement : String) (every : Bool) (atFront : Option Bool)
  /-- The value with letters that fit a pattern in upper or lower case, all of them or the first one. -/
  | recase (pattern : String) (upper every : Bool)
  /-- The value in another form, which a letter names. -/
  | transform (letter : Char)
  /-- No use that makes sense, with all that stands between the braces. -/
  | senseless (text : String)
  deriving DecidableEq, Repr, Inhabited

/-- A part of a word. -/
inductive WordPart where
  | text (text : String) (quoted : Bool)
  /-- A variable, or elements of an array that an index names. With an exclamation mark before its name,
  the value is the name of another one. -/
  | variable (name : String) (index : Option String) (use : Use) (quoted : Bool)
  /-- What a script prints. -/
  | command (script : String) (quoted : Bool)
  | arithmetic (expression : String) (quoted : Bool)
  /-- The path of a file that holds what a script prints, or that a script reads. -/
  | channel (script : String) (prints : Bool)
  deriving DecidableEq, Repr, Inhabited

/-- A word of a script. -/
abbrev Word := List WordPart

/-- Whether a character can start a name. -/
def startsName (c : Char) : Bool :=
  c.isAlpha || c == '_'

/-- Whether a character can stand in a name. -/
def isNameChar (c : Char) : Bool :=
  c.isAlphanum || c == '_'

/-- Whether a text is the name of a variable. -/
def isName (text : String) : Bool :=
  match text.toList with
  | c :: rest => startsName c && rest.all isNameChar
  | [] => false

/-- Whether a character separates words. -/
def isBlank (c : Char) : Bool :=
  c == ' ' || c == '\t'

/-- Whether a character ends a word where it is not quoted. -/
def endsWord (c : Char) : Bool :=
  [' ', '\t', '\n', ';', '&', '|', '<', '>', '(', ')'].contains c

/-! ## Finding the end -/

/-- What is open while a text is searched for the character that closes it. -/
inductive Opening where
  /-- Commands in parentheses. -/
  | commands
  /-- The branches of a choice between such commands. -/
  | branches
  /-- Braces around a variable. The flag tells whether single quotes stand for themselves. -/
  | braces (plain : Bool)
  | quotes
  | backquotes
  deriving DecidableEq, Repr

namespace Opening

/-- Whether a character closes what is open. -/
def isClosedBy (opening : Opening) (c : Char) : Bool :=
  match opening with
  | commands => c == ')'
  | branches => false
  | braces _ => c == '\x7d'
  | quotes => c == '"'
  | backquotes => c == '\x60'

/-- The character that closes what is open, in the end. -/
def closer : Opening → Char
  | commands | branches => ')'
  | braces _ => '\x7d'
  | quotes => '"'
  | backquotes => '\x60'

/-- Whether commands are open. -/
def holdsCommands : Opening → Bool
  | commands | branches => true
  | _ => false

/-- Whether single quotes quote what is open. -/
def knowsSingleQuotes : Opening → Bool
  | commands | branches | braces false => true
  | _ => false

/-- Braces around a variable that is given by the text behind them. Between quotes, single quotes quote
nothing but patterns. -/
def ofBraces (quoted : Bool) (text : List Char) : Opening :=
  match text.dropWhile isNameChar with
  | '#' :: _ | '%' :: _ | '/' :: _ => .braces false
  | _ => .braces quoted

end Opening

/-- Whether a command can follow a word. -/
def leadsCommand (opening : Opening) (word : String) : Bool :=
  ["then", "do", "else", "elif", "if", "while", "until", "!"].contains word
    || opening == .branches && word == "in"

/-- Splits text at the character that closes all that is open, the innermost first. `fresh` tells whether a
command can start here, `start` whether a word can. Fails with the character that is missing. The number bounds how many characters
are left. -/
def upToCloser :
    Nat → List Opening → (fresh start : Bool) → List Char → Except Char (List Char × List Char)
  | 0, _, _, _, _ => .error ')'
  | _ + 1, [], _, _, rest => .ok ([], rest)
  | _ + 1, top :: _, _, _, [] => .error top.closer
  | n + 1, top :: below, fresh, start, c :: rest =>
    let onward (stack : List Opening) (fresh start : Bool) (taken rest : List Char) :
        Except Char (List Char × List Char) :=
      if stack.isEmpty then .ok ([], rest)
      else (upToCloser n stack fresh start rest).map fun (inner, rest) => (taken ++ inner, rest)
    if c == '\\' then
      match rest with
      | d :: rest => onward (top :: below) false false [c, d] rest
      | [] => .error top.closer
    else if top.isClosedBy c then onward below false false [c] rest
    else if c == '\x27' && top.knowsSingleQuotes then
      let inner := rest.takeWhile (· != '\x27')
      if inner.length = rest.length then .error c
      else onward (top :: below) false false (c :: inner ++ ['\x27']) (rest.drop (inner.length + 1))
    else if c == '"' then onward (.quotes :: top :: below) false false [c] rest
    else if c == '\x60' then onward (.backquotes :: top :: below) false false [c] rest
    else if c == '$' then
      match rest with
      | '(' :: rest => onward (.commands :: top :: below) true true [c, '('] rest
      | '\x7b' :: rest =>
        let quoted := top == .quotes || top == .braces true
        onward (.ofBraces quoted rest :: top :: below) false false [c, '\x7b'] rest
      | _ => onward (top :: below) false false [c] rest
    else if !top.holdsCommands then onward (top :: below) false false [c] rest
    else if c == '(' then onward (.commands :: top :: below) true true [c] rest
    else if c == '#' && start then
      let comment := rest.takeWhile (· != '\n')
      onward (top :: below) true true (c :: comment) (rest.drop comment.length)
    else if start && startsName c then
      let word := c :: rest.takeWhile isNameChar
      let after := rest.dropWhile isNameChar
      let text := String.ofList word
      let ends := after.head?.all endsWord
      if fresh && text == "case" && ends then onward (.branches :: top :: below) false false word after
      else if fresh && text == "esac" && ends && top == .branches then onward below false false word after
      else onward (top :: below) (ends && leadsCommand top text) false word after
    else if isBlank c then onward (top :: below) fresh true [c] rest
    else if [';', '&', '|', '\n', ')', '\x7b'].contains c then onward (top :: below) true true [c] rest
    else onward (top :: below) false false [c] rest

/-- Splits text at the character that closes what was opened before it. Fails with the character that is
missing. -/
def closed (opening : Opening) (text : List Char) : Except Char (String × List Char) :=
  (upToCloser (text.length + 1) [opening] true true text).map fun (inner, rest) =>
    (String.ofList inner, rest)

/-- Splits text at a character that is neither quoted nor inside braces or parentheses. The number bounds
how many characters are left. -/
def splitOpenUpTo (separator : Char) : Nat → List Char → List Char × Option (List Char)
  | 0, rest => (rest, none)
  | _ + 1, [] => ([], none)
  | n + 1, c :: rest =>
    let onward (taken rest : List Char) : List Char × Option (List Char) :=
      let (before, behind) := splitOpenUpTo separator n rest
      (taken ++ before, behind)
    let inside (opening : Opening) (taken rest : List Char) (closer : Char) :
        List Char × Option (List Char) :=
      match closed opening rest with
      | .ok (inner, rest) => onward (taken ++ inner.toList ++ [closer]) rest
      | .error _ => onward taken rest
    if c == separator then ([], some rest)
    else
      match c, rest with
      | '\\', d :: rest => onward [c, d] rest
      | '\x27', rest =>
        let inner := rest.takeWhile (· != '\x27')
        onward (c :: inner ++ ['\x27']) (rest.drop (inner.length + 1))
      | '"', rest => inside .quotes [c] rest '"'
      | '$', '(' :: rest => inside .commands [c, '('] rest ')'
      | '$', '\x7b' :: rest => inside (.braces false) [c, '\x7b'] rest '\x7d'
      | '(', rest => inside .commands [c] rest ')'
      | _, _ => onward [c] rest

/-- Splits text at a character that is neither quoted nor inside braces or parentheses. -/
def splitOpen (separator : Char) (text : List Char) : String × Option String :=
  let (before, behind) := splitOpenUpTo separator (text.length + 1) text
  (String.ofList before, behind.map String.ofList)

/-! ## Variables -/

/-- Reads what is done with a variable, behind its name inside braces, in the ways that all shells know. -/
def Use.ofCommonText? (text : List Char) : Option Use :=
  let word (rest : List Char) : String := String.ofList rest
  match text with
  | [] => some .value
  | ':' :: '-' :: rest => some (.otherwise (word rest) true)
  | '-' :: rest => some (.otherwise (word rest) false)
  | ':' :: '=' :: rest => some (.assign (word rest) true)
  | '=' :: rest => some (.assign (word rest) false)
  | ':' :: '?' :: rest => some (.demand (word rest) true)
  | '?' :: rest => some (.demand (word rest) false)
  | ':' :: '+' :: rest => some (.instead (word rest) true)
  | '+' :: rest => some (.instead (word rest) false)
  | '#' :: '#' :: rest => some (.cut (word rest) true true)
  | '#' :: rest => some (.cut (word rest) true false)
  | '%' :: '%' :: rest => some (.cut (word rest) false true)
  | '%' :: rest => some (.cut (word rest) false false)
  | _ => none

/-- Reads what is put in the place of what. -/
def Use.ofReplacement (every : Bool) (atFront : Option Bool) (text : List Char) : Use :=
  let (pattern, replacement) := splitOpen '/' text
  .replace pattern (replacement.getD "") every atFront

/-- Reads what is done with a variable, behind its name inside braces. -/
def Use.ofText? (dialect : Dialect) (text : List Char) : Option Use :=
  let word (rest : List Char) : String := String.ofList rest
  match dialect, Use.ofCommonText? text with
  | .bash, none =>
    match text with
    | ':' :: rest =>
      let (offset, size) := splitOpen ':' rest
      some (.slice offset size)
    | '/' :: '/' :: rest => some (.ofReplacement true none rest)
    | '/' :: '#' :: rest => some (.ofReplacement false (some true) rest)
    | '/' :: '%' :: rest => some (.ofReplacement false (some false) rest)
    | '/' :: rest => some (.ofReplacement false none rest)
    | '^' :: '^' :: rest => some (.recase (word rest) true true)
    | '^' :: rest => some (.recase (word rest) true false)
    | ',' :: ',' :: rest => some (.recase (word rest) false true)
    | ',' :: rest => some (.recase (word rest) false false)
    | ['@', letter] => some (.transform letter)
    | _ => none
  | _, use => use

/-- The variables whose names are one character that is no letter. -/
def isSpecial (c : Char) : Bool :=
  "@*#?-$!".toList.contains c

/-- Reads a name at the beginning of a text. There may be none. -/
def leadingName (text : List Char) : String × List Char :=
  match text with
  | c :: rest =>
    if c.isDigit then (String.ofList (c :: rest.takeWhile Char.isDigit), rest.dropWhile Char.isDigit)
    else if isNameChar c then
      (String.ofList (c :: rest.takeWhile isNameChar), rest.dropWhile isNameChar)
    else if isSpecial c then (c.toString, rest)
    else ("", text)
  | [] => ("", [])

/-- Reads an index between brackets, if there is one. -/
def leadingIndex (dialect : Dialect) (text : List Char) : Option String × List Char :=
  match dialect, text with
  | .bash, '[' :: inner =>
    let (index, rest) := splitOpen ']' inner
    (some index, (rest.getD "").toList)
  | _, _ => (none, text)

/-- Reads what stands between the braces of a variable. -/
def braced (dialect : Dialect) (quoted : Bool) (text : List Char) : WordPart :=
  let use (after : List Char) : Use := (Use.ofText? dialect after).getD (.senseless (String.ofList text))
  let plain (mark : String) (inner : List Char) : WordPart :=
    let (name, after) := leadingName inner
    let (index, after) := leadingIndex dialect after
    .variable (mark ++ name) index
      (if name.isEmpty then .senseless (String.ofList text) else use after) quoted
  match text with
  | '#' :: c :: rest =>
    let (name, after) := leadingName (c :: rest)
    let (index, after) := leadingIndex dialect after
    if after.isEmpty && name != "" then .variable name index .length quoted
    else .variable "#" none (use (c :: rest)) quoted
  | '!' :: c :: rest =>
    if dialect == .bash && startsName c then
      match (c :: rest).dropWhile isNameChar with
      | ['*'] | ['@'] =>
        .variable ("!" ++ String.ofList (c :: rest)) none .value quoted
      | _ => plain "!" (c :: rest)
    else plain "" text
  | _ => plain "" text

/-- Reads a part that starts with a dollar sign, behind that sign. Gives nothing if none starts here,
and fails with the character that is missing if it does not end. -/
def readDollar (dialect : Dialect) (quoted : Bool) (text : List Char) :
    Except Char (Option (WordPart × List Char)) :=
  match text with
  | '(' :: rest =>
    match closed .commands rest with
    | .error missing => .error missing
    | .ok (inner, after) =>
      match inner.toList with
      | '(' :: body =>
        match closed .commands body with
        | .ok (expression, []) => .ok (some (.arithmetic expression quoted, after))
        | _ => .ok (some (.command inner quoted, after))
      | _ => .ok (some (.command inner quoted, after))
  | '\x7b' :: rest =>
    match closed (.ofBraces quoted rest) rest with
    | .error missing => .error missing
    | .ok (inner, after) => .ok (some (braced dialect quoted inner.toList, after))
  | c :: rest =>
    if startsName c then
      let name := String.ofList (c :: rest.takeWhile isNameChar)
      .ok (some (.variable name none .value quoted, rest.dropWhile isNameChar))
    else if c.isDigit || isSpecial c then .ok (some (.variable c.toString none .value quoted, rest))
    else .ok none
  | [] => .ok none

/-! ## Escapes -/

/-- The script between backquotes, in which a backslash protects only a few characters. Inside double
quotes, these are among them. -/
def unescapeBackquoted (quoted : Bool) : List Char → List Char
  | '\\' :: c :: rest =>
    if c == '\\' || c == '$' || c == '\x60' || quoted && c == '"' then
      c :: unescapeBackquoted quoted rest
    else '\\' :: c :: unescapeBackquoted quoted rest
  | c :: rest => c :: unescapeBackquoted quoted rest
  | [] => []

/-- The value of a hexadecimal digit. -/
def hexValue? (c : Char) : Option Nat :=
  if c.isDigit then some (c.toNat - 48)
  else if 'a' ≤ c && c ≤ 'f' then some (c.toNat - 87)
  else if 'A' ≤ c && c ≤ 'F' then some (c.toNat - 55) else none

/-- Takes digits in a base off a text, at most so many, and gives their value. -/
def takeNumber (base : Nat) : Nat → List Char → Option Nat → Option Nat × List Char
  | 0, rest, value => (value, rest)
  | _ + 1, [], value => (value, [])
  | n + 1, c :: rest, value =>
    match (hexValue? c).filter (· < base) with
    | some d => takeNumber base n rest (some (value.getD 0 * base + d))
    | none => (value, c :: rest)

/-- The bytes that encode a character, as characters. -/
def encoded (code : Nat) : List Char :=
  let part (shift : Nat) : Char := Char.ofNat (128 + code >>> shift % 64)
  if code < 0x80 then [Char.ofNat code]
  else if code < 0x800 then [Char.ofNat (192 + code >>> 6), part 0]
  else if code < 0x10000 then [Char.ofNat (224 + code >>> 12), part 6, part 0]
  else [Char.ofNat (240 + code >>> 18), part 12, part 6, part 0]

/-- Replaces the escape behind a backslash. What is no escape keeps its backslash. -/
def readEscape : List Char → List Char × List Char
  | [] => (['\\'], [])
  | c :: rest =>
    let numbered (base most : Nat) (show_ : Nat → List Char) : List Char × List Char :=
      match takeNumber base most rest none with
      | (some code, rest) => (show_ code, rest)
      | (none, _) => (['\\', c], rest)
    match c with
    | 'a' => (['\x07'], rest)
    | 'b' => (['\x08'], rest)
    | 'e' | 'E' => (['\x1b'], rest)
    | 'f' => (['\x0c'], rest)
    | 'n' => (['\n'], rest)
    | 'r' => (['\r'], rest)
    | 't' => (['\t'], rest)
    | 'v' => (['\x0b'], rest)
    | '\\' | '\x27' | '"' | '?' => ([c], rest)
    | 'x' => numbered 16 2 fun code => [Char.ofNat code]
    | 'u' => numbered 16 4 encoded
    | 'U' => numbered 16 8 encoded
    | _ =>
      match takeNumber 8 3 (c :: rest) none with
      | (some code, rest) => ([Char.ofNat (code % 256)], rest)
      | (none, _) => (['\\', c], rest)

/-- Reads text with escapes up to a single quote. The number bounds how many characters are left. -/
def readEscaped : Nat → List Char → Option (List Char × List Char)
  | 0, _ => none
  | _ + 1, [] => none
  | n + 1, c :: rest =>
    if c == '\x27' then some ([], rest)
    else if c == '\\' then
      let (chars, rest) := readEscape rest
      (readEscaped n rest).map fun (text, rest) => (chars ++ text, rest)
    else (readEscaped n rest).map fun (text, rest) => (c :: text, rest)

/-! ## Words -/

/-- Adds a character to a word. -/
def addChar (c : Char) (quoted : Bool) (word : Word) : Word :=
  match word with
  | .text text q :: rest =>
    if q == quoted then .text (c.toString ++ text) q :: rest
    else .text c.toString quoted :: word
  | _ => .text c.toString quoted :: word

/-- Reads text as if between double quotes, up to a quote that ends it, or to its end where none has to.
The number bounds how many characters are left. -/
def readQuoted (dialect : Dialect) (ends : Bool) : Nat → List Char → Except Char (Word × List Char)
  | 0, _ => .error '"'
  | _ + 1, [] => if ends then .error '"' else .ok ([], [])
  | n + 1, c :: rest =>
    if c == '"' && ends then .ok ([], rest)
    else if c == '\\' then
      match rest with
      | '\n' :: rest => readQuoted dialect ends n rest
      | d :: rest =>
        let protected_ := d == '$' || d == '\x60' || d == '\\' || d == '"' && ends
        if protected_ then do
          let (word, after) ← readQuoted dialect ends n rest
          .ok (addChar d true word, after)
        else do
          let (word, after) ← readQuoted dialect ends n (d :: rest)
          .ok (addChar c true word, after)
      | [] => .ok (addChar c true [], [])
    else if c == '$' then do
      match ← readDollar dialect true rest with
      | some (part, rest) =>
        let (word, after) ← readQuoted dialect ends n rest
        .ok (part :: word, after)
      | none =>
        let (word, after) ← readQuoted dialect ends n rest
        .ok (addChar c true word, after)
    else if c == '\x60' then
      match closed .backquotes rest with
      | .error missing => .error missing
      | .ok (inner, rest) => do
        let (word, after) ← readQuoted dialect ends n rest
        .ok (.command (String.ofList (unescapeBackquoted ends inner.toList)) true :: word, after)
    else do
      let (word, after) ← readQuoted dialect ends n rest
      .ok (addChar c true word, after)

/-- How words are read. -/
structure Reading where
  dialect : Dialect
  /-- Whether a character ends a word. -/
  stops : Char → Bool
  /-- Whether parentheses can stand in a pattern. -/
  grouping : Bool := false

/-- Whether a character can stand before the parentheses of a pattern. -/
def leadsGroup (c : Char) : Bool :=
  "?*+@!".toList.contains c

/-- Reads a word. The number bounds how many characters are left. -/
def readWord (reading : Reading) : Nat → List Char → Except Char (Word × List Char)
  | 0, _ => .error '"'
  | _ + 1, [] => .ok ([], [])
  | n + 1, c :: rest =>
    let bash := reading.dialect == .bash
    let inside (prints : Bool) (inner : List Char) : Except Char (Word × List Char) :=
      match closed .commands inner with
      | .error missing => .error missing
      | .ok (script, rest) => do
        let (word, after) ← readWord reading n rest
        .ok (.channel script prints :: word, after)
    let group (inner : List Char) : Except Char (Word × List Char) :=
      match closed .commands inner with
      | .error missing => .error missing
      | .ok (choices, rest) => do
        let (word, after) ← readWord reading n rest
        .ok ((c :: '(' :: choices.toList ++ [')']).foldr (fun d word => addChar d false word) word, after)
    let grouped : Option (Except Char (Word × List Char)) :=
      match rest with
      | '(' :: inner =>
        if bash && c == '<' then some (inside true inner)
        else if bash && c == '>' then some (inside false inner)
        else if reading.grouping && leadsGroup c then some (group inner)
        else none
      | _ => none
    if grouped.isSome then grouped.getD (.error c)
    else if reading.stops c then .ok ([], c :: rest)
    else if c == '\\' then
      match rest with
      | '\n' :: rest => readWord reading n rest
      | d :: rest => do
        let (word, after) ← readWord reading n rest
        .ok (addChar d true word, after)
      | [] => .ok (addChar c true [], [])
    else if c == '\x27' then
      let inner := rest.takeWhile (· != '\x27')
      match rest.drop inner.length with
      | [] => .error c
      | _ :: rest => do
        let (word, after) ← readWord reading n rest
        .ok (.text (String.ofList inner) true :: word, after)
    else if c == '"' then do
      let (inner, rest) ← readQuoted reading.dialect true (rest.length + 1) rest
      let (word, after) ← readWord reading n rest
      .ok ((if inner.isEmpty then [.text "" true] else inner) ++ word, after)
    else if c == '$' then
      match bash, rest with
      | true, '\x27' :: inner =>
        match readEscaped (inner.length + 1) inner with
        | none => .error '\x27'
        | some (text, rest) => do
          let (word, after) ← readWord reading n rest
          .ok (.text (String.ofList (text.takeWhile (· != '\x00'))) true :: word, after)
      | true, '"' :: _ => readWord reading n rest
      | _, _ => do
        match ← readDollar reading.dialect false rest with
        | some (part, rest) =>
          let (word, after) ← readWord reading n rest
          .ok (part :: word, after)
        | none =>
          let (word, after) ← readWord reading n rest
          .ok (addChar c false word, after)
    else if c == '\x60' then
      match closed .backquotes rest with
      | .error missing => .error missing
      | .ok (inner, rest) => do
        let (word, after) ← readWord reading n rest
        .ok (.command (String.ofList (unescapeBackquoted false inner.toList)) false :: word, after)
    else do
      let (word, after) ← readWord reading n rest
      .ok (addChar c false word, after)

namespace Word

/-- Reads the word at the beginning of a script. Fails with the character that is missing if a quotation in it
does not end. -/
def read (reading : Reading) (text : List Char) : Except Char (Word × List Char) :=
  readWord reading (text.length + 1) text

/-- Reads a whole text as a word, blanks included. -/
def ofText (dialect : Dialect) (text : String) : Word :=
  match read { dialect, stops := fun _ => false } text.toList with
  | .ok (word, _) => word
  | .error _ => [.text text true]

/-- Reads a whole text as if between double quotes. -/
def ofQuoted (dialect : Dialect) (text : String) : Word :=
  match readQuoted dialect false (text.length + 1) text.toList with
  | .ok (word, _) => word
  | .error _ => [.text text true]

/-- Takes quotes out of a text that stands inside another quotation. Those with a backslash stay, without
it. -/
def unquoted (text : String) : String :=
  let rec walk : List Char → List Char
    | '\\' :: '"' :: rest => '"' :: walk rest
    | '\\' :: c :: rest => '\\' :: c :: walk rest
    | '"' :: rest => walk rest
    | c :: rest => c :: walk rest
    | [] => []
  String.ofList (walk text.toList)

/-- The text of a word without any quotation or variable. -/
def plain? (word : Word) : Option String :=
  match word with
  | [.text text false] => some text
  | _ => none

/-- The text of a word with its quotations removed and nothing replaced. -/
def bare (word : Word) : String :=
  String.join (word.map fun part =>
    match part with
    | .text text _ => text
    | .variable name index _ _ =>
      match index with
      | some index => "$\x7b" ++ name ++ "[" ++ index ++ "]\x7d"
      | none => "$\x7b" ++ name ++ "\x7d"
    | .command script _ => "$(" ++ script ++ ")"
    | .arithmetic expression _ => "$((" ++ expression ++ "))"
    | .channel script prints => (if prints then "<(" else ">(") ++ script ++ ")")

/-- A word much as it was written. -/
def written (word : Word) : String :=
  String.join (word.map fun part =>
    match part with
    | .text text true => "\x27" ++ text ++ "\x27"
    | .variable name none .value quoted => if quoted then "\"$" ++ name ++ "\"" else "$" ++ name
    | part => bare [part])

/-- Whether any part of a word is quoted text. -/
def hasQuotation (word : Word) : Bool :=
  word.any fun part =>
    match part with
    | .text _ quoted => quoted
    | _ => false

end Word

end MutantHunt.Sandbox.Shell
