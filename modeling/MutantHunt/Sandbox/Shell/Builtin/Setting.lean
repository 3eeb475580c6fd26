import MutantHunt.Sandbox.Shell.Builtin.Variable

/-!
# Commands about settings

Commands that turn options on and off, and those that give words other meanings.
-/

namespace MutantHunt.Sandbox.Shell.Builtin

/-! ## Options -/

/-- Turns an option with a long name on or off. -/
def setNamed (on : Bool) (name : String) (sh : Shell) : Shell :=
  match sh.dialect.namedOptions.lookup name with
  | some (some letter) => sh.setOptions on [letter]
  | some none => sh.setFeature on name
  | none =>
    if sh.isBash then (sh.object "" (name ++ ": invalid option name")).withStatus 2
    else sh.reject ("Illegal option " ++ (if on then "-" else "+") ++ "o " ++ name) ""

/-- Turns options on or off by their letters. -/
def setLetters (on : Bool) (letters : List Char) (sh : Shell) : Shell :=
  let sign := if on then "-" else "+"
  match letters.find? fun c => !sh.dialect.settableLetters.contains c with
  | some c =>
    if sh.isBash then Usage.explain (sh.object "" (sign ++ c.toString ++ ": invalid option"))
    else sh.reject ("Illegal option " ++ sign ++ c.toString) ""
  | none => sh.setOptions on letters

/-- Prints all options. Where they are not for a reader, they are printed as commands. -/
def printOptions (readable : Bool) (sh : Shell) : Shell :=
  let row (name : String) (letter : Option Char) : String :=
    let on := sh.isOn name letter
    let gap (width : Nat) : String := String.ofList (List.replicate (width - name.length) ' ')
    if !readable then "set " ++ (if on then "-o " else "+o ") ++ name ++ "\n"
    else name ++ sh.wording (gap 16) (gap 15 ++ "\t") ++ (if on then "on" else "off") ++ "\n"
  let title := if readable then sh.wording "Current option settings\n" "" else ""
  sh.print (title ++ String.join (sh.dialect.namedOptions.map fun (name, letter) => row name letter))

/-- Sets options and parameters. -/
def setOptionsFrom : List String → Shell → Shell
  | [], sh => sh
  | "--" :: rest, sh => sh.withParameters rest
  | "-" :: rest, sh =>
    let sh := sh.setOptions false ['x', 'v']
    if rest.isEmpty then sh else sh.withParameters rest
  | flag :: name :: rest, sh =>
    let on := flag.startsWith "-"
    if !sh.goesOn then sh
    else if (on || flag.startsWith "+") && flag.length > 1 then
      let letters := flag.toList.drop 1
      if letters.getLast? == some 'o' then
        setOptionsFrom rest (setNamed on name (setLetters on letters.dropLast sh))
      else setOptionsFrom (name :: rest) (setLetters on letters sh)
    else sh.withParameters (flag :: name :: rest)
  | [flag], sh =>
    let on := flag.startsWith "-"
    if !sh.goesOn then sh
    else if (on || flag.startsWith "+") && flag.length > 1 then
      let letters := flag.toList.drop 1
      let sh := setLetters on (letters.filter (· != 'o')) sh
      if letters.contains 'o' then printOptions on sh else sh
    else sh.withParameters [flag]

/-- Prints all variables with their values. -/
def printVariables (sh : Shell) : Shell :=
  let sorted := sh.bindings.mergeSort fun a b => decide (a.1 ≤ b.1)
  let lines := sorted.filterMap fun (name, value) =>
    match value with
    | .text text => if isName name then some (name ++ "=" ++ sh.wording (sh.quote text) text ++ "\n") else none
    | _ => none
  sh.print (String.join lines)

/-- Sets options and parameters. -/
def set : Builtin := fun arguments sh =>
  if arguments.isEmpty then printVariables sh else setOptionsFrom arguments (sh.withStatus 0)

/-- The features of one of the shells that can be turned on and off. -/
def knownFeatures : List String :=
  ["autocd", "cdable_vars", "cdspell", "checkhash", "checkjobs", "checkwinsize", "cmdhist", "compat31", "dotglob",
    "execfail", "expand_aliases", "extdebug", "extglob", "extquote", "failglob", "force_fignore", "globasciiranges",
    "globskipdots", "globstar", "gnu_errfmt", "histappend", "histreedit", "histverify", "hostcomplete",
    "huponexit", "inherit_errexit", "interactive_comments", "lastpipe", "lithist", "localvar_inherit",
    "localvar_unset", "login_shell", "mailwarn", "no_empty_cmd_completion", "nocaseglob", "nocasematch",
    "noexpand_translation", "nullglob", "patsub_replacement", "progcomp", "progcomp_alias", "promptvars",
    "restricted_shell", "shift_verbose", "sourcepath", "varredir_close", "xpg_echo"]

/-- Turns features on or off, or asks for them. -/
def shopt : Builtin := fun arguments sh =>
  let names := arguments.filter fun a => !a.startsWith "-"
  let letters := (arguments.filter fun a => a.startsWith "-").flatMap String.toList
  let change (sh : Shell) (name : String) : Shell :=
    if !sh.goesOn then sh
    else if letters.contains 'o' then
      if letters.contains 's' || letters.contains 'u' then setNamed (letters.contains 's') name sh else sh
    else if !knownFeatures.contains name then
      (sh.object "" (name ++ ": invalid shell option name")).withStatus 1
    else if letters.contains 's' || letters.contains 'u' then sh.setFeature (letters.contains 's') name
    else
      let on := sh.features.contains name
      let gap := String.ofList (List.replicate (15 - name.length) ' ')
      let told :=
        if letters.contains 'q' then sh
        else if letters.contains 'p' then sh.print ("shopt " ++ (if on then "-s " else "-u ") ++ name ++ "\n")
        else sh.print (name ++ gap ++ "\t" ++ (if on then "on" else "off") ++ "\n")
      told.withStatus (if on then sh.status else 1)
  names.foldl change (sh.withStatus 0)

/-! ## Other words -/

/-- Gives words other meanings. -/
def setAlias : Builtin := fun arguments sh =>
  let names := (sh.aliases.map Prod.fst).mergeSort fun a b => decide (a ≤ b)
  let arguments := arguments.filter (· != "-p")
  (if arguments.isEmpty then names else arguments).foldl
    (fun sh argument =>
      match splitSetting argument with
      | (name, _, some value) =>
        if sh.isBash && name.toList.any fun c => endsWord c || "$\x60'\"\\/=".toList.contains c then
          (sh.object "" ("\x60" ++ name ++ "\x27: invalid alias name")).withStatus 1
        else { sh with aliases := (name, value) :: sh.aliases.filter fun entry => entry.1 != name }
      | (name, _, none) =>
        match sh.aliases.lookup name with
        | some value =>
          sh.print ((if sh.isBash then "alias " else "") ++ name ++ "=" ++ sh.quote value ++ "\n")
        | none =>
          (if sh.isBash then sh.object "" (name ++ ": not found") else sh.mutter ("alias: " ++ name ++ " not found")).withStatus 1)
    (sh.withStatus 0)

/-- Takes the other meanings of words away. -/
def removeAlias : Builtin := fun arguments sh =>
  if arguments.contains "-a" then { sh with aliases := [], status := 0 }
  else if arguments.isEmpty then if sh.isBash then Usage.explain sh else sh.withStatus 0
  else
    arguments.foldl
      (fun sh name =>
        if (sh.aliases.lookup name).isSome then
          { sh with aliases := sh.aliases.filter fun entry => entry.1 != name }
        else
          (if sh.isBash then sh.object "" (name ++ ": not found")
            else sh.mutter ("unalias: " ++ name ++ " not found")).withStatus 1)
      (sh.withStatus 0)

end MutantHunt.Sandbox.Shell.Builtin
