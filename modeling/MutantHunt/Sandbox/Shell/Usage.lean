import MutantHunt.Sandbox.Shell.State

/-!
# How commands are used

The options that the commands know which a shell runs by itself, and what is said where they are used in
another way. `Usage.check` looks at the options before a command is run.
-/

namespace MutantHunt.Sandbox.Shell

/-- A command that a shell runs by itself, with its arguments. -/
abbrev Builtin := List String → Shell → Shell

/-- How a command is used. The letters of its options are given for each shell that looks at them; a
colon stands behind those that take a value. -/
structure Usage where
  plain : Option String
  rich : Option String
  /-- What may stand behind the name of the command. -/
  summary : String
  deriving Repr, Inhabited

/-- What is wrong with the options of a command. -/
inductive OptionFault where
  | unknown (letter : Char)
  | noValue (letter : Char)
  deriving DecidableEq, Repr, Inhabited

namespace Usage

/-- The first fault among the letters of an argument. The flag tells whether a value follows it. -/
def letterFault? (letters : List Char) (followed : Bool) : List Char → Option OptionFault
  | [] => none
  | c :: rest =>
    match letters.dropWhile (· != c) with
    | _ :: ':' :: _ => if rest.isEmpty && !followed then some (.noValue c) else none
    | [] => some (.unknown c)
    | _ => if c == ':' then some (.unknown c) else letterFault? letters followed rest

/-- Whether the last letter of an argument takes the next argument for its value. -/
def takesNext (letters : List Char) (given : List Char) : Bool :=
  let valued (c : Char) : Bool := ((letters.dropWhile (· != c)).drop 1).head? == some ':'
  (given.dropWhile fun c => !valued c).length = 1

/-- The letters of an argument, if it holds options. -/
def optionsIn? (argument : String) : Option (List Char) :=
  if argument == "--" || argument.length ≤ 1 || !argument.startsWith "-" then none
  else some (argument.toList.drop 1)

/-- The first fault among the options of a command. -/
def fault? (letters : String) : List String → Option OptionFault
  | [] => none
  | [argument] => (optionsIn? argument).bind (letterFault? letters.toList false)
  | argument :: next :: rest =>
    match optionsIn? argument with
    | none => none
    | some given =>
      match letterFault? letters.toList true given with
      | some fault => some fault
      | none => if takesNext letters.toList given then fault? letters rest else fault? letters (next :: rest)

/-- How some of the commands are used. -/
def all : List (String × Usage) :=
  [(".", ⟨none, none, "filename [arguments]"⟩),
    ("alias", ⟨none, some "p", "[-p] [name[=value] ... ]"⟩),
    ("cd", ⟨some "LP", some "LPe@", "[-L|[-P [-e]] [-@]] [dir]"⟩),
    ("declare", ⟨none, some "aAfFgiIlnrtuxp",
      "[-aAfFgiIlnrtux] [name[=value] ...] or declare -p [-aAfFilnrtux] [name ...]"⟩),
    ("export", ⟨some "p", some "fnp", "[-fn] [name[=value] ...] or export -p"⟩),
    ("getopts", ⟨none, none, "optstring name [arg ...]"⟩),
    ("hash", ⟨some "rv", some "dlp:rt", "[-lr] [-p pathname] [-dt] [name ...]"⟩),
    ("kill", ⟨none, none,
      "[-s sigspec | -n signum | -sigspec] pid | jobspec ... or kill -l [sigspec]"⟩),
    ("local", ⟨none, some "aAfFgiIlnrtuxp", "[option] name[=value] ..."⟩),
    ("mapfile", ⟨none, some "d:n:O:s:tu:C:c:",
      "[-d delim] [-n count] [-O origin] [-s count] [-t] [-u fd] [-C callback] [-c quantum] [array]"⟩),
    ("printf", ⟨some "", some "v:", "[-v var] format [arguments]"⟩),
    ("pwd", ⟨some "LP", some "LP", "[-LP]"⟩),
    ("read", ⟨some "p:r", some "ersa:d:i:n:N:p:t:u:",
      "[-ers] [-a array] [-d delim] [-i text] [-n nchars] [-N nchars] [-p prompt] [-t timeout] [-u fd] [name ...]"⟩),
    ("readonly", ⟨some "p", some "aAfp", "[-aAf] [name[=value] ...] or readonly -p"⟩),
    ("set", ⟨none, none, "[-abefhkmnptuvxBCEHPT] [-o option-name] [--] [-] [arg ...]"⟩),
    ("shopt", ⟨none, some "pqsuo", "[-pqsu] [-o] [optname ...]"⟩),
    ("source", ⟨none, none, "filename [arguments]"⟩),
    ("trap", ⟨some "", some "lp", "[-lp] [[arg] signal_spec ...]"⟩),
    ("type", ⟨none, some "afptP", "[-afptP] name [name ...]"⟩),
    ("typeset", ⟨none, some "aAfFgiIlnrtuxp",
      "[-aAfFgiIlnrtux] name[=value] ... or typeset -p [-aAfFilnrtux] [name ...]"⟩),
    ("umask", ⟨some "S", some "pS", "[-p] [-S] [mode]"⟩),
    ("unalias", ⟨some "a", some "a", "[-a] name [name ...]"⟩),
    ("unset", ⟨some "fv", some "fnv", "[-f] [-v] [-n] [name ...]"⟩),
    ("wait", ⟨some "", some "fnp:", "[-fn] [-p var] [id ...]"⟩)]

/-- Says how the command that speaks is used. -/
def explain (sh : Shell) : Shell :=
  match sh.speaker.bind fun name => (all.lookup name).map fun usage => (name, usage) with
  | some (name, usage) => (sh.mutter (sh.spoken ++ "usage: " ++ name ++ " " ++ usage.summary)).withStatus 2
  | none => sh.withStatus 2

/-- Complains about an option of the command that speaks. -/
def refuse (fault : OptionFault) (sh : Shell) : Shell :=
  let (plain, rich) :=
    match fault with
    | .unknown letter => ("Illegal option -" ++ letter.toString, "-" ++ letter.toString ++ ": invalid option")
    | .noValue letter =>
      ("No arg for -" ++ letter.toString ++ " option",
        "-" ++ letter.toString ++ ": option requires an argument")
  if sh.isBash then explain (sh.object plain rich) else sh.reject plain rich

/-- Runs the command that speaks, if there is nothing wrong with its options. -/
def check (builtin : Builtin) : Builtin := fun arguments sh =>
  let usage? := sh.speaker.bind fun name => all.lookup name
  let letters? := usage?.bind fun usage => if sh.isBash then usage.rich else usage.plain
  match letters?.bind fun letters => fault? letters arguments with
  | some fault => refuse fault sh
  | none => builtin arguments sh

end Usage

end MutantHunt.Sandbox.Shell
