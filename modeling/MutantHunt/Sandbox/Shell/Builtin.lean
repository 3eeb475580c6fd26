import MutantHunt.Sandbox.Shell.Builtin.Directory
import MutantHunt.Sandbox.Shell.Builtin.Flow
import MutantHunt.Sandbox.Shell.Builtin.Print
import MutantHunt.Sandbox.Shell.Builtin.Read
import MutantHunt.Sandbox.Shell.Builtin.Setting
import MutantHunt.Sandbox.Shell.Builtin.Signal

/-!
# Commands that a shell runs by itself

Commands that work on the state of the shell, and a few that are there because they are used so often.
`builtin?` finds them by name. Those that run other commands are not among them.
-/

namespace MutantHunt.Sandbox.Shell

namespace Builtin

/-- Tells how many processes and files there may be, as if nothing limited them. -/
def ulimit : Builtin := fun arguments sh =>
  let options := arguments.filter fun a => a.startsWith "-"
  let operands := arguments.filter fun a => !a.startsWith "-"
  match operands with
  | [] => sh.print (if options.any (·.contains 'c') then "0\n" else "unlimited\n")
  | text :: _ =>
    if text == "unlimited" || text.toNat?.isSome then sh.withStatus 0
    else if sh.isBash then (sh.object "" (text ++ ": invalid number")).withStatus 1
    else sh.reject "bad number" ""

/-- Brings a job to the front or sends it behind, which no script can do. -/
def moveJob : Builtin := fun arguments sh =>
  match arguments with
  | text :: _ =>
    if sh.isBash then (sh.object "" "no job control").withStatus 1 else sh.reject ("No such job: " ++ text) ""
  | [] => if sh.isBash then (sh.object "" "no job control").withStatus 1 else sh.reject "No current job" ""

end Builtin

open Builtin in
/-- The commands that both shells run by themselves. -/
def commonBuiltins : List (String × Builtin) :=
  [(":", fun _ (sh : Shell) => sh.withStatus 0), ("true", fun _ sh => sh.withStatus 0),
    ("false", fun _ sh => sh.withStatus 1), ("[", bracket), ("alias", setAlias), ("bg", moveJob),
    ("break", leaveLoops .breaks), ("cd", cd), ("chdir", cd), ("continue", leaveLoops .continues),
    ("echo", echo), ("exit", Builtin.exit), ("export", Builtin.export), ("fg", moveJob), ("getopts", getopts),
    ("jobs", fun _ sh => sh.withStatus 0), ("kill", kill), ("local", Builtin.local), ("printf", printf),
    ("pwd", pwd), ("read", Builtin.read), ("readonly", Builtin.readonly), ("return", Builtin.return),
    ("set", Builtin.set), ("shift", shift), ("test", decideCondition),
    ("times", fun _ sh => sh.print "0m0.00s 0m0.00s\n0m0.00s 0m0.00s\n"), ("trap", trap), ("ulimit", ulimit),
    ("umask", umask), ("unalias", removeAlias), ("unset", unset), ("wait", wait)]

open Builtin in
/-- The commands that one of the shells runs by itself. -/
def furtherBuiltins : List (String × Builtin) :=
  [("declare", declare), ("dirs", dirs), ("disown", fun _ sh => sh.withStatus 0),
    ("enable", fun _ sh => sh.withStatus 0), ("let", Builtin.let), ("mapfile", mapfile), ("popd", popd),
    ("pushd", pushd), ("readarray", mapfile), ("shopt", shopt), ("typeset", declare)]

/-- The command of a name that a shell runs by itself. -/
def builtin? (dialect : Dialect) (name : String) : Option Builtin :=
  (match commonBuiltins.lookup name, dialect with
    | some builtin, .bash => if name == "chdir" then none else some builtin
    | some builtin, .dash => some builtin
    | none, .bash => furtherBuiltins.lookup name
    | none, .dash => none).map Usage.check

/-- The names whose settings in front stay, and whose failures end a script. -/
def isSpecialBuiltin (name : String) : Bool :=
  [":", ".", "break", "continue", "eval", "exec", "exit", "export", "local", "readonly", "return", "set",
    "shift", "times", "trap", "unset"].contains name

/-- The names of all commands that a shell runs by itself. -/
def isBuiltin (dialect : Dialect) (name : String) : Bool :=
  (builtin? dialect name).isSome || [".", "command", "eval", "exec", "hash", "type"].contains name
    || dialect == .bash && ["builtin", "source"].contains name

end MutantHunt.Sandbox.Shell
