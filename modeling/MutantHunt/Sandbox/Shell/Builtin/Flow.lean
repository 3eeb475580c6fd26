import MutantHunt.Sandbox.Shell.Builtin.Variable

/-!
# Commands that say where a script goes on

The commands `exit`, `return`, `break` and `continue`.
-/

namespace MutantHunt.Sandbox.Shell.Builtin

/-- Ends what is running with a status that an argument gives, or else with the current one. -/
def finishWith (flow : Nat → Flow) (arguments : List String) (sh : Shell) : Shell :=
  match arguments with
  | text :: further =>
    match number? sh text with
    | some n =>
      if sh.isBash && !further.isEmpty then sh.reject "" "too many arguments"
      else
        let status := (n % 256).toNat
        { sh with flow := flow status, status }
    | none =>
      if sh.isBash then { sh.object "" (text ++ ": numeric argument required") with flow := flow 2, status := 2 }
      else sh.reject ("Illegal number: " ++ text) ""
  | [] => { sh with flow := flow sh.status }

/-- Ends the script. -/
def exit : Builtin := finishWith .exits

/-- Ends a function, or a script that another one reads. -/
def «return» : Builtin := fun arguments sh =>
  if sh.isBash && sh.locals.isNone && !sh.features.contains "sourced" then
    (sh.object "" "can only \x60return\x27 from a function or sourced script").withStatus 2
  else finishWith .returns arguments sh

/-- Leaves loops, as many as there are at most. -/
def leaveLoops (flow : Nat → Flow) : Builtin := fun arguments sh =>
  let given := arguments.headD "1"
  match sh.dialect, number? sh given with
  | .dash, none => sh.reject ("Illegal number: " ++ given) ""
  | .dash, some n =>
    if n ≤ 0 then sh.reject ("Illegal number: " ++ given) ""
    else if sh.loops = 0 then sh.withStatus 0
    else { sh with flow := flow (min n.toNat sh.loops), status := 0 }
  | .bash, n =>
    if sh.loops = 0 then
      (sh.object "" "only meaningful in a \x60for\x27, \x60while\x27, or \x60until\x27 loop").withStatus 0
    else
      match n with
      | none =>
        { sh.object "" (given ++ ": numeric argument required") with flow := .exits 128, status := 128 }
      | some n =>
        if arguments.length > 1 then sh.reject "" "too many arguments"
        else if n ≤ 0 then
          { sh.object "" (given ++ ": loop count out of range") with flow := .breaks sh.loops, status := 1 }
        else { sh with flow := flow (min n.toNat sh.loops), status := 0 }

end MutantHunt.Sandbox.Shell.Builtin
