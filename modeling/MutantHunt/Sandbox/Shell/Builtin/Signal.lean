import MutantHunt.Sandbox.Shell.Expand
import MutantHunt.Sandbox.Shell.Usage

/-!
# Commands about signals and processes

The commands `kill`, `wait` and `trap`, and the signals by name.
-/

namespace MutantHunt.Sandbox.Shell.Builtin

/-! ## Signals -/

/-- The signals by name. -/
def signals : List (String × Nat) :=
  [("HUP", 1), ("INT", 2), ("QUIT", 3), ("ILL", 4), ("TRAP", 5), ("ABRT", 6), ("BUS", 7), ("FPE", 8),
    ("KILL", 9), ("USR1", 10), ("SEGV", 11), ("USR2", 12), ("PIPE", 13), ("ALRM", 14), ("TERM", 15),
    ("STKFLT", 16), ("CHLD", 17), ("CONT", 18), ("STOP", 19), ("TSTP", 20), ("TTIN", 21), ("TTOU", 22),
    ("URG", 23), ("XCPU", 24), ("XFSZ", 25), ("VTALRM", 26), ("PROF", 27), ("WINCH", 28), ("IO", 29),
    ("PWR", 30), ("SYS", 31)]

/-- The signal that a text names. -/
def signal? (text : String) : Option Nat :=
  let name := text.map Char.toUpper
  let name := if name.startsWith "SIG" then (name.drop 3).toString else name
  match signals.lookup name with
  | some n => some n
  | none => name.toNat?.filter (· ≤ 64)

/-- The name of a signal. -/
def signalName (n : Nat) : String :=
  ((signals.find? fun entry => entry.2 == n).map Prod.fst).getD n.repr

/-- Whether a signal ends a process that does nothing about it. -/
def isDeadly (signal : Nat) : Bool :=
  signal != 0 && !([17, 18, 19, 20, 21, 22, 23, 28].contains signal)

/-- What is said of a process that a signal has ended. -/
def obituary (signal : Nat) : String :=
  (([(1, "Hangup"), (3, "Quit"), (4, "Illegal instruction"), (5, "Trace/breakpoint trap"), (6, "Aborted"),
    (7, "Bus error"), (8, "Floating point exception"), (9, "Killed"), (10, "User defined signal 1"),
    (11, "Segmentation fault"), (12, "User defined signal 2"), (14, "Alarm clock"), (15, "Terminated"),
    (24, "CPU time limit exceeded"), (25, "File size limit exceeded")] : List (Nat × String)).lookup signal).getD ""

/-- The signals by number and name, five in a row. -/
def signalTable : String :=
  let entry (signal : String × Nat) : String :=
    let number := signal.2.repr
    (if number.length < 2 then " " else "") ++ number ++ ") SIG" ++ signal.1
  let rec rows : Nat → List (String × Nat) → List String
    | 0, _ | _, [] => []
    | n + 1, signals => "\t".intercalate ((signals.take 5).map entry) :: rows n (signals.drop 5)
  String.join ((rows signals.length signals).map (· ++ "\n"))

/-! ## Sending signals -/

/-- The process that a text names, by its number or as one of the jobs. -/
def processOf? (sh : Shell) (text : String) : Option Nat :=
  match text.toList with
  | ['%', '%'] | ['%', '+'] | ['%'] => sh.latestJob
  | '%' :: digits => ((String.ofList digits).toNat?).bind fun n => (sh.jobs[n - 1]?).map Job.process
  | _ => text.toNat?

/-- Why a signal cannot be sent. -/
inductive KillFault where
  | usage
  | noSignal (text : String)
  | noValue (letter : Char)
  | noProcess (text : String)
  | noJob (text : String)
  /-- Nothing runs under a number. -/
  | gone (text : String)
  deriving DecidableEq, Repr, Inhabited

/-- Complains that a signal cannot be sent. In one of the shells some faults end the command. -/
def refuseKill (fault : KillFault) (sh : Shell) : Shell :=
  match fault with
  | .usage =>
    if sh.isBash then Usage.explain sh
    else sh.reject "Usage: kill [-s sigspec | -signum | -sigspec] [pid | job]... or\nkill -l [exitstatus]" ""
  | .noSignal text => (sh.object ("invalid signal number or name: " ++ text) (text ++ ": invalid signal specification")).giveUp
  | .noValue letter =>
    sh.reject ("No arg for -" ++ letter.toString ++ " option") ("-" ++ letter.toString ++ ": option requires an argument")
  | .noProcess text =>
    if sh.isBash then (sh.object "" (text ++ ": arguments must be process or job IDs")).withStatus 1
    else sh.reject ("Illegal number: " ++ text) ""
  | .noJob text =>
    if sh.isBash then (sh.object "" (text ++ ": no such job")).withStatus 1
    else sh.reject ("No such job: " ++ text) ""
  | .gone text => (sh.object "No such process\n" ("(" ++ text ++ ") - No such process")).withStatus 1

/-- Splits the arguments of `kill` into a signal and the processes it is for. -/
def killArguments : List String → Except KillFault (Nat × List String)
  | ["-s"] => .error (.noValue 's')
  | ["-n"] => .error (.noValue 'n')
  | "-s" :: name :: rest | "-n" :: name :: rest =>
    match signal? name with
    | some signal => .ok (signal, rest)
    | none => .error (.noSignal name)
  | "--" :: rest => .ok (15, rest)
  | first :: rest =>
    if first.startsWith "-" && first.length > 1 then
      let name := (first.drop 1).toString
      match signal? name with
      | some signal => .ok (signal, if rest.head? == some "--" then rest.drop 1 else rest)
      | none => .error (.noSignal name)
    else .ok (15, first :: rest)
  | [] => .error .usage

/-- Sends a signal to a job that may have ended already. -/
def killJob (signal : Nat) (sh : Shell) (job : Job) : Shell :=
  if sh.machine.clock < job.done then
    if isDeadly signal then
      let ended := { job with done := sh.machine.clock, status := 128 + signal }
      { sh with
        machine := sh.machine.silence job.process
        jobs := sh.jobs.map fun other => if other.process == job.process then ended else other }
    else sh
  else if job.status < 128 then refuseKill (.gone job.process.repr) sh
  else sh

/-- Sends a signal to one process. -/
def killOne (signal : Nat) (sh : Shell) (target : String) : Shell :=
  match processOf? sh target with
  | none => if sh.goesOn then refuseKill (if target.startsWith "%" then .noJob target else .noProcess target) sh else sh
  | some number =>
    if !sh.goesOn then sh
    else if number == sh.number || number == sh.mainNumber then
      let handled := number == sh.number && signal != 9 && signal != 19
      match if handled then sh.handlers.lookup signal else none with
      | some _ => { sh with arrived := sh.arrived ++ [signal] }
      | none =>
        if signal == 19 then { sh with machine := sh.machine.elapse Machine.never }
        else if isDeadly signal then { sh with machine := sh.machine.doom number signal } else sh
    else
      match sh.jobs.find? fun job => job.process == number with
      | some job => killJob signal sh job
      | none =>
        if sh.machine.isProcess number then
          if isDeadly signal then { sh with machine := sh.machine.doom number signal } else sh
        else refuseKill (.gone target) sh

/-- Names signals by their numbers. One of the shells numbers names too. -/
def nameSignals (codes : List String) (sh : Shell) : Shell :=
  (if sh.isBash then codes else codes.take 1).foldl
    (fun sh code =>
      match code.toNat?, signal? code with
      | some n, _ => if sh.goesOn then sh.print (signalName (n % 128) ++ "\n") else sh
      | none, some n =>
        if sh.isBash then sh.print (n.repr ++ "\n") else sh.reject ("Illegal number: " ++ code) ""
      | none, none =>
        if sh.isBash then (sh.object "" (code ++ ": invalid signal specification")).withStatus 1
        else sh.reject ("Illegal number: " ++ code) "")
    (sh.withStatus 0)

/-- Sends a signal to processes, or names signals. -/
def kill : Builtin := fun arguments sh =>
  match arguments with
  | ["-l"] | ["-L"] =>
    if sh.isBash then sh.print signalTable
    else sh.print ("0\n" ++ String.join (signals.map fun entry => entry.1 ++ "\n"))
  | "-l" :: codes | "-L" :: codes => nameSignals codes sh
  | _ =>
    match killArguments arguments with
    | .ok (signal, targets) =>
      if targets.isEmpty then refuseKill .usage sh else targets.foldl (killOne signal) (sh.withStatus 0)
    | .error (.noSignal text) =>
      let first := arguments.headD ""
      if !sh.isBash && first != "-s" then sh.reject ("Illegal option " ++ (first.take 2).toString) ""
      else refuseKill (.noSignal text) sh
    | .error fault => refuseKill fault sh

/-! ## Waiting -/

/-- Waits for processes that run beside the script. -/
def wait : Builtin := fun arguments sh =>
  if arguments.head? == some "-n" then
    let running := sh.jobs.filter fun job => sh.machine.clock < job.done
    match running.foldl
        (fun (best : Option Job) job => if best.all fun b => job.done < b.done then some job else best) none with
    | some job => sh.withStatus job.status |>.awaits job.done
    | none => sh.withStatus 127
  else
    let job? (number : Nat) : Option Job := sh.jobs.find? fun job => job.process == number
    let one (sh : Shell) (text : String) : Shell :=
      if !sh.goesOn then sh
      else
        match processOf? sh text with
        | some number =>
          match job? number with
          | some job => (sh.withStatus job.status).awaits job.done
          | none =>
            (if sh.isBash then sh.object "" ("pid " ++ text ++ " is not a child of this shell") else sh).withStatus 127
        | none =>
          if text.startsWith "%" then
            if sh.isBash then (sh.object "" (text ++ ": no such job")).withStatus 127
            else sh.reject ("No such job: " ++ text) ""
          else if sh.isBash then
            (sh.object "" ("\x60" ++ text ++ "\x27: not a pid or valid job spec")).withStatus 1
          else sh.reject ("Illegal number: " ++ text) ""
    if arguments.isEmpty then
      (sh.withStatus 0).awaits (sh.jobs.foldl (fun t job => max t job.done) sh.machine.clock)
    else arguments.foldl one (sh.withStatus 0)

/-! ## Traps -/

/-- Prints what is done at the end of the script and on signals. -/
def printTraps (sh : Shell) : Shell :=
  let line (action name : String) : String := "trap -- " ++ sh.quote action ++ " " ++ name ++ "\n"
  let handlers := sh.handlers.mergeSort fun a b => decide (a.1 ≤ b.1)
  let start := if sh.isBash then "SIG" else ""
  sh.print (String.join ((sh.farewell.map fun action => line action "EXIT").toList
    ++ handlers.map fun (n, action) => line action (start ++ signalName n)))

/-- Says what is done on one condition. -/
def trapOne (action : String) (sh : Shell) (condition : String) : Shell :=
  if condition == "EXIT" || condition == "0" then
    { sh with farewell := if action == "-" then none else some action }
  else if sh.isBash && condition == "ERR" then
    { sh with onFailure := if action == "-" then none else some action }
  else if sh.isBash && ["DEBUG", "RETURN"].contains condition then sh
  else
    match signal? condition with
    | some n =>
      let others := sh.handlers.filter (·.1 != n)
      { sh with handlers := if action == "-" then others else (n, action) :: others }
    | none =>
      (if sh.isBash then sh.object "" (condition ++ ": invalid signal specification")
        else sh.mutter ("trap: " ++ condition ++ ": bad trap")).withStatus 1

/-- Says what is done at the end of the script or on signals. -/
def trap : Builtin := fun arguments sh =>
  let operands := arguments.filter (· != "--")
  let (action, conditions) :=
    match operands with
    | action :: conditions =>
      if conditions.isEmpty || action.toNat?.isSome then ("-", operands) else (action, conditions)
    | [] => ("-", [])
  if operands.isEmpty || operands.head? == some "-p" then printTraps (sh.withStatus 0)
  else if operands.head? == some "-l" then sh.print signalTable
  else if sh.isBash && operands.length = 1 && action == "-" && !isCondition (operands.headD "") then
    Usage.explain sh
  else conditions.foldl (trapOne action) (sh.withStatus 0)
where
  /-- Whether a text names something that a trap can be for. -/
  isCondition (text : String) : Bool :=
    ["EXIT", "ERR", "DEBUG", "RETURN"].contains text || (signal? text).isSome

end MutantHunt.Sandbox.Shell.Builtin
