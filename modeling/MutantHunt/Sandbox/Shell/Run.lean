import MutantHunt.Sandbox.Shell.Simple

/-!
# Running commands

`step` says what each kind of command does, given a way to run the commands inside it; `run` closes the
circle, up to a depth that no script in its right mind reaches. Every command takes a little time, so a
script with a deadline that never ends is stopped there.
-/

namespace MutantHunt.Sandbox.Shell

/-- How long the shell is busy with a command of its own, in microseconds. -/
def stepTime : Nat := 2

/-- Goes to a line, if it is known. -/
def «at» (sh : Shell) (line : Nat) : Shell :=
  if line = 0 then sh else { sh with line }

section

variable (run : Runner)

/-! ## After a command -/

/-- Runs what is to be done on signals that have arrived. The status stays. -/
def handleSignals (sh : Shell) : Shell :=
  sh.arrived.foldl
    (fun after signal =>
      if after.goesOn then
        let done := runAction run ((after.handlers.lookup signal).getD "") after
        if done.goesOn then done.withStatus sh.status else done
      else after)
    { sh with arrived := [] }

/-- Does what is to be done if a command failed, and ends the script if a command failed where none may. -/
def insist (sh : Shell) : Shell :=
  if sh.goesOn && sh.status != 0 && !sh.tolerant then
    let sh :=
      match sh.onFailure with
      | some action =>
        let after := runAction run action { sh with onFailure := none }
        if after.goesOn then { after with onFailure := some action, status := sh.status } else after
      | none => sh
    if sh.goesOn && sh.options.contains 'e' then { sh with flow := .exits sh.status } else sh
  else sh

/-- Does all that is to be done after a command. -/
def afterCommand (sh : Shell) : Shell :=
  insist run (handleSignals run sh)

/-- Runs a command that may fail. -/
def runTolerantly (command : Command) (sh : Shell) : Shell :=
  { run command { sh with tolerant := true } with tolerant := sh.tolerant }

/-! ## Several processes -/

/-- Runs the parts of a pipeline one after the other, each as if it started when the first one did. What
they do to the files is still to come afterwards. With `limited` pipes, a part that writes more than a pipe
holds is stopped there. Gives the statuses, when the last part has ended, and whether some part was
stopped while the next one read all there was. -/
def runParts (limited : Bool) :
    Option Channel → List Command → Shell → List Nat × Nat × Bool × Shell
  | _, [], sh => ([], sh.machine.clock, false, sh)
  | source, command :: rest, sh =>
    let (pipe, machine) := sh.machine.openPipe
    let change (process : Process) : Process :=
      let process :=
        match source with
        | some channel => process.redirect 0 channel
        | none => process
      if rest.isEmpty then process else process.redirect 1 (.pipe pipe)
    let brim := if limited && !rest.isEmpty then some pipe else machine.brim
    let (exit, after) := runBeside run change (run command) { sh with machine := { machine.branch with brim } }
    let (channel, machine) := (machine.rewind after).openInput (after.collect pipe)
    let (statuses, ended, starved, sh) := runParts limited (some channel) rest { sh with machine }
    let stopped := brim == some pipe && after.isFull
    let left := sh.machine.pending { name := "", channels := [(0, channel)] } 0
    let drained := stopped && left.bytes.isEmpty && !left.unwanted
    ((if stopped then 141 else exit.status) :: statuses, max ended after.clock, starved || drained, sh)

/-- Runs a pipeline. -/
def runPipeline (commands : List Command) (sh : Shell) : Shell :=
  let first := runParts run true none commands sh
  let (statuses, ended, _, after) := if first.2.2.1 then runParts run false none commands sh else first
  let last := statuses.getLastD 0
  let failed := (statuses.filter (· != 0)).getLastD 0
  let status := if sh.features.contains "pipefail" then failed else last
  let end_ : Exit := if !sh.isBash && 128 < last then .signal (last - 128) else .code last
  { sh.resume (after.machine.advance ended) end_ with status, statuses }

/-- How long a process that runs beside a script may take, in microseconds. -/
def backgroundLimit : Nat := 20000000

/-- Runs a command beside the script. What it does is still to come afterwards. -/
def runBackground (command : Command) (sh : Shell) : Shell :=
  let child := sh.machine.lastProcess + 1
  let deadline := sh.machine.clock + backgroundLimit
  let change (process : Process) : Process :=
    { process.redirect 0 .sink with deadline := some deadline }
  let (exit, after) := { sh.machine.branch with job := child, brim := none }.within (some deadline) fun machine =>
    runBeside run change (run command) { sh with machine }
  let job : Job := { process := child, done := after.clock, status := exit.status }
  { sh with
    machine := sh.machine.rewind after
    jobs := sh.jobs ++ [job]
    latestJob := some child
    status := 0 }

/-! ## Loops -/

/-- What a loop does after a round: goes on, or ends with this flow. -/
def afterRound (sh : Shell) : Bool × Shell :=
  match sh.flow with
  | .onward => (true, sh)
  | .breaks n => (false, { sh with flow := if n ≤ 1 then .onward else .breaks (n - 1) })
  | .continues n =>
    if n ≤ 1 then (true, { sh with flow := .onward })
    else (false, { sh with flow := .continues (n - 1) })
  | _ => (false, sh)

/-- Runs a loop with a condition. `status` is that of the latest round. The number bounds how many rounds
there are. -/
def runLoop (untilSuccess : Bool) (condition body : Command) : Nat → Nat → Shell → Shell
  | 0, _, sh => sh
  | n + 1, status, sh =>
    let sh := runTolerantly run condition sh
    match afterRound sh with
    | (false, sh) => sh
    | (true, sh) =>
      if (sh.status == 0) == untilSuccess then sh.withStatus status
      else
        match afterRound (run body (sh.settle 1)) with
        | (false, sh) => sh
        | (true, sh) => runLoop untilSuccess condition body n sh.status sh

/-- How many rounds a loop can have. -/
def roundLimit : Nat := 1000000000

/-- Runs a body for each of some texts. -/
def runForEach (name : String) (body : Command) : List String → Shell → Shell
  | [], sh => sh
  | text :: rest, sh =>
    let sh := sh.storeText name text
    if !sh.goesOn then sh
    else
      match afterRound (run body (sh.settle 1)) with
      | (false, sh) => sh
      | (true, sh) => runForEach name body rest sh

/-- The value of an expression in a command. Where it has none, the command fails. -/
def computeCommand (expression : String) (sh : Shell) : Option Int × Shell :=
  let (text, sh) := joinedText (capture run) (Word.ofQuoted sh.dialect expression) sh
  if !sh.goesOn then (none, sh)
  else
    let (value, after) := compute? text { sh with speaker := some "((" }
    (value, { after with speaker := sh.speaker }.recover)

/-- Runs a body as long as an expression is not zero. The number bounds how many rounds there are. -/
def runForCount (condition next : String) (body : Command) : Nat → Shell → Shell
  | 0, sh => sh
  | n + 1, sh =>
    let wanted : Option Int × Shell :=
      if condition.trimAscii.isEmpty then (some 1, sh) else computeCommand run condition sh
    match wanted with
    | (none, sh) => sh
    | (some 0, sh) => sh
    | (some _, sh) =>
      match afterRound (run body (sh.settle 1)) with
      | (false, sh) => sh
      | (true, sh) =>
        let (_, after) :=
          if next.trimAscii.isEmpty then (some 0, sh) else computeCommand run next sh
        if after.goesOn then runForCount condition next body n { after with status := sh.status } else after

/-- Runs a loop, which counts as one more. -/
def inLoop (body : Shell → Shell) (sh : Shell) : Shell :=
  { body { sh with loops := sh.loops + 1 } with loops := sh.loops }

/-! ## Choices -/

/-- Whether one of some patterns fits a text. -/
def somePatternFits (subject : String) : List Word → Shell → Bool × Shell
  | [], sh => (false, sh)
  | pattern :: rest, sh =>
    let (glyphs, sh) := joined (capture run) pattern sh
    if !sh.goesOn then (false, sh)
    else if patternFits (sh.features.contains "extglob") glyphs subject then (true, sh)
    else somePatternFits subject rest sh

/-- Runs a command that may be nothing at all, which succeeds. -/
def runBranch (command : Command) (sh : Shell) : Shell :=
  match command with
  | .empty => sh.withStatus 0
  | _ => run command sh

/-- How the branches of a choice go on. -/
inductive Search where
  /-- No branch has fitted so far. -/
  | first
  /-- A branch has fitted, and further ones may. -/
  | further
  /-- The next branch is run whatever its patterns are. -/
  | atOnce
  deriving DecidableEq, Repr

/-- Runs the branches of a choice that fit. Without any, the choice succeeds. -/
def runBranches (subject : String) : Search → List (List Word × Command × After) → Shell → Shell
  | search, [], sh => if search == .first then sh.withStatus 0 else sh
  | search, (patterns, body, after) :: rest, sh =>
    let (hit, sh) := if search == .atOnce then (true, sh) else somePatternFits run subject patterns sh
    if !sh.goesOn then sh
    else if hit then
      let sh := runBranch run body sh
      if !sh.goesOn then sh
      else
        match after with
        | .stop => sh
        | .next => runBranches subject .atOnce rest sh
        | .search => runBranches subject .further rest sh
    else runBranches subject search rest sh

/-! ## Conditions -/

/-- The text of an expression for texts. What was quoted stands for itself. -/
def expressionText (glyphs : List Glyph) : String :=
  String.ofList (glyphs.flatMap fun g =>
    if g.quoted && "\\^$.|?*+()[]\x7b\x7d".toList.contains g.char then ['\\', g.char] else [g.char])

/-- Matches a text with an expression, and keeps what its groups stand for. -/
def matchExpression (text : String) (glyphs : List Glyph) (sh : Shell) : Bool × Shell :=
  match (Regex.ofText true (expressionText glyphs)).search none text.toList with
  | some hit =>
    let found := hit.finish.groups
    let count := found.foldl (fun most entry => max most entry.1) 0
    let groups := (List.range count).map fun n => String.ofList ((found.lookup (n + 1)).getD [])
    (true, sh.restore "BASH_REMATCH" (Value.ofList (String.ofList hit.text :: groups)))
  | none => (false, sh.restore "BASH_REMATCH" (.array []))

/-- Whether a condition in double brackets holds. Where that cannot be told, the status says so. -/
def decideTest : Test → Shell → Option Bool × Shell
  | .negation test, sh =>
    let (result, sh) := decideTest test sh
    (result.map (!·), sh)
  | .both first second, sh =>
    match decideTest first sh with
    | (some true, sh) => decideTest second sh
    | other => other
  | .either first second, sh =>
    match decideTest first sh with
    | (some false, sh) => decideTest second sh
    | other => other
  | .unary operator word, sh =>
    let (text, sh) := joinedText (capture run) word sh
    if !sh.goesOn then (none, sh)
    else if operator == "-o" then
      (some (((sh.dialect.namedOptions.lookup text).map (sh.isOn text)).getD false), sh)
    else (Condition.unary? (Builtin.world sh) operator text, sh)
  | .binary operator left right, sh =>
    let (text, sh) := joinedText (capture run) left sh
    let (glyphs, sh) := joined (capture run) right sh
    if !sh.goesOn then (none, sh)
    else
      let other := Glyph.text glyphs
      match operator with
      | "=" | "==" => (some (patternFits true glyphs text), sh)
      | "!=" => (some (!patternFits true glyphs text), sh)
      | "=~" =>
        let (result, sh) := matchExpression text glyphs sh
        (some result, sh)
      | _ =>
        if ["-eq", "-ne", "-lt", "-le", "-gt", "-ge"].contains operator then
          let speaker := sh.speaker
          let (a, sh) := compute? text { sh with speaker := some "[[" }
          let (b, sh) := if sh.goesOn then compute? other sh else (none, sh)
          let sh := { sh with speaker }
          match a, b with
          | some a, some b =>
            ((Condition.binary (Builtin.world sh) (toString a) operator (toString b)).toOption, sh)
          | _, _ => (none, { sh with flow := .onward })
        else ((Condition.binary (Builtin.world sh) text operator other).toOption, sh)

/-! ## All commands -/

/-- What a command does, given a way to run the commands inside it. -/
def step (command : Command) (sh : Shell) : Shell :=
  if !sh.goesOn then sh
  else
    match command with
    | .empty => sh
    | .simple line assignments words redirects =>
      let sh := (runSimple run assignments words redirects (sh.at line)).settle stepTime
      afterCommand run { sh with statuses := [sh.status] }
    | .pipeline commands => afterCommand run (runPipeline run commands sh)
    | .negation command =>
      let sh := runTolerantly run command sh
      if sh.goesOn then sh.withStatus (if sh.status = 0 then 1 else 0) else sh
    | .both first second =>
      let sh := runTolerantly run first sh
      if sh.goesOn && sh.status = 0 then run second sh else sh
    | .either first second =>
      let sh := runTolerantly run first sh
      if sh.goesOn && sh.status != 0 then run second sh else sh
    | .sequence first second =>
      let sh := run first sh
      if sh.goesOn then run second sh else sh
    | .background command => runBackground run command sh
    | .subshell body =>
      let (exit, machine) := runBeside run id (run body) sh
      afterCommand run (sh.resume machine exit)
    | .conditional condition yes no =>
      let sh := runTolerantly run condition sh
      if !sh.goesOn then sh
      else if sh.status = 0 then run yes sh
      else runBranch run no sh
    | .loop untilSuccess condition body =>
      inLoop (runLoop run untilSuccess condition body roundLimit 0) sh
    | .forEach line name words body =>
      let sh := sh.at line
      let (texts, sh) :=
        match words with
        | some words => fields (capture run) words sh
        | none => (sh.parameters, sh)
      if !sh.goesOn then sh
      else if texts.isEmpty then sh.withStatus 0
      else inLoop (runForEach run name body texts) sh
    | .forCount first condition next body =>
      let (begun, sh) :=
        if first.trimAscii.isEmpty then (some 0, sh) else computeCommand run first sh
      if begun.isSome then
        inLoop (runForCount run condition next body roundLimit) (sh.withStatus 0)
      else sh
    | .choice line word branches =>
      let (subject, sh) := joinedText (capture run) word (sh.at line)
      if sh.goesOn then runBranches run subject .first branches sh else sh
    | .define name body =>
      { sh with
        functions := (name, { body, origin := sh.origin }) :: sh.functions.filter (·.1 != name)
        status := 0 }
    | .redirected body redirects => withRedirects run redirects (run body) sh
    | .test test =>
      match decideTest run test sh with
      | (some result, sh) => afterCommand run (sh.withStatus (if result then 0 else 1))
      | (none, sh) => if sh.goesOn then afterCommand run (sh.withStatus 1) else sh
    | .computation expression =>
      match computeCommand run expression sh with
      | (some value, sh) => afterCommand run ((sh.withStatus (if value = 0 then 1 else 0)).settle 1)
      | (none, sh) => afterCommand run sh

end

/-- Runs a command. The number bounds how deep commands can stand inside commands. A command that is
deeper fails. -/
def runWith : Nat → Runner
  | 0 => fun _ sh => sh.stop "maximum depth exceeded"
  | n + 1 => step (runWith n)

/-- How deep commands can stand inside commands. -/
def depthLimit : Nat := 1000000

/-- Runs a command. -/
def runCommand : Runner :=
  runWith depthLimit

end MutantHunt.Sandbox.Shell
