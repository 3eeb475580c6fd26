import MutantHunt.Numeric.Binary64
import MutantHunt.Report

/-!
# The summary of a report

What a person reads at the end of a run: one line with the totals, one for each way in which mutants
were killed, and one for each reduced program. With colours, a styled piece stands between the codes
of its style and the code that ends them all.
-/

namespace MutantHunt

/-- How a piece of a line is shown. -/
inductive Style where
  | failure
  | success
  | warning
  | reference
  | dim
  deriving DecidableEq, Repr

/-- The codes of a style: the colour first, then bold. -/
def Style.codes : Style → List String
  | failure => ["31", "1"]
  | success => ["32", "1"]
  | warning => ["33", "1"]
  | reference => ["36", "1"]
  | dim => ["2"]

/-- Shows a text in a style, or plain. -/
def paint (colours : Bool) (style : Style) (text : String) : String :=
  if colours then
    String.join (style.codes.map fun code => "\x1b[" ++ code ++ "m") ++ text ++ "\x1b[0m"
  else text

/-- The line that reports a failure. -/
def failureLine (colours : Bool) (message : String) : String :=
  paint colours .failure "✗" ++ " " ++ message

/-- The line that reports a success. -/
def successLine (colours : Bool) (message : String) : String :=
  paint colours .success "✓" ++ " " ++ message

/-- A number of tenths, with a point. -/
def tenths (n : Nat) : String :=
  (n / 10).repr ++ "." ++ (n % 10).repr

/-- `part` out of `whole` in percent, computed as a double and shown with one decimal place, a tie
to the even one. All of nothing is everything. -/
def percentage (part whole : UInt64) : String :=
  if whole = 0 then "100.0"
  else
    let x := ((Binary64.ofNat part.toNat).mul (.ofNat 100)).div (.ofNat whole.toNat)
    match x.value with
    | .finite _ m e =>
      let (n, d) := Binary64.ratio m e
      tenths (roundHalfEven (n * 10) d)
    | _ => "100.0"

/-- The ways to kill that a summary counts, with their names. -/
def killKinds : List (Verdict × String) :=
  [(.compileFailKill, "compile failure"), (.compileTimeoutKill, "compile timeout"),
    (.runFailKill, "run failure"), (.runTimeoutKill, "run timeout"),
    (.miscompilationKill, "miscompilation")]

namespace Report

/-- The line with the totals. -/
def headline (colours : Bool) (report : Report) : String :=
  if report.unkilled = 0 then
    successLine colours (report.total.toNat.repr ++ " mutants, all killed using "
      ++ report.programs.toNat.repr ++ " programs")
  else
    paint colours .warning "!" ++ " " ++ report.killed.toNat.repr ++ " killed / "
      ++ report.total.toNat.repr ++ " mutants (" ++ percentage report.killed report.total
      ++ "%) using " ++ report.programs.toNat.repr ++ " programs, round "
      ++ report.round.toNat.repr

/-- The line for one way to kill. Ways that killed nothing have none. -/
def kindLine? (colours : Bool) (report : Report) (verdict : Verdict) (label : String) :
    Option String :=
  let count := report.count verdict
  if count = 0 then none
  else
    let strength := (verdict.strength?.map Strength.label).getD ""
    some ("  " ++ paint colours .dim "·" ++ " " ++ count.repr ++ " " ++ label ++ " kills ("
      ++ strength ++ ")")

/-- The line for one reduced program. -/
def groupLine (colours : Bool) (group : ReducedKill) : String :=
  let mutants := ", ".intercalate (group.mutants.map fun m => m.toNat.repr)
  "  " ++ paint colours .reference group.path ++ " " ++ paint colours .dim ("kills " ++ mutants)

/-- The lines of a summary. An empty line stands before the reduced programs. -/
def summary (colours : Bool) (report : Report) : List String :=
  headline colours report
    :: killKinds.filterMap (fun (verdict, label) => report.kindLine? colours verdict label)
    ++ if report.reduced.isEmpty then [] else "" :: report.reduced.map (groupLine colours)

end Report

end MutantHunt
