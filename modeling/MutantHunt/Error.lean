import MutantHunt.Json.Fault
import MutantHunt.Mutant
import MutantHunt.OsError

/-!
# What can go wrong

`TreeError` is for loading and asking the tree of mutants, `HuntError` for the search. What a trial
shows is never an error, it is a `Verdict`. `message` words an error.
-/

namespace MutantHunt

/-- Why a description is no good. -/
inductive Malformation where
  /-- The file with the description could not be opened. -/
  | unopenable (path : String) (cause : OsError)
  /-- The file was opened, but could not be read. -/
  | unreadable (cause : OsError)
  /-- The text is not the JSON of a description. -/
  | unparsable (fault : Json.Fault)
  /-- A mutant sits in two places, or twice in one. -/
  | repeated (mutant : MutantId)
  /-- The mutants are not numbered without gaps from zero. -/
  | sparse (mutant : MutantId) (total : Nat)
  deriving DecidableEq, Repr

/-- The wording of what is wrong with a description. -/
def Malformation.message : Malformation → String
  | unopenable path cause => "cannot read " ++ path ++ ": " ++ cause.message
  | unreadable cause => cause.message
  | unparsable fault => fault.message
  | repeated mutant => "mutant " ++ mutant.toNat.repr ++ " appears more than once"
  | sparse mutant total =>
    "mutant IDs are not densely packed: found " ++ mutant.toNat.repr ++ " with only " ++ total.repr
      ++ " mutants"

/-- A failure to load the tree of mutants, or to find a mutant in it. -/
inductive TreeError where
  | malformedDescription (why : Malformation)
  | outOfRange (mutant : MutantId) (total : Nat)
  deriving DecidableEq, Repr

/-- The wording of a failure of the tree. -/
def TreeError.message : TreeError → String
  | malformedDescription why => "malformed mutation description: " ++ why.message
  | outOfRange mutant total =>
    "mutant " ++ mutant.toNat.repr ++ " is out of range (mutation tree has " ++ total.repr
      ++ " mutants)"

/-- Why an operation on files or processes failed. -/
inductive IoCause where
  | system (error : OsError)
  | other (wording : String)
  deriving DecidableEq, Repr

/-- The wording of a cause. -/
def IoCause.message : IoCause → String
  | system error => error.message
  | other wording => wording

/-- A failure that ends the search. -/
inductive HuntError where
  | tree (error : TreeError)
  /-- A file or a process could not be worked with while doing what `context` says. -/
  | io (context : String) (cause : IoCause)
  /-- There is nothing to search for in a batch without mutants. -/
  | emptyBatch
  /-- The mutants on record are not as many as there are. -/
  | outOfSync (killed unkilled total : Nat)
  /-- A time limit is too long for a duration. -/
  | limitTooLong
  /-- No program was good enough, however often a new one was made. -/
  | noProgram
  deriving DecidableEq, Repr

/-- The wording of a failure. -/
def HuntError.message : HuntError → String
  | tree error => error.message
  | io context cause => context ++ ": " ++ cause.message
  | emptyBatch => "cannot search for kills in an empty batch"
  | outOfSync killed unkilled total =>
    "kill bookkeeping out of sync: " ++ killed.repr ++ " killed + " ++ unkilled.repr
      ++ " unkilled != " ++ total.repr ++ " mutants"
  | limitTooLong => "time limit out of range"
  | noProgram => "no program could be generated"

/-- The failure to do something because the operating system refused. -/
def HuntError.refused (context : String) (cause : OsError) : HuntError :=
  .io context (.system cause)

end MutantHunt
