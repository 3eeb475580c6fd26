import MutantHunt.Collaborator

/-!
# Triage of miscompilations

Several mutants may break one program in the same way. `Reducer.triage` minimizes the program for
the last mutant of a queue and asks which of the others the minimized program kills as well; those
share its group and are not minimized for themselves. A mutant for which the reducer gives up is
dropped.
-/

namespace MutantHunt.Reducer

variable {σ : Type} (reducer : Reducer σ)

/-- Asks of each mutant in turn whether the program reduced last kills it. Gives those it kills and
those it does not, each in the order asked. -/
def sift : List MutantId → Act HuntError σ (List MutantId × List MutantId)
  | [] => pure ([], [])
  | m :: rest => do
    let hit ← reducer.kills m
    let (hits, misses) ← sift rest
    pure (if hit then (m :: hits, misses) else (hits, m :: misses))

/-- Handles the last mutant of a queue, then those left over. The number bounds how many mutants the
queue holds. -/
def triageUpTo : Nat → List MutantId → Act HuntError σ (List ReducedKill)
  | 0, _ => pure []
  | n + 1, queue =>
    match queue.getLast? with
    | none => pure []
    | some m => do
      if ← reducer.reduce m then
        let (hits, misses) ← reducer.sift queue.dropLast
        let group := (m :: hits).mergeSort
        let path ← reducer.persist group
        let groups ← triageUpTo n misses
        pure ({ mutants := group, path } :: groups)
      else triageUpTo n queue.dropLast

/-- Minimizes the program for the mutants of a queue, the last first, and groups those that one
minimized program kills. -/
def triage (queue : List MutantId) : Act HuntError σ (List ReducedKill) :=
  reducer.triageUpTo queue.length queue

end MutantHunt.Reducer
