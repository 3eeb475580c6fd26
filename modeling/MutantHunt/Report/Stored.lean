import MutantHunt.Host
import MutantHunt.Report.Document

/-!
# The stored report

The report of a search is kept in a file in the directory for its results. Every report that is stored
replaces the one before.
-/

namespace MutantHunt.Report

variable {σ : Type}

/-- Stores a report in a directory. -/
def store (host : Host σ) (directory : String) (report : Report) : Act OsError σ Unit :=
  host.write (pathIn directory) (Text.encode report.stored)

/-- The report that is stored in a directory. There is none if the file cannot be read or holds
something else. -/
def load (host : Host σ) (directory : String) : Act OsError σ (Option Report) := fun s =>
  match host.read (pathIn directory) s with
  | (.ok bytes, s) => (.ok (ofBytes? bytes), s)
  | (.error _, s) => (.ok none, s)

end MutantHunt.Report
