import MutantHunt.Hunt
import MutantHunt.Main
import MutantHunt.Reduction
import MutantHunt.Report.Stored
import MutantHunt.Report.Summary
import MutantHunt.Sandbox.Terminal
import MutantHunt.Tree.Load
import MutantHunt.Workbench
import MutantHunt.Proofs.Tree.Address
import MutantHunt.Proofs.Tree.Arena
import MutantHunt.Proofs.Tree.Numbering
import MutantHunt.Proofs.Tree.Subtree
import MutantHunt.Proofs.Scheduler.Draw
import MutantHunt.Proofs.Scheduler.Lockstep
import MutantHunt.Proofs.Scheduler.Maximal
import MutantHunt.Proofs.Scheduler.Partition
import MutantHunt.Proofs.Scheduler.Round
import MutantHunt.Proofs.Scheduler.Strangers
import MutantHunt.Proofs.Search.Accounts
import MutantHunt.Proofs.Search.Desk
import MutantHunt.Proofs.Search.Detector
import MutantHunt.Proofs.Search.Exact
import MutantHunt.Proofs.Search.Followup
import MutantHunt.Proofs.Search.Frame
import MutantHunt.Proofs.Search.Groups
import MutantHunt.Proofs.Search.Legality
import MutantHunt.Proofs.Search.Merging
import MutantHunt.Proofs.Search.Orderly
import MutantHunt.Proofs.Search.Run
import MutantHunt.Proofs.Search.Settling
import MutantHunt.Proofs.Search.Snapshot
import MutantHunt.Proofs.Search.Thrift
import MutantHunt.Proofs.Search.Triage
import MutantHunt.Proofs.Search.Worklist
import MutantHunt.Proofs.Json.Extension
import MutantHunt.Proofs.Json.Locality
import MutantHunt.Proofs.Json.Strings
import MutantHunt.Proofs.Json.Tokens
import MutantHunt.Proofs.Json.Written
import MutantHunt.Proofs.Report.FileName
import MutantHunt.Proofs.Report.RoundTrip
import MutantHunt.Proofs.Description.Ending
import MutantHunt.Proofs.Description.Writing
import MutantHunt.Proofs.CommandLine.Limits
import MutantHunt.Proofs.Text.Words
import MutantHunt.Proofs.Workbench.Folder
import MutantHunt.Proofs.Workbench.Stale
import MutantHunt.Proofs.Workbench.Verdict
