import BuildRepair.Main
import BuildRepair.Service
import BuildRepair.Proofs.Repair.Greedy
import BuildRepair.Proofs.Repair.Ending
import BuildRepair.Proofs.Repair.Reported
import BuildRepair.Proofs.Repair.Learning
import BuildRepair.Proofs.Repair.CarryOver
import BuildRepair.Proofs.Repair.Books
import BuildRepair.Proofs.Remedy.Outcome
import BuildRepair.Proofs.Remedy.Manifests
import BuildRepair.Proofs.Diagnosis.Summary
import BuildRepair.Proofs.Diagnosis.Blocks
import BuildRepair.Proofs.Blocking.Repairing
import BuildRepair.Proofs.Replacement.Law
import BuildRepair.Proofs.History.Sharing
import BuildRepair.Proofs.History.Apart
import BuildRepair.Proofs.Remedy.Surface
import BuildRepair.Proofs.Replacement.RoundTrip
import BuildRepair.Proofs.Blocking.Declared
import BuildRepair.Proofs.Remedy.Dropping
import BuildRepair.Proofs.Remedy.Substituting
import BuildRepair.Proofs.Replacement.Turns
import BuildRepair.Proofs.Replacement.Independent
import BuildRepair.Proofs.Console.Preview
import BuildRepair.Proofs.File.Temporary
import BuildRepair.Proofs.Diagnosis.Progress
import BuildRepair.Proofs.Diagnosis.Merging
import BuildRepair.Proofs.Diagnosis.ModulePath
import BuildRepair.Proofs.Diagnosis.QuotedRange
import BuildRepair.Proofs.Diagnosis.NativeBuild
import BuildRepair.Proofs.Diagnosis.HostedRepository
import BuildRepair.Proofs.Glob
import BuildRepair.Proofs.Semver
import BuildRepair.Proofs.Text.LineEnds
import BuildRepair.Proofs.Remedy.Settings
import BuildRepair.Proofs.Build.Running
import BuildRepair.Proofs.Build.Quoting
import BuildRepair.Proofs.History.Dating
import BuildRepair.Proofs.Manifest.Persistence
import BuildRepair.Proofs.Replacement.Acceptance
import BuildRepair.Proofs.Atomicity
