import Buildfile.Build.Rehearsal
import Buildfile.Main
import Buildfile.Text.Utf8.RoundTrip
import Buildfile.Build.Run
import Buildfile.Proofs.Step
import Buildfile.Proofs.Coherence
import Buildfile.Proofs.Progress
import Buildfile.Build.Dependency
import Buildfile.Proofs.Built
import Buildfile.Proofs.Soundness
import Buildfile.Proofs.Refusal
import Buildfile.Proofs.Outcome
import Buildfile.Proofs.Termination
import Buildfile.Proofs.Simulation
import Buildfile.Proofs.Depth
import Buildfile.Proofs.Agreement
import Buildfile.Build.Course
import Buildfile.Proofs.Succession
import Buildfile.Proofs.Attested
import Buildfile.Proofs.Finality
import Buildfile.Proofs.Order
import Buildfile.Proofs.Waiting
import Buildfile.Proofs.Explanation
import Buildfile.Description.Outline
import Buildfile.Proofs.Redefinition
import Buildfile.Proofs.Reading
import Buildfile.Description.Grammar
import Buildfile.Proofs.Comments
import Buildfile.Proofs.Slots
import Buildfile.Proofs.Crashes
import Buildfile.Proofs.Words
import Buildfile.Description.Work
import Buildfile.Proofs.Completion
import Buildfile.Proofs.Rejection
import Buildfile.Description.Shape
import Buildfile.Proofs.WellFormed
import Buildfile.Description.Writing
import Buildfile.Proofs.Writing
import Buildfile.Proofs.LineEnds
import Buildfile.Build.Traversal
import Buildfile.Proofs.Traversal
import Buildfile.Build.Nesting
import Buildfile.Proofs.Nesting
import Buildfile.Proofs.Projection
import Buildfile.Proofs.Locality
import Buildfile.Proofs.Debugging
import Buildfile.Proofs.Sights
import Buildfile.Proofs.Contract
import Buildfile.Description.Parts
import Buildfile.Proofs.Expansion
import Buildfile.Description.Origin
import Buildfile.Proofs.Stems
import Buildfile.Proofs.Resolution
import Buildfile.Use
import Buildfile.Proofs.Priority
import Buildfile.Proofs.Unquoted
import Buildfile.Proofs.Attempts
