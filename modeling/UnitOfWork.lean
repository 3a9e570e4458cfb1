import UnitOfWork.Json.Printing
import UnitOfWork.Json.Reading
import UnitOfWork.Policy.Format
import UnitOfWork.Proofs.CleanupDuties
import UnitOfWork.Proofs.ConnectionLookups
import UnitOfWork.Proofs.DeadlineChecks
import UnitOfWork.Proofs.Decision
import UnitOfWork.Proofs.FailureDisclosure
import UnitOfWork.Proofs.HolderReuse
import UnitOfWork.Proofs.LevelSpelling
import UnitOfWork.Proofs.ManualOperations
import UnitOfWork.Proofs.Overdue
import UnitOfWork.Proofs.PolicyRoundTrip
import UnitOfWork.Proofs.PropagationStack
import UnitOfWork.Proofs.ProtocolRuns
import UnitOfWork.Proofs.RecordedEvents
import UnitOfWork.Proofs.RevivedHolders
import UnitOfWork.Proofs.SessionRoundTrip
import UnitOfWork.Proofs.Suspension
import UnitOfWork.Proofs.TwoContexts
import UnitOfWork.Proofs.UnnoticedFailures
import UnitOfWork.Script.Run
