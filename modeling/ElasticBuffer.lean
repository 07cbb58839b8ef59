import ElasticBuffer.Proofs.Soundness
import ElasticBuffer.Session.Blocks
import ElasticBuffer.Session.Step
import ElasticBuffer.Workload
import ElasticBuffer.Proofs.Moves
import ElasticBuffer.Proofs.Lifetime
import ElasticBuffer.Proofs.Contents
import ElasticBuffer.Proofs.Requests
import ElasticBuffer.Proofs.Atomicity
import ElasticBuffer.Proofs.Naturality
import ElasticBuffer.Proofs.Recording
import ElasticBuffer.Proofs.Identities
import ElasticBuffer.Proofs.Conservation
import ElasticBuffer.Proofs.GrowthChain
import ElasticBuffer.Proofs.Acceptance
import ElasticBuffer.Proofs.Interchange
import ElasticBuffer.Proofs.Reports
import ElasticBuffer.Proofs.StorageHistory
import ElasticBuffer.Proofs.Ceiling
import ElasticBuffer.Proofs.Totals
import ElasticBuffer.Proofs.Amortised
import ElasticBuffer.Proofs.Removal
import ElasticBuffer.Proofs.Acts
import ElasticBuffer.Proofs.Series
import ElasticBuffer.Proofs.GuardedPush
import ElasticBuffer.Proofs.Reservation
import ElasticBuffer.Proofs.Safety
import ElasticBuffer.Proofs.Warnings
import ElasticBuffer.Proofs.Demands
import ElasticBuffer.Proofs.Workloads
import ElasticBuffer.Proofs.Copies
import ElasticBuffer.Proofs.Shortage
import ElasticBuffer.Proofs.Budget
import ElasticBuffer.Proofs.Idempotence
import ElasticBuffer.Proofs.Climb
import ElasticBuffer.Proofs.Messages
