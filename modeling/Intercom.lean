import Intercom.Simulation
import Intercom.Proofs.Settlement
import Intercom.Proofs.Contract
import Intercom.Proofs.Readiness
import Intercom.Proofs.Announcement
import Intercom.Proofs.Effect
import Intercom.Proofs.Retry
import Intercom.Proofs.Interleaving
import Intercom.Proofs.Disconnection
import Intercom.Proofs.Sweep
import Intercom.Proofs.Deadline
import Intercom.Proofs.Salvage
import Intercom.Proofs.Uncorrelated
import Intercom.Proofs.Routing
import Intercom.Proofs.Wire
import Intercom.Proofs.Rejection
import Intercom.Proofs.Replacement
import Intercom.Proofs.Departure
import Intercom.Proofs.Attempts
import Intercom.Proofs.Lifespan
import Intercom.Proofs.RoundTrip
import Intercom.Proofs.Answers
import Intercom.Proofs.Isolation
import Intercom.Proofs.Strictness
import Intercom.Proofs.Delay
import Intercom.Proofs.Complaint
import Intercom.Proofs.Dropping
import Intercom.Proofs.Form
import Intercom.Proofs.HostText
import Intercom.Proofs.Addressing
import Intercom.Proofs.Exactness
import Intercom.Proofs.Registration
import Intercom.Proofs.Exhaustion
