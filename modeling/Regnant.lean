import Regnant.Lib.CallTree
import Regnant.Lib.Machine
import Regnant.Lib.ReadModifyWrite
import Regnant.Proof.ReadBack
import Regnant.Proof.Updates
import Regnant.Proof.ConcurrentUpdates
import Regnant.Proof.LastOperation
import Regnant.Proof.LastRequest
import Regnant.Proof.Convergence
import Regnant.Proof.Redelivery
import Regnant.Proof.Retry.Completion
import Regnant.Proof.Refinement
import Regnant.Proof.Finality
import Regnant.Osb.Xds
import Regnant.Proof.Names
import Regnant.Proof.Listeners
import Regnant.Proof.Rejection
import Regnant.Proof.Creation
import Regnant.Proof.Unbinding
import Regnant.Proof.Incarnations
import Regnant.Proof.Rotation
import Regnant.Proof.DeadLetters
import Regnant.Proof.Numbers
import Regnant.Proof.Plain
import Regnant.Proof.Withdrawal
import Regnant.Proof.Disclosure
import Regnant.Proof.ConcurrentDisclosure
import Regnant.Proof.Provisions
import Regnant.Proof.Sidecar.Revocation
import Regnant.Proof.Sidecar.Admission
import Regnant.Proof.Documents
import Regnant.Proof.Templates.Fields
import Regnant.Proof.Contexts
import Regnant.Proof.Restarts
import Regnant.Proof.ArtifactServices
import Regnant.Proof.Polling
import Regnant.Proof.Survival
import Regnant.Proof.TypedMessages
import Regnant.Proof.Freshness
import Regnant.Proof.Domains
import Regnant.Proof.Sidecar.Keys
import Regnant.Proof.Sidecar.Roles
import Regnant.Proof.DeviceLogin
import Regnant.Proof.Filters.HeaderRewriter
import Regnant.Proof.Filters.RequestIdInjector
import Regnant.Proof.Served
import Regnant.Proof.RedriveLimit
import Regnant.Proof.Passwords
import Regnant.Proof.Filters.AbRouter
import Regnant.Proof.Backend.Branches
import Regnant.Proof.Backend.Integrity
import Regnant.Proof.Sidecar.KeyRotation
import Regnant.Proof.Entrypoint
import Regnant.Proof.Clients
import Regnant.Proof.Commands
import Regnant.Proof.Provenance
import Regnant.Proof.Templates.Secrets
