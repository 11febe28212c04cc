import Starring.Foundation.Checks
import Starring.Foundation.Rules
import Starring.Foundation.Runs
import Starring.Foundation.Text
import Starring.Domain.Identifiers
import Starring.Convergence.State
import Starring.Convergence.Validation
import Starring.Convergence.Machine
import Starring.Convergence.ProductDrain
import Starring.Convergence.Evidence
import Starring.Convergence.Effects
import Starring.Convergence.Lifecycle
import Starring.Convergence.Retry
import Starring.Convergence.Fencing
import Starring.Convergence.Atomicity
import Starring.Convergence.Succession
import Starring.Activation.Request
import Starring.Activation.Store
import Starring.Activation.Changes
import Starring.Activation.Outcomes
import Starring.Activation.Validity
import Starring.Activation.Quorum
import Starring.Activation.Slots
import Starring.Activation.Failures
import Starring.Domain.Guild
import Starring.Planning.DesiredState
import Starring.Planning.Normalize
import Starring.Planning.Overwrites
import Starring.Planning.Diff
import Starring.Planning.VirtualApply
import Starring.Planning.Stability
import Starring.Planning.Agreement
import Starring.Planning.Executability
import Starring.Planning.Order
import Starring.Planning.Cycles
import Starring.Executor.Preview
import Starring.Executor.Restoration
import Starring.Executor.Policy
import Starring.Automation.Mentions
import Starring.Automation.Prepare
import Starring.Automation.Routing
import Starring.Automation.References
import Starring.Automation.Rendering
import Starring.Automation.Ownership
import Starring.Automation.Responses
import Starring.Automation.Preflight.Refinement
import Starring.Automation.CustomId
import Starring.Automation.Teardown
import Starring.Automation.RetryScan
import Starring.Registry.Ports
import Starring.Registry.Emptiness
