import DisastrOS.Ancestry
import DisastrOS.Behaviour
import DisastrOS.Channels
import DisastrOS.Completion
import DisastrOS.Conservation
import DisastrOS.Consumption
import DisastrOS.Contexts
import DisastrOS.Delivery
import DisastrOS.Dispatch
import DisastrOS.Fairness
import DisastrOS.Footprints
import DisastrOS.Guarded
import DisastrOS.Insertion
import DisastrOS.Leases
import DisastrOS.Lifecycle
import DisastrOS.Lifetimes
import DisastrOS.Monitors
import DisastrOS.Opening
import DisastrOS.Orders
import DisastrOS.Outstanding
import DisastrOS.Progress
import DisastrOS.Refusals
import DisastrOS.Releasing
import DisastrOS.Reparenting
import DisastrOS.Returns
import DisastrOS.Selection
import DisastrOS.SizeCheck
import DisastrOS.Status
import DisastrOS.Stranded
import DisastrOS.Teardown
import DisastrOS.Wakeups
