import DpuFabric.Core.Truncation
import DpuFabric.Engine.Identity
import DpuFabric.Engine.IssuerHistory
import DpuFabric.Engine.PlanOrder
import DpuFabric.Persist.Appending
import DpuFabric.Persist.Damage
import DpuFabric.Persist.Race
import DpuFabric.Runtime.Accounts
import DpuFabric.Runtime.Answers
import DpuFabric.Runtime.ClosedAttempts
import DpuFabric.Runtime.Conflict
import DpuFabric.Runtime.Defined
import DpuFabric.Runtime.FenceInstant
import DpuFabric.Runtime.Limits
import DpuFabric.Runtime.Onward
import DpuFabric.Runtime.Orphans
import DpuFabric.Runtime.Reports
import DpuFabric.Runtime.Sealed
import DpuFabric.Runtime.Serving
import DpuFabric.Runtime.TableOrder
import DpuFabric.Runtime.TokenLife
import DpuFabric.Runtime.WellFormed
import DpuFabric.Transport.Reassembly
import DpuFabric.Transport.Workers
