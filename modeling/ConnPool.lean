import ConnPool.Backend.Mock
import ConnPool.Backend.Scripted
import ConnPool.World.Step
import ConnPool.Proofs.Pool.Effect
import ConnPool.Proofs.Pool.Bounded
import ConnPool.Proofs.Pool.Covered
import ConnPool.Proofs.Pool.Isolated
import ConnPool.Proofs.World.Capacity
import ConnPool.Proofs.World.Logins
import ConnPool.Proofs.World.Waiting
import ConnPool.Proofs.Pool.Custody
import ConnPool.Proofs.World.Custody
import ConnPool.Proofs.World.Queue
import ConnPool.Proofs.World.Retired
import ConnPool.Proofs.World.Shutdown
import ConnPool.Proofs.Pool.Budget
import ConnPool.Proofs.World.Budget
import ConnPool.Proofs.Properties.Writing
import ConnPool.Proofs.Pool.Upkeep
import ConnPool.Proofs.World.Deals
import ConnPool.Proofs.Pool.Clean
import ConnPool.Proofs.World.Clean
import ConnPool.Proofs.Pool.Prepared
import ConnPool.Proofs.World.Redrawn
import ConnPool.Proofs.Pool.Tally
import ConnPool.Proofs.World.Turns
import ConnPool.Proofs.World.Fates
import ConnPool.Proofs.World.Accounting
import ConnPool.Proofs.Pool.Effort
import ConnPool.Proofs.World.Courses
import ConnPool.Proofs.World.Effort
import ConnPool.Proofs.World.Failures
import ConnPool.Proofs.Pool.Sifting
import ConnPool.Proofs.Pool.Faults
import ConnPool.Proofs.World.Outages
import ConnPool.Proofs.World.Reclaim
import ConnPool.Proofs.Pool.Calls
import ConnPool.Proofs.World.Drained
import ConnPool.Proofs.World.Changes
import ConnPool.Proofs.Pool.Judged
import ConnPool.Proofs.Pool.Returned
import ConnPool.Proofs.World.Returned
import ConnPool.Proofs.Pool.Reuse
import ConnPool.Proofs.World.IdleOrder
import ConnPool.Proofs.World.Reuse
import ConnPool.Proofs.Pool.Lifecycle
import ConnPool.Proofs.World.Lifecycle
import ConnPool.Proofs.Pool.Endpoints
import ConnPool.Proofs.World.Endpoints
import ConnPool.Proofs.Pool.Interrupted
import ConnPool.Proofs.World.Happens
import ConnPool.Proofs.World.Signals
import ConnPool.Proofs.World.Demands
import ConnPool.Proofs.World.Interruption
import ConnPool.Proofs.Pool.Called
import ConnPool.Proofs.World.Called
import ConnPool.Proofs.World.Detached
import ConnPool.Proofs.Properties.Bare
import ConnPool.Proofs.Pool.Probed
import ConnPool.Proofs.Pool.Wrapped
import ConnPool.Proofs.World.Wrapped
import ConnPool.Proofs.Pool.Remembered
import ConnPool.Proofs.World.Remembered
import ConnPool.Proofs.Properties.Sealed
import ConnPool.Proofs.Backend.Runs
import ConnPool.Proofs.Backend.Counts
import ConnPool.Proofs.Backend.Ledger
