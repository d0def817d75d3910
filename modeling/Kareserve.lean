import Kareserve.Lib.Run
import Kareserve.Lib.Dict
import Kareserve.Lib.BigEndian
import Kareserve.Lib.Ledger
import Kareserve.Lib.Future
import Kareserve.Lib.IndexedTable
import Kareserve.Lib.Rounding
import Kareserve.State
import Kareserve.Tracker.Catalog
import Kareserve.Tracker.Proofs.OpLog
import Kareserve.Tracker.Basic
import Kareserve.Tracker.Proofs.Load
import Kareserve.Tracker.Listen
import Kareserve.Tracker.History
import Kareserve.Tracker.Publisher
import Kareserve.Tracker.Proofs.Gap
import Kareserve.Tracker.Proofs.Prefix
import Kareserve.Tracker.Proofs.Sequence
import Kareserve.Tracker.Proofs.Restart
import Kareserve.Tracker.System
import Kareserve.Tracker.Proofs.Recovery
import Kareserve.Gateway.Pool
import Kareserve.Gateway.Proofs.Pool
import Kareserve.Gateway.Completion
import Kareserve.Gateway.Proofs.Completion
import Kareserve.Lib.SortKey
import Kareserve.Policy.CostModel
import Kareserve.Policy.Base
import Kareserve.Policy.Baselines
import Kareserve.Policy.Proofs.Selection
import Kareserve.Policy.Proofs.Complete
import Kareserve.Policy.Proofs.Affinity
import Kareserve.Lib.Budget
import Kareserve.Policy.Proofs.Matrix
import Kareserve.Policy.Proofs.Capacity
import Kareserve.Policy.Raising
import Kareserve.Policy.Proofs.Raising
import Kareserve.Policy.Proofs.Returning
import Kareserve.Policy.Proofs.Feedback
import Kareserve.Policy.Proofs.Order
import Kareserve.Policy.Proofs.Baseline
import Kareserve.Gateway.Planner
import Kareserve.Gateway.Proofs.Planner
import Kareserve.Gateway.Proofs.Independence
import Kareserve.Gateway.Proofs.Lookup
import Kareserve.Gateway.Bridge
import Kareserve.Gateway.Proofs.Bridge
import Kareserve.Gateway.Proofs.Delivery
import Kareserve.Gateway.Proofs.Shutdown
import Kareserve.Lib.LeastSquares
import Kareserve.Lib.Window
import Kareserve.Policy.Proofs.Estimator
import Kareserve.Policy.Proofs.Placement
import Kareserve.Policy.Proofs.Training
import Kareserve.Policy.Proofs.Units
import Kareserve.Tracker.Proofs.Demand
import Kareserve.Gateway.Proofs.Stream
import Kareserve.Gateway.L2Lookup
import Kareserve.Gateway.Proofs.L2Lookup
import Kareserve.Lib.PyFloat
import Kareserve.Lib.Stmt
import Kareserve.Tracker.Metrics
import Kareserve.Tracker.Proofs.Apply
import Kareserve.Lib.Exposition
import Kareserve.Tracker.Proofs.Patterns
import Kareserve.Tracker.Proofs.Labels
import Kareserve.Tracker.Proofs.Extract
import Kareserve.Lib.Greedy
import Kareserve.Lib.Rotation
import Kareserve.Policy.Proofs.Balance
import Kareserve.Policy.Proofs.Spread
import Kareserve.Lib.Trie
import Kareserve.Scripts.PrefixReuse
import Kareserve.Scripts.Proofs.PrefixReuse
import Kareserve.Lib.Pydantic
import Kareserve.Gateway.Config
import Kareserve.Gateway.Proofs.Config
import Kareserve.Gateway.App
import Kareserve.Gateway.Proofs.App
import Kareserve.Gateway.Proofs.Occupancy
import Kareserve.Gateway.Proofs.Lifecycle
import Kareserve.Gateway.Proofs.Serving
import Kareserve.Gateway.Proofs.Parts
import Kareserve.Gateway.Stats
import Kareserve.Gateway.Proofs.Stats
import Kareserve.Gateway.Proofs.Observing
import Kareserve.Gateway.Log
import Kareserve.Gateway.Proofs.Log
import Kareserve.Gateway.Front
import Kareserve.Gateway.Proofs.Front
import Kareserve.Gateway.Startup
import Kareserve.Gateway.Proofs.Polling
import Kareserve.Gateway.Proofs.Startup
import Kareserve.Gateway.Proofs.Caches
import Kareserve.Gateway.Proofs.Hits
import Kareserve.Gateway.Proofs.Placing
import Kareserve.Lib.Regression
import Kareserve.Scripts.Calibration
import Kareserve.Scripts.Proofs.Calibration
