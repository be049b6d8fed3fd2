import AxzlCore.Library.Runs
import AxzlCore.Mutex.Recoverability
import AxzlCore.Clock.ClockUtility
import AxzlCore.Error.Policy
import AxzlCore.Error.SystemError
import AxzlCore.Library.Outcomes
import AxzlCore.Library.LinearOwnership
import AxzlCore.Library.RobustMutex
import AxzlCore.Library.ReportedHolds
import AxzlCore.Mutex.Recovery
import AxzlCore.Mutex.TimedAcquisition
import AxzlCore.ConditionVariable.Construction
import AxzlCore.Handle.Ownership
import AxzlCore.ConditionVariable.Waits
import AxzlCore.ConditionVariable.SharedWaits
import AxzlCore.Thread.Attributes
import AxzlCore.Thread.Object
import AxzlCore.Thread.World
import AxzlCore.Thread.Stacks
import AxzlCore.Thread.JoinFlag
import AxzlCore.Thread.Ownership
import AxzlCore.Thread.StartupHandOff
import AxzlCore.ConditionVariable.PredicateWaits
import AxzlCore.Error.Propagation
import AxzlCore.Log.Filtering
import AxzlCore.Mutex.TryLocking
import AxzlCore.Thread.Priority
import AxzlCore.Thread.SchedPair
import AxzlCore.Clock.Conversion
import AxzlCore.Clock.Deadlines
import AxzlCore.Thread.Identifiers
import AxzlCore.Thread.StoredSched
import AxzlCore.Clock.ExactSplit
import AxzlCore.Error.Flushing
import AxzlCore.Error.ReportedNumber
import AxzlCore.Handle.Chains
import AxzlCore.ConditionVariable.BalancedWaits
import AxzlCore.ConditionVariable.Notifications
import AxzlCore.Library.Accounts
import AxzlCore.Library.ReentrantLock
import AxzlCore.Mutex.Accounting
import AxzlCore.Clock.DeadlineOrder
import AxzlCore.Error.Process
import AxzlCore.Library.LineFormat
import AxzlCore.Library.OwnedHeap
import AxzlCore.Library.SharedStream
import AxzlCore.Log.StdOut
import AxzlCore.Thread.Context
import AxzlCore.Thread.Lifetime
import AxzlCore.Thread.Settings
import AxzlCore.ConditionVariable.PredicateAnswers
