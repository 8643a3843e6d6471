import RsMatterStack.Transition
import RsMatterStack.Alignment
import RsMatterStack.Bump
import RsMatterStack.Memory
import RsMatterStack.BumpArena
import RsMatterStack.BumpSeparation
import RsMatterStack.CommWindow
import RsMatterStack.GattLoop
import RsMatterStack.WirelessState
import RsMatterStack.Stack
import RsMatterStack.StackStep
import RsMatterStack.DeferredConnect
import RsMatterStack.Hydration
import RsMatterStack.NetworksStore
import RsMatterStack.FactoryReset
import RsMatterStack.BumpUsage
import RsMatterStack.StayOperational
import RsMatterStack.StrandedWindow
import RsMatterStack.ResetDiscipline
import RsMatterStack.NewOpening
import RsMatterStack.BumpExact
import RsMatterStack.BumpBudget
import RsMatterStack.ProvReady
import RsMatterStack.BoundedVec
import RsMatterStack.NetifState
import RsMatterStack.NetifMdns
import RsMatterStack.ReseedingRng
import RsMatterStack.RngLedger
import RsMatterStack.ReseedAccounting
import RsMatterStack.RngClones
import RsMatterStack.Refinement
import RsMatterStack.StackMemory
import RsMatterStack.JobTree
import RsMatterStack.TaskTree
import RsMatterStack.WaitProgress
import RsMatterStack.CoexRun
import RsMatterStack.HexText
import RsMatterStack.MdnsService
import RsMatterStack.Handover
import RsMatterStack.LockProgress
import RsMatterStack.RngBounds
import RsMatterStack.PinnedTasks
import RsMatterStack.WirelessNetCtl
import RsMatterStack.Commissioning
import RsMatterStack.ConcurrentRuns
import RsMatterStack.CoexTasks
