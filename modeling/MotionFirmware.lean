import MotionFirmware.Core.LTS
import MotionFirmware.Core.Libc
import MotionFirmware.Core.Lerp
import MotionFirmware.Core.FixedPriority
import MotionFirmware.Core.Mealy
import MotionFirmware.Core.Framing
import MotionFirmware.L1Modules.StatusLine
import MotionFirmware.L1Modules.StatusDecoder
import MotionFirmware.L1Modules.FaultManager
import MotionFirmware.L1Modules.TickSplit
import MotionFirmware.L1Modules.Trajectory
import MotionFirmware.L1Modules.PathLength
import MotionFirmware.L1Modules.ParserGrammar
import MotionFirmware.L1Modules.FieldText
import MotionFirmware.L1Modules.CommandText
import MotionFirmware.L1Modules.PidResponse
import MotionFirmware.L2Port.HostPort
import MotionFirmware.L2Port.HostFifo
import MotionFirmware.L2Port.FreertosPort
import MotionFirmware.L2Port.TaskKernel
import MotionFirmware.L3Tasks.AppTasks
import MotionFirmware.L4System.Refinement
import MotionFirmware.L4System.Coherence
import MotionFirmware.L4System.FaultLatch
import MotionFirmware.L4System.Estop
import MotionFirmware.L4System.Conservation
import MotionFirmware.L4System.Pairing
import MotionFirmware.L4System.Kinematics
import MotionFirmware.L4System.Dispatch
import MotionFirmware.L4System.Reinit
import MotionFirmware.L4System.EndToEnd
import MotionFirmware.L4System.Session
import MotionFirmware.L4System.HostDemo
import MotionFirmware.L4System.BackendParity
import MotionFirmware.L4System.Recovery
import MotionFirmware.L5Scheduler.Preemption
import MotionFirmware.L5Scheduler.PreemptedDevice
import MotionFirmware.L5Scheduler.StaleReport
import MotionFirmware.L5Scheduler.LostTick
import MotionFirmware.L5Scheduler.AppScheduler
import MotionFirmware.L5Scheduler.SchedulerRefinement
import MotionFirmware.L5Scheduler.IdealKernel
import MotionFirmware.L5Scheduler.SchedulerInv
import MotionFirmware.L5Scheduler.Releases
import MotionFirmware.L5Scheduler.Workload
import MotionFirmware.L5Scheduler.UptimeClock
import MotionFirmware.L5Scheduler.InTime
import MotionFirmware.L5Scheduler.Shutdown
import MotionFirmware.L5Scheduler.ScriptFlow
import MotionFirmware.L5Scheduler.Completion
import MotionFirmware.L5Scheduler.Wire
