import Exynos9810.Library.Bytes
import Exynos9810.Library.Paging
import Exynos9810.Library.Suffixed
import Exynos9810.Library.Numerals
import Exynos9810.Library.Comparator
import Exynos9810.Library.Layout
import Exynos9810.Library.History
import Exynos9810.Library.Transition
import Exynos9810.Library.Binary64
import Exynos9810.Library.Words
import Exynos9810.Library.Separated
import Exynos9810.Library.AssocMap
import Exynos9810.Library.StringBuffer
import Exynos9810.Library.IndexedLoop
import Exynos9810.Library.LockedThreads
import Exynos9810.Library.Past
import Exynos9810.Library.MessageQueue
import Exynos9810.Library.Rounding
import Exynos9810.Dtbhtool.Host
import Exynos9810.Dtbhtool.Stdio
import Exynos9810.Dtbhtool.Dtbimg
import Exynos9810.Dtbhtool.DtbimgImage
import Exynos9810.Dtbhtool.DtbimgLocate
import Exynos9810.Dtbhtool.DtbimgExtents
import Exynos9810.Dtbhtool.DtbimgOrder
import Exynos9810.Dtbhtool.DtbimgFilter
import Exynos9810.Dtbhtool.BootImgHdr
import Exynos9810.Dtbhtool.Mkbootimg
import Exynos9810.Dtbhtool.MkbootimgLayout
import Exynos9810.Dtbhtool.MkbootimgDigest
import Exynos9810.Dtbhtool.MkbootimgWrites
import Exynos9810.Dtbhtool.Mkdtbimg
import Exynos9810.Dtbhtool.Unpackbootimg
import Exynos9810.Dtbhtool.UnpackbootimgStreams
import Exynos9810.Dtbhtool.UnpackbootimgBounds
import Exynos9810.Dtbhtool.UnpackbootimgLayout
import Exynos9810.Dtbhtool.Addresses
import Exynos9810.Dtbhtool.Unpackdtbhimg
import Exynos9810.Dtbhtool.UnpackdtbhimgFiles
import Exynos9810.Dtbhtool.DtbhRoundTrip
import Exynos9810.Power.PowerSessionManager
import Exynos9810.Power.RefCountTurns
import Exynos9810.Power.RefCount
import Exynos9810.Power.PowerHintSession
import Exynos9810.Power.PowerHal
import Exynos9810.Power.PowerHalStep
import Exynos9810.Power.Controller
import Exynos9810.Power.IntegralError
import Exynos9810.Power.PidLoop
import Exynos9810.Power.Batching
import Exynos9810.Power.ReportArithmetic
import Exynos9810.Power.ApplyStep
import Exynos9810.Power.Closed
import Exynos9810.Power.StaleCheck
import Exynos9810.Power.Activity
import Exynos9810.Power.ActivityHint
import Exynos9810.Power.Registration
import Exynos9810.Power.Slowdown
import Exynos9810.Power.TargetChain
import Exynos9810.Power.Uclamp
import Exynos9810.Power.StaleCount
import Exynos9810.Power.ClosedChecks
import Exynos9810.Power.InteractionHandler
import Exynos9810.Power.InteractionHint
import Exynos9810.Power.InteractionDuration
import Exynos9810.Power.InteractionExit
import Exynos9810.Power.SetMode
import Exynos9810.Power.SharedThreads
import Exynos9810.Usb.Uevent
import Exynos9810.Usb.UeventScan
import Exynos9810.Usb.SetCallback
import Exynos9810.Usb.Unregister
import Exynos9810.Usb.PortRole
import Exynos9810.Usb.SwitchMode
import Exynos9810.Usb.PortStatus
import Exynos9810.Usb.PortNames
import Exynos9810.Usb.Contaminant
import Exynos9810.Usb.Threads
import Exynos9810.Usb.ThreadsSafety
import Exynos9810.Usb.ThreadsAnswers
import Exynos9810.Usb.ThreadsRefinement
import Exynos9810.Usb.ThreadsWorker
import Exynos9810.Usb.ThreadsUnregister
import Exynos9810.Usb.ThreadsSwitchMode
import Exynos9810.Light.Lights
import Exynos9810.Light.NotificationLed
import Exynos9810.Light.Panel
import Exynos9810.Memtrack.Memtrack
import Exynos9810.Vibration.Vibrator
import Exynos9810.Sensors.ConvertUtils
import Exynos9810.Sensors.RoundTrip
import Exynos9810.Sensors.EventMessageQueue
import Exynos9810.Fingerprint.BiometricsFingerprint
import Exynos9810.Fingerprint.Reports
import Exynos9810.Fingerprint.Runs
import Exynos9810.Fingerprint.WaitForSensor
import Exynos9810.Ril.SecrilConfig
import Exynos9810.Demangle.BumpPointerAllocator
import Exynos9810.Demangle.Discriminator
