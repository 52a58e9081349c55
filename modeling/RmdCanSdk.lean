import RmdCanSdk.SnapshotBuffer.Correctness
import RmdCanSdk.Can.Staleness
import RmdCanSdk.Can.Stop
import RmdCanSdk.Can.Transport
import RmdCanSdk.MitRoundTrip
import RmdCanSdk.Driver.JointFrame
import RmdCanSdk.Driver.Limits
import RmdCanSdk.Driver.Heard
import RmdCanSdk.Driver.Modes
import RmdCanSdk.Ethercat.Enable
import RmdCanSdk.Ethercat.Feedback
import RmdCanSdk.Ethercat.DomainAccess
import RmdCanSdk.Driver.CountBias
import RmdCanSdk.Driver.Reinit
import RmdCanSdk.Driver.InitFailure
import RmdCanSdk.Imu.Resync
import RmdCanSdk.HalfFloat.RoundTrip
import RmdCanSdk.Driver.Bindable
import RmdCanSdk.Driver.OwnBits
import RmdCanSdk.Ethercat.StartupWait
import RmdCanSdk.Leg.Ankle
import RmdCanSdk.Ethercat.UnitRoundTrip
import RmdCanSdk.Driver.TorqueWord
import RmdCanSdk.Driver.Gains
import RmdCanSdk.ReceivedIds
import RmdCanSdk.Imu.Crc
import RmdCanSdk.Imu.Checksum
import RmdCanSdk.Yesense.Items
import RmdCanSdk.Yesense.Checksum
import RmdCanSdk.Leg.JointPath
import RmdCanSdk.MotionPlan
import RmdCanSdk.BackendStatus
import RmdCanSdk.Master.Ownership
import RmdCanSdk.Bench.Programs
import RmdCanSdk.Bench.Shutdown
import RmdCanSdk.Imu.Lifecycle
