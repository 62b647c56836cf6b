import SwitchThermal.Bench.DaemonRun
import SwitchThermal.Bench.Session
import SwitchThermal.Main
import SwitchThermal.Proofs.Pass
import SwitchThermal.Proofs.Overheating
import SwitchThermal.Proofs.ShutdownLatch
import SwitchThermal.Proofs.Hotter
import SwitchThermal.Proofs.Samples
import SwitchThermal.Proofs.BlindPass
import SwitchThermal.Proofs.Bus
import SwitchThermal.Proofs.Start
import SwitchThermal.Proofs.History
import SwitchThermal.Proofs.Duty
import SwitchThermal.Proofs.RegisterProtocol
import SwitchThermal.Proofs.Guarded
import SwitchThermal.Proofs.WatchdogFirst
import SwitchThermal.Proofs.Cooldown
import SwitchThermal.Proofs.Baseline
import SwitchThermal.Proofs.RiseOverflow
import SwitchThermal.Proofs.Failures
import SwitchThermal.Proofs.LatchedOnce
import SwitchThermal.Proofs.Demand
import SwitchThermal.Proofs.Retry
import SwitchThermal.Proofs.AcceptedSpeeds
import SwitchThermal.Proofs.SpeedDirection
import SwitchThermal.Proofs.FanSettings
import SwitchThermal.Proofs.Convergence
import SwitchThermal.Proofs.PanelRun
import SwitchThermal.Proofs.RegisterMemory
import SwitchThermal.Proofs.Calls
import SwitchThermal.Proofs.ShutdownStands
import SwitchThermal.Proofs.SupplyCheck
import SwitchThermal.Proofs.FastRise
import SwitchThermal.Proofs.PortRegisters
import SwitchThermal.Proofs.Requests
import SwitchThermal.Proofs.Interchange
import SwitchThermal.Proofs.Diagnostics
import SwitchThermal.Proofs.Maximum
import SwitchThermal.Proofs.RailAlarms
import SwitchThermal.Proofs.ControlFile
import SwitchThermal.Proofs.RailFiles
import SwitchThermal.Proofs.Stages
import SwitchThermal.Proofs.AllFans
import SwitchThermal.Proofs.SupplyFans
import SwitchThermal.Proofs.UnusableSensors
import SwitchThermal.Proofs.BaselineSource
import SwitchThermal.Proofs.Remembered
import SwitchThermal.Proofs.FailedPass
import SwitchThermal.Proofs.Problems
import SwitchThermal.Proofs.PanelLights
import SwitchThermal.Proofs.SettingsLines
import SwitchThermal.Proofs.EnableValue
import SwitchThermal.Proofs.HelperOutput
import SwitchThermal.Proofs.PortBytes
import SwitchThermal.Proofs.HotTrigger
import SwitchThermal.Proofs.SteppedBands
import SwitchThermal.Proofs.TableEntries
import SwitchThermal.Proofs.AttributeNumbers
import SwitchThermal.Proofs.FanPercentage
