import Sleepwalk.Guestd.ApplySignal
import Sleepwalk.Guestd.Calls
import Sleepwalk.Guestd.Channel
import Sleepwalk.Guestd.Clock
import Sleepwalk.Guestd.Conservation
import Sleepwalk.Guestd.Deferral
import Sleepwalk.Guestd.Framing
import Sleepwalk.Guestd.Guest
import Sleepwalk.Guestd.HostDriven
import Sleepwalk.Guestd.RaceRule
import Sleepwalk.Guestd.Reader
import Sleepwalk.Guestd.TwoChannels
import Sleepwalk.Harness.Chaos
import Sleepwalk.Harness.Interleavings
import Sleepwalk.Harness.LoadGen
import Sleepwalk.Harness.SplitMix
import Sleepwalk.Hostd.Addresses
import Sleepwalk.Hostd.ByName
import Sleepwalk.Hostd.Cancel
import Sleepwalk.Hostd.Churn
import Sleepwalk.Hostd.Confinement
import Sleepwalk.Hostd.Corruption
import Sleepwalk.Hostd.Drain
import Sleepwalk.Hostd.DrainWait
import Sleepwalk.Hostd.FileCheck
import Sleepwalk.Hostd.Fleet
import Sleepwalk.Hostd.Framing
import Sleepwalk.Hostd.GuestLink
import Sleepwalk.Hostd.Identity
import Sleepwalk.Hostd.LoadTest
import Sleepwalk.Hostd.Net
import Sleepwalk.Hostd.OneMove
import Sleepwalk.Hostd.Orphans
import Sleepwalk.Hostd.Overlay
import Sleepwalk.Hostd.PageServer
import Sleepwalk.Hostd.Presence
import Sleepwalk.Hostd.Restore
import Sleepwalk.Hostd.Routes
import Sleepwalk.Hostd.SendRun
import Sleepwalk.Hostd.Spawn
import Sleepwalk.Hostd.SplitBrain
import Sleepwalk.Hostd.StandDown
import Sleepwalk.Hostd.Status
import Sleepwalk.Hostd.Telemetry
import Sleepwalk.Hostd.Transfer
import Sleepwalk.Hostd.TurnDriver
import Sleepwalk.Hostd.Uffd
import Sleepwalk.Hostd.Verdict
import Sleepwalk.Hostd.Vm
import Sleepwalk.Hostd.WrapMigration
import Sleepwalk.Lib.Attempt
import Sleepwalk.Lib.Bracket
import Sleepwalk.Lib.Descent
import Sleepwalk.Lib.Extremum
import Sleepwalk.Lib.Handover
import Sleepwalk.Lib.JsonText
import Sleepwalk.Lib.Lfsr
import Sleepwalk.Lib.Lines
import Sleepwalk.Lib.Mixer
import Sleepwalk.Lib.Paging
import Sleepwalk.Lib.Query
import Sleepwalk.Lib.Runs
import Sleepwalk.Lib.Scan
import Sleepwalk.Lib.Serde
import Sleepwalk.Lib.Switch
import Sleepwalk.Lib.Text
import Sleepwalk.Lib.Timeline
import Sleepwalk.Lib.UnixPath
import Sleepwalk.Lib.Upkeep
import Sleepwalk.Lib.Uuid
import Sleepwalk.Lib.Window
import Sleepwalk.Proto.Compat
import Sleepwalk.Proto.Fsm
import Sleepwalk.Proto.Messages
import Sleepwalk.Proto.Wire
import Sleepwalk.Rebalancer.Control
import Sleepwalk.Rebalancer.ControlPlane
import Sleepwalk.Rebalancer.Converge
import Sleepwalk.Rebalancer.Driver
import Sleepwalk.Rebalancer.Live
import Sleepwalk.Rebalancer.LiveRun
import Sleepwalk.Rebalancer.Loop
import Sleepwalk.Rebalancer.Placement
import Sleepwalk.Rebalancer.Population
import Sleepwalk.Rebalancer.PseudoExecutor
import Sleepwalk.Rebalancer.Receivers
import Sleepwalk.Rebalancer.Step
import Sleepwalk.Rebalancer.Victim
