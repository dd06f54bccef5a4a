import SdioWlan.Startup
import SdioWlan.SimulatedChip
import SdioWlan.Proofs.CommandFrame
import SdioWlan.Proofs.Footprint
import SdioWlan.Proofs.Station.Basic
import SdioWlan.Proofs.Station.Quiet
import SdioWlan.Proofs.Path
import SdioWlan.Proofs.Routine
import SdioWlan.Proofs.DataFrame
import SdioWlan.Proofs.Station.Effect
import SdioWlan.Proofs.Station.Inversion
import SdioWlan.Proofs.Apart
import SdioWlan.Proofs.Bootstrap.Basic
import SdioWlan.Proofs.Bootstrap.Detached
import SdioWlan.Proofs.Bootstrap.Effect
import SdioWlan.Proofs.Bootstrap.Order
import SdioWlan.Proofs.Bootstrap.Progress
import SdioWlan.Proofs.Bootstrap.Readiness
import SdioWlan.Proofs.Station.Sound
import SdioWlan.Proofs.Outcome
import SdioWlan.Proofs.ScriptedChip
import SdioWlan.Proofs.StationLink
import SdioWlan.Proofs.Staging
import SdioWlan.Proofs.CommandQueue
import SdioWlan.Proofs.Replacement
import SdioWlan.Proofs.ScanAttribution
import SdioWlan.Proofs.Restart
import SdioWlan.Proofs.RetryBudget
import SdioWlan.Proofs.RecordedPeer
import SdioWlan.Proofs.HandshakeFailure
import SdioWlan.Proofs.Reading.Intact
import SdioWlan.Proofs.Reading.Pass
import SdioWlan.Proofs.AssociationFrame
import SdioWlan.Proofs.Download.Protocol
import SdioWlan.Proofs.Download.Transfer
import SdioWlan.Proofs.Networks
import SdioWlan.Proofs.Station.Target
import SdioWlan.Proofs.Joining
import SdioWlan.Proofs.Checked.Basic
import SdioWlan.Proofs.Checked.Fields
import SdioWlan.Proofs.Checked.Scanning
import SdioWlan.Proofs.Checked.Building
import SdioWlan.Proofs.Checked.Frames
import SdioWlan.Proofs.Checked.State
import SdioWlan.Proofs.Checked.Session
import SdioWlan.Proofs.Checked.Agreement
import SdioWlan.Proofs.Checked.Run
import SdioWlan.Proofs.Blocks
import SdioWlan.Proofs.Scan.Beacon
import SdioWlan.Proofs.Scan.Report
import SdioWlan.Proofs.Scan.Protection
import SdioWlan.Proofs.CommandLedger
import SdioWlan.Proofs.ClientTable
import SdioWlan.Proofs.Admission
import SdioWlan.Proofs.Traffic.Basic
import SdioWlan.Proofs.Traffic.Counters
import SdioWlan.Proofs.Turns.Basic
import SdioWlan.Proofs.Turns.Reading
import SdioWlan.Proofs.Turns.Writing
import SdioWlan.Proofs.Turns.Grants
import SdioWlan.Proofs.Separation
import SdioWlan.Proofs.Secrecy.Parallel
import SdioWlan.Proofs.Secrecy.Alike
import SdioWlan.Proofs.Secrecy.Work
import SdioWlan.Proofs.Secrecy.Run
import SdioWlan.Proofs.CommandLayout
import SdioWlan.Proofs.ConnectRequest
import SdioWlan.Proofs.ScanResults
import SdioWlan.Proofs.ClientHistory
import SdioWlan.Proofs.Packet
import SdioWlan.Proofs.AccessPoint
import SdioWlan.Proofs.PowerUp
import SdioWlan.Proofs.Text
import SdioWlan.Proofs.Settings
import SdioWlan.Proofs.FirmwareRegistry
import SdioWlan.Proofs.ElementWalk
import SdioWlan.Proofs.Turns.Waiting
