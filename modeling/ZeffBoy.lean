import ZeffBoy.Netplay.PausePeers
import ZeffBoy.Wire.Stream
import ZeffBoy.Wire.AdmissionAgreement
import ZeffBoy.Netplay.Lockstep
import ZeffBoy.GameBoy.SaveStateExact
import ZeffBoy.Link.WonderSwanPacing
import ZeffBoy.Link.GameBoyFaultless
import ZeffBoy.GameBoy.SgbReception
import ZeffBoy.GameBoy.ReplayProjectionExact
import ZeffBoy.Link.PairExact
import ZeffBoy.Patching.Mods
import ZeffBoy.Patching.Ups
import ZeffBoy.Patching.Bps
import ZeffBoy.Patching.OverlayExact
import ZeffBoy.SaveState.Envelope
import ZeffBoy.Lobby.Promise
import ZeffBoy.WonderSwan.StringsExact
import ZeffBoy.Replay.Playback
import ZeffBoy.Netplay.DatagramBounds
import ZeffBoy.Netplay.CheckpointExact
import ZeffBoy.Tas.DigitalExact
import ZeffBoy.Tas.BranchDiffExact
import ZeffBoy.Tas.BranchDeletion
import ZeffBoy.Tas.Autosave
import ZeffBoy.Rewind.Exact
import ZeffBoy.Gba.TimerSteps
import ZeffBoy.Link.SerialClock
import ZeffBoy.Link.WonderSwanFaults
import ZeffBoy.GameBoy.Battery
import ZeffBoy.GameBoy.PrinterPackets
import ZeffBoy.Link.LocalExchange
import ZeffBoy.GameBoy.FrameSlices
import ZeffBoy.Gba.Multiply
import ZeffBoy.WonderSwan.BatteryRuns
import ZeffBoy.Gba.RtcStops
import ZeffBoy.Gba.RtcAnswers
import ZeffBoy.Gba.BackupState
import ZeffBoy.WonderSwan.CalendarClock
import ZeffBoy.GameBoy.Huc3Clock
import ZeffBoy.Nes.EepromRuns
import ZeffBoy.Gba.Datapath
import ZeffBoy.Netplay.Agreement
