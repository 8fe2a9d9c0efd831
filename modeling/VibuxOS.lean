import VibuxOS.Storage.NvmeWrap
import VibuxOS.Syscall.ChannelSafety
import VibuxOS.Signals.RoundTrip
import VibuxOS.Paging.FrameCount
import VibuxOS.Signals.ChildSignals
import VibuxOS.Process.ParentState
import VibuxOS.Process.Reaping
import VibuxOS.Tty.KeyboardTiming
import VibuxOS.Files.StatViews
import VibuxOS.Files.SlotReclaim
import VibuxOS.Files.OpenCalls
import VibuxOS.Files.Renaming
import VibuxOS.Storage.NvmeBounds
import VibuxOS.UserSpace.Heap
import VibuxOS.UserSpace.Mincore
import VibuxOS.Waiting.SelectAgreement
import VibuxOS.Process.CloneAgreement
import VibuxOS.Files.RelayedBytes
import VibuxOS.Elf.StackCrossings
import VibuxOS.Signals.NextSignal
import VibuxOS.Files.TimerCalls
import VibuxOS.Files.DescriptorFlags
import VibuxOS.Files.DirectoryListing
import VibuxOS.Elf.ProgramHeaders
import VibuxOS.Files.PositionalAgreement
import VibuxOS.UserSpace.Moving
import VibuxOS.Storage.VfsAttach
import VibuxOS.Commands.HeadTail
import VibuxOS.Shell.Arguments
import VibuxOS.Devices.UsbTransfers
import VibuxOS.Devices.NetRtl8139
import VibuxOS.Devices.ScancodeQueue
import VibuxOS.Shell.ChangeDirectory
import VibuxOS.Commands.Moving
import VibuxOS.Screen.TerminalRuns
import VibuxOS.Storage.Checksum
import VibuxOS.Devices.NetChecksum
import VibuxOS.Devices.BulkEndpoints
import VibuxOS.Devices.Ipv4Address
import VibuxOS.Paging.UserCopyExact
import VibuxOS.Files.TableCalls
import VibuxOS.Files.TableRuns
import VibuxOS.UserSpace.Confinement
import VibuxOS.Storage.VfsQueries
import VibuxOS.Files.EpollSets
