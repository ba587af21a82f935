import NeuroSpark.Session.RoundTrip
import NeuroSpark.Tfs.Persistence
import NeuroSpark.Vfs.Pipes
import NeuroSpark.Ext2.InodeTable
import NeuroSpark.Ext2.Safety
import NeuroSpark.Vfs.Unmounting
import NeuroSpark.Sched.Channels
import NeuroSpark.Vfs.RamdiskRuns
import NeuroSpark.Tfs.InjectSafety
import NeuroSpark.Vfs.FailedOpens
import NeuroSpark.Sched.Choice
import NeuroSpark.Sched.Events
import NeuroSpark.Mem.Slab
import NeuroSpark.Mem.FreshPages
import NeuroSpark.Proc.Spellings
import NeuroSpark.Proc.FdRights
import NeuroSpark.Mem.LoadedImage
import NeuroSpark.Sched.Nanosleep
import NeuroSpark.Sched.Releases
import NeuroSpark.Net.Sends
import NeuroSpark.Net.Window
import NeuroSpark.Aio.Writes
import NeuroSpark.Net.Remote
import NeuroSpark.Net.PortOwners
import NeuroSpark.Net.Segments
import NeuroSpark.Net.FrameBounds
import NeuroSpark.Modules.Exports
import NeuroSpark.Modules.Unloading
import NeuroSpark.Session.Parameters
import NeuroSpark.Net.Checksum
import NeuroSpark.Ai.Packages
import NeuroSpark.Ai.Submissions
import NeuroSpark.Ai.TrainingRuns
import NeuroSpark.Disk.GptRecords
import NeuroSpark.Ext2.DirectoryMap
import NeuroSpark.Neural.MissingTask
