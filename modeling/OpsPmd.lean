import OpsPmd.Lib.Run
import OpsPmd.Lib.Shash
import OpsPmd.Lib.Text
import OpsPmd.Lib.Dirty
import OpsPmd.Lib.LastWrite
import OpsPmd.Changes
import OpsPmd.LegalRow
import OpsPmd.Scan
import OpsPmd.Reconfigure
import OpsPmd.Table
import OpsPmd.Origins
import OpsPmd.Subsystems
import OpsPmd.TxDisable
import OpsPmd.ControlWrites
import OpsPmd.QsfpLaser
import OpsPmd.Publish
import OpsPmd.CurHw
import OpsPmd.PortKinds
import OpsPmd.Identity
import OpsPmd.DomColumns
import OpsPmd.Lib.LazyWrite
import OpsPmd.DomValues
import OpsPmd.HexAscii
import OpsPmd.Lib.Fields
import OpsPmd.DomHistory
import OpsPmd.Quiet
import OpsPmd.SfpIdentity
import OpsPmd.LockHolder
import OpsPmd.RowOrder
import OpsPmd.SupportedSpeeds
import OpsPmd.Checksums
import OpsPmd.Deletion
import OpsPmd.RawPage
import OpsPmd.VendorText
import OpsPmd.LaserRetry
import OpsPmd.Simulation
import OpsPmd.Lib.Heap
import OpsPmd.Lib.Outcome
import OpsPmd.Memory
import OpsPmd.MemorySafety
import OpsPmd.Process
import OpsPmd.ProcessRuns
import OpsPmd.Leaks
import OpsPmd.Histories
import OpsPmd.Reports
import OpsPmd.SimulationRuns
import OpsPmd.Writes
import OpsPmd.Lib.Listing
import OpsPmd.Dump
import OpsPmd.Isolation
import OpsPmd.Steady
import OpsPmd.Takeover
import OpsPmd.Convergence
import OpsPmd.NullPointers
