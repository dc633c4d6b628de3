import RowStore.Engine
import RowStore.Service
import RowStore.Proofs.WaitGraph.Order
import RowStore.Proofs.WaitGraph.Circles
import RowStore.Proofs.WaitGraph.Upkeep
import RowStore.Proofs.WaitGraph.Waiters
import RowStore.Proofs.WaitGraph.Run
import RowStore.Proofs.Lock.Modes
import RowStore.Proofs.Lock.Run
import RowStore.Proofs.Lock.Exclusion
import RowStore.Proofs.Lock.Ownership
import RowStore.Proofs.Lock.Leftovers
import RowStore.Proofs.Lock.Undisturbed
import RowStore.Proofs.Lock.Coherence
import RowStore.Proofs.Lock.Waiting
import RowStore.Proofs.Lock.Deadlock
import RowStore.Proofs.Lock.Refusals
import RowStore.Proofs.Lock.Gates
import RowStore.Proofs.Lock.Bookkeeping
import RowStore.Proofs.Lock.Interrupts
import RowStore.Proofs.Row
import RowStore.Proofs.Page.Basic
import RowStore.Proofs.Bytes.BigEndian
import RowStore.Proofs.Page.Image
import RowStore.Proofs.Page.Indexing
import RowStore.Proofs.Page.Layout
import RowStore.Proofs.Page.Editing
import RowStore.Proofs.Disk.PagedFile
import RowStore.Proofs.TableFile
import RowStore.Proofs.Database.Setup
import RowStore.Proofs.Database.Contents
import RowStore.Proofs.Pool
import RowStore.Proofs.Database.Isolation
import RowStore.Proofs.Database.Room
import RowStore.Proofs.Database.Ending
import RowStore.Proofs.Database.Upkeep
import RowStore.Proofs.Engine.Run
import RowStore.Proofs.Engine.Steps
import RowStore.Proofs.Engine.Isolation
import RowStore.Proofs.Engine.Views
import RowStore.Proofs.Engine.Turns
import RowStore.Proofs.Database.Completion
import RowStore.Proofs.Engine.Completion
import RowStore.Proofs.Database.Probing
import RowStore.Proofs.Engine.Insertion
import RowStore.Proofs.Database.Browsing
import RowStore.Proofs.Database.Listing
import RowStore.Proofs.Engine.FullScan
import RowStore.Proofs.Database.Opening
import RowStore.Proofs.Engine.Undisturbed
import RowStore.Proofs.Engine.Episodes
import RowStore.Proofs.Engine.TableMap
import RowStore.Proofs.Engine.Growth
import RowStore.Proofs.Engine.Calls
import RowStore.Proofs.Engine.Reading
import RowStore.Proofs.Engine.Repeatable
import RowStore.Proofs.Engine.Sequential
import RowStore.Proofs.Database.Additions
import RowStore.Proofs.Engine.Inserters
import RowStore.Proofs.Engine.Intake
import RowStore.Proofs.Database.Agreement
import RowStore.Proofs.Database.Custody
import RowStore.Proofs.Engine.Preference
import RowStore.Proofs.Engine.Careful
import RowStore.Proofs.Database.Moves
import RowStore.Proofs.Database.TaskMoves
import RowStore.Proofs.Database.Provenance
import RowStore.Proofs.Engine.History
import RowStore.Proofs.Engine.Tenure
import RowStore.Proofs.Engine.Provenance
import RowStore.Proofs.Engine.Creation
import RowStore.Proofs.Database.Fidelity
import RowStore.Proofs.Database.Eviction
import RowStore.Proofs.Engine.Eviction
import RowStore.Proofs.Database.Slots
import RowStore.Proofs.Engine.FirstFit
import RowStore.Proofs.Service.Scanning
import RowStore.Proofs.Database.Undamaged
import RowStore.Proofs.Database.Trials
import RowStore.Proofs.Service.Attempts
import RowStore.Proofs.WaitGraph.Standing
import RowStore.Proofs.Lock.Checks
import RowStore.Proofs.Lock.Footing
import RowStore.Proofs.Lock.Sparing
import RowStore.Proofs.Lock.Denials
import RowStore.Proofs.Lock.Departures
import RowStore.Proofs.Page.InPlace
import RowStore.Proofs.Text.Boundaries
import RowStore.Proofs.Row.Writing
import RowStore.Proofs.Page.Bounds
import RowStore.Proofs.WaitGraph.Counts
import RowStore.Proofs.Catalog
import RowStore.Proofs.Disk.Volume
import RowStore.Proofs.Disk.PageArray
import RowStore.Proofs.Database.Refusals
import RowStore.Proofs.Database.Strides
import RowStore.Proofs.Database.Halts
import RowStore.Proofs.Database.Samples
import RowStore.Proofs.Database.Sparing
import RowStore.Proofs.Service.History
import RowStore.Proofs.Service.Whole
import RowStore.Proofs.Service.Tenure
import RowStore.Proofs.Service.Pages
import RowStore.Proofs.Service.Saving
import RowStore.Proofs.Service.Handles
import RowStore.Proofs.Service.Retry
import RowStore.Proofs.Service.Provenance
import RowStore.Proofs.Service.Undoing
import RowStore.Proofs.Service.Custody
import RowStore.Proofs.Service.Ordinary
import RowStore.Proofs.Service.Fidelity
import RowStore.Proofs.Service.EarlyRelease
