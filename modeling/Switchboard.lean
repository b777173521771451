import Switchboard.Proofs.Accounts
import Switchboard.Proofs.Asking
import Switchboard.Proofs.Denials
import Switchboard.Proofs.Detachment
import Switchboard.Proofs.Facades
import Switchboard.Proofs.Inertness
import Switchboard.Proofs.Latch
import Switchboard.Proofs.LifecycleWord
import Switchboard.Proofs.Limits
import Switchboard.Proofs.Links.Handling
import Switchboard.Proofs.Messages
import Switchboard.Proofs.News
import Switchboard.Proofs.News.Attendance
import Switchboard.Proofs.News.Notifications
import Switchboard.Proofs.NumberSet.Walks
import Switchboard.Proofs.Numbers
import Switchboard.Proofs.Ownership
import Switchboard.Proofs.Protocol
import Switchboard.Proofs.Queues
import Switchboard.Proofs.References
import Switchboard.Proofs.Removal
import Switchboard.Proofs.Report.Lines
import Switchboard.Proofs.Report.Tables
import Switchboard.Proofs.Roster.Listing
import Switchboard.Proofs.Roster.Tours
import Switchboard.Registry.Query
import Switchboard.Scenario.Play
import Switchboard.Trial.Lifecycle
import Switchboard.Trial.NumberPool
import Switchboard.Trial.NumberSet
import Switchboard.Trial.Plain
import Switchboard.Trial.Roster
