import Muefs.Laws.Access
import Muefs.Laws.Addresses
import Muefs.Laws.Archive
import Muefs.Laws.Assessment
import Muefs.Laws.Calendars
import Muefs.Laws.Deadlocks
import Muefs.Laws.Downloads
import Muefs.Laws.Forwarding
import Muefs.Laws.Instructions
import Muefs.Laws.Malware
import Muefs.Laws.Packets
import Muefs.Laws.RateLimit
import Muefs.Laws.Register
import Muefs.Laws.Relay
import Muefs.Laws.Requirements
import Muefs.Laws.Routing
import Muefs.Laws.Sealing
import Muefs.Laws.Staff
import Muefs.Laws.StorageAudit
import Muefs.Laws.StorageIntent
import Muefs.Laws.Uploads
import Muefs.Laws.Waivers
