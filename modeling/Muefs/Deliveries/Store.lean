import Muefs.Model.Service
import Muefs.Model.Store
import Muefs.RowLocks.Side

/-!
# The store of deliveries

* `ServiceRow`, `ServiceView` : the names that the delivery of documents adds to those of the portal;
* `BothRow`, `BothView`, `BothStore` : the names of both; `isBothRow` : which of them are locked before
  they are written;
* `Service` : a transaction over both; `ofPortal` : one that only touches the portal's names.

The notices of deliveries stand apart from those of filings; their numbers come from the same sequence. The contacts of
a case are written under the lock of its row, and are locked right after it.
-/

namespace Muefs
open RowLocks

/-- The names of deliveries. -/
inductive ServiceRow where
  /-- `service_contacts` of the participants of a case -/
  | contacts (id : CaseId)
  /-- The rows of `audit_log` about the contacts of a case. -/
  | contactEvents (id : CaseId)
  | packet (id : PacketId)
  /-- `uq_service_packet_key` -/
  | packetKey (actorId : UserId) (key : Uuid)
  /-- The packet of a row of `service_recipients`. -/
  | delivery (id : DeliveryId)
  /-- The packet whose delivery this notice announces. -/
  | alert (id : NoticeId)
  | notice (id : NoticeId)
  /-- The events `download_requested` of a delivery. -/
  | downloads (id : DeliveryId)
  deriving DecidableEq

abbrev ServiceView : ServiceRow → Type
  | .contacts _ => List ServiceContact
  | .contactEvents _ => List ContactEvent
  | .packet _ => Option ServicePacket
  | .packetKey _ _ => Option PacketId
  | .delivery _ => Option PacketId
  | .alert _ => Option PacketId
  | .notice _ => Option Notice
  | .downloads _ => List (UserId × DocumentId)

instance ServiceView.decEq : (g : ServiceRow) → DecidableEq (ServiceView g)
  | .contacts _ => inferInstanceAs (DecidableEq (List ServiceContact))
  | .contactEvents _ => inferInstanceAs (DecidableEq (List ContactEvent))
  | .packet _ => inferInstanceAs (DecidableEq (Option ServicePacket))
  | .packetKey _ _ => inferInstanceAs (DecidableEq (Option PacketId))
  | .delivery _ => inferInstanceAs (DecidableEq (Option PacketId))
  | .alert _ => inferInstanceAs (DecidableEq (Option PacketId))
  | .notice _ => inferInstanceAs (DecidableEq (Option Notice))
  | .downloads _ => inferInstanceAs (DecidableEq (List (UserId × DocumentId)))

/-- Events are only ever added, without a lock. -/
def isServiceRow : ServiceRow → Bool
  | .contactEvents _ | .downloads _ => false
  | _ => true

abbrev BothRow := Row ⊕ ServiceRow

abbrev BothView : BothRow → Type := Side View ServiceView

instance BothView.decEq : (g : BothRow) → DecidableEq (BothView g)
  | .inl g => inferInstanceAs (DecidableEq (View g))
  | .inr g => inferInstanceAs (DecidableEq (ServiceView g))

def isBothRow : BothRow → Bool
  | .inl g => isRow g
  | .inr g => isServiceRow g

abbrev BothStore := Db BothView

/-- A transaction of the system with its deliveries. -/
abbrev Service (α : Type) := Txn BothView Failure α

abbrev BothTrace := List (Entry BothView)

abbrev ofPortal {α : Type} (p : Portal α) : Service α := p.left ServiceView

namespace Service

/-- `insert` or `update` of a row of deliveries -/
abbrev save (g : ServiceRow) (f : ServiceView g → ServiceView g) : Service Unit := Txn.write (V := BothView) (.inr g) f

abbrev look (g : ServiceRow) : Service (ServiceView g) := Txn.look (V := BothView) (.inr g)

/-- `with_for_update()` -/
abbrev lock (g : ServiceRow) : Service (ServiceView g) := Txn.lock (V := BothView) .update (.inr g)

/-- `with_for_update(read=True)` -/
abbrev share (g : ServiceRow) : Service (ServiceView g) := Txn.lock (V := BothView) .share (.inr g)

abbrev check (c : Prop) [Decidable c] (e : Failure) : Service Unit := Txn.require c e

abbrev get {α : Type} (o : Option α) (e : Failure) : Service α := Txn.expect o e

abbrev now : Service Instant := Txn.now

abbrev newId : Service Nat := Txn.newId

end Service

end Muefs
