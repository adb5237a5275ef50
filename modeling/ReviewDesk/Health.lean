import ReviewDesk.Identity
import ReviewDesk.Kind
import ReviewDesk.Notice
import ReviewDesk.Time.Instant

/-!
The health record, for diagnosis. It has one section for each of the three loops, and every change
of a section is one of the events that its loop reports.
-/

set_option autoImplicit false
set_option relaxedAutoImplicit false

namespace ReviewDesk

/-- What the listener reports. -/
structure ListenerHealth where
  connected : Bool := false
  channel : String
  connectedAt : Option Instant := none
  connects : Nat := 0
  lastError : Option String := none
  lastErrorAt : Option Instant := none
  lastNoticeAt : Option Instant := none
  lastNotice : Option String := none
  deriving DecidableEq

namespace ListenerHealth

def connect (h : ListenerHealth) (time : Instant) : ListenerHealth :=
  { h with connected := true, connectedAt := some time, connects := h.connects + 1, lastError := none }

/-- A connection was lost or could not be made. -/
def disconnect (h : ListenerHealth) (error : String) (time : Instant) : ListenerHealth :=
  { h with connected := false, lastError := some error, lastErrorAt := some time }

def notice (h : ListenerHealth) (payload : String) (time : Instant) : ListenerHealth :=
  { h with lastNoticeAt := some time, lastNotice := some (Notice.excerpt payload) }

end ListenerHealth

/-- What the dispatch loop reports. -/
structure DispatchHealth where
  lastStartedAt : Option Instant := none
  lastFinishedAt : Option Instant := none
  lastSent : PerKind Nat := ⟨0, 0⟩
  lastError : Option String := none
  passes : Nat := 0
  deriving DecidableEq

namespace DispatchHealth

def start (h : DispatchHealth) (time : Instant) : DispatchHealth :=
  { h with lastStartedAt := some time, lastError := none }

def finish (h : DispatchHealth) (sent : PerKind Nat) (time : Instant) : DispatchHealth :=
  { h with lastFinishedAt := some time, lastSent := sent, lastError := none, passes := h.passes + 1 }

/-- A pass failed as a whole; the counts stay those of the pass before. -/
def fail (h : DispatchHealth) (marker : String) (time : Instant) : DispatchHealth :=
  { h with lastFinishedAt := some time, lastError := some marker, passes := h.passes + 1 }

end DispatchHealth

/-- What one pass over the members of a channel did. -/
structure AccessReport where
  /-- The channel that was looked after, if one was configured. -/
  channel : Option ChannelId := none
  revoked : List ReviewerId := []
  restored : List ReviewerId := []
  failed : List ReviewerId := []
  /-- Whether the pass took no account of the one before. -/
  fullScan : Bool := false
  deriving DecidableEq

/-- What the access loop reports. -/
structure AccessHealth where
  lastSyncAt : Option Instant := none
  channel : Option ChannelId := none
  lastRevoked : Nat := 0
  lastRestored : Nat := 0
  lastFailed : Nat := 0
  lastFullScan : Bool := false
  lastError : Option String := none
  passes : Nat := 0
  deriving DecidableEq

namespace AccessHealth

def finish (h : AccessHealth) (report : AccessReport) (time : Instant) : AccessHealth where
  lastSyncAt := some time
  channel := report.channel
  lastRevoked := report.revoked.length
  lastRestored := report.restored.length
  lastFailed := report.failed.length
  lastFullScan := report.fullScan
  lastError := none
  passes := h.passes + 1

def fail (h : AccessHealth) (marker : String) (time : Instant) : AccessHealth :=
  { h with lastSyncAt := some time, lastError := some marker, passes := h.passes + 1 }

end AccessHealth

structure Health where
  listener : ListenerHealth
  dispatch : DispatchHealth := {}
  access : AccessHealth := {}
  deriving DecidableEq

namespace Health

/-- The record of a desk that listens to a channel and has done nothing yet. -/
def initial (channel : String) : Health := { listener := { channel := channel } }

/-- One event of any of the three loops. -/
inductive Event where
  | connected (time : Instant)
  | disconnected (error : String) (time : Instant)
  | noticed (payload : String) (time : Instant)
  | passStarted (time : Instant)
  | passFinished (sent : PerKind Nat) (time : Instant)
  | passFailed (marker : String) (time : Instant)
  | accessFinished (report : AccessReport) (time : Instant)
  | accessFailed (marker : String) (time : Instant)

def record (h : Health) : Event → Health
  | .connected time => { h with listener := h.listener.connect time }
  | .disconnected error time => { h with listener := h.listener.disconnect error time }
  | .noticed payload time => { h with listener := h.listener.notice payload time }
  | .passStarted time => { h with dispatch := h.dispatch.start time }
  | .passFinished sent time => { h with dispatch := h.dispatch.finish sent time }
  | .passFailed marker time => { h with dispatch := h.dispatch.fail marker time }
  | .accessFinished report time => { h with access := h.access.finish report time }
  | .accessFailed marker time => { h with access := h.access.fail marker time }

/-- Whether the listener holds a subscription. -/
def listenerLive (h : Health) : Bool := h.listener.connected

end Health

end ReviewDesk
