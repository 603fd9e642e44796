import GuestBridge.Operation

/-! # Sessions

A session owns one instance of a guest, the functions found in it and the counters of its memory.
It is opened from a `Blueprint`, a way to make instances of a guest module, and has a number that it
keeps. Closing it drops the instance for good: from then on `Session.perform` refuses everything and
`Session.close` does nothing.
-/

namespace GuestBridge

/-- The result of an attempt to make an instance of a guest module. -/
inductive Birth (σ : Type)
  /-- The instance with what it exports. -/
  | ready (table : ExportTable σ) (guest : Instance σ)
  /-- There is no instance, for a reason. -/
  | failed (reason : String)
  /-- A panic of the log subscriber unwound through the start function of the guest. -/
  | panicked (payload : Payload)

/-- An attempt to make an instance, with what the host capabilities noticed meanwhile. -/
structure Instantiation (σ : Type) where
  notices : List Notice
  birth : Birth σ

/-- A way to make instances of a guest module, each with a random stream of its own. -/
abbrev Blueprint (σ : Type) : Type :=
  Entropy → Option Tripwire → Instantiation σ

/-- A guest that is ready for operations. -/
structure LiveGuest (σ : Type) where
  exports : Exports σ
  guest : Instance σ
  stats : AllocationStats

/-- A session: its number and, as long as it is open, its guest. -/
structure Session (σ : Type) where
  id : UInt64
  live : Option (LiveGuest σ)

/-- The result of an attempt to open a session. -/
inductive Opening (σ : Type)
  | opened (session : Session σ)
  | refused (error : BridgeError)
  | panicked (payload : Payload)

/-- An attempt to open a session: its result, what is left of the tripwire, and its events. -/
structure OpeningReport (σ : Type) where
  opening : Opening σ
  tripwire : Option Tripwire
  events : List SessionEvent

/-- What an operation on a session leaves behind. -/
structure SessionReport (σ α : Type) where
  outcome : Except BridgeError α
  session : Session σ
  tripwire : Option Tripwire
  events : List SessionEvent
  actions : List (Action σ)

namespace Session

variable {σ α : Type}

/-- Makes an instance and finds in it what the host requires. An instance that lacks something is
discarded. -/
def open? (blueprint : Blueprint σ) (id : UInt64) (entropy : Entropy)
    (tripwire : Option Tripwire) : OpeningReport σ :=
  let attempt := blueprint entropy tripwire
  let noticed := attempt.notices.map SessionEvent.noticed
  match attempt.birth with
  | .failed reason => ⟨.refused (.instantiate reason), tripwire, noticed⟩
  | .panicked payload => ⟨.panicked payload, none, noticed⟩
  | .ready table guest =>
    match table.resolve with
    | .error error => ⟨.refused error, tripwire, noticed ++ [.discarded error]⟩
    | .ok exports =>
      ⟨.opened ⟨id, some ⟨exports, guest, .zero⟩⟩, tripwire, noticed ++ [.created]⟩

/-- Whether the session is closed. -/
def isClosed (session : Session σ) : Bool :=
  session.live.isNone

/-- The counters of an open session. -/
def stats (session : Session σ) : Except BridgeError AllocationStats :=
  match session.live with
  | some live => .ok live.stats
  | none => .error .sessionClosed

/-- Closes the session and drops its guest. Only the first time does anything. -/
def close (session : Session σ) : Session σ × List SessionEvent :=
  match session.live with
  | some live => ({ session with live := none }, [.closed live.stats])
  | none => (session, [])

/-- Performs an operation on the guest of an open session. -/
def perform (session : Session σ) (tripwire : Option Tripwire)
    (operation : Exports σ → Lease σ → Report σ α) : SessionReport σ α :=
  match session.live with
  | none => ⟨.error .sessionClosed, session, tripwire, [], []⟩
  | some live =>
    let report := operation live.exports (Lease.start live.guest tripwire live.stats)
    let lease := report.lease
    ⟨report.outcome, { session with live := some ⟨live.exports, lease.guest, lease.stats⟩ },
      lease.tripwire, lease.events, lease.actions⟩

/-- Performs the requested operation on the guest of an open session. -/
def serve (session : Session σ) (tripwire : Option Tripwire) (request : Request) :
    SessionReport σ Product :=
  session.perform tripwire fun exports start => Operation.perform exports start request

/-- The diagnostic text of a session. -/
def describe (session : Session σ) : String :=
  let id := session.id
  let closed := session.isClosed
  s!"Session \x7b id: {id}, closed: {closed}, .. \x7d"

end Session

end GuestBridge
