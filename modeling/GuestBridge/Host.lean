import GuestBridge.Session

/-! # A process that hosts guests

A host process has any number of runtimes, each with a guest module, and the sessions opened from
them. `Host.step` carries out one step: it opens or closes something or performs an operation, and
returns the new state together with the answer, the events and the actions on guests (`Turn`).
Sessions are numbered in the order of the attempts to open one. An attempt that gets past the check
of its runtime takes a number even if it fails later. A runtime or session that was dropped is
gone; dropping it closes it first.
-/

namespace GuestBridge

/-- A runtime: a guest module, until it is closed. -/
structure Runtime (σ : Type) where
  blueprint : Option (Blueprint σ)

namespace Runtime

variable {σ : Type}

/-- Whether the runtime is closed. -/
def isClosed (runtime : Runtime σ) : Bool :=
  runtime.blueprint.isNone

/-- Closes the runtime. Only the first time does anything. -/
def close (runtime : Runtime σ) : Runtime σ × List Event :=
  match runtime.blueprint with
  | some _ => (⟨none⟩, [.closedRuntime])
  | none => (runtime, [])

/-- The diagnostic text of a runtime. -/
def describe (runtime : Runtime σ) : String :=
  let closed := runtime.isClosed
  s!"Runtime \x7b closed: {closed}, .. \x7d"

end Runtime

/-- The state of a host process. Places of dropped runtimes and sessions stay empty. -/
structure Host (σ : Type) where
  /-- The number that the next session gets. -/
  nextId : UInt64
  tripwire : Option Tripwire
  runtimes : List (Option (Runtime σ))
  sessions : List (Option (Session σ))

/-- A step of a host process. Runtimes and sessions are named by their places. -/
inductive Step (σ : Type)
  | addRuntime (blueprint : Blueprint σ)
  | closeRuntime (runtime : Nat)
  | dropRuntime (runtime : Nat)
  | openSession (runtime : Nat) (entropy : Entropy)
  | perform (session : Nat) (request : Request)
  | closeSession (session : Nat)
  | dropSession (session : Nat)

/-- The answer to a step. -/
inductive Answer
  /-- The step was carried out and has no result. -/
  | done
  /-- A runtime was added at this place. -/
  | added (runtime : Nat)
  /-- A session with this number was opened at this place. -/
  | opened (session : Nat) (id : UInt64)
  /-- An operation succeeded. -/
  | produced (product : Product)
  /-- The step failed. -/
  | refused (error : BridgeError)
  /-- A panic of the log subscriber unwound through the start function of a guest. -/
  | panicked (payload : Payload)
  /-- There is nothing at this place. -/
  | absent
deriving DecidableEq

/-- What a step leaves behind. -/
structure Turn (σ : Type) where
  host : Host σ
  answer : Answer
  events : List Event
  actions : List (Action σ)

namespace Host

variable {σ : Type}

/-- A process without runtimes and sessions. -/
def fresh (firstId : UInt64) (tripwire : Option Tripwire) : Host σ :=
  ⟨firstId, tripwire, [], []⟩

/-- The runtime at a place. -/
def runtime? (host : Host σ) (place : Nat) : Option (Runtime σ) :=
  host.runtimes[place]?.join

/-- The session at a place. -/
def session? (host : Host σ) (place : Nat) : Option (Session σ) :=
  host.sessions[place]?.join

/-- The process with the runtime at a place replaced or removed. -/
def setRuntime (host : Host σ) (place : Nat) (runtime : Option (Runtime σ)) : Host σ :=
  { host with runtimes := host.runtimes.set place runtime }

/-- The process with the session at a place replaced or removed. -/
def setSession (host : Host σ) (place : Nat) (session : Option (Session σ)) : Host σ :=
  { host with sessions := host.sessions.set place session }

/-- The turn of a step that names nothing. -/
def absent (host : Host σ) : Turn σ :=
  ⟨host, .absent, [], []⟩

/-- Closes the runtime at a place and keeps it there or not. -/
def endRuntime (host : Host σ) (place : Nat) (keep : Bool) : Turn σ :=
  match host.runtime? place with
  | none => host.absent
  | some runtime =>
    let (closed, events) := runtime.close
    ⟨host.setRuntime place (if keep then some closed else none), .done, events, []⟩

/-- Closes the session at a place and keeps it there or not. -/
def endSession (host : Host σ) (place : Nat) (keep : Bool) : Turn σ :=
  match host.session? place with
  | none => host.absent
  | some session =>
    let (closed, events) := session.close
    ⟨host.setSession place (if keep then some closed else none), .done,
      events.map (.session session.id), []⟩

/-- Opens a session from the guest module of a runtime. -/
def openFrom (host : Host σ) (blueprint : Blueprint σ) (entropy : Entropy) : Turn σ :=
  let id := host.nextId
  let report := Session.open? blueprint id entropy host.tripwire
  let host := { host with nextId := id + 1, tripwire := report.tripwire }
  let events := report.events.map (Event.session id)
  match report.opening with
  | .opened session =>
    ⟨{ host with sessions := host.sessions ++ [some session] },
      .opened host.sessions.length session.id, events, []⟩
  | .refused error => ⟨host, .refused error, events, []⟩
  | .panicked payload => ⟨host, .panicked payload, events, []⟩

/-- Opens a session from the runtime at a place. A closed runtime refuses before anything else
happens. -/
def openSession (host : Host σ) (place : Nat) (entropy : Entropy) : Turn σ :=
  match host.runtime? place with
  | none => host.absent
  | some ⟨none⟩ => ⟨host, .refused .runtimeClosed, [], []⟩
  | some ⟨some blueprint⟩ => host.openFrom blueprint entropy

/-- Performs an operation on the session at a place. -/
def perform (host : Host σ) (place : Nat) (request : Request) : Turn σ :=
  match host.session? place with
  | none => host.absent
  | some session =>
    let report := session.serve host.tripwire request
    let host := { host.setSession place (some report.session) with tripwire := report.tripwire }
    let answer :=
      match report.outcome with
      | .ok product => .produced product
      | .error error => .refused error
    ⟨host, answer, report.events.map (.session session.id), report.actions⟩

/-- Carries out one step. -/
def step (host : Host σ) : Step σ → Turn σ
  | .addRuntime blueprint =>
    ⟨{ host with runtimes := host.runtimes ++ [some ⟨some blueprint⟩] },
      .added host.runtimes.length, [], []⟩
  | .closeRuntime place => host.endRuntime place true
  | .dropRuntime place => host.endRuntime place false
  | .openSession place entropy => host.openSession place entropy
  | .perform place request => host.perform place request
  | .closeSession place => host.endSession place true
  | .dropSession place => host.endSession place false

/-- Carries out steps one after another and collects the turns. -/
def run (host : Host σ) : List (Step σ) → Host σ × List (Turn σ)
  | [] => (host, [])
  | step :: steps =>
    let turn := host.step step
    let (last, turns) := turn.host.run steps
    (last, turn :: turns)

end Host

end GuestBridge
