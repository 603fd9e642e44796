import GuestBridge.Event
import GuestBridge.Memory.Fill
import GuestBridge.Text.Utf8

/-! # Guest memory held for one operation

An operation acquires regions of guest memory, by asking the guest allocator for them or by taking
over results, and gives every one of them back at its end, on whatever path it ends. A `Lease` is
the state of an operation: the guest, the counters, the regions acquired so far in order
(`Lease.held`), the events emitted and the actions taken. `LeaseM` programs change it and stop early
with an `Abort`. `Lease.run` runs such a program and then releases the regions, the last one first;
a region with a secret is overwritten with zeros right before its release. A release that fails is
noted and changes nothing else. The one thing that ends the release early is a panic inside it.

The actions record every call of a guest function, with how it ended, and every access of the host
to guest memory, each with the guest as it was right before. No decision depends on them.
-/

namespace GuestBridge

/-- Whether a region has to be overwritten before it is released. -/
inductive Sensitivity
  | plain | secret
deriving DecidableEq

/-- A region acquired by an operation. -/
structure Held where
  region : Region
  /-- The size that the guest is told at the release: what was requested, or zero for a result,
  whose capacity only the guest knows. -/
  sizeHint : UInt32
  sensitivity : Sensitivity
deriving DecidableEq

/-- What the host does to a guest. -/
inductive Deed
  /-- A function of the guest was called, and the call ended like this. -/
  | call (callee : Callee) (args : List UInt32) (ending : Ending callee.Result)
  /-- Bytes were to be copied to the start of a region. -/
  | write (region : Region) (bytes : Bytes)
  /-- Bytes were to be copied out of a region. -/
  | read (region : Region)
  /-- A region was to be overwritten with zeros. -/
  | wipe (region : Region)

/-- Something that the host did to a guest, with the guest as it was right before. -/
structure Action (σ : Type) where
  found : Instance σ
  deed : Deed

/-- Why an operation stops before its end. -/
inductive Abort
  | failed (error : BridgeError)
  | panicked (payload : Payload)
deriving DecidableEq

/-- The state of an operation. -/
structure Lease (σ : Type) where
  guest : Instance σ
  tripwire : Option Tripwire
  stats : AllocationStats
  /-- The regions acquired so far, the first one first. -/
  held : List Held
  events : List SessionEvent
  actions : List (Action σ)

/-- A part of an operation. -/
abbrev LeaseM (σ α : Type) : Type := EStateM Abort (Lease σ) α

namespace Lease

variable {σ α : Type}

/-- The state of an operation that has done nothing yet. -/
def start (guest : Instance σ) (tripwire : Option Tripwire) (stats : AllocationStats) : Lease σ :=
  ⟨guest, tripwire, stats, [], [], []⟩

/-! ## Steps of an operation -/

/-- Stops with a cause of failure. -/
def fail (error : BridgeError) : LeaseM σ α :=
  throw (.failed error)

/-- Goes on with a result, or stops with its cause of failure. -/
def orFail : Except BridgeError α → LeaseM σ α
  | .ok result => pure result
  | .error error => fail error

/-- Emits an event. -/
def emit (event : SessionEvent) : LeaseM σ Unit :=
  modify fun lease => { lease with events := lease.events ++ [event] }

/-- Records what the host does to the guest now. -/
def record (deed : Deed) : LeaseM σ Unit :=
  modify fun lease => { lease with actions := lease.actions ++ [⟨lease.guest, deed⟩] }

/-- Changes the counters. -/
def count (change : AllocationStats → AllocationStats) : LeaseM σ Unit :=
  modify fun lease => { lease with stats := change lease.stats }

/-- Adds a region to those that have to be given back. -/
def hold (held : Held) : LeaseM σ Unit :=
  modify fun lease => { lease with held := lease.held ++ [held] }

/-- The state after a call of a guest function. -/
def afterCall (callee : Callee) (args : List UInt32) (reply : Reply σ callee.Result)
    (lease : Lease σ) : Lease σ :=
  { lease with
    guest := reply.guest
    tripwire := reply.ending.rearm lease.tripwire
    events := lease.events ++ reply.notices.map .noticed
    actions := lease.actions ++ [⟨lease.guest, .call callee args reply.ending⟩] }

/-- Calls a guest function. A trap is a result, a panic stops the operation. -/
def call (exports : Exports σ) (callee : Callee) (args : List UInt32) :
    LeaseM σ (Except Trap callee.Result) := fun lease =>
  let reply := exports.function callee args lease.tripwire lease.guest
  match reply.ending with
  | .returned result => .ok (.ok result) (lease.afterCall callee args reply)
  | .trapped trap => .ok (.error trap) (lease.afterCall callee args reply)
  | .panicked payload => .error (.panicked payload) (lease.afterCall callee args reply)

/-- The failure of an access to a region that leaves guest memory. -/
def accessError (memory : Memory) (region : Region) : BridgeError :=
  .memoryAccess region.ptr region.len memory.size

/-- Copies bytes into guest memory, to the start of a region. -/
def write (region : Region) (bytes : Bytes) : LeaseM σ Unit := do
  record (.write region bytes)
  let lease ← get
  match lease.guest.memory.write? region.ptr bytes with
  | some memory => set { lease with guest := { lease.guest with memory := memory } }
  | none => fail (accessError lease.guest.memory region)

/-- Copies a region out of guest memory. -/
def read (region : Region) : LeaseM σ Bytes := do
  record (.read region)
  let memory := (← get).guest.memory
  match memory.read? region with
  | some bytes => pure bytes
  | none => fail (accessError memory region)

/-- Copies a result out of guest memory that has to be text. -/
def readText (entry : PackedExport) (region : Region) : LeaseM σ String := do
  match Utf8.decode? (← read region) with
  | some text => pure text
  | none => fail (.invalidResult entry.name .notUtf8)

/-- Overwrites a region with zeros. A region that leaves guest memory is reported and left alone. -/
def wipe (region : Region) : LeaseM σ Unit := do
  record (.wipe region)
  let lease ← get
  match lease.guest.memory.wipe? region with
  | some memory => set { lease with guest := { lease.guest with memory := memory } }
  | none => emit (.wipeFailed region (accessError lease.guest.memory region))

/-! ## Acquiring regions -/

/-- The length of a host buffer as a guest length. -/
def guestLength (length : Nat) : Except BridgeError UInt32 :=
  if length < UInt32.size then .ok (UInt32.ofNat length) else .error (.invalidInput (.tooLarge length))

/-- Asks the guest allocator for so many bytes. -/
def allocate (exports : Exports σ) (size : UInt32) : LeaseM σ UInt32 := do
  match ← call exports .alloc [size] with
  | .error trap => fail (.allocation size trap.message)
  | .ok ptr =>
    if ptr = 0 then fail (.allocation size "guest allocator returned a null pointer")
    count fun stats => { stats with allocated := stats.allocated + 1 }
    emit (.allocated ptr size)
    pure ptr

/-- Allocates guest memory and copies bytes into it. The region is held before anything is copied,
so it is given back even if it leaves guest memory. -/
def allocBytes (exports : Exports σ) (bytes : Bytes) (sensitivity : Sensitivity) :
    LeaseM σ Region := do
  let len ← orFail (guestLength bytes.length)
  let ptr ← allocate exports len
  hold ⟨⟨ptr, len⟩, len, sensitivity⟩
  write ⟨ptr, len⟩ bytes
  pure ⟨ptr, len⟩

/-- The region that the values returned by a guest function refer to. -/
def unpack (entry : PackedExport) : List Value → LeaseM σ Region
  | [] => fail (.invalidResult entry.name .emptyReturn)
  | .i64 word :: _ => do
    match PackedResult.decode word with
    | .success ptr len => pure ⟨ptr, len⟩
    | .failure len =>
      emit (.nullResult entry len)
      fail (.invalidResult entry.name .invalidInput)
  | other :: _ => fail (.invalidResult entry.name (.unexpectedType other.typeName))

/-- Calls a guest function that returns a packed word and takes over the buffer it produced. -/
def callPacked (exports : Exports σ) (entry : PackedExport) (args : List UInt32) :
    LeaseM σ Region := do
  match ← call exports (.packed entry) args with
  | .error trap => fail (.fault (.trap entry.name trap))
  | .ok values =>
    let region ← unpack entry values
    count fun stats => { stats with adopted := stats.adopted + 1 }
    emit (.adopted region.ptr region.len)
    hold ⟨region, 0, .plain⟩
    pure region

/-- The held regions with the first one that equals a region turned into a secret. -/
def markSecretIn (region : Region) : List Held → List Held
  | [] => []
  | held :: rest =>
    if held.region = region then { held with sensitivity := .secret } :: rest
    else held :: markSecretIn region rest

/-- Remembers that a held region contains a secret. -/
def markSecret (region : Region) : LeaseM σ Unit :=
  modify fun lease => { lease with held := markSecretIn region lease.held }

/-- Checks the length of a result. -/
def expectLength (entry : PackedExport) (expected : Nat) (region : Region) : LeaseM σ Unit :=
  if region.len.toNat = expected then pure ()
  else fail (.invalidResult entry.name (.unexpectedLength expected region.len.toNat))

/-! ## Giving regions back -/

/-- Calls the release function of the guest for one region. -/
def deallocate (exports : Exports σ) (held : Held) : LeaseM σ Unit := do
  match ← call exports .dealloc [held.region.ptr, held.sizeHint] with
  | .error trap =>
    count fun stats => { stats with releaseFailures := stats.releaseFailures + 1 }
    emit (.releaseFailed held.region (.fault (.trap Callee.dealloc.name trap)))
  | .ok () =>
    count fun stats => { stats with released := stats.released + 1 }
    emit (.released held.region.ptr held.sizeHint)

/-- Gives one region back, after overwriting it if it contains a secret. -/
def release (exports : Exports σ) (held : Held) : LeaseM σ Unit := do
  if held.sensitivity = .secret then wipe held.region
  deallocate exports held

/-- Gives regions back in the given order. -/
def releaseAll (exports : Exports σ) : List Held → LeaseM σ Unit
  | [] => pure ()
  | held :: rest => do
    release exports held
    releaseAll exports rest

/-- Gives back everything that is held, the last region first. A panic on the way replaces the
outcome of the operation. -/
def settle (exports : Exports σ) (outcome : Except Abort α) (lease : Lease σ) :
    Lease σ × Except Abort α :=
  match releaseAll exports lease.held.reverse lease with
  | .ok () after => (after, outcome)
  | .error abort after => (after, .error abort)

/-- Runs an operation and gives back everything that it acquired, however it ended. -/
def run (exports : Exports σ) (body : LeaseM σ α) (lease : Lease σ) : Lease σ × Except Abort α :=
  match body lease with
  | .ok result after => settle exports (.ok result) after
  | .error abort after => settle exports (.error abort) after

end Lease

/-- What an operation leaves behind: its outcome and its final state. -/
structure Report (σ α : Type) where
  outcome : Except BridgeError α
  lease : Lease σ

namespace Report

variable {σ α β : Type}

/-- The report with its result mapped. -/
def map (f : α → β) (report : Report σ α) : Report σ β :=
  ⟨report.outcome.map f, report.lease⟩

/-- The report of a finished operation. A panic becomes a cause of failure and is reported as an
event. -/
def ofRun (operation : String) : Lease σ × Except Abort α → Report σ α
  | (lease, .ok result) => ⟨.ok result, lease⟩
  | (lease, .error (.failed error)) => ⟨.error error, lease⟩
  | (lease, .error (.panicked payload)) =>
    let error := BridgeError.ofPanic payload
    ⟨.error error, { lease with events := lease.events ++ [.caughtPanic operation error] }⟩

end Report

end GuestBridge
