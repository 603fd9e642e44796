import GuestBridge.Guest.Capability
import GuestBridge.Proofs.Host.Places
import GuestBridge.Proofs.Operation.Outcome
import GuestBridge.Proofs.Operation.Parts

/-!
# Where input errors come from

An operation can fail with an input error in two ways. Its arguments do not pass the check, and then
it does not touch the guest. Or a panic that carries that very error unwinds to the guard around the
operation: panics with a cause of failure in structured form pass through unchanged
(`BridgeError.ofPanic`). There is no third way, since a part of an operation is `Accountable`: if it
stops early, then with a failure of its own that is no input error, or with the payload of a call
that panicked. `origin_of_isInvalidInput` says so of every operation, and `heckledHost` goes the
second way.
-/

namespace GuestBridge

variable {σ α β : Type}

/-- The function that an action called, if it called one. -/
def Action.callee? : Action σ → Option Callee
  | ⟨_, .call callee _ _⟩ => some callee
  | _ => none

/-- One of the calls ended in a panic with this payload. -/
def Panicked (payload : Payload) (actions : List (Action σ)) : Prop :=
  ∃ found callee args, (⟨found, .call callee args (.panicked payload)⟩ : Action σ) ∈ actions

theorem Panicked.append {payload : Payload} {actions : List (Action σ)}
    (hpanicked : Panicked payload actions) (more : List (Action σ)) :
    Panicked payload (actions ++ more) := by
  obtain ⟨found, callee, args, hmem⟩ := hpanicked
  exact ⟨found, callee, args, List.mem_append_left _ hmem⟩

/-- What stops an operation is a failure that is no input error, or a panic among its calls. -/
def Abort.Accounted (actions : List (Action σ)) : Abort → Prop
  | .failed error => error.isInvalidInput = false
  | .panicked payload => Panicked payload actions

theorem Abort.Accounted.append {abort : Abort} {actions : List (Action σ)}
    (haccounted : abort.Accounted actions) (more : List (Action σ)) :
    abort.Accounted (actions ++ more) := by
  cases abort with
  | failed error => exact haccounted
  | panicked payload => exact Panicked.append haccounted more

/-- Only a panic that carries an input error turns into it. -/
theorem BridgeError.payload_of_isInvalidInput {payload : Payload}
    (hinvalid : (ofPanic payload).isInvalidInput = true) : payload = .error (ofPanic payload) := by
  cases payload with
  | error error => rfl
  | text message => cases hinvalid
  | other => cases hinvalid

/-- Only a panic can bring an input error, and it has to carry it. -/
theorem Abort.Accounted.panicked {abort : Abort} {actions : List (Action σ)}
    (haccounted : abort.Accounted actions) (hinvalid : abort.error.isInvalidInput = true) :
    abort = .panicked (.error abort.error) ∧ Panicked (.error abort.error) actions := by
  cases abort with
  | failed error => exact absurd (hinvalid.symm.trans haccounted) nofun
  | panicked payload =>
    have hpayload := BridgeError.payload_of_isInvalidInput hinvalid
    have hpanicked : Panicked payload actions := haccounted
    rw [hpayload] at hpanicked
    exact ⟨congrArg Abort.panicked hpayload, hpanicked⟩

namespace Lease

/-! ## Parts of an operation -/

/-- If a part of an operation stops early, it is accounted for why. -/
def Accountable (part : LeaseM σ α) : Prop :=
  ∀ lease abort after, part lease = .error abort after → abort.Accounted after.actions

namespace Accountable

variable {exports : Exports σ}

/-- What never stops early needs no account. -/
theorem of_ok {part : LeaseM σ α} (hok : ∀ lease, ∃ result after, part lease = .ok result after) :
    Accountable part := by
  intro lease abort after hstop
  obtain ⟨result, other, hends⟩ := hok lease
  rw [hends] at hstop
  cases hstop

theorem pure (result : α) : Accountable (Pure.pure result : LeaseM σ α) :=
  of_ok fun lease => ⟨result, lease, rfl⟩

theorem markSecret (region : Region) : Accountable (Lease.markSecret region : LeaseM σ Unit) :=
  of_ok fun _ => ⟨(), _, rfl⟩

theorem hold (held : Held) : Accountable (Lease.hold held : LeaseM σ Unit) :=
  of_ok fun _ => ⟨(), _, rfl⟩

theorem count (change : AllocationStats → AllocationStats) :
    Accountable (Lease.count change : LeaseM σ Unit) :=
  of_ok fun _ => ⟨(), _, rfl⟩

theorem emit (event : SessionEvent) : Accountable (Lease.emit event : LeaseM σ Unit) :=
  of_ok fun _ => ⟨(), _, rfl⟩

theorem wipe (region : Region) : Accountable (Lease.wipe region : LeaseM σ Unit) :=
  of_ok fun lease => ⟨(), _, wipe_eq region lease⟩

theorem fail {error : BridgeError} (hvalid : error.isInvalidInput = false) :
    Accountable (Lease.fail error : LeaseM σ α) := by
  rintro lease abort after ⟨⟩
  exact hvalid

theorem bind {part : LeaseM σ α} {next : α → LeaseM σ β} (hpart : Accountable part)
    (hnext : ∀ result, Accountable (next result)) : Accountable (part >>= next) := by
  intro lease abort after hstop
  rw [bind_apply] at hstop
  cases h : part lease with
  | ok result middle =>
    rw [h] at hstop
    exact hnext result middle abort after hstop
  | error other middle =>
    rw [h] at hstop
    cases hstop
    exact hpart lease abort after h

/-- A call stops an operation only by a panic, which is recorded. -/
theorem call (callee : Callee) (args : List UInt32) :
    Accountable (Lease.call exports callee args) := by
  intro lease abort after hstop
  rw [call_eq] at hstop
  cases hending : (exports.function callee args lease.tripwire lease.guest).ending with
  | returned | trapped =>
    rw [hending] at hstop
    cases hstop
  | panicked payload =>
    rw [hending] at hstop
    cases hstop
    refine ⟨lease.guest, callee, args, List.mem_append_right _ (List.mem_singleton.2 ?_)⟩
    rw [hending]

theorem write (region : Region) (bytes : Bytes) :
    Accountable (Lease.write region bytes : LeaseM σ Unit) := by
  intro lease abort after hstop
  rw [write_eq] at hstop
  cases hwrite : lease.guest.memory.write? region.ptr bytes <;> rw [hwrite] at hstop <;> cases hstop
  rfl

theorem read (region : Region) : Accountable (Lease.read region : LeaseM σ Bytes) := by
  intro lease abort after hstop
  rw [read_eq] at hstop
  cases hread : lease.guest.memory.read? region <;> rw [hread] at hstop <;> cases hstop
  rfl

/-- Every part of an operation is accountable. -/
theorem pervasive (exports : Exports σ) : Pervasive exports fun _ part => Accountable part where
  pure := pure
  bind := bind
  fail := fail
  emit := emit
  count _ := count _
  hold := hold
  markSecret := markSecret
  write := write
  read := read
  wipe := wipe
  call _ := call _ _

end Accountable

end Lease

namespace Operation

open Lease

variable {exports : Exports σ} {request : Request}

/-! ## Whole operations -/

theorem accounted_settle {outcome : Except Abort α} {lease : Lease σ}
    (houtcome : ∀ abort, outcome = .error abort → abort.Accounted lease.actions) :
    ∀ abort, (settle exports outcome lease).2 = .error abort →
      abort.Accounted (settle exports outcome lease).1.actions := by
  intro abort hstop
  obtain ⟨releases, hloop⟩ := releasing_releaseAll exports lease.held.reverse lease
  unfold settle final at *
  cases hall : releaseAll exports lease.held.reverse lease with
  | ok _ last =>
    rw [hall] at hloop hstop
    dsimp only at hloop hstop ⊢
    rw [hloop.actions]
    exact (houtcome abort hstop).append _
  | error other last =>
    rw [hall] at hloop hstop
    cases hstop
    exact (Accountable.pervasive exports).releaseAll lease.held.reverse lease abort last hall

theorem accounted_run {body : LeaseM σ α} (hbody : Accountable body) (start : Lease σ) :
    ∀ abort, (run exports body start).2 = .error abort →
      abort.Accounted (run exports body start).1.actions := by
  unfold run
  cases hrun : body start with
  | ok result after => exact accounted_settle nofun
  | error abort after =>
    refine accounted_settle fun other hother => ?_
    cases hother
    exact hbody start abort after hrun

/-- Under a lease, only a panic can bring an input error. It has to carry it, and it is reported. -/
theorem panicked_shielded {body : LeaseM σ α} (hbody : Accountable body) (name : String)
    (start : Lease σ) {error : BridgeError}
    (hfailed : (shielded name exports body start).outcome = .error error)
    (hinvalid : error.isInvalidInput = true) :
    Panicked (.error error) (shielded name exports body start).lease.actions ∧
      .caughtPanic name error ∈ (shielded name exports body start).lease.events := by
  have haccounted : ∀ abort, (run exports body start).2 = .error abort →
      abort.Accounted (run exports body start).1.actions := accounted_run hbody start
  rw [shielded, actions_ofRun]
  rw [shielded] at hfailed
  generalize run exports body start = ran at hfailed haccounted ⊢
  obtain ⟨last, abort | result⟩ := ran
  · have herror : error = abort.error := by
      cases abort <;> exact (Except.error.inj hfailed).symm
    subst herror
    obtain ⟨habort, hpanicked⟩ := (haccounted abort rfl).panicked hinvalid
    refine ⟨hpanicked, ?_⟩
    rw [habort]
    exact List.mem_append_right _ (List.mem_singleton.2 rfl)
  · cases hfailed

end Operation

/-- An operation that fails with an input error did nothing at all, because the arguments did not
pass the check, or one of its calls panicked with that very error, which was reported. -/
theorem Session.serve_of_isInvalidInput {session : Session σ} {tripwire : Option Tripwire}
    {request : Request} {error : BridgeError}
    (hfailed : (session.serve tripwire request).outcome = .error error)
    (hinvalid : error.isInvalidInput = true) :
    (request.check = .error error ∧
      session.serve tripwire request = ⟨.error error, session, tripwire, [], []⟩) ∨
    Panicked (.error error) (session.serve tripwire request).actions ∧
      .caughtPanic request.entry.name error ∈ (session.serve tripwire request).events := by
  cases hlive : session.live with
  | none =>
    rw [serve_of_closed hlive] at hfailed
    cases hfailed
    cases hinvalid
  | some live =>
    cases hcheck : request.check with
    | error refusal =>
      have hserve := serve_of_refused hlive tripwire hcheck
      rw [hserve] at hfailed
      cases hfailed
      exact .inl ⟨rfl, hserve⟩
    | ok _ =>
      rw [serve_eq hlive tripwire hcheck] at hfailed ⊢
      have hbody := (Lease.Accountable.pervasive live.exports).body hcheck
      exact .inr (Operation.panicked_shielded hbody _ _ hfailed hinvalid)

namespace Host

/-- An operation that fails with an input error was refused by the check of its arguments. Then no
guest function was called, and the process, with the memory of every guest and all counters, is as
it was. Or the guard around the operation caught a panic and turned it into that error, and only a
panic that carries the error turns into it, wherever it was raised. -/
theorem origin_of_isInvalidInput {host : Host σ} {place : Nat} {request : Request}
    {error : BridgeError}
    (hfailed : (host.step (.perform place request)).answer = .refused error)
    (hinvalid : error.isInvalidInput = true) :
    ((request.check = .error error ∧ (host.step (.perform place request)).actions = [] ∧
        (host.step (.perform place request)).host = host) ∨
      ∃ id, .session id (.caughtPanic request.entry.name error) ∈
        (host.step (.perform place request)).events) ∧
    ∀ payload, BridgeError.ofPanic payload = error → payload = .error error := by
  have hstep : host.step (.perform place request) = host.perform place request := rfl
  have hpayload (payload : Payload) (hpanic : BridgeError.ofPanic payload = error) :
      payload = .error error := by
    subst hpanic
    exact BridgeError.payload_of_isInvalidInput hinvalid
  refine ⟨?_, hpayload⟩
  rw [hstep] at hfailed ⊢
  cases hsession : host.session? place with
  | none =>
    simp only [perform, hsession] at hfailed
    cases hfailed
  | some session =>
    have houtcome : (session.serve host.tripwire request).outcome = .error error := by
      simp only [perform, hsession] at hfailed
      cases houtcome : (session.serve host.tripwire request).outcome with
      | ok product => rw [houtcome] at hfailed; cases hfailed
      | error other => rw [houtcome] at hfailed; cases hfailed; rfl
    rcases Session.serve_of_isInvalidInput houtcome hinvalid with
      ⟨hcheck, hserve⟩ | ⟨-, hcaught⟩
    · refine .inl ⟨hcheck, ?_, ?_⟩
      · simp only [perform, hsession, hserve]
      · simp only [perform, hsession, hserve]
        rw [setSession_eq_self (session?_eq_some_iff.1 hsession)]
    · refine .inr ⟨session.id, ?_⟩
      simp only [perform, hsession]
      exact List.mem_map_of_mem hcaught

/-- A guest function that logs four bytes of its memory and then hands over a region. -/
def grumble : GuestFunction Unit (List Value) := fun _ tripwire guest =>
  let notice := Capability.log (some guest.memory) ⟨16, 4⟩
  ⟨guest, [notice],
    match Capability.tripped tripwire notice with
    | some payload => .panicked payload
    | none => .returned [.i64 (PackedResult.encode (.success 1024 59))]⟩

/-- A guest all of whose packed exports do so. -/
def grumblingTable : ExportTable Unit :=
  ("memory", .memory) ::
    ("alloc", .func allocSignature fun _ _ guest => ⟨guest, [], .returned [.i32 4096]⟩) ::
    ("dealloc", .func deallocSignature fun _ _ guest => ⟨guest, [], .returned []⟩) ::
    PackedExport.all.map fun entry => (entry.name, .func entry.signature grumble)

/-- A process with a session of that guest. Its log subscriber panics at what the guest logs, with
an input error for a payload. -/
def heckledHost : Host Unit :=
  (Host.fresh 1 (some ⟨"boom", .error (.invalidInput (.chunkCount 0))⟩)).after
    [.addRuntime fun entropy _ =>
        ⟨[], .ready grumblingTable
          ⟨(Memory.zeroed 1 1).store 16 (Bytes.ofText "boom"), (), entropy⟩⟩,
      .openSession 0 (.ofStream fun _ => 0)]

/-- A request without arguments fails with an input error, because the guard caught a panic that
carried it. -/
theorem origin_of_isInvalidInput_heckled :
    let turn := heckledHost.step (.perform 0 .newPrivateKey)
    turn.answer = .refused (.invalidInput (.chunkCount 0)) ∧
      BridgeError.isInvalidInput (.invalidInput (.chunkCount 0)) = true ∧
      ∃ id, .session id (.caughtPanic "new_private_key" (.invalidInput (.chunkCount 0))) ∈
        turn.events := by
  intro turn
  have hfailed : turn.answer = .refused (.invalidInput (.chunkCount 0)) := by decide +kernel
  obtain ⟨horigin, -⟩ := origin_of_isInvalidInput hfailed rfl
  exact ⟨hfailed, rfl, horigin.resolve_left fun hrefused => nomatch hrefused.1⟩

/-- An input error does not mean that the guest was not called. Here it allocated a region for the
host, was asked for a hash and had to release the region, and the counters of the session and the
memory of the guest have changed. -/
theorem callees_before_inputError :
    let turn := heckledHost.step (.perform 0 (.hashBytes [0x78]))
    let stats (host : Host Unit) := (host.session? 0).map Session.stats
    let byte (host : Host Unit) (address : Nat) :=
      ((host.session? 0).bind Session.live).map (·.guest.memory.byte address)
    (∃ error, turn.answer = .refused error ∧ error.isInvalidInput = true) ∧
      turn.actions.filterMap Action.callee? = [.alloc, .packed .hashMessageBytes, .dealloc] ∧
      stats heckledHost = some (.ok ⟨0, 0, 0, 0⟩) ∧ stats turn.host = some (.ok ⟨1, 0, 1, 0⟩) ∧
      byte heckledHost 4096 = some 0 ∧ byte turn.host 4096 = some 0x78 := by
  intro turn stats byte
  have hfailed : turn.answer = .refused (.invalidInput (.chunkCount 0)) := by decide +kernel
  exact ⟨⟨_, hfailed, rfl⟩, by decide +kernel⟩

end Host

end GuestBridge
