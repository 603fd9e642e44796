import GuestBridge.Proofs.Host.Isolation
import GuestBridge.Proofs.Operation.Parts
import GuestBridge.Proofs.Session.Accounting

/-!
# Operations leave no residue

All that one operation hands on to the next is the guest and the counters, and no decision depends
on the counters: every part of an operation is `Oblivious` of them. So an operation on a session
goes as it would go with all counters at zero (`Session.serve_eq_of_zero`), whatever failed, trapped
or panicked before, and it gives back only what it acquired itself (`SelfContained`).
`unpoisoned_perform` says so of two sessions with different pasts, and `tellings_eq` of all that is
asked of them from then on.
-/

namespace GuestBridge

variable {σ α β : Type}

namespace Lease

/-! ## More on the counters -/

/-- The lease with counters from before added to its own. -/
def credit (base : AllocationStats) (lease : Lease σ) : Lease σ :=
  { lease with stats := base.add lease.stats }

/-- The result of a part of an operation, with counters from before added. -/
def creditResult (base : AllocationStats) :
    EStateM.Result Abort (Lease σ) α → EStateM.Result Abort (Lease σ) α
  | .ok result after => .ok result (after.credit base)
  | .error abort after => .error abort (after.credit base)

variable {exports : Exports σ}

@[simp] theorem guest_credit (base : AllocationStats) (lease : Lease σ) :
    (lease.credit base).guest = lease.guest := rfl

@[simp] theorem tripwire_credit (base : AllocationStats) (lease : Lease σ) :
    (lease.credit base).tripwire = lease.tripwire := rfl

@[simp] theorem called_credit (exports : Exports σ) (callee : Callee) (args : List UInt32)
    (base : AllocationStats) (lease : Lease σ) :
    (lease.credit base).called exports callee args =
      (lease.called exports callee args).credit base := rfl

@[simp] theorem written_credit (region : Region) (bytes : Bytes) (base : AllocationStats)
    (lease : Lease σ) :
    (lease.credit base).written region bytes = (lease.written region bytes).credit base := by
  unfold written
  rw [guest_credit]
  cases lease.guest.memory.write? region.ptr bytes <;> rfl

/-! ## Parts of an operation -/

/-- A part of an operation does the same whatever the counters say, and adds the same to them. -/
def Oblivious (part : LeaseM σ α) : Prop :=
  ∀ base lease, part (lease.credit base) = creditResult base (part lease)

namespace Oblivious

theorem pure (result : α) : Oblivious (Pure.pure result : LeaseM σ α) :=
  fun _ _ => rfl

theorem fail (error : BridgeError) : Oblivious (Lease.fail error : LeaseM σ α) :=
  fun _ _ => rfl

theorem markSecret (region : Region) : Oblivious (Lease.markSecret region : LeaseM σ Unit) :=
  fun _ _ => rfl

theorem hold (held : Held) : Oblivious (Lease.hold held : LeaseM σ Unit) :=
  fun _ _ => rfl

theorem emit (event : SessionEvent) : Oblivious (Lease.emit event : LeaseM σ Unit) :=
  fun _ _ => rfl

theorem wipe (region : Region) : Oblivious (Lease.wipe region : LeaseM σ Unit) := by
  intro base lease
  rw [wipe_eq, wipe_eq]
  rfl

/-- Going up by one is the same whatever was counted before. -/
theorem count {change : AllocationStats → AllocationStats} (hchange : Tick change) :
    Oblivious (Lease.count change : LeaseM σ Unit) := by
  intro base lease
  have hadds : change (base.add lease.stats) = base.add (change lease.stats) := by
    cases hchange <;> simp only [AllocationStats.add, UInt64.add_assoc]
  show EStateM.Result.ok () { lease.credit base with stats := change (base.add lease.stats) } = _
  rw [hadds]
  rfl

theorem bind {part : LeaseM σ α} {next : α → LeaseM σ β} (hpart : Oblivious part)
    (hnext : ∀ result, Oblivious (next result)) : Oblivious (part >>= next) := by
  intro base lease
  rw [bind_apply, bind_apply, hpart base lease]
  cases part lease with
  | ok result after => exact hnext result base after
  | error abort after => rfl

theorem write (region : Region) (bytes : Bytes) :
    Oblivious (Lease.write region bytes : LeaseM σ Unit) := by
  intro base lease
  rw [write_eq, write_eq, written_credit, guest_credit]
  cases lease.guest.memory.write? region.ptr bytes <;> rfl

theorem read (region : Region) : Oblivious (Lease.read region : LeaseM σ Bytes) := by
  intro base lease
  rw [read_eq, read_eq, guest_credit]
  cases lease.guest.memory.read? region <;> rfl

/-- A call does not see the counters. -/
theorem call (callee : Callee) (args : List UInt32) :
    Oblivious (Lease.call exports callee args) := by
  intro base lease
  rw [call_eq, call_eq, guest_credit, tripwire_credit, called_credit]
  cases (exports.function callee args lease.tripwire lease.guest).ending <;> rfl

/-- No part of an operation depends on the counters. -/
theorem pervasive (exports : Exports σ) : Pervasive exports fun _ part => Oblivious part where
  pure := pure
  bind := bind
  fail _ := fail _
  emit := emit
  count := count
  hold := hold
  markSecret := markSecret
  write := write
  read := read
  wipe := wipe
  call _ := call _ _

end Oblivious

end Lease

namespace Operation

open Lease

/-! ## Whole operations -/

/-- The report with counters from before added. -/
def creditReport (base : AllocationStats) (report : Report σ α) : Report σ α :=
  ⟨report.outcome, report.lease.credit base⟩

theorem settle_credit (exports : Exports σ) (outcome : Except Abort α) (base : AllocationStats)
    (lease : Lease σ) :
    settle exports outcome (lease.credit base) =
      ((settle exports outcome lease).1.credit base, (settle exports outcome lease).2) := by
  have hheld : (lease.credit base).held = lease.held := rfl
  unfold settle
  rw [hheld, (Oblivious.pervasive exports).releaseAll lease.held.reverse base lease]
  cases releaseAll exports lease.held.reverse lease <;> rfl

theorem shielded_credit {body : LeaseM σ α} (hbody : Oblivious body) (name : String)
    (exports : Exports σ) (base : AllocationStats) (start : Lease σ) :
    shielded name exports body (start.credit base) =
      creditReport base (shielded name exports body start) := by
  have hrun : Lease.run exports body (start.credit base) =
      ((Lease.run exports body start).1.credit base, (Lease.run exports body start).2) := by
    unfold Lease.run
    rw [hbody base start]
    cases body start with
    | ok result after => exact settle_credit exports (.ok result) base after
    | error abort after => exact settle_credit exports (.error abort) base after
  unfold shielded
  rw [hrun]
  rcases Lease.run exports body start with ⟨last, (error | payload) | product⟩ <;> rfl

/-- An operation does the same whatever the counters say, and adds the same to them. -/
theorem perform_credit (exports : Exports σ) (base : AllocationStats) (start : Lease σ)
    (request : Request) :
    perform exports (start.credit base) request =
      creditReport base (perform exports start request) := by
  rw [perform_eq, perform_eq]
  cases hcheck : request.check with
  | error error => rfl
  | ok _ => exact shielded_credit ((Oblivious.pervasive exports).body hcheck) _ exports base start

end Operation

namespace AllocationStats

theorem add_zero (stats : AllocationStats) : stats.add zero = stats := by
  simp only [add, zero, UInt64.add_zero]

end AllocationStats

/-- An operation on an open session goes as it does with counters at zero, on the guest that the
session has. What it counts there it adds to the counters here. -/
theorem Session.serve_eq_of_zero (id : UInt64) (exports : Exports σ) (guest : Instance σ)
    (stats : AllocationStats) (tripwire : Option Tripwire) (request : Request) :
    let report := Operation.perform exports (Lease.start guest tripwire .zero) request
    Session.serve ⟨id, some ⟨exports, guest, stats⟩⟩ tripwire request =
      { outcome := report.outcome
        session := ⟨id, some ⟨exports, report.lease.guest, stats.add report.lease.stats⟩⟩
        tripwire := report.lease.tripwire
        events := report.lease.events
        actions := report.lease.actions } := by
  have hstart : Lease.start guest tripwire stats =
      (Lease.start guest tripwire .zero).credit stats :=
    congrArg (Lease.start guest tripwire) stats.add_zero.symm
  simp only [serve, Session.perform, hstart, Operation.perform_credit]
  rfl

/-! ## What an operation gives back -/

/-- All that is given back was acquired before, the last region first, and so was all that is
overwritten. -/
structure SelfContained (actions : List (Action σ)) : Prop where
  released : (deallocs actions).map Dealloc.ptr <+:
    ((acquisitions actions).map (·.region.ptr)).reverse
  overwritten : ∀ wipe ∈ wipes actions, ∃ acquisition ∈ acquisitions actions,
    acquisition.region = wipe.region

theorem selfContained_nil : SelfContained ([] : List (Action σ)) :=
  ⟨List.nil_prefix, nofun⟩

namespace Operation.Course

open Lease

variable {exports : Exports σ} {request : Request} {start last : Lease σ}

theorem region_of_mem_wipes {release : Release σ} {wipe : Wipe σ}
    (hmem : wipe ∈ wipes release.actions) : wipe.region = release.held.region := by
  have hcall : wipes [release.call] = [] := rfl
  rw [Release.actions, wipes_append, hcall, List.append_nil] at hmem
  cases hsensitivity : release.held.sensitivity with
  | plain =>
    rw [Held.wipeActions_of_plain hsensitivity] at hmem
    cases hmem
  | secret =>
    rw [Held.wipeActions_of_secret hsensitivity] at hmem
    rw [List.mem_singleton.1 (show wipe ∈ [⟨release.held.region, release.before⟩] from hmem)]

theorem selfContained (course : Course exports request start last) :
    SelfContained last.actions where
  released := by
    have hprefix := course.releasing.held_prefix.map fun held : Held => held.region.ptr
    rw [course.held_eq, List.map_reverse, List.map_map, List.map_map] at hprefix
    rw [course.deallocs_eq, course.acquisitions_eq, List.map_map, List.map_map]
    exact hprefix
  overwritten wipe hmem := by
    rw [course.actions_eq, wipes_append, course.intact_middle.wipes_nil, List.nil_append, wipes,
      List.filterMap_flatMap] at hmem
    obtain ⟨release, hrelease, hmem⟩ := List.mem_flatMap.1 hmem
    have hheld : release.held ∈ course.middle.held :=
      List.mem_reverse.1 (course.releasing.held_prefix.subset (List.mem_map_of_mem hrelease))
    rw [course.held_eq] at hheld
    obtain ⟨gain, hgain, hsame⟩ := List.mem_map.1 hheld
    refine ⟨gain.acquisition, ?_, ?_⟩
    · rw [course.acquisitions_eq]
      exact List.mem_map_of_mem hgain
    · rw [region_of_mem_wipes hmem, ← hsame]
      rfl

end Operation.Course

theorem Session.selfContained_serve (session : Session σ) (tripwire : Option Tripwire)
    (request : Request) : SelfContained (session.serve tripwire request).actions := by
  rcases session.serve_cases tripwire request with
    ⟨hactions, -⟩ | ⟨live, last, -, ⟨course⟩, hactions, -⟩
  · rw [hactions]
    exact selfContained_nil
  · rw [hactions]
    exact course.selfContained

/-! ## Different pasts -/

/-- The answer to an operation with this outcome. -/
def Answer.ofOutcome : Except BridgeError Product → Answer
  | .ok product => .produced product
  | .error error => .refused error

namespace Host

/-- A step that performs an operation on an open session, by the operation with counters at zero. -/
theorem step_perform_of_live {host : Host σ} {place : Nat} {id : UInt64} {exports : Exports σ}
    {guest : Instance σ} {stats : AllocationStats}
    (hopen : host.session? place = some ⟨id, some ⟨exports, guest, stats⟩⟩) (request : Request) :
    let report := Operation.perform exports (Lease.start guest host.tripwire .zero) request
    host.step (.perform place request) =
      { host :=
          { host.setSession place
              (some ⟨id, some ⟨exports, report.lease.guest, stats.add report.lease.stats⟩⟩) with
            tripwire := report.lease.tripwire }
        answer := .ofOutcome report.outcome
        events := report.lease.events.map (.session id)
        actions := report.lease.actions } := by
  simp only [step, perform, hopen, Session.serve_eq_of_zero]
  rfl

/-- Two sessions may have different numbers, counters and pasts, and may live in different
processes. If they are open with guests in the same state, and the log subscribers are in the same
state too, every operation goes the same way in both: with the same answer and the same events but
for the number of the session, by the same calls and accesses to memory. It leaves both sessions
open with their guests in the same state again, adds the same to the counters of both, and gives
back only what it acquired itself. -/
theorem unpoisoned_perform {first second : Host σ} {place place' : Nat} {id id' : UInt64}
    {exports : Exports σ} {guest : Instance σ} {stats stats' : AllocationStats}
    (hfirst : first.session? place = some ⟨id, some ⟨exports, guest, stats⟩⟩)
    (hsecond : second.session? place' = some ⟨id', some ⟨exports, guest, stats'⟩⟩)
    (htripwire : first.tripwire = second.tripwire) (request : Request) :
    ∃ (answer : Answer) (events : List SessionEvent) (actions : List (Action σ))
      (tripwire : Option Tripwire) (left : Instance σ) (added : AllocationStats),
      first.step (.perform place request) =
        ⟨{ first.setSession place (some ⟨id, some ⟨exports, left, stats.add added⟩⟩) with
            tripwire := tripwire },
          answer, events.map (.session id), actions⟩ ∧
      second.step (.perform place' request) =
        ⟨{ second.setSession place' (some ⟨id', some ⟨exports, left, stats'.add added⟩⟩) with
            tripwire := tripwire },
          answer, events.map (.session id'), actions⟩ ∧
      SelfContained actions := by
  have hsecondStep := step_perform_of_live hsecond request
  rw [← htripwire] at hsecondStep
  refine ⟨_, _, _, _, _, _, step_perform_of_live hfirst request, hsecondStep, ?_⟩
  have hserve := (Session.mk id (some ⟨exports, guest, stats⟩)).selfContained_serve
    first.tripwire request
  rwa [Session.serve_eq_of_zero] at hserve

/-- A host with one session, of the frail guest. -/
def frailHost : Host Unit where
  nextId := 2
  tripwire := none
  runtimes := []
  sessions := [some (.fresh 1 frailExports frailGuest)]

/-- A host with a session of the frail guest that comes later and elsewhere. -/
def otherFrailHost : Host Unit where
  nextId := 8
  tripwire := none
  runtimes := []
  sessions := [none, some (.fresh 7 frailExports frailGuest)]

/-- A key that could not be made strands two regions of the frail guest. The next operation goes as
it goes in a session where nothing happened. -/
theorem unpoisoned_perform_frail :
    let worn := frailHost.after [.perform 0 .newPrivateKey]
    worn.session? 0 = some ⟨1, some ⟨frailExports, frailGuest, ⟨0, 2, 0, 0⟩⟩⟩ ∧
    otherFrailHost.session? 1 = some ⟨7, some ⟨frailExports, frailGuest, .zero⟩⟩ ∧
    worn.tripwire = otherFrailHost.tripwire ∧
    ∃ (answer : Answer) (events : List SessionEvent) (actions : List (Action Unit))
      (tripwire : Option Tripwire) (left : Instance Unit) (added : AllocationStats),
      worn.step (.perform 0 (.hashBytes [0x78])) =
        ⟨{ worn.setSession 0 (some ⟨1, some ⟨frailExports, left,
              AllocationStats.add ⟨0, 2, 0, 0⟩ added⟩⟩) with tripwire := tripwire },
          answer, events.map (.session 1), actions⟩ ∧
      otherFrailHost.step (.perform 1 (.hashBytes [0x78])) =
        ⟨{ otherFrailHost.setSession 1 (some ⟨7, some ⟨frailExports, left,
              AllocationStats.zero.add added⟩⟩) with tripwire := tripwire },
          answer, events.map (.session 7), actions⟩ ∧
      SelfContained actions := by
  intro worn
  have hworn : worn.session? 0 = some ⟨1, some ⟨frailExports, frailGuest, ⟨0, 2, 0, 0⟩⟩⟩ := rfl
  have hother : otherFrailHost.session? 1 = some ⟨7, some ⟨frailExports, frailGuest, .zero⟩⟩ := rfl
  exact ⟨hworn, hother, rfl, unpoisoned_perform hworn hother rfl (.hashBytes [0x78])⟩

/-! ## Runs of operations -/

/-- What operations on the session at a place show, without its number. -/
def tellings (host : Host σ) (place : Nat) (requests : List Request) : List (Observation σ) :=
  (host.run (requests.map (.perform place))).2.map fun turn =>
    ⟨turn.answer, turn.events.map Event.anonymous, turn.actions⟩

/-- Whatever is asked of two such sessions from then on, both show the same. -/
theorem tellings_eq {requests : List Request} {first second : Host σ} {place place' : Nat}
    {id id' : UInt64} {exports : Exports σ} {guest : Instance σ} {stats stats' : AllocationStats}
    (hfirst : first.session? place = some ⟨id, some ⟨exports, guest, stats⟩⟩)
    (hsecond : second.session? place' = some ⟨id', some ⟨exports, guest, stats'⟩⟩)
    (htripwire : first.tripwire = second.tripwire) :
    first.tellings place requests = second.tellings place' requests := by
  induction requests generalizing first second guest stats stats' with
  | nil => rfl
  | cons request rest ih =>
    have hstep := step_perform_of_live hfirst request
    have hstep' := step_perform_of_live hsecond request
    rw [← htripwire] at hstep'
    have hplace := lt_of_session? hfirst
    have hplace' := lt_of_session? hsecond
    have hrest : (first.step (.perform place request)).host.tellings place rest =
        (second.step (.perform place' request)).host.tellings place' rest := by
      rw [hstep, hstep']
      exact ih (session?_setSession hplace _) (session?_setSession hplace' _) rfl
    refine List.cons_eq_cons.2 ⟨?_, hrest⟩
    rw [hstep, hstep']
    simp only [anonymous_events _ id id']

end Host

end GuestBridge
