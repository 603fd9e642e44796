import GuestBridge.Proofs.Operation.Outcome
import GuestBridge.Proofs.Operation.Parts

/-!
# How guest functions are called

Every call that an operation makes is a call of the function that was found for its callee, with as
many words as that callee takes (`Action.Fits`). That holds on every path, since each part of an
operation is `Fitting`: it only adds actions that fit. `fits_serve` says so of whole operations.
-/

namespace GuestBridge

variable {σ α β : Type}

/-- The action is no call, or a call of the function that was found, with as many words as it
takes. -/
inductive Action.Fits (exports : Exports σ) : Action σ → Prop
  | call (found : Instance σ) (callee : Callee) (args : List UInt32) (tripwire : Option Tripwire)
      (hcount : args.length = callee.arity) :
      Fits exports ⟨found, .call callee args (exports.function callee args tripwire found).ending⟩
  | write (found : Instance σ) (region : Region) (bytes : Bytes) :
      Fits exports ⟨found, .write region bytes⟩
  | read (found : Instance σ) (region : Region) : Fits exports ⟨found, .read region⟩
  | wipe (found : Instance σ) (region : Region) : Fits exports ⟨found, .wipe region⟩

namespace Lease

variable {exports : Exports σ} {lease : Lease σ}

/-- All actions so far fit. -/
def Fits (exports : Exports σ) (lease : Lease σ) : Prop :=
  ∀ action ∈ lease.actions, action.Fits exports

theorem Fits.push {after : Lease σ} {action : Action σ} (hfits : lease.Fits exports)
    (haction : action.Fits exports) (hactions : after.actions = lease.actions ++ [action]) :
    after.Fits exports := by
  intro other hmem
  rw [hactions, List.mem_append, List.mem_singleton] at hmem
  rcases hmem with hmem | rfl
  · exact hfits other hmem
  · exact haction

theorem Fits.called (hfits : lease.Fits exports) {callee : Callee} {args : List UInt32}
    (hcount : args.length = callee.arity) : (lease.called exports callee args).Fits exports :=
  hfits.push (.call lease.guest callee args lease.tripwire hcount) rfl

/-- A part of an operation only adds actions that fit. -/
def Fitting (exports : Exports σ) (part : LeaseM σ α) : Prop :=
  ∀ lease, lease.Fits exports → (final part lease).Fits exports

namespace Fitting

theorem pure (result : α) : Fitting exports (Pure.pure result : LeaseM σ α) :=
  fun _ hfits => hfits

theorem fail (error : BridgeError) : Fitting exports (Lease.fail error : LeaseM σ α) :=
  fun _ hfits => hfits

theorem markSecret (region : Region) :
    Fitting exports (Lease.markSecret region : LeaseM σ Unit) :=
  fun _ hfits => hfits

theorem hold (held : Held) : Fitting exports (Lease.hold held : LeaseM σ Unit) :=
  fun _ hfits => hfits

theorem count (change : AllocationStats → AllocationStats) :
    Fitting exports (Lease.count change : LeaseM σ Unit) :=
  fun _ hfits => hfits

theorem emit (event : SessionEvent) : Fitting exports (Lease.emit event : LeaseM σ Unit) :=
  fun _ hfits => hfits

theorem bind {part : LeaseM σ α} {next : α → LeaseM σ β} (hpart : Fitting exports part)
    (hnext : ∀ result, Fitting exports (next result)) : Fitting exports (part >>= next) := by
  intro lease hfits
  have hmiddle := hpart lease hfits
  cases h : part lease with
  | ok result after =>
    rw [final, h] at hmiddle
    rw [final_bind_of_ok h]
    exact hnext result after hmiddle
  | error abort after =>
    rw [final, h] at hmiddle
    rw [final, bind_of_error h]
    exact hmiddle

theorem call {callee : Callee} {args : List UInt32} (hcount : args.length = callee.arity) :
    Fitting exports (Lease.call exports callee args) := by
  intro lease hfits
  rw [final, call_eq]
  cases (exports.function callee args lease.tripwire lease.guest).ending <;>
    exact hfits.called hcount

theorem write (region : Region) (bytes : Bytes) :
    Fitting exports (Lease.write region bytes : LeaseM σ Unit) := by
  intro lease hfits
  have hwritten : (lease.written region bytes).Fits exports :=
    hfits.push (.write lease.guest region bytes) (actions_written region bytes lease)
  rw [final, write_eq]
  cases lease.guest.memory.write? region.ptr bytes <;> exact hwritten

theorem read (region : Region) : Fitting exports (Lease.read region : LeaseM σ Bytes) := by
  intro lease hfits
  have hlooked : (lease.recorded (.read region)).Fits exports :=
    hfits.push (.read lease.guest region) rfl
  rw [final, read_eq]
  cases lease.guest.memory.read? region <;> exact hlooked

theorem wipe (region : Region) : Fitting exports (Lease.wipe region : LeaseM σ Unit) := by
  intro lease hfits
  rw [final, wipe_eq]
  exact hfits.push (.wipe lease.guest region) rfl

/-- Every part of an operation only adds actions that fit. -/
theorem pervasive (exports : Exports σ) : Pervasive exports fun _ part => Fitting exports part where
  pure := pure
  bind := bind
  fail _ := fail _
  emit := emit
  count _ := count _
  hold := hold
  markSecret := markSecret
  write := write
  read := read
  wipe := wipe
  call := call

end Fitting

end Lease

namespace Operation

open Lease

variable {exports : Exports σ}

/-! ## Whole operations -/

theorem fits_shielded {body : LeaseM σ α} (hbody : Fitting exports body) (name : String)
    {start : Lease σ} (hstart : start.Fits exports) :
    (shielded name exports body start).lease.Fits exports := by
  unfold Lease.Fits
  rw [shielded, actions_ofRun, run_eq]
  exact (Fitting.pervasive exports).releaseAll _ _ (hbody start hstart)

end Operation

/-- Every call that an operation makes on a session fits the functions of the session. -/
theorem Session.fits_serve {session : Session σ} {live : LiveGuest σ}
    (hlive : session.live = some live) (tripwire : Option Tripwire) (request : Request) :
    ∀ action ∈ (session.serve tripwire request).actions, action.Fits live.exports := by
  cases hcheck : request.check with
  | error error =>
    rw [serve_of_refused hlive tripwire hcheck]
    exact fun _ hmem => absurd hmem List.not_mem_nil
  | ok _ =>
    rw [serve_eq hlive tripwire hcheck]
    have hstart : (Lease.start live.guest tripwire live.stats).Fits live.exports :=
      fun _ hmem => absurd hmem List.not_mem_nil
    exact Operation.fits_shielded ((Lease.Fitting.pervasive live.exports).body hcheck) _ hstart

end GuestBridge
