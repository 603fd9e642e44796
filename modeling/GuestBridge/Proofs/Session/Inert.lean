import GuestBridge.Proofs.Operation.Outcome
import GuestBridge.Proofs.Session.Accounting

/-!
# Giving back is without influence

What an operation comes to is settled when its body ends, and so are the regions that it gives back.
`Session.forecast` is computed at that point, before anything is overwritten or given back, and
`digest_serve` says that a calm operation turns out as forecast. The release function has no part in
it: guests that differ in nothing else cannot be told apart by what operations return, by how many
regions they give back, or by what they pass to the release function (`inert_serve`).
-/

namespace GuestBridge

variable {σ : Type}

/-! ## Another release function -/

/-- The same functions with another release function. -/
def Exports.withDealloc (exports : Exports σ) (dealloc : GuestFunction σ Unit) : Exports σ :=
  { exports with dealloc := dealloc }

/-- The session with another release function in its guest, if it is open. -/
def Session.withDealloc (session : Session σ) (dealloc : GuestFunction σ Unit) : Session σ :=
  { session with
    live := session.live.map fun live => { live with exports := live.exports.withDealloc dealloc } }

/-- No body calls the release function. -/
theorem Request.body_withDealloc (exports : Exports σ) (dealloc : GuestFunction σ Unit)
    (request : Request) : request.body (exports.withDealloc dealloc) = request.body exports := by
  cases request <;> rfl

/-! ## Counters of releases -/

/-- The counters without the difference between releases that succeeded and releases that failed. -/
structure Turnover where
  allocated : UInt64
  adopted : UInt64
  /-- The releases of both kinds. -/
  attempted : UInt64
deriving DecidableEq

/-- The turnover that counters stand for. -/
def AllocationStats.turnover (stats : AllocationStats) : Turnover :=
  ⟨stats.allocated, stats.adopted, stats.released + stats.releaseFailures⟩

/-- The turnover after so many more releases. -/
def Turnover.attempt (count : Nat) (turnover : Turnover) : Turnover :=
  { turnover with attempted := turnover.attempted + UInt64.ofNat count }

theorem Turnover.attempt_zero (turnover : Turnover) : turnover.attempt 0 = turnover := by
  show Turnover.mk _ _ (turnover.attempted + 0) = turnover
  rw [UInt64.add_zero]

theorem Turnover.attempt_succ (count : Nat) (turnover : Turnover) :
    turnover.attempt (count + 1) = (turnover.attempt 1).attempt count := by
  rw [attempt, attempt, attempt, UInt64.add_assoc, ← UInt64.ofNat_add, Nat.add_comm]

/-- The arguments of the call of the release function. -/
def Dealloc.args (dealloc : Dealloc σ) : UInt32 × UInt32 :=
  (dealloc.ptr, dealloc.sizeHint)

/-- The arguments with which a region is given back. -/
def Held.releaseArgs (held : Held) : UInt32 × UInt32 :=
  (held.region.ptr, held.sizeHint)

namespace Lease

variable {exports : Exports σ} {lease last : Lease σ} {regions : List Held}
  {releases : List (Release σ)}

/-- A release that does not panic counts as one, whether it succeeds or fails. -/
theorem turnover_count {release : Release σ} (hcalm : release.isPanic = false)
    (stats : AllocationStats) : (release.count stats).turnover = stats.turnover.attempt 1 := by
  unfold Release.count
  unfold Release.isPanic at hcalm
  cases hending : release.reply.ending with
  | returned =>
    show Turnover.mk _ _ (stats.released + 1 + stats.releaseFailures) = Turnover.mk _ _ _
    rw [UInt64.add_assoc, UInt64.add_comm 1, ← UInt64.add_assoc]
    rfl
  | trapped trap =>
    show Turnover.mk _ _ (stats.released + (stats.releaseFailures + 1)) = Turnover.mk _ _ _
    rw [← UInt64.add_assoc]
    rfl
  | panicked payload =>
    rw [hending] at hcalm
    cases hcalm

theorem Releasing.turnover_eq (hloop : Releasing exports lease regions releases last)
    (hcalm : ∀ release ∈ releases, release.isPanic = false) :
    last.stats.turnover = lease.stats.turnover.attempt regions.length := by
  induction hloop with
  | done lease => exact lease.stats.turnover.attempt_zero.symm
  | stopped lease held rest hpanic =>
    rw [hcalm _ List.mem_cons_self] at hpanic
    cases hpanic
  | next lease held hfirst _ ih =>
    have hrest := ih fun release hmem => hcalm release (List.mem_cons_of_mem _ hmem)
    rw [hrest, List.length_cons, Turnover.attempt_succ, ← turnover_count hfirst]
    rfl

/-- The release function is called for all that is held, in order. -/
theorem Releasing.args_eq (hloop : Releasing exports lease regions releases last)
    (hcalm : ∀ release ∈ releases, release.isPanic = false) :
    (releases.map Release.dealloc).map Dealloc.args = regions.map Held.releaseArgs := by
  have hheld : releases.map Release.held = regions :=
    hloop.held_eq fun release hmem => hcalm release (List.mem_of_mem_take hmem)
  rw [← hheld, List.map_map, List.map_map]
  rfl

end Lease

/-! ## Forecasts -/

/-- What is told of an operation apart from how the releases ended. -/
structure Digest where
  outcome : Except BridgeError Product
  /-- What the counters of the session stand for, unless it is closed. -/
  turnover : Except BridgeError Turnover
  /-- What the release function was called with, in order. -/
  requested : List (UInt32 × UInt32)

/-- What a report tells apart from how the releases ended. -/
def SessionReport.digest (report : SessionReport σ Product) : Digest where
  outcome := report.outcome
  turnover := report.session.stats.map AllocationStats.turnover
  requested := (deallocs report.actions).map Dealloc.args

/-- How an operation on a guest will turn out, as it looks at the end of the body. Nothing has been
overwritten or given back by then. -/
def LiveGuest.forecast (live : LiveGuest σ) (tripwire : Option Tripwire) (request : Request) :
    Digest :=
  let start := Lease.start live.guest tripwire live.stats
  let middle := Lease.final (request.body live.exports) start
  { outcome := Lease.outcome (request.body live.exports) start
    turnover := .ok (middle.stats.turnover.attempt middle.held.length)
    requested := middle.held.reverse.map Held.releaseArgs }

/-- How an operation on a session will turn out. -/
def Session.forecast (session : Session σ) (tripwire : Option Tripwire) (request : Request) :
    Digest :=
  match session.live with
  | none => ⟨.error .sessionClosed, .error .sessionClosed, []⟩
  | some live =>
    match request.check with
    | .error error => ⟨.error error, .ok live.stats.turnover, []⟩
    | .ok _ => live.forecast tripwire request

theorem Session.forecast_withDealloc (session : Session σ) (dealloc : GuestFunction σ Unit)
    (tripwire : Option Tripwire) (request : Request) :
    (session.withDealloc dealloc).forecast tripwire request =
      session.forecast tripwire request := by
  obtain ⟨id, none | live⟩ := session
  · rfl
  · unfold forecast withDealloc LiveGuest.forecast
    simp only [Option.map_some, Request.body_withDealloc]

/-- A calm operation turns out as forecast, whatever becomes of the regions that it overwrites and
gives back. -/
theorem digest_serve {session : Session σ} {tripwire : Option Tripwire} {request : Request}
    (hcalm : Calm (session.serve tripwire request).actions) :
    (session.serve tripwire request).digest = session.forecast tripwire request := by
  cases hlive : session.live with
  | none =>
    rw [Session.serve_of_closed hlive]
    unfold Session.forecast SessionReport.digest Session.stats
    simp only [hlive]
    rfl
  | some live =>
    cases hcheck : request.check with
    | error error =>
      rw [Session.serve_of_refused hlive tripwire hcheck]
      unfold Session.forecast SessionReport.digest Session.stats
      simp only [hlive, hcheck]
      rfl
    | ok _ =>
      have hforecast : session.forecast tripwire request = live.forecast tripwire request := by
        unfold Session.forecast
        simp only [hlive, hcheck]
      rw [Session.serve_eq hlive tripwire hcheck] at hcalm ⊢
      obtain ⟨releases, settled, hloop, hreleases, hreport⟩ := Operation.exists_settled hcalm
      have hblank := Lease.blank_start live.guest tripwire live.stats
      obtain ⟨hreach, -⟩ := Operation.follows_body live.exports request hblank.held_nil
      have hintact := hreach.intact hblank.intact
      have hdeallocs : deallocs settled.actions = releases.map Release.dealloc := by
        rw [hloop.actions, deallocs_append, Release.deallocs_flatMap_actions,
          hintact.deallocs_nil, List.nil_append]
      have hturnover := hloop.turnover_eq hreleases
      rw [List.length_reverse] at hturnover
      rw [hforecast, hreport]
      unfold SessionReport.digest LiveGuest.forecast
      dsimp only [Session.stats, Except.map]
      rw [hdeallocs, hloop.args_eq hreleases, hturnover]

/-- Two guests that differ only in the release function cannot be told apart by the outcome of an
operation, by what it adds to the counters apart from how releases ended, or by how it calls the
release function, as long as that does not panic. The outcome is the one forecast, which a region
that cannot be overwritten does not change either. -/
theorem inert_serve (session : Session σ) (dealloc : GuestFunction σ Unit)
    (tripwire : Option Tripwire) (request : Request)
    (hcalm : Calm (session.serve tripwire request).actions)
    (hother : Calm ((session.withDealloc dealloc).serve tripwire request).actions) :
    let report := session.serve tripwire request
    let other := (session.withDealloc dealloc).serve tripwire request
    report.outcome = other.outcome ∧
      report.session.stats.map AllocationStats.turnover =
        other.session.stats.map AllocationStats.turnover ∧
      (deallocs report.actions).map Dealloc.args = (deallocs other.actions).map Dealloc.args ∧
      report.outcome = (session.forecast tripwire request).outcome := by
  intro report other
  have hreport : report.digest = session.forecast tripwire request := digest_serve hcalm
  have hsame : report.digest = other.digest := by
    rw [hreport, ← session.forecast_withDealloc dealloc tripwire request]
    exact (digest_serve hother).symm
  exact ⟨congrArg Digest.outcome hsame, congrArg Digest.turnover hsame,
    congrArg Digest.requested hsame, congrArg Digest.outcome hreport⟩

/-! ## A release function that takes memory away -/

/-- The frail guest with a release function that always returns. -/
def firmSession : Session Unit :=
  (Session.fresh 1 frailExports frailGuest).withDealloc fun _ _ guest => ⟨guest, [], .returned ()⟩

/-- A release function that leaves no memory at all and traps. -/
def shrinkingDealloc : GuestFunction Unit Unit := fun _ _ guest =>
  ⟨{ guest with memory := .zeroed 0 0 }, [.logged "gone"], .trapped (.ofCode .outOfFuel)⟩

/-- The address is given back first. If that takes memory away, the key cannot be overwritten, and
still the cause of failure is that the address is too short. -/
theorem inert_serve_shrinking :
    let report := firmSession.serve none .newPrivateKey
    let other := (firmSession.withDealloc shrinkingDealloc).serve none .newPrivateKey
    Calm report.actions ∧ Calm other.actions ∧
      wipeFailures report.events = [] ∧
      wipeFailures other.events = [(⟨1024, 59⟩, .memoryAccess 1024 59 0)] ∧
      report.outcome = other.outcome ∧
      (deallocs report.actions).map Dealloc.args = (deallocs other.actions).map Dealloc.args ∧
      other.outcome = .error (.invalidResult "get_address" (.unexpectedLength 63 62)) := by
  intro report other
  have hcalm : Calm report.actions := by decide +kernel
  have hother : Calm other.actions := by decide +kernel
  obtain ⟨houtcome, -, hrequested, -⟩ :=
    inert_serve firmSession shrinkingDealloc none .newPrivateKey hcalm hother
  exact ⟨hcalm, hother, by decide +kernel, by decide +kernel, houtcome, hrequested,
    by decide +kernel⟩

end GuestBridge
