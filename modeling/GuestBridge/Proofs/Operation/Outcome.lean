import GuestBridge.Proofs.Operation.Course

/-!
# Where the outcome of an operation comes from

A part of an operation comes to a result or to a cause of failure (`Lease.outcome`). As long as the
release function does not panic, the release at the end is of no consequence for that: an operation
ends with the outcome that its body came to before anything was overwritten or given back, and the
release gets to every region (`exists_settled`).
-/

namespace GuestBridge

variable {σ : Type}

/-- The cause of failure that an operation ends with when it stops early. -/
def Abort.error : Abort → BridgeError
  | .failed error => error
  | .panicked payload => .ofPanic payload

/-- No call of the release function panics. -/
def Calm (actions : List (Action σ)) : Prop :=
  ∀ dealloc ∈ deallocs actions, dealloc.ending.isPanic = false

instance (actions : List (Action σ)) : Decidable (Calm actions) :=
  inferInstanceAs (Decidable (∀ dealloc ∈ deallocs actions, _))

namespace Lease

variable {α β : Type} {exports : Exports σ}

/-- What a part of an operation comes to. -/
def outcome (part : LeaseM σ α) (lease : Lease σ) : Except BridgeError α :=
  match part lease with
  | .ok result _ => .ok result
  | .error abort _ => .error abort.error

/-- What is reported at the end of an operation: that its body panicked, if it did. -/
def notes (operation : String) (part : LeaseM σ α) (lease : Lease σ) : List SessionEvent :=
  match part lease with
  | .error (.panicked payload) _ => [.caughtPanic operation (.ofPanic payload)]
  | _ => []

theorem outcome_bind_of_ok {part : LeaseM σ α} {lease after : Lease σ} {result : α}
    (hpart : part lease = .ok result after) (next : α → LeaseM σ β) :
    outcome (part >>= next) lease = outcome (next result) after := by
  rw [outcome, bind_of_ok hpart, outcome]

theorem outcome_bind_of_error {part : LeaseM σ α} {lease after : Lease σ} {abort : Abort}
    (hpart : part lease = .error abort after) (next : α → LeaseM σ β) :
    outcome (part >>= next) lease = .error abort.error := by
  rw [outcome, bind_of_error hpart]

/-- A sequence that came to a result went through both parts. -/
theorem exists_of_bind_ok {part : LeaseM σ α} {next : α → LeaseM σ β} {lease last : Lease σ}
    {result : β} (hok : (part >>= next) lease = .ok result last) :
    ∃ first middle, part lease = .ok first middle ∧ next first middle = .ok result last := by
  rw [bind_apply] at hok
  cases hpart : part lease with
  | ok first middle => exact ⟨first, middle, rfl, by rwa [hpart] at hok⟩
  | error abort middle => rw [hpart] at hok; cases hok

theorem outcome_map (f : α → β) (part : LeaseM σ α) (lease : Lease σ) :
    outcome (f <$> part) lease = (outcome part lease).map f := by
  rw [← bind_pure_comp, outcome, outcome, bind_apply]
  cases part lease <;> rfl

/-! ## A release without panics -/

theorem release_eq_ok {held : Held} {lease : Lease σ}
    (hcalm : (Release.of exports held lease).isPanic = false) :
    release exports held lease = .ok () ((Release.of exports held lease).apply lease) := by
  rw [release_eq]
  unfold Release.isPanic at hcalm
  cases hending : (Release.of exports held lease).reply.ending with
  | returned | trapped => rfl
  | panicked => rw [hending] at hcalm; cases hcalm

/-- The loop goes on after a release that does not panic. -/
theorem releaseAll_cons {held : Held} {lease : Lease σ}
    (hcalm : (Release.of exports held lease).isPanic = false) (rest : List Held) :
    releaseAll exports (held :: rest) lease =
      releaseAll exports rest ((Release.of exports held lease).apply lease) :=
  bind_of_ok (release_eq_ok hcalm) fun _ => releaseAll exports rest

/-- The release of everything succeeds if no release panics. -/
theorem Releasing.releaseAll_eq_ok {lease last : Lease σ} {regions : List Held}
    {releases : List (Release σ)} (hloop : Releasing exports lease regions releases last)
    (hcalm : ∀ release ∈ releases, release.isPanic = false) :
    releaseAll exports regions lease = .ok () last := by
  induction hloop with
  | done => rfl
  | stopped lease held rest hpanic =>
    rw [hcalm _ List.mem_cons_self] at hpanic
    cases hpanic
  | next lease held hfirst _ ih =>
    rw [releaseAll_cons hfirst]
    exact ih fun release hmem => hcalm release (List.mem_cons_of_mem _ hmem)

end Lease

namespace Operation

open Lease

variable {α : Type} {name : String} {exports : Exports σ} {body : LeaseM σ α} {start : Lease σ}

theorem actions_ofRun (name : String) (result : Lease σ × Except Abort α) :
    (Report.ofRun name result).lease.actions = result.1.actions := by
  obtain ⟨lease, (error | payload) | product⟩ := result <;> rfl

/-- The actions of an operation are those of its body and then those of its releases. -/
theorem actions_shielded (name : String) (exports : Exports σ) (body : LeaseM σ α)
    (start : Lease σ) : ∃ releases,
      Releasing exports (final body start) (final body start).held.reverse releases
        (final (releaseAll exports (final body start).held.reverse) (final body start)) ∧
      (shielded name exports body start).lease.actions =
        (final body start).actions ++ releases.flatMap Release.actions := by
  obtain ⟨releases, hloop⟩ :=
    releasing_releaseAll exports (final body start).held.reverse (final body start)
  refine ⟨releases, hloop, ?_⟩
  rw [shielded, actions_ofRun, run_eq]
  exact hloop.actions

/-- An operation that gives everything back has the outcome of its body. Its lease is the one that
the release leaves behind, with a note if the body panicked. -/
theorem shielded_of_releaseAll {settled : Lease σ}
    (hreleased : releaseAll exports (final body start).held.reverse (final body start) =
      .ok () settled) :
    shielded name exports body start =
      ⟨outcome body start, { settled with events := settled.events ++ notes name body start }⟩ := by
  have hplain : settled = { settled with events := settled.events ++ [] } := by
    rw [List.append_nil]
  unfold shielded run settle outcome notes
  unfold final at hreleased
  cases hbody : body start with
  | ok result middle =>
    rw [hbody] at hreleased
    dsimp only at hreleased ⊢
    rw [hreleased, ← hplain]
    rfl
  | error abort middle =>
    rw [hbody] at hreleased
    dsimp only at hreleased ⊢
    rw [hreleased]
    cases abort with
    | failed error => dsimp only; rw [← hplain]; rfl
    | panicked payload => rfl

/-- An operation succeeds only if its body does, with the same result. -/
theorem exists_of_shielded_ok {result : α}
    (hok : (shielded name exports body start).outcome = .ok result) :
    ∃ last, body start = .ok result last := by
  unfold shielded run settle at hok
  cases hbody : body start with
  | ok found middle =>
    rw [hbody] at hok
    dsimp only at hok
    cases hreleased : releaseAll exports middle.held.reverse middle with
    | ok _ last =>
      rw [hreleased] at hok
      cases hok
      exact ⟨middle, rfl⟩
    | error abort last =>
      rw [hreleased] at hok
      cases abort <;> cases hok
  | error abort middle =>
    rw [hbody] at hok
    dsimp only at hok
    cases hreleased : releaseAll exports middle.held.reverse middle with
    | ok _ last => rw [hreleased] at hok; cases abort <;> cases hok
    | error other last => rw [hreleased] at hok; cases other <;> cases hok

/-- In a calm operation, everything held at the end of the body is given back. -/
theorem exists_settled (hcalm : Calm (shielded name exports body start).lease.actions) :
    ∃ releases settled,
      Releasing exports (final body start) (final body start).held.reverse releases settled ∧
      (∀ release ∈ releases, release.isPanic = false) ∧
      shielded name exports body start =
        ⟨outcome body start, { settled with events := settled.events ++ notes name body start }⟩ := by
  obtain ⟨releases, hloop, hactions⟩ := actions_shielded name exports body start
  have hreleases : ∀ release ∈ releases, release.isPanic = false := by
    intro release hmem
    refine hcalm release.dealloc ?_
    rw [hactions, deallocs_append, Release.deallocs_flatMap_actions]
    exact List.mem_append_right _ (List.mem_map_of_mem hmem)
  exact ⟨releases, _, hloop, hreleases,
    shielded_of_releaseAll (hloop.releaseAll_eq_ok hreleases)⟩

/-- A calm operation comes to what its body comes to. -/
theorem outcome_shielded (hcalm : Calm (shielded name exports body start).lease.actions) :
    (shielded name exports body start).outcome = outcome body start := by
  obtain ⟨releases, settled, -, -, heq⟩ := exists_settled hcalm
  rw [heq]

end Operation

namespace Session

variable {session : Session σ} {live : LiveGuest σ}

/-- A closed session refuses everything. -/
theorem serve_of_closed (hclosed : session.live = none) (tripwire : Option Tripwire)
    (request : Request) :
    session.serve tripwire request = ⟨.error .sessionClosed, session, tripwire, [], []⟩ := by
  rw [serve, perform, hclosed]

/-- An operation with arguments that do not pass the check does nothing. -/
theorem serve_of_refused (hlive : session.live = some live) (tripwire : Option Tripwire)
    {request : Request} {error : BridgeError} (hcheck : request.check = .error error) :
    session.serve tripwire request = ⟨.error error, session, tripwire, [], []⟩ := by
  obtain ⟨id, none | other⟩ := session
  · cases hlive
  · rw [serve, perform]
    dsimp only
    rw [Operation.perform_eq, hcheck]
    rfl

/-- What an operation whose arguments pass the check leaves behind in an open session. -/
theorem serve_eq (hlive : session.live = some live) (tripwire : Option Tripwire)
    {request : Request} (hcheck : request.check = .ok ()) :
    session.serve tripwire request =
      let report := Operation.shielded request.entry.name live.exports (request.body live.exports)
        (.start live.guest tripwire live.stats)
      ⟨report.outcome,
        { session with live := some ⟨live.exports, report.lease.guest, report.lease.stats⟩ },
        report.lease.tripwire, report.lease.events, report.lease.actions⟩ := by
  rw [serve, perform, hlive]
  dsimp only
  rw [Operation.perform_eq, hcheck]

end Session

end GuestBridge
