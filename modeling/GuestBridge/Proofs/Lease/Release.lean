import GuestBridge.Proofs.Lease.Step

/-!
# Giving regions back, one by one

`Release` describes how one region is given back: the guest when its turn came, and what the call of
the release function left behind. From that follow the actions, the events and the change of the
counters. `Releasing` relates a list of held regions to the releases that the loop gets to before
it ends or a panic stops it; `releasing_releaseAll` says that the loop does just that, and the
lemmas after it read off what is left in the lease and which regions the loop got to.
-/

namespace GuestBridge

/-- Whether a call ended in a panic. -/
def Ending.isPanic {α : Type} : Ending α → Bool
  | .panicked _ => true
  | _ => false

/-- The instance after a region was overwritten with zeros, if it lies inside guest memory. -/
def Instance.wiped {σ : Type} (region : Region) (guest : Instance σ) : Instance σ :=
  match guest.memory.wipe? region with
  | some memory => { guest with memory := memory }
  | none => guest

/-- What overwriting a region does to a guest: it leaves zeros if the region lies inside guest
memory, and does nothing otherwise. -/
structure Overwritten {σ : Type} (region : Region) (before after : Instance σ) : Prop where
  size_eq : after.memory.size = before.memory.size
  zeros : after.memory.Holds region →
    ∀ address, region.ptr.toNat ≤ address → address < region.stop →
      after.memory.byte address = 0
  elsewhere : ∀ address, ¬(region.ptr.toNat ≤ address ∧ address < region.stop) →
    after.memory.byte address = before.memory.byte address
  unchanged : ¬after.memory.Holds region → after = before

theorem overwritten_wiped {σ : Type} (region : Region) (guest : Instance σ) :
    Overwritten region guest (guest.wiped region) := by
  unfold Instance.wiped Memory.wipe?
  by_cases hin : guest.memory.Holds region
  · rw [if_pos hin]
    refine ⟨Memory.size_fill _ _ _ _, fun _ address hge hlt => ?_, fun address hout => ?_,
      fun hnot => ?_⟩
    · exact (Memory.byte_fill _ _ _ _ _).trans (if_pos ⟨hge, hlt, Nat.lt_of_lt_of_le hlt hin⟩)
    · exact (Memory.byte_fill _ _ _ _ _).trans (if_neg fun h => hout ⟨h.1, h.2.1⟩)
    · refine absurd ?_ hnot
      show region.stop ≤ (guest.memory.fill _ _ _).size
      rwa [Memory.size_fill]
  · rw [if_neg hin]
    exact ⟨rfl, fun h => absurd h hin, fun _ _ => rfl, fun _ => rfl⟩

/-- Overwriting a region changes nothing but memory. -/
theorem wiped_eq_withMemory {σ : Type} (region : Region) (guest : Instance σ) :
    ∃ memory : Memory, guest.wiped region = { guest with memory := memory } ∧
      memory.pageLimit = guest.memory.pageLimit := by
  unfold Instance.wiped Memory.wipe?
  by_cases hin : guest.memory.Holds region
  · rw [if_pos hin]
    exact ⟨_, rfl, Memory.pageLimit_fill _ _ _ _⟩
  · rw [if_neg hin]
    exact ⟨_, rfl, rfl⟩

namespace Held

variable {σ : Type}

/-- The guest that the release function finds: a secret has been overwritten. -/
def prepare (held : Held) (guest : Instance σ) : Instance σ :=
  if held.sensitivity = .secret then guest.wiped held.region else guest

/-- The overwriting of a secret, as an action. -/
def wipeActions (held : Held) (guest : Instance σ) : List (Action σ) :=
  if held.sensitivity = .secret then [⟨guest, .wipe held.region⟩] else []

/-- What is reported about the overwriting of a secret: that the region leaves guest memory. -/
def wipeEvents (held : Held) (guest : Instance σ) : List SessionEvent :=
  if held.sensitivity = .secret ∧ ¬guest.memory.Holds held.region then
    [.wipeFailed held.region (Lease.accessError guest.memory held.region)]
  else []

variable {held : Held}

/-! Nothing is overwritten where no secret is. -/

theorem ne_secret (hplain : held.sensitivity = .plain) : held.sensitivity ≠ .secret := by
  rw [hplain]
  nofun

theorem prepare_of_plain (hplain : held.sensitivity = .plain) (guest : Instance σ) :
    held.prepare guest = guest :=
  if_neg (ne_secret hplain)

theorem wipeActions_of_plain (hplain : held.sensitivity = .plain) (guest : Instance σ) :
    held.wipeActions guest = [] :=
  if_neg (ne_secret hplain)

theorem wipeEvents_of_plain (hplain : held.sensitivity = .plain) (guest : Instance σ) :
    held.wipeEvents guest = [] :=
  if_neg fun h => ne_secret hplain h.1

theorem wipeActions_of_secret (hsecret : held.sensitivity = .secret) (guest : Instance σ) :
    held.wipeActions guest = [⟨guest, .wipe held.region⟩] :=
  if_pos hsecret

/-- Overwriting is reported only if it fails. -/
theorem wipeEvents_of_holds {guest : Instance σ} (hin : guest.memory.Holds held.region) :
    held.wipeEvents guest = [] :=
  if_neg fun h => h.2 hin

end Held

/-- How one region is given back. -/
structure Release (σ : Type) where
  held : Held
  /-- The guest when the turn of the region came. -/
  before : Instance σ
  /-- What the call of the release function left behind. -/
  reply : Reply σ Unit

namespace Release

variable {σ : Type}

/-- The release of a region in the given state. -/
def of (exports : Exports σ) (held : Held) (lease : Lease σ) : Release σ where
  held := held
  before := lease.guest
  reply :=
    exports.dealloc [held.region.ptr, held.sizeHint] lease.tripwire (held.prepare lease.guest)

/-- Whether the call of the release function ended in a panic. -/
def isPanic (release : Release σ) : Bool :=
  release.reply.ending.isPanic

/-- The call of the release function. -/
def call (release : Release σ) : Action σ :=
  ⟨release.held.prepare release.before,
    .call .dealloc [release.held.region.ptr, release.held.sizeHint] release.reply.ending⟩

/-- A secret is overwritten, then the release function is called. -/
def actions (release : Release σ) : List (Action σ) :=
  release.held.wipeActions release.before ++ [release.call]

/-- What is reported about the call of the release function. -/
def callEvents (release : Release σ) : List SessionEvent :=
  match release.reply.ending with
  | .returned _ => [.released release.held.region.ptr release.held.sizeHint]
  | .trapped trap =>
    [.releaseFailed release.held.region (.fault (.trap Callee.dealloc.name trap))]
  | .panicked _ => []

/-- All that is reported about a release. -/
def events (release : Release σ) : List SessionEvent :=
  release.held.wipeEvents release.before ++ release.reply.notices.map .noticed ++
    release.callEvents

/-- The counters after a release. A panic is not counted. -/
def count (release : Release σ) (stats : AllocationStats) : AllocationStats :=
  match release.reply.ending with
  | .returned _ => { stats with released := stats.released + 1 }
  | .trapped _ => { stats with releaseFailures := stats.releaseFailures + 1 }
  | .panicked _ => stats

/-- The lease after a release. -/
def apply (release : Release σ) (lease : Lease σ) : Lease σ where
  guest := release.reply.guest
  tripwire := release.reply.ending.rearm lease.tripwire
  stats := release.count lease.stats
  held := lease.held
  events := lease.events ++ release.events
  actions := lease.actions ++ release.actions

end Release

namespace Lease

variable {σ : Type} {exports : Exports σ}

/-! ## One release -/

/-- The lease right before the release function is called for a region. -/
def prepared (held : Held) (lease : Lease σ) : Lease σ :=
  { lease with
    guest := held.prepare lease.guest
    events := lease.events ++ held.wipeEvents lease.guest
    actions := lease.actions ++ held.wipeActions lease.guest }

theorem wipe_eq (region : Region) (lease : Lease σ) :
    wipe region lease = .ok () (lease.prepared ⟨region, 0, .secret⟩) := by
  show (match lease.guest.memory.wipe? region with
    | some memory => set _
    | none => emit _ : LeaseM σ Unit) _ = _
  unfold prepared Held.prepare Instance.wiped Held.wipeEvents Memory.wipe?
  by_cases hin : lease.guest.memory.Holds region
  · simp only [hin, if_true, not_true_eq_false, and_false, if_false, List.append_nil]; rfl
  · simp only [hin, if_true, not_false_eq_true, and_true, if_false]; rfl

/-- Giving a region back is calling the release function once a secret has been overwritten. -/
theorem release_eq_deallocate (exports : Exports σ) (held : Held) (lease : Lease σ) :
    release exports held lease = deallocate exports held (lease.prepared held) := by
  obtain ⟨region, sizeHint, sensitivity⟩ := held
  cases sensitivity with
  | secret =>
    show (wipe region >>= fun _ => deallocate exports _ : LeaseM σ Unit) lease = _
    rw [bind_apply, wipe_eq]
    rfl
  | plain =>
    have hsame : lease.prepared ⟨region, sizeHint, .plain⟩ = lease := by
      simp [prepared, Held.prepare, Held.wipeEvents, Held.wipeActions]
    rw [hsame]
    rfl

theorem deallocate_eq (exports : Exports σ) (held : Held) (lease : Lease σ) :
    deallocate exports held lease =
      let after := lease.called exports .dealloc [held.region.ptr, held.sizeHint]
      match (exports.dealloc [held.region.ptr, held.sizeHint] lease.tripwire lease.guest).ending with
      | .returned _ =>
        .ok () { after with
          stats := { after.stats with released := after.stats.released + 1 }
          events := after.events ++ [.released held.region.ptr held.sizeHint] }
      | .trapped trap =>
        .ok () { after with
          stats := { after.stats with releaseFailures := after.stats.releaseFailures + 1 }
          events := after.events ++
            [.releaseFailed held.region (.fault (.trap Callee.dealloc.name trap))] }
      | .panicked payload => .error (.panicked payload) after := by
  rw [deallocate, bind_apply, call_eq]
  simp only [Exports.function]
  cases (exports.dealloc [held.region.ptr, held.sizeHint] lease.tripwire lease.guest).ending <;> rfl

/-- One turn of the release: it goes on unless the release function panics. -/
theorem release_eq (exports : Exports σ) (held : Held) (lease : Lease σ) :
    release exports held lease =
      match (Release.of exports held lease).reply.ending with
      | .panicked payload =>
        .error (.panicked payload) ((Release.of exports held lease).apply lease)
      | _ => .ok () ((Release.of exports held lease).apply lease) := by
  rw [release_eq_deallocate, deallocate_eq]
  simp only [Release.of, called, afterCall, Exports.function, prepared, Release.apply,
    Release.count, Release.events, Release.callEvents, Release.actions, Release.call]
  generalize exports.dealloc [held.region.ptr, held.sizeHint] lease.tripwire
    (held.prepare lease.guest) = reply
  obtain ⟨guest, notices, ending⟩ := reply
  cases ending <;> simp only [List.append_assoc, List.append_nil]

/-! ## The loop -/

/-- The loop over held regions gives back the regions of the listed releases. It ends at the end of
the list or with a release that panics. -/
inductive Releasing (exports : Exports σ) :
    Lease σ → List Held → List (Release σ) → Lease σ → Prop
  | done (lease : Lease σ) : Releasing exports lease [] [] lease
  | stopped (lease : Lease σ) (held : Held) (rest : List Held)
      (hpanic : (Release.of exports held lease).isPanic = true) :
      Releasing exports lease (held :: rest) [.of exports held lease]
        ((Release.of exports held lease).apply lease)
  | next (lease : Lease σ) (held : Held) {rest : List Held} {releases : List (Release σ)}
      {last : Lease σ} (hcalm : (Release.of exports held lease).isPanic = false)
      (hrest : Releasing exports ((Release.of exports held lease).apply lease) rest releases last) :
      Releasing exports lease (held :: rest) (.of exports held lease :: releases) last

theorem releasing_releaseAll (exports : Exports σ) (regions : List Held) (lease : Lease σ) :
    ∃ releases, Releasing exports lease regions releases
      (final (releaseAll exports regions) lease) := by
  induction regions generalizing lease with
  | nil => exact ⟨[], .done lease⟩
  | cons held rest ih =>
    have hstep : releaseAll exports (held :: rest) lease =
        (release exports held >>= fun _ => releaseAll exports rest : LeaseM σ Unit) lease := rfl
    unfold final
    rw [hstep, bind_apply, release_eq]
    cases hending : (Release.of exports held lease).reply.ending with
    | panicked payload =>
      exact ⟨_, .stopped lease held rest (by rw [Release.isPanic, hending]; rfl)⟩
    | returned | trapped =>
      obtain ⟨releases, hrest⟩ := ih ((Release.of exports held lease).apply lease)
      exact ⟨_, .next lease held (by rw [Release.isPanic, hending]; rfl) hrest⟩

end Lease

end GuestBridge
