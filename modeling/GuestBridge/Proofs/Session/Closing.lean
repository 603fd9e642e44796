import GuestBridge.Host
import GuestBridge.Proofs.Operation.Course

/-!
# Operations close no session

The event of closing a session comes from closing it and from nothing else. Whatever an operation
does, it reports no such event (`Session.noneCloses_serve`), and neither does an attempt to open a
session. Both leave the tripwire as it was or spent: where there is none, there will be none
(`Session.tripwire_serve`).
-/

namespace GuestBridge

variable {σ : Type}

/-! ## Events of closing -/

/-- Whether an event is that of closing a session. -/
def SessionEvent.isClosing : SessionEvent → Bool
  | .closed _ => true
  | _ => false

/-- None of the events is that of closing a session. -/
def NoneCloses (events : List SessionEvent) : Prop :=
  ∀ event ∈ events, event.isClosing = false

theorem noneCloses_nil : NoneCloses [] :=
  nofun

theorem NoneCloses.append {first second : List SessionEvent} (hfirst : NoneCloses first)
    (hsecond : NoneCloses second) : NoneCloses (first ++ second) := by
  intro event hmem
  rcases List.mem_append.1 hmem with hmem | hmem
  · exact hfirst event hmem
  · exact hsecond event hmem

theorem noneCloses_noticed (notices : List Notice) :
    NoneCloses (notices.map .noticed) := by
  intro event hmem
  obtain ⟨notice, -, rfl⟩ := List.mem_map.1 hmem
  rfl

theorem noneCloses_singleton {event : SessionEvent} (hevent : event.isClosing = false) :
    NoneCloses [event] := by
  intro other hmem
  rw [List.mem_singleton.1 hmem, hevent]

namespace Lease

variable {exports : Exports σ} {lease after : Lease σ}

/-- Compared to a lease before, no session was closed, and the tripwire is as it was or spent. -/
structure Mild (lease after : Lease σ) : Prop where
  noneCloses : NoneCloses lease.events → NoneCloses after.events
  tripwire : lease.tripwire = none → after.tripwire = none

theorem Mild.trans {last : Lease σ} (hfirst : Mild lease after) (hsecond : Mild after last) :
    Mild lease last :=
  ⟨hsecond.noneCloses ∘ hfirst.noneCloses, hsecond.tripwire ∘ hfirst.tripwire⟩

theorem rearm_none {α : Type} (ending : Ending α) : ending.rearm none = none := by
  cases ending <;> rfl

theorem mild_called (exports : Exports σ) (callee : Callee) (args : List UInt32)
    (lease : Lease σ) : Mild lease (lease.called exports callee args) where
  noneCloses hnone := hnone.append (noneCloses_noticed _)
  tripwire hnone := by
    show Ending.rearm lease.tripwire _ = none
    rw [hnone, rearm_none]

theorem Advance.mild {label : List Gain} (hstep : Advance exports lease label after) :
    Mild lease after := by
  cases hstep with
  | denied size hnull => exact mild_called exports .alloc _ lease
  | placed region sensitivity bytes hret hne hlen =>
    have hcalled := mild_called exports .alloc [region.len] lease
    refine ⟨fun hnone => ?_, fun hnone => ?_⟩
    · rw [events_written]
      exact (hcalled.noneCloses hnone).append (noneCloses_singleton rfl)
    · rw [written]
      split <;> exact hcalled.tripwire hnone
  | rejected entry args notes hnull hnotes =>
    have hcalled := mild_called exports (.packed entry) args lease
    refine ⟨fun hnone => (hcalled.noneCloses hnone).append fun note hmem => ?_, hcalled.tripwire⟩
    obtain ⟨len, rfl⟩ := hnotes note hmem
    rfl
  | adopted entry args values region hret hregion =>
    have hcalled := mild_called exports (.packed entry) args lease
    exact ⟨fun hnone => (hcalled.noneCloses hnone).append (noneCloses_singleton rfl),
      hcalled.tripwire⟩
  | looked region => exact ⟨id, id⟩

theorem Reaches.mild (hreach : Reaches exports lease after) : Mild lease after := by
  induction hreach with
  | refl => exact ⟨id, id⟩
  | tail _ hmove ih =>
    cases hmove with
    | advance hstep => exact ih.trans hstep.mild
    | marked region => exact ih.trans ⟨id, id⟩

theorem mild_apply (exports : Exports σ) (held : Held) (lease : Lease σ) :
    Mild lease ((Release.of exports held lease).apply lease) where
  noneCloses hnone := by
    refine hnone.append (NoneCloses.append (NoneCloses.append ?_ (noneCloses_noticed _)) ?_)
    · unfold Held.wipeEvents
      split
      · exact noneCloses_singleton rfl
      · exact noneCloses_nil
    · unfold Release.callEvents
      split
      · exact noneCloses_singleton rfl
      · exact noneCloses_singleton rfl
      · exact noneCloses_nil
  tripwire hnone := by
    show Ending.rearm lease.tripwire _ = none
    rw [hnone, rearm_none]

theorem Releasing.mild {regions : List Held} {releases : List (Release σ)}
    (hloop : Releasing exports lease regions releases after) : Mild lease after := by
  induction hloop with
  | done => exact ⟨id, id⟩
  | stopped lease held rest hpanic => exact mild_apply exports held lease
  | next lease held hcalm _ ih => exact (mild_apply exports held lease).trans ih

end Lease

theorem Operation.Course.mild {exports : Exports σ} {request : Request} {start last : Lease σ}
    (course : Course exports request start last) : Lease.Mild start last := by
  have hsettled := course.reaches.mild.trans course.releasing.mild
  rw [course.last_eq]
  refine ⟨fun hnone => (hsettled.noneCloses hnone).append fun note hmem => ?_, hsettled.tripwire⟩
  obtain ⟨error, rfl⟩ := course.notes_panic note hmem
  rfl

theorem Operation.mild_perform (exports : Exports σ) (guest : Instance σ)
    (tripwire : Option Tripwire) (stats : AllocationStats) (request : Request) :
    Lease.Mild (.start guest tripwire stats)
      (perform exports (.start guest tripwire stats) request).lease := by
  cases hcheck : request.check with
  | error error =>
    rw [perform_eq, hcheck]
    exact ⟨id, id⟩
  | ok _ =>
    obtain ⟨course⟩ := nonempty_course exports hcheck (Lease.blank_start guest tripwire stats)
    exact course.mild

namespace Session

/-- An operation closes no session. -/
theorem noneCloses_serve (session : Session σ) (tripwire : Option Tripwire) (request : Request) :
    NoneCloses (session.serve tripwire request).events := by
  obtain ⟨id, none | live⟩ := session
  · exact noneCloses_nil
  · exact (Operation.mild_perform live.exports live.guest tripwire live.stats request).noneCloses
      noneCloses_nil

/-- An operation arms no tripwire. -/
theorem tripwire_serve (session : Session σ) (request : Request) :
    (session.serve none request).tripwire = none := by
  obtain ⟨id, none | live⟩ := session
  · rfl
  · exact (Operation.mild_perform live.exports live.guest none live.stats request).tripwire rfl

/-- An attempt to open a session closes none. -/
theorem noneCloses_open? (blueprint : Blueprint σ) (id : UInt64) (entropy : Entropy)
    (tripwire : Option Tripwire) :
    NoneCloses (open? blueprint id entropy tripwire).events := by
  unfold open?
  dsimp only
  split
  · exact noneCloses_noticed _
  · exact noneCloses_noticed _
  · split <;> exact (noneCloses_noticed _).append (noneCloses_singleton rfl)

/-- An attempt to open a session arms no tripwire. -/
theorem tripwire_open? (blueprint : Blueprint σ) (id : UInt64) (entropy : Entropy) :
    (open? blueprint id entropy none).tripwire = none := by
  unfold open?
  dsimp only
  split
  · rfl
  · rfl
  · split <;> rfl

end Session

end GuestBridge
