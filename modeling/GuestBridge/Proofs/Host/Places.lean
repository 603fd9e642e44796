import GuestBridge.Host
import GuestBridge.Proofs.Operation.Course

/-!
# What steps do to a place

A step of a host names at most one session or one runtime, by its place (`Step.session?`,
`Step.runtime?`). Places are stable: what is opened later comes behind, and what a step does not
name it leaves alone (`keeps_sessions_step`, `keeps_runtimes_step`). What it does to the session
that it names depends on that session only (`step_congr_session`). `Host.observe` reads off a run
what the steps of some kind show of it, turn by turn; the state that a run ends in is `Host.after`.
-/

namespace GuestBridge

variable {σ : Type}

/-! ## Steps and places -/

namespace Step

/-- The place of the session that a step names. -/
def session? : Step σ → Option Nat
  | .perform place _ | .closeSession place | .dropSession place => some place
  | _ => none

/-- The place of the runtime that a step names. -/
def runtime? : Step σ → Option Nat
  | .openSession place _ | .closeRuntime place | .dropRuntime place => some place
  | _ => none

/-- Whether a step names the session at a place. -/
def namesSession (place : Nat) (step : Step σ) : Bool :=
  step.session? = some place

/-- Whether a step names the runtime at a place. -/
def namesRuntime (place : Nat) (step : Step σ) : Bool :=
  step.runtime? = some place

/-- Whether a step drops the session at a place. -/
def dropsSession (place : Nat) : Step σ → Bool
  | .dropSession other => other = place
  | _ => false

/-- Whether a step drops the runtime at a place. -/
def dropsRuntime (place : Nat) : Step σ → Bool
  | .dropRuntime other => other = place
  | _ => false

/-- Whether a step ends the session at a place: it closes or drops it. -/
def endsSession (place : Nat) : Step σ → Bool
  | .closeSession other | .dropSession other => other = place
  | _ => false

/-- Whether a step ends the runtime at a place: it closes or drops it. -/
def endsRuntime (place : Nat) : Step σ → Bool
  | .closeRuntime other | .dropRuntime other => other = place
  | _ => false

theorem session?_of_endsSession {place : Nat} {step : Step σ}
    (hends : step.endsSession place = true) : step.session? = some place := by
  cases step with
  | addRuntime | closeRuntime | dropRuntime | openSession | perform => cases hends
  | closeSession other | dropSession other => exact congrArg some (of_decide_eq_true hends)

theorem runtime?_of_endsRuntime {place : Nat} {step : Step σ}
    (hends : step.endsRuntime place = true) : step.runtime? = some place := by
  cases step with
  | addRuntime | openSession | closeSession | dropSession | perform => cases hends
  | closeRuntime other | dropRuntime other => exact congrArg some (of_decide_eq_true hends)

end Step

/-! ## Runs -/

/-- What a turn shows: all but the state that it leaves behind. -/
structure Observation (σ : Type) where
  answer : Answer
  events : List Event
  actions : List (Action σ)

/-- What is shown of a turn. -/
def Turn.observation (turn : Turn σ) : Observation σ :=
  ⟨turn.answer, turn.events, turn.actions⟩

namespace Host

/-- The process after some steps. -/
def after (host : Host σ) (steps : List (Step σ)) : Host σ :=
  (host.run steps).1

/-- What a run shows of the steps of a kind, in order. -/
def observe (host : Host σ) (kind : Step σ → Bool) (steps : List (Step σ)) :
    List (Observation σ) :=
  ((steps.zip (host.run steps).2).filter (kind ·.1)).map (·.2.observation)

@[simp] theorem after_nil (host : Host σ) : host.after [] = host := rfl

@[simp] theorem after_cons (host : Host σ) (step : Step σ) (steps : List (Step σ)) :
    host.after (step :: steps) = (host.step step).host.after steps := rfl

@[simp] theorem after_append (host : Host σ) (first second : List (Step σ)) :
    host.after (first ++ second) = (host.after first).after second := by
  induction first generalizing host with
  | nil => rfl
  | cons step steps ih => exact ih (host.step step).host

/-- What every step of a run keeps, the run keeps. -/
theorem after_invariant (P : Host σ → Prop) {steps : List (Step σ)}
    (hstep : ∀ host, ∀ step ∈ steps, P host → P (host.step step).host) {host : Host σ}
    (hstart : P host) : P (host.after steps) := by
  induction steps generalizing host with
  | nil => exact hstart
  | cons step steps ih =>
    obtain ⟨hfirst, hrest⟩ := forall_and.1 fun host => List.forall_mem_cons.1 (hstep host)
    exact ih hrest (hfirst host hstart)

@[simp] theorem observe_nil (host : Host σ) (kind : Step σ → Bool) : host.observe kind [] = [] :=
  rfl

theorem observe_cons (host : Host σ) (kind : Step σ → Bool) (step : Step σ)
    (steps : List (Step σ)) :
    host.observe kind (step :: steps) =
      (if kind step then [(host.step step).observation] else []) ++
        (host.step step).host.observe kind steps := by
  show (((step, host.step step) :: steps.zip ((host.step step).host.run steps).2).filter
    (kind ·.1)).map (·.2.observation) = _
  rw [List.filter_cons]
  split <;> rfl

theorem observe_append (host : Host σ) (kind : Step σ → Bool) (first second : List (Step σ)) :
    host.observe kind (first ++ second) =
      host.observe kind first ++ (host.after first).observe kind second := by
  induction first generalizing host with
  | nil => rfl
  | cons step steps ih =>
    rw [List.cons_append, observe_cons, ih, observe_cons, List.append_assoc]
    rfl

/-! ## Places -/

variable {host : Host σ} {place : Nat}

theorem session?_eq_some_iff {session : Session σ} :
    host.session? place = some session ↔ host.sessions[place]? = some (some session) :=
  Option.join_eq_some_iff

theorem runtime?_eq_some_iff {runtime : Runtime σ} :
    host.runtime? place = some runtime ↔ host.runtimes[place]? = some (some runtime) :=
  Option.join_eq_some_iff

theorem session?_of_slot {slot : Option (Session σ)} (hslot : host.sessions[place]? = some slot) :
    host.session? place = slot := by
  rw [session?, hslot]
  rfl

theorem lt_of_session? {session : Session σ} (hsession : host.session? place = some session) :
    place < host.sessions.length :=
  (List.getElem?_eq_some_iff.1 (session?_eq_some_iff.1 hsession)).1

theorem session?_setSession (hplace : place < host.sessions.length) (slot : Option (Session σ)) :
    (host.setSession place slot).session? place = slot :=
  session?_of_slot (List.getElem?_set_self hplace)

theorem runtime?_of_slot {slot : Option (Runtime σ)} (hslot : host.runtimes[place]? = some slot) :
    host.runtime? place = slot := by
  rw [runtime?, hslot]
  rfl

/-- Putting back what is at a place changes nothing. -/
theorem setSession_eq_self {slot : Option (Session σ)} (hslot : host.sessions[place]? = some slot) :
    host.setSession place slot = host := by
  obtain ⟨hlt, rfl⟩ := List.getElem?_eq_some_iff.1 hslot
  rw [setSession, List.set_getElem_self]

theorem setRuntime_eq_self {slot : Option (Runtime σ)} (hslot : host.runtimes[place]? = some slot) :
    host.setRuntime place slot = host := by
  obtain ⟨hlt, rfl⟩ := List.getElem?_eq_some_iff.1 hslot
  rw [setRuntime, List.set_getElem_self]

/-- A list keeps what was at a place of another one. -/
def Keeps {α : Type} (place : Nat) (before after : List α) : Prop :=
  ∀ slot, before[place]? = some slot → after[place]? = some slot

theorem keeps_set {α : Type} {place other : Nat} (hne : other ≠ place) (slots : List α) (slot : α) :
    Keeps place slots (slots.set other slot) :=
  fun _ hslot => (List.getElem?_set_ne hne).trans hslot

theorem keeps_append {α : Type} (place : Nat) (slots more : List α) :
    Keeps place slots (slots ++ more) :=
  fun _ hslot => List.getElem?_append_left (List.getElem?_eq_some_iff.1 hslot).1 ▸ hslot

/-! ## What steps leave alone -/

theorem keeps_sessions_openFrom (host : Host σ) (blueprint : Blueprint σ) (entropy : Entropy)
    (place : Nat) : Keeps place host.sessions (host.openFrom blueprint entropy).host.sessions := by
  unfold openFrom
  dsimp only
  split
  · exact keeps_append place _ _
  · exact fun _ => id
  · exact fun _ => id

/-- Opening a session changes no runtime. -/
theorem runtimes_openSession (host : Host σ) (place : Nat) (entropy : Entropy) :
    (host.openSession place entropy).host.runtimes = host.runtimes := by
  unfold openSession openFrom
  split
  · rfl
  · rfl
  · dsimp only
    split <;> rfl

/-- A step keeps every session that it does not name. -/
theorem keeps_sessions_step (host : Host σ) {step : Step σ} (hother : step.session? ≠ some place) :
    Keeps place host.sessions (host.step step).host.sessions := by
  cases step with
  | addRuntime blueprint => exact fun _ => id
  | closeRuntime other | dropRuntime other =>
    show Keeps place host.sessions (host.endRuntime other _).host.sessions
    unfold endRuntime
    split <;> exact fun _ => id
  | openSession other entropy =>
    show Keeps place host.sessions (host.openSession other entropy).host.sessions
    unfold openSession
    split
    · exact fun _ => id
    · exact fun _ => id
    · exact keeps_sessions_openFrom host _ entropy place
  | perform other request =>
    have hne : other ≠ place := fun heq => hother (congrArg some heq)
    show Keeps place host.sessions (host.perform other request).host.sessions
    unfold perform
    split
    · exact fun _ => id
    · exact keeps_set hne _ _
  | closeSession other | dropSession other =>
    have hne : other ≠ place := fun heq => hother (congrArg some heq)
    show Keeps place host.sessions (host.endSession other _).host.sessions
    unfold endSession
    split
    · exact fun _ => id
    · exact keeps_set hne _ _

/-- A step keeps every runtime that it does not name. -/
theorem keeps_runtimes_step (host : Host σ) {step : Step σ} (hother : step.runtime? ≠ some place) :
    Keeps place host.runtimes (host.step step).host.runtimes := by
  cases step with
  | addRuntime blueprint => exact keeps_append place _ _
  | closeRuntime other | dropRuntime other =>
    have hne : other ≠ place := fun heq => hother (congrArg some heq)
    show Keeps place host.runtimes (host.endRuntime other _).host.runtimes
    unfold endRuntime
    split
    · exact fun _ => id
    · exact keeps_set hne _ _
  | openSession other entropy =>
    show Keeps place host.runtimes (host.openSession other entropy).host.runtimes
    rw [runtimes_openSession]
    exact fun _ => id
  | perform other request =>
    show Keeps place host.runtimes (host.perform other request).host.runtimes
    unfold perform
    split <;> exact fun _ => id
  | closeSession other | dropSession other =>
    show Keeps place host.runtimes (host.endSession other _).host.runtimes
    unfold endSession
    split <;> exact fun _ => id

/-! ## What steps depend on -/

/-- What a step shows of the session that it names, and what it makes of it, depends on that session
and on the tripwire only. -/
theorem step_congr_session {first second : Host σ} {step : Step σ} {slot : Option (Session σ)}
    (hstep : step.session? = some place) (hfirst : first.sessions[place]? = some slot)
    (hsecond : second.sessions[place]? = some slot) (htripwire : first.tripwire = second.tripwire) :
    (first.step step).observation = (second.step step).observation ∧
      (first.step step).host.tripwire = (second.step step).host.tripwire ∧
      ∃ next, (first.step step).host.sessions[place]? = some next ∧
        (second.step step).host.sessions[place]? = some next := by
  have hset (next : Option (Session σ)) :
      (first.sessions.set place next)[place]? = some next ∧
        (second.sessions.set place next)[place]? = some next :=
    ⟨List.getElem?_set_self (List.getElem?_eq_some_iff.1 hfirst).1,
      List.getElem?_set_self (List.getElem?_eq_some_iff.1 hsecond).1⟩
  have hlook : first.session? place = slot ∧ second.session? place = slot :=
    ⟨session?_of_slot hfirst, session?_of_slot hsecond⟩
  cases step with
  | addRuntime | closeRuntime | dropRuntime | openSession => cases hstep
  | perform other request =>
    obtain rfl := Option.some.inj hstep
    simp only [Host.step, perform, hlook, htripwire]
    cases slot with
    | none => exact ⟨rfl, htripwire, none, hfirst, hsecond⟩
    | some session => exact ⟨rfl, rfl, _, hset _⟩
  | closeSession other | dropSession other =>
    obtain rfl := Option.some.inj hstep
    simp only [Host.step, endSession, hlook]
    cases slot with
    | none => exact ⟨rfl, htripwire, none, hfirst, hsecond⟩
    | some session => exact ⟨rfl, htripwire, _, hset _⟩

end Host

end GuestBridge
