import GuestBridge.Proofs.Host.Lifecycle

/-!
# Sessions do not see each other

Sessions share the runtimes that they come from, the log subscriber and the counter that numbers
them. None of that carries anything from one session to another, as long as no panic of the log
subscriber spends the tripwire. `Host.alone` takes from a run the steps on one session, and those
that add or end runtimes; `Host.views` lists what a run shows of a session, without numbers and
places, and in which state each step leaves it. `isolated` says that both runs show the same, and
that every attempt to open a session, failed or not, goes as it would if there were no sessions.
-/

namespace GuestBridge

variable {σ : Type}

/-! ## What is seen of a session -/

/-- The answer without the place and the number of a session. -/
def Answer.anonymous : Answer → Answer
  | .opened _ _ => .opened 0 0
  | answer => answer

/-- The event without the number of a session. -/
def Event.anonymous : Event → Event
  | .session _ event => .session 0 event
  | event => event

/-- What is seen of a session when a step is taken. -/
structure View (σ : Type) where
  answer : Answer
  events : List Event
  actions : List (Action σ)
  /-- How the session is left: gone, closed, or open with its guest and counters. -/
  left : Option (Option (LiveGuest σ))

namespace Step

/-- A step that adds or ends a runtime. It is on no session. -/
def isShared : Step σ → Bool
  | .addRuntime _ | .closeRuntime _ | .dropRuntime _ => true
  | _ => false

/-- The step with the session that it names moved to another place. -/
def moveTo (home : Nat) : Step σ → Step σ
  | .perform _ request => .perform home request
  | .closeSession _ => .closeSession home
  | .dropSession _ => .dropSession home
  | step => step

end Step

namespace Host

/-- How a session is at a place: gone, closed, or open with its guest and counters. -/
def stateAt (host : Host σ) (place : Nat) : Option (Option (LiveGuest σ)) :=
  (host.session? place).map Session.live

/-- Whether a step opens the session at a place. -/
def lands (host : Host σ) (place : Nat) (step : Step σ) : Bool :=
  match (host.step step).answer with
  | .opened other _ => other = place
  | _ => false

/-- Whether a step is on the session at a place: it opens it or names it. -/
def concerns (host : Host σ) (place : Nat) (step : Step σ) : Bool :=
  step.namesSession place || host.lands place step

/-- What is seen of the session at a place when a step is taken. -/
def viewOf (host : Host σ) (place : Nat) (step : Step σ) : View σ :=
  let turn := host.step step
  ⟨turn.answer.anonymous, turn.events.map Event.anonymous, turn.actions, turn.host.stateAt place⟩

/-- What is seen of the session at a place in a run, step by step. -/
def views (host : Host σ) (place : Nat) : List (Step σ) → List (View σ)
  | [] => []
  | step :: steps =>
    let later := (host.step step).host.views place steps
    if host.concerns place step then host.viewOf place step :: later else later

/-- The run without the steps on other sessions. The session at a place is then at another place,
because sessions that were opened before it are missing. -/
def alone (host : Host σ) (place home : Nat) : List (Step σ) → List (Step σ)
  | [] => []
  | step :: steps =>
    let later := (host.step step).host.alone place home steps
    if step.isShared || host.concerns place step then step.moveTo home :: later else later

/-- Where the session at a place is in a run without the steps on other sessions: a session that is
there from the beginning stays, any other one is the first to be opened. -/
def home (host : Host σ) (place : Nat) : Nat :=
  min place host.sessions.length

/-- No step of a run spends the tripwire. -/
def Steady (host : Host σ) (steps : List (Step σ)) : Prop :=
  ∀ before, before <+: steps → (host.after before).tripwire = host.tripwire

variable {host first second full lone : Host σ} {place home : Nat} {step : Step σ}
  {steps : List (Step σ)}

/-- A log subscriber that panics at nothing spends no tripwire. -/
theorem steady_of_disarmed (hnone : host.tripwire = none) (steps : List (Step σ)) :
    host.Steady steps := by
  intro before _
  rw [hnone]
  exact after_invariant (·.tripwire = none) (fun _ step _ hnone => tripwire_step hnone step) hnone

theorem Steady.head (hsteady : host.Steady (step :: steps)) :
    (host.step step).host.tripwire = host.tripwire :=
  hsteady [step] ⟨steps, rfl⟩

theorem Steady.tail (hsteady : host.Steady (step :: steps)) :
    (host.step step).host.Steady steps := by
  intro before hstarts
  have hlater : (host.after (step :: before)).tripwire = host.tripwire :=
    hsteady _ (List.cons_prefix_cons.2 ⟨rfl, hstarts⟩)
  exact hlater.trans hsteady.head.symm

/-! ## Common ground -/

/-- Two hosts have the same runtimes and the same tripwire. -/
structure SameGround (first second : Host σ) : Prop where
  runtimes_eq : first.runtimes = second.runtimes
  tripwire_eq : first.tripwire = second.tripwire

/-- A step that adds or ends a runtime does the same to hosts on common ground, and nothing to
sessions. -/
theorem SameGround.step_shared (hground : SameGround first second) (hshared : step.isShared = true) :
    SameGround (first.step step).host (second.step step).host ∧
      (first.step step).host.sessions = first.sessions ∧
      (second.step step).host.sessions = second.sessions := by
  obtain ⟨hruntimes, htripwire⟩ := hground
  cases step with
  | openSession | perform | closeSession | dropSession => cases hshared
  | addRuntime blueprint =>
    exact ⟨⟨congrArg (· ++ _) hruntimes, htripwire⟩, rfl, rfl⟩
  | closeRuntime other | dropRuntime other =>
    simp only [Host.step, endRuntime, runtime?, ← hruntimes]
    cases first.runtimes[other]?.join with
    | none => exact ⟨⟨hruntimes, htripwire⟩, rfl, rfl⟩
    | some runtime => exact ⟨⟨congrArg (List.set · _ _) hruntimes, htripwire⟩, rfl, rfl⟩

/-- A step on sessions leaves the runtimes as they are. -/
theorem runtimes_step (hshared : step.isShared = false) (host : Host σ) :
    (host.step step).host.runtimes = host.runtimes := by
  cases step with
  | addRuntime | closeRuntime | dropRuntime => cases hshared
  | openSession other entropy => exact runtimes_openSession host other entropy
  | perform other request =>
    show (host.perform other request).host.runtimes = _
    unfold perform
    split <;> rfl
  | closeSession other | dropSession other =>
    show (host.endSession other _).host.runtimes = _
    unfold endSession
    split <;> rfl

theorem anonymous_events (events : List SessionEvent) (id id' : UInt64) :
    (events.map (Event.session id)).map Event.anonymous =
      (events.map (Event.session id')).map Event.anonymous := by
  rw [List.map_map, List.map_map]
  rfl

/-- An attempt to open a session goes the same way from both hosts: it opens a session in the same
state, or it opens none. -/
structure SameAttempt (first second : Host σ) (turn turn' : Turn σ) : Prop where
  answer_eq : turn.answer.anonymous = turn'.answer.anonymous
  events_eq : turn.events.map Event.anonymous = turn'.events.map Event.anonymous
  actions_eq : turn.actions = turn'.actions
  ground : SameGround turn.host turn'.host
  landed : (∃ session session', session.live = session'.live ∧
      turn.answer = .opened first.sessions.length session.id ∧
      turn'.answer = .opened second.sessions.length session'.id ∧
      turn.host.sessions = first.sessions ++ [some session] ∧
      turn'.host.sessions = second.sessions ++ [some session']) ∨
    (∀ other id, turn.answer ≠ .opened other id) ∧
      turn.host.sessions = first.sessions ∧ turn'.host.sessions = second.sessions

theorem SameGround.openSession (hground : SameGround first second) (runtime : Nat)
    (entropy : Entropy) :
    SameAttempt first second (first.openSession runtime entropy)
      (second.openSession runtime entropy) := by
  obtain ⟨hruntimes, htripwire⟩ := hground
  simp only [Host.openSession, runtime?, ← hruntimes]
  rcases first.runtimes[runtime]?.join with _ | _ | blueprint
  · exact ⟨rfl, rfl, rfl, ⟨hruntimes, htripwire⟩, .inr ⟨by rintro _ _ ⟨⟩, rfl, rfl⟩⟩
  · exact ⟨rfl, rfl, rfl, ⟨hruntimes, htripwire⟩, .inr ⟨by rintro _ _ ⟨⟩, rfl, rfl⟩⟩
  · simp only [openFrom, Session.open?, ← htripwire]
    cases (blueprint entropy first.tripwire).birth with
    | failed reason =>
      exact ⟨rfl, anonymous_events _ _ _, rfl, ⟨hruntimes, rfl⟩,
        .inr ⟨by rintro _ _ ⟨⟩, rfl, rfl⟩⟩
    | panicked payload =>
      exact ⟨rfl, anonymous_events _ _ _, rfl, ⟨hruntimes, rfl⟩,
        .inr ⟨by rintro _ _ ⟨⟩, rfl, rfl⟩⟩
    | ready table guest =>
      dsimp only
      cases table.resolve with
      | error error =>
        exact ⟨rfl, anonymous_events _ _ _, rfl, ⟨hruntimes, rfl⟩,
          .inr ⟨by rintro _ _ ⟨⟩, rfl, rfl⟩⟩
      | ok exports =>
        dsimp only
        exact ⟨rfl, anonymous_events _ _ _, rfl, ⟨hruntimes, rfl⟩,
          .inl ⟨⟨first.nextId, _⟩, ⟨second.nextId, _⟩, rfl, rfl, rfl, rfl, rfl⟩⟩

/-! ## A session in two runs -/

/-- The session at a place in one host is as the session at another place in the other host, or in
both it has not been opened yet. In the second host it will be the next one. -/
structure Mirrors (place home : Nat) (full lone : Host σ) : Prop extends SameGround full lone where
  session : (∃ slot slot', full.sessions[place]? = some slot ∧ lone.sessions[home]? = some slot' ∧
      slot.map Session.live = slot'.map Session.live) ∨
    full.sessions.length ≤ place ∧ lone.sessions.length = home

theorem mirrors_refl (host : Host σ) (place : Nat) : Mirrors place (host.home place) host host := by
  refine ⟨⟨rfl, rfl⟩, ?_⟩
  by_cases hlt : place < host.sessions.length
  · rw [home, Nat.min_eq_left hlt.le]
    exact .inl ⟨_, _, List.getElem?_eq_getElem hlt, List.getElem?_eq_getElem hlt, rfl⟩
  · have hle := Nat.le_of_not_lt hlt
    exact .inr ⟨hle, (Nat.min_eq_right hle).symm⟩

theorem session?_of_length_le (hle : host.sessions.length ≤ place) : host.session? place = none := by
  rw [session?, List.getElem?_eq_none hle]
  rfl

theorem Mirrors.stateAt_eq (hmirrors : Mirrors place home full lone) :
    full.stateAt place = lone.stateAt home := by
  unfold stateAt
  rcases hmirrors.session with ⟨slot, slot', hslot, hslot', hsame⟩ | ⟨hle, heq⟩
  · rw [session?_of_slot hslot, session?_of_slot hslot', hsame]
  · rw [session?_of_length_le hle, session?_of_length_le heq.le]

/-- Both hosts have nothing at the place, or both have a session there, in the same state. -/
theorem Mirrors.cases (hmirrors : Mirrors place home full lone) :
    (full.session? place = none ∧ lone.session? home = none) ∨
      ∃ session session', full.sessions[place]? = some (some session) ∧
        lone.sessions[home]? = some (some session') ∧ session.live = session'.live := by
  rcases hmirrors.session with ⟨slot, slot', hslot, hslot', hsame⟩ | ⟨hle, heq⟩
  · cases slot with
    | none =>
      cases slot' with
      | none => exact .inl ⟨session?_of_slot hslot, session?_of_slot hslot'⟩
      | some session' => cases hsame
    | some session =>
      cases slot' with
      | none => cases hsame
      | some session' => exact .inr ⟨session, session', hslot, hslot', Option.some.inj hsame⟩
  · exact .inl ⟨session?_of_length_le hle, session?_of_length_le heq.le⟩

/-- A session is replaced by sessions in the same state, or removed, in both hosts. -/
theorem Mirrors.setSession (hmirrors : Mirrors place home full lone) (hplace : place < full.sessions.length)
    (hhome : home < lone.sessions.length) {slot slot' : Option (Session σ)}
    (hsame : slot.map Session.live = slot'.map Session.live) :
    Mirrors place home (full.setSession place slot) (lone.setSession home slot') where
  toSameGround := ⟨hmirrors.runtimes_eq, hmirrors.tripwire_eq⟩
  session :=
    .inl ⟨slot, slot', List.getElem?_set_self hplace, List.getElem?_set_self hhome, hsame⟩

/-- What an operation does to a session depends on its state only. -/
theorem serve_congr {session session' : Session σ} (hlive : session.live = session'.live)
    (tripwire : Option Tripwire) (request : Request) :
    (session.serve tripwire request).outcome = (session'.serve tripwire request).outcome ∧
      (session.serve tripwire request).events = (session'.serve tripwire request).events ∧
      (session.serve tripwire request).actions = (session'.serve tripwire request).actions ∧
      (session.serve tripwire request).tripwire = (session'.serve tripwire request).tripwire ∧
      (session.serve tripwire request).session.live =
        (session'.serve tripwire request).session.live := by
  obtain ⟨id, live⟩ := session
  obtain ⟨id', live'⟩ := session'
  obtain rfl : live = live' := hlive
  cases live <;> exact ⟨rfl, rfl, rfl, rfl, rfl⟩

/-- Closing a session depends on its state only. -/
theorem close_congr {session session' : Session σ} (hlive : session.live = session'.live) :
    session.close.2 = session'.close.2 ∧ session.close.1.live = session'.close.1.live := by
  obtain ⟨id, live⟩ := session
  obtain ⟨id', live'⟩ := session'
  obtain rfl : live = live' := hlive
  cases live <;> exact ⟨rfl, rfl⟩

/-- Two turns are the same but for places and numbers of sessions. -/
structure SameTurn (place home : Nat) (turn turn' : Turn σ) : Prop where
  answer_eq : turn.answer.anonymous = turn'.answer.anonymous
  events_eq : turn.events.map Event.anonymous = turn'.events.map Event.anonymous
  actions_eq : turn.actions = turn'.actions
  mirrors : Mirrors place home turn.host turn'.host

theorem SameTurn.viewOf_eq {step' : Step σ}
    (hsame : SameTurn place home (full.step step) (lone.step step')) :
    full.viewOf place step = lone.viewOf home step' := by
  unfold viewOf
  dsimp only
  rw [hsame.answer_eq, hsame.events_eq, hsame.actions_eq, hsame.mirrors.stateAt_eq]

/-- A step that names the session does the same in both runs. -/
theorem Mirrors.step_named (hmirrors : Mirrors place home full lone)
    (hnames : step.session? = some place) :
    SameTurn place home (full.step step) (lone.step (step.moveTo home)) := by
  rcases hmirrors.cases with ⟨hnone, hnone'⟩ | ⟨session, session', hslot, hslot', hlive⟩
  · cases step with
    | addRuntime | closeRuntime | dropRuntime | openSession => cases hnames
    | perform other request =>
      obtain rfl := Option.some.inj hnames
      simp only [Step.moveTo, Host.step, perform, hnone, hnone']
      exact ⟨rfl, rfl, rfl, hmirrors⟩
    | closeSession other | dropSession other =>
      obtain rfl := Option.some.inj hnames
      simp only [Step.moveTo, Host.step, endSession, hnone, hnone']
      exact ⟨rfl, rfl, rfl, hmirrors⟩
  · have hplace := (List.getElem?_eq_some_iff.1 hslot).1
    have hhome := (List.getElem?_eq_some_iff.1 hslot').1
    have hlook := session?_of_slot hslot
    have hlook' := session?_of_slot hslot'
    cases step with
    | addRuntime | closeRuntime | dropRuntime | openSession => cases hnames
    | perform other request =>
      obtain rfl := Option.some.inj hnames
      obtain ⟨houtcome, hevents, hactions, htripwire, hleft⟩ :=
        serve_congr hlive lone.tripwire request
      have hnext : Mirrors other home
          (full.setSession other (some (session.serve lone.tripwire request).session))
          (lone.setSession home (some (session'.serve lone.tripwire request).session)) :=
        hmirrors.setSession hplace hhome (congrArg some hleft)
      simp only [Step.moveTo, Host.step, perform, hlook, hlook', hmirrors.tripwire_eq]
      rw [houtcome, hevents, hactions]
      exact ⟨rfl, anonymous_events _ _ _, rfl, ⟨⟨hnext.runtimes_eq, htripwire⟩, hnext.session⟩⟩
    | closeSession other =>
      obtain rfl := Option.some.inj hnames
      obtain ⟨hevents, hleft⟩ := close_congr hlive
      have hnext : Mirrors other home (full.setSession other (some session.close.1))
          (lone.setSession home (some session'.close.1)) :=
        hmirrors.setSession hplace hhome (congrArg some hleft)
      simp only [Step.moveTo, Host.step, endSession, hlook, hlook', hevents]
      exact ⟨rfl, anonymous_events _ _ _, rfl, hnext⟩
    | dropSession other =>
      obtain rfl := Option.some.inj hnames
      obtain ⟨hevents, -⟩ := close_congr hlive
      simp only [Step.moveTo, Host.step, endSession, hlook, hlook', hevents]
      exact ⟨rfl, anonymous_events _ _ _, rfl, hmirrors.setSession hplace hhome rfl⟩

theorem lands_iff : host.lands place step = true ↔ ∃ id, (host.step step).answer = .opened place id := by
  unfold lands
  cases (host.step step).answer with
  | opened other id =>
    constructor
    · intro hsame
      exact ⟨id, by rw [of_decide_eq_true hsame]⟩
    · rintro ⟨id', heq⟩
      cases heq
      exact decide_eq_true rfl
  | done | added | produced | refused | panicked | absent =>
    exact ⟨nofun, nofun⟩

/-- Only an attempt to open a session opens one. -/
theorem exists_of_lands (hlands : host.lands place step = true) :
    ∃ runtime entropy, step = .openSession runtime entropy := by
  obtain ⟨id, hanswer⟩ := lands_iff.1 hlands
  cases step with
  | openSession runtime entropy => exact ⟨runtime, entropy, rfl⟩
  | addRuntime => cases hanswer
  | closeRuntime other | dropRuntime other =>
    simp only [Host.step, endRuntime] at hanswer
    split at hanswer <;> cases hanswer
  | closeSession other | dropSession other =>
    simp only [Host.step, endSession] at hanswer
    split at hanswer <;> cases hanswer
  | perform other request =>
    simp only [Host.step, perform] at hanswer
    split at hanswer
    · cases hanswer
    · dsimp only at hanswer
      split at hanswer <;> cases hanswer

/-- A step that opens the session does the same in both runs. -/
theorem Mirrors.step_landing (hmirrors : Mirrors place home full lone)
    (hlands : full.lands place step = true) :
    SameTurn place home (full.step step) (lone.step (step.moveTo home)) ∧
      lone.lands home (step.moveTo home) = true := by
  obtain ⟨runtime, entropy, rfl⟩ := exists_of_lands hlands
  obtain ⟨id, hanswer⟩ := lands_iff.1 hlands
  have hsame := hmirrors.toSameGround.openSession runtime entropy
  rcases hsame.landed with
    ⟨session, session', hlive, hopened, hopened', hsessions, hsessions'⟩ | ⟨hnone, -, -⟩
  · have hplace : full.sessions.length = place := by
      have heq := hopened.symm.trans hanswer
      cases heq
      rfl
    have hhome : lone.sessions.length = home := by
      rcases hmirrors.session with ⟨slot, slot', hslot, -, -⟩ | ⟨-, heq⟩
      · have hlt := (List.getElem?_eq_some_iff.1 hslot).1
        omega
      · exact heq
    subst hplace hhome
    refine ⟨⟨hsame.answer_eq, hsame.events_eq, hsame.actions_eq, hsame.ground, .inl ?_⟩, ?_⟩
    · refine ⟨some session, some session', ?_, ?_, congrArg some hlive⟩
      · show (full.openSession runtime entropy).host.sessions[_]? = _
        rw [hsessions, List.getElem?_concat_length]
      · show (lone.openSession runtime entropy).host.sessions[_]? = _
        rw [hsessions', List.getElem?_concat_length]
    · exact lands_iff.2 ⟨_, hopened'⟩
  · exact absurd hanswer (hnone _ _)

/-- A step on the session does the same in both runs, and is on it in both. -/
theorem Mirrors.step_concerned (hmirrors : Mirrors place home full lone)
    (hconcerns : full.concerns place step = true) :
    SameTurn place home (full.step step) (lone.step (step.moveTo home)) ∧
      lone.concerns home (step.moveTo home) = true := by
  rcases Bool.or_eq_true_iff.1 hconcerns with hnames | hlands
  · have hnames : step.session? = some place := of_decide_eq_true hnames
    refine ⟨hmirrors.step_named hnames, Bool.or_eq_true_iff.2 (.inl (decide_eq_true ?_))⟩
    cases step with
    | addRuntime | closeRuntime | dropRuntime | openSession => cases hnames
    | perform | closeSession | dropSession => rfl
  · obtain ⟨hsame, hlands'⟩ := hmirrors.step_landing hlands
    exact ⟨hsame, Bool.or_eq_true_iff.2 (.inr hlands')⟩

/-- A step opens one session, which comes last, or leaves the number of places as it is. -/
theorem length_sessions_step (host : Host σ) (step : Step σ) :
    (host.step step).host.sessions.length = host.sessions.length ∨
      host.lands host.sessions.length step = true ∧
        (host.step step).host.sessions.length = host.sessions.length + 1 := by
  cases step with
  | addRuntime blueprint => exact .inl rfl
  | closeRuntime other | dropRuntime other =>
    simp only [Host.step, endRuntime]
    cases host.runtime? other <;> exact .inl rfl
  | perform other request =>
    simp only [Host.step, perform]
    cases host.session? other with
    | none => exact .inl rfl
    | some session => exact .inl List.length_set
  | closeSession other | dropSession other =>
    simp only [Host.step, endSession]
    cases host.session? other with
    | none => exact .inl rfl
    | some session => exact .inl List.length_set
  | openSession runtime entropy =>
    have hground : SameGround host host := ⟨rfl, rfl⟩
    rcases (hground.openSession runtime entropy).landed with
      ⟨session, _, -, hopened, -, hsessions, -⟩ | ⟨-, hsessions, -⟩
    · right
      refine ⟨lands_iff.2 ⟨_, hopened⟩, ?_⟩
      show (host.openSession runtime entropy).host.sessions.length = _
      rw [hsessions, List.length_append]
      rfl
    · exact .inl (congrArg List.length hsessions)

/-- A step on another session changes nothing for this one. -/
theorem Mirrors.step_other (hmirrors : Mirrors place home full lone)
    (hshared : step.isShared = false) (hconcerns : full.concerns place step = false)
    (htripwire : (full.step step).host.tripwire = full.tripwire) :
    Mirrors place home (full.step step).host lone where
  runtimes_eq := (runtimes_step hshared full).trans hmirrors.runtimes_eq
  tripwire_eq := htripwire.trans hmirrors.tripwire_eq
  session := by
    obtain ⟨hnames, hlands⟩ := Bool.or_eq_false_iff.1 hconcerns
    rcases hmirrors.session with ⟨slot, slot', hslot, hslot', hsame⟩ | ⟨hle, heq⟩
    · have hother : step.session? ≠ some place := of_decide_eq_false hnames
      exact .inl ⟨slot, slot', keeps_sessions_step full hother slot hslot, hslot', hsame⟩
    · right
      refine ⟨?_, heq⟩
      rcases length_sessions_step full step with hlength | ⟨hlands', hlength⟩
      · rw [hlength]
        exact hle
      · have hne : full.sessions.length ≠ place := by
          intro hsame
          rw [hsame, hlands] at hlands'
          cases hlands'
        omega

theorem not_concerns_of_isShared (hshared : step.isShared = true) (host : Host σ) (place : Nat) :
    host.concerns place step = false := by
  refine Bool.or_eq_false_iff.2 ⟨?_, ?_⟩
  · cases step with
    | addRuntime | closeRuntime | dropRuntime => rfl
    | openSession | perform | closeSession | dropSession => cases hshared
  · refine Bool.eq_false_iff.2 fun hlands => ?_
    obtain ⟨runtime, entropy, rfl⟩ := exists_of_lands hlands
    cases hshared

theorem Mirrors.step_shared (hmirrors : Mirrors place home full lone)
    (hshared : step.isShared = true) :
    Mirrors place home (full.step step).host (lone.step step).host := by
  obtain ⟨hground, hsessions, hsessions'⟩ := hmirrors.toSameGround.step_shared hshared
  refine ⟨hground, ?_⟩
  rw [hsessions, hsessions']
  exact hmirrors.session

/-- What is seen of the session in a run is what is seen in the run without the steps on other
sessions, and it is left in the same state. -/
theorem Mirrors.views_eq (hmirrors : Mirrors place home full lone) (hsteady : full.Steady steps) :
    full.views place steps = lone.views home (full.alone place home steps) ∧
      Mirrors place home (full.after steps) (lone.after (full.alone place home steps)) := by
  induction steps generalizing full lone with
  | nil => exact ⟨rfl, hmirrors⟩
  | cons step steps ih =>
    by_cases hshared : step.isShared = true
    · have hmoved : step.moveTo home = step := by
        cases step with
        | addRuntime | closeRuntime | dropRuntime => rfl
        | openSession | perform | closeSession | dropSession => cases hshared
      have hnot := not_concerns_of_isShared hshared full place
      have hnot' := not_concerns_of_isShared hshared lone home
      obtain ⟨hviews, hlast⟩ := ih (hmirrors.step_shared hshared) hsteady.tail
      simp only [views, alone, hshared, hnot, hmoved, Bool.true_or, if_true, hnot',
        Bool.false_eq_true, if_false, after_cons]
      exact ⟨hviews, hlast⟩
    · have hshared : step.isShared = false := Bool.eq_false_iff.2 hshared
      by_cases hconcerns : full.concerns place step = true
      · obtain ⟨hsame, hconcerns'⟩ := hmirrors.step_concerned hconcerns
        obtain ⟨hviews, hlast⟩ := ih hsame.mirrors hsteady.tail
        simp only [views, alone, hshared, hconcerns, Bool.false_or, if_true, hconcerns', after_cons]
        rw [hviews, hsame.viewOf_eq]
        exact ⟨rfl, hlast⟩
      · have hconcerns : full.concerns place step = false := Bool.eq_false_iff.2 hconcerns
        obtain ⟨hviews, hlast⟩ :=
          ih (hmirrors.step_other hshared hconcerns hsteady.head) hsteady.tail
        simp only [views, alone, hshared, hconcerns, Bool.or_self, Bool.false_eq_true, if_false,
          after_cons]
        exact ⟨hviews, hlast⟩

/-! ## Attempts to open a session -/

/-- The steps on sessions leave the common ground of hosts alone. -/
theorem SameGround.after_shared (hground : SameGround first second) (hsteady : first.Steady steps) :
    SameGround (first.after steps) (second.after (steps.filter Step.isShared)) := by
  induction steps generalizing first second with
  | nil => exact hground
  | cons step steps ih =>
    by_cases hshared : step.isShared = true
    · rw [List.filter_cons_of_pos hshared]
      exact ih (hground.step_shared hshared).1 hsteady.tail
    · rw [List.filter_cons_of_neg hshared]
      have hshared : step.isShared = false := Bool.eq_false_iff.2 hshared
      refine ih ⟨?_, hsteady.head.trans hground.tripwire_eq⟩ hsteady.tail
      exact (runtimes_step hshared first).trans hground.runtimes_eq

/-- What is seen of an attempt to open a session, at the place where it would be. -/
def attempt (host : Host σ) (runtime : Nat) (entropy : Entropy) : View σ :=
  host.viewOf host.sessions.length (.openSession runtime entropy)

theorem SameGround.attempt_eq (hground : SameGround first second) (runtime : Nat)
    (entropy : Entropy) : first.attempt runtime entropy = second.attempt runtime entropy := by
  have hsame := hground.openSession runtime entropy
  have hleft : (first.openSession runtime entropy).host.stateAt first.sessions.length =
      (second.openSession runtime entropy).host.stateAt second.sessions.length := by
    unfold stateAt session?
    rcases hsame.landed with
      ⟨session, session', hlive, -, -, hsessions, hsessions'⟩ | ⟨-, hsessions, hsessions'⟩
    · rw [hsessions, hsessions', List.getElem?_concat_length, List.getElem?_concat_length]
      exact congrArg some hlive
    · rw [hsessions, hsessions', List.getElem?_eq_none le_rfl, List.getElem?_eq_none le_rfl]
  show View.mk _ _ _ _ = View.mk _ _ _ _
  rw [View.mk.injEq]
  exact ⟨hsame.answer_eq, hsame.events_eq, hsame.actions_eq, hleft⟩

/-! ## Isolation -/

/-- In a run, sessions do not see each other. -/
structure Isolated (host : Host σ) (steps : List (Step σ)) : Prop where
  /-- What is seen of a session, step by step, is what is seen of it in the run without the steps on
  other sessions. -/
  views_eq (place : Nat) :
    host.views place steps =
      host.views (host.home place) (host.alone place (host.home place) steps)
  /-- The session is left in the same state. -/
  left_eq (place : Nat) :
    (host.after steps).stateAt place =
      (host.after (host.alone place (host.home place) steps)).stateAt (host.home place)
  /-- Every attempt to open a session goes as it does in the run without any steps on sessions. -/
  attempt_eq (before later : List (Step σ)) (runtime : Nat) (entropy : Entropy) :
    steps = before ++ .openSession runtime entropy :: later →
      (host.after before).attempt runtime entropy =
        (host.after (before.filter Step.isShared)).attempt runtime entropy

/-- In every run of every host that does not spend the tripwire, sessions do not see each other. -/
theorem isolated {host : Host σ} {steps : List (Step σ)} (hsteady : host.Steady steps) :
    host.Isolated steps where
  views_eq place := ((mirrors_refl host place).views_eq hsteady).1
  left_eq place := ((mirrors_refl host place).views_eq hsteady).2.stateAt_eq
  attempt_eq before later runtime entropy hsplit := by
    subst hsplit
    have hsteady : host.Steady before := fun early hstarts =>
      hsteady early (hstarts.trans (List.prefix_append _ _))
    have hground : SameGround host host := ⟨rfl, rfl⟩
    exact (hground.after_shared hsteady).attempt_eq runtime entropy

/-- All that the host requires, in functions that do nothing. -/
def idleTable : ExportTable Unit :=
  ("memory", .memory) ::
    ("alloc", .func allocSignature fun _ _ guest => ⟨guest, [], .returned [.i32 4096]⟩) ::
    ("dealloc", .func deallocSignature fun _ _ guest => ⟨guest, [], .returned []⟩) ::
    PackedExport.all.map fun entry =>
      (entry.name, .func entry.signature fun _ _ guest => ⟨guest, [], .returned []⟩)

/-- A host with a runtime for that guest and no sessions yet. -/
def idleHost : Host Unit where
  nextId := 1
  tripwire := none
  runtimes := [some ⟨some fun entropy _ => ⟨[], .ready idleTable ⟨.zeroed 1 1, (), entropy⟩⟩⟩]
  sessions := []

/-- The stream of random bytes of a session. -/
def stream (seed : UInt8) : Entropy :=
  .ofStream fun place => seed + .ofNat place

/-- A run on two sessions of one runtime, with an attempt to open a third one that fails. -/
def crowdedRun : List (Step Unit) :=
  [.openSession 0 (stream 3), .openSession 0 (stream 5), .perform 0 (.hashBytes [0x78]),
    .perform 1 .newPrivateKey, .closeSession 0, .closeRuntime 0, .openSession 0 (stream 7),
    .perform 1 (.recoverMessage [0x79])]

/-- The part of the run that is left for the second session, which is then the only one. -/
def solitaryRun : List (Step Unit) :=
  [.openSession 0 (stream 5), .perform 0 .newPrivateKey, .closeRuntime 0,
    .perform 0 (.recoverMessage [0x79])]

set_option maxRecDepth 10000 in
theorem isolated_idleHost :
    idleHost.Steady crowdedRun ∧ idleHost.alone 1 0 crowdedRun = solitaryRun ∧
      idleHost.views 1 crowdedRun = idleHost.views 0 solitaryRun := by
  have hsteady : idleHost.Steady crowdedRun := steady_of_disarmed rfl _
  have halone : idleHost.alone 1 0 crowdedRun = solitaryRun := by rfl
  have hhome : idleHost.home 1 = 0 := by rfl
  refine ⟨hsteady, halone, ?_⟩
  rw [← halone, ← hhome]
  exact (isolated hsteady).views_eq 1

end Host

end GuestBridge
