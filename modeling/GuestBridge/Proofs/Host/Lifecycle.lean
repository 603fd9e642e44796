import GuestBridge.Proofs.Host.Places
import GuestBridge.Proofs.Session.Closing

/-!
# Sessions and runtimes end once and for all

A session or runtime ends when it is closed or dropped, and by nothing else. What is left at its
place is settled then (`SessionEnded`, `RuntimeEnded`), and each later step that names the place is
answered without any effect (`SessionOver`, `RuntimeOver`). So over a whole run there is one event
of closing (`ToldOnce.filter_eq_singleton`). Sessions do not notice that the runtime from which they
were opened has ended: hosts that are `ApartFrom` each other in that runtime show the same of them
(`RuntimeEnded.observe_eq`), and so do hosts that have the same session, if no tripwire is armed
(`observe_congr`). `lifecycle` puts this together.
-/

namespace GuestBridge

variable {σ : Type}

/-- Whether an event is that of closing a session. -/
def Event.closesSession : Event → Bool
  | .session _ event => event.isClosing
  | _ => false

/-- Whether an event is that of closing a runtime. -/
def Event.closesRuntime : Event → Bool
  | .closedRuntime => true
  | _ => false

/-- All events in what was observed of a run. -/
def eventsOf (observations : List (Observation σ)) : List Event :=
  observations.flatMap Observation.events

namespace Host

variable {host : Host σ} {place : Nat} {id : UInt64} {dropped : Bool}

/-! ## After the end -/

/-- The session at a place has ended. The closed session is left of it, or nothing if it was
dropped. -/
def SessionEnded (host : Host σ) (place : Nat) (id : UInt64) (dropped : Bool) : Prop :=
  host.sessions[place]? = some (if dropped then none else some ⟨id, none⟩)

/-- The runtime at a place has ended. The closed runtime is left of it, or nothing if it was
dropped. -/
def RuntimeEnded (host : Host σ) (place : Nat) (dropped : Bool) : Prop :=
  host.runtimes[place]? = some (if dropped then none else some ⟨none⟩)

/-- A session is over: every operation is refused before its arguments are looked at, and no step
that names the session has an effect, except that a closed session can be dropped. -/
structure SessionOver (host : Host σ) (place : Nat) (id : UInt64) (dropped : Bool) : Prop where
  session?_eq : host.session? place = if dropped then none else some ⟨id, none⟩
  perform_eq (request : Request) : host.step (.perform place request) =
    ⟨host, if dropped then .absent else .refused .sessionClosed, [], []⟩
  close_eq : host.step (.closeSession place) =
    ⟨host, if dropped then .absent else .done, [], []⟩
  drop_eq : host.step (.dropSession place) =
    ⟨host.setSession place none, if dropped then .absent else .done, [], []⟩

/-- A runtime is over: no session is opened from it, and no step that names the runtime has an
effect, except that a closed runtime can be dropped. -/
structure RuntimeOver (host : Host σ) (place : Nat) (dropped : Bool) : Prop where
  runtime?_eq : host.runtime? place = if dropped then none else some ⟨none⟩
  openSession_eq (entropy : Entropy) : host.step (.openSession place entropy) =
    ⟨host, if dropped then .absent else .refused .runtimeClosed, [], []⟩
  close_eq : host.step (.closeRuntime place) =
    ⟨host, if dropped then .absent else .done, [], []⟩
  drop_eq : host.step (.dropRuntime place) =
    ⟨host.setRuntime place none, if dropped then .absent else .done, [], []⟩

theorem SessionEnded.over (hended : host.SessionEnded place id dropped) :
    host.SessionOver place id dropped := by
  have hlook : host.session? place = if dropped then none else some ⟨id, none⟩ :=
    session?_of_slot hended
  have hkept := setSession_eq_self hended
  cases dropped with
  | true =>
    replace hlook : host.session? place = none := hlook
    refine ⟨hlook, fun request => ?_, ?_, ?_⟩
    · rw [step, perform, hlook]; rfl
    · rw [step, endSession, hlook]; rfl
    · rw [step, endSession, hlook]
      exact congrArg (fun after => (⟨after, .absent, [], []⟩ : Turn σ)) hkept.symm
  | false =>
    replace hlook : host.session? place = some ⟨id, none⟩ := hlook
    refine ⟨hlook, fun request => ?_, ?_, ?_⟩
    · rw [step, perform, hlook]
      exact congrArg (fun after : Host σ => (⟨{ after with tripwire := host.tripwire },
        .refused .sessionClosed, [], []⟩ : Turn σ)) hkept
    · rw [step, endSession, hlook]
      exact congrArg (fun after => (⟨after, .done, [], []⟩ : Turn σ)) hkept
    · rw [step, endSession, hlook]; rfl

theorem RuntimeEnded.over (hended : host.RuntimeEnded place dropped) :
    host.RuntimeOver place dropped := by
  have hlook : host.runtime? place = if dropped then none else some ⟨none⟩ :=
    runtime?_of_slot hended
  have hkept := setRuntime_eq_self hended
  cases dropped with
  | true =>
    replace hlook : host.runtime? place = none := hlook
    refine ⟨hlook, fun entropy => ?_, ?_, ?_⟩
    · rw [step, openSession, hlook]; rfl
    · rw [step, endRuntime, hlook]; rfl
    · rw [step, endRuntime, hlook]
      exact congrArg (fun after => (⟨after, .absent, [], []⟩ : Turn σ)) hkept.symm
  | false =>
    replace hlook : host.runtime? place = some ⟨none⟩ := hlook
    refine ⟨hlook, fun entropy => ?_, ?_, ?_⟩
    · rw [step, openSession, hlook]; rfl
    · rw [step, endRuntime, hlook]
      exact congrArg (fun after => (⟨after, .done, [], []⟩ : Turn σ)) hkept
    · rw [step, endRuntime, hlook]; rfl

/-- Steps that name a session that is over have no effect, except that nothing is left of it once it
is dropped. -/
theorem SessionOver.step_eq (hover : host.SessionOver place id dropped) {step : Step σ}
    (hnames : step.session? = some place) :
    ∃ answer, host.step step =
      ⟨if step.dropsSession place then host.setSession place none else host, answer, [], []⟩ := by
  cases step with
  | addRuntime | closeRuntime | dropRuntime | openSession => cases hnames
  | perform other request =>
    obtain rfl := Option.some.inj hnames
    exact ⟨_, hover.perform_eq request⟩
  | closeSession other =>
    obtain rfl := Option.some.inj hnames
    exact ⟨_, hover.close_eq⟩
  | dropSession other =>
    obtain rfl := Option.some.inj hnames
    rw [hover.drop_eq, Step.dropsSession, decide_eq_true rfl]
    exact ⟨_, rfl⟩

theorem RuntimeOver.step_eq (hover : host.RuntimeOver place dropped) {step : Step σ}
    (hnames : step.runtime? = some place) :
    ∃ answer, host.step step =
      ⟨if step.dropsRuntime place then host.setRuntime place none else host, answer, [], []⟩ := by
  cases step with
  | addRuntime | closeSession | dropSession | perform => cases hnames
  | openSession other entropy =>
    obtain rfl := Option.some.inj hnames
    exact ⟨_, hover.openSession_eq entropy⟩
  | closeRuntime other =>
    obtain rfl := Option.some.inj hnames
    exact ⟨_, hover.close_eq⟩
  | dropRuntime other =>
    obtain rfl := Option.some.inj hnames
    rw [hover.drop_eq, Step.dropsRuntime, decide_eq_true rfl]
    exact ⟨_, rfl⟩

/-- What has ended stays so. Only a drop changes what is left of it. -/
theorem SessionEnded.step (hended : host.SessionEnded place id dropped) (step : Step σ) :
    (host.step step).host.SessionEnded place id (dropped || step.dropsSession place) := by
  by_cases hnames : step.session? = some place
  · obtain ⟨answer, heq⟩ := hended.over.step_eq hnames
    rw [heq]
    cases step.dropsSession place with
    | true =>
      rw [Bool.or_true]
      exact List.getElem?_set_self (List.getElem?_eq_some_iff.1 hended).1
    | false =>
      rw [Bool.or_false]
      exact hended
  · have hkeeps : step.dropsSession place = false := by
      cases step with
      | dropSession other => exact decide_eq_false fun heq => hnames (congrArg some heq)
      | _ => rfl
    rw [hkeeps, Bool.or_false]
    exact keeps_sessions_step host hnames _ hended

theorem RuntimeEnded.step (hended : host.RuntimeEnded place dropped) (step : Step σ) :
    (host.step step).host.RuntimeEnded place (dropped || step.dropsRuntime place) := by
  by_cases hnames : step.runtime? = some place
  · obtain ⟨answer, heq⟩ := hended.over.step_eq hnames
    rw [heq]
    cases step.dropsRuntime place with
    | true =>
      rw [Bool.or_true]
      exact List.getElem?_set_self (List.getElem?_eq_some_iff.1 hended).1
    | false =>
      rw [Bool.or_false]
      exact hended
  · have hkeeps : step.dropsRuntime place = false := by
      cases step with
      | dropRuntime other => exact decide_eq_false fun heq => hnames (congrArg some heq)
      | _ => rfl
    rw [hkeeps, Bool.or_false]
    exact keeps_runtimes_step host hnames _ hended

/-- What a step keeps, up to a drop, a run keeps, up to a drop by any of its steps. -/
theorem after_dropping (P : Host σ → Bool → Prop) (drops : Step σ → Bool)
    (hstep : ∀ host dropped step, P host dropped →
      P (host.step step).host (dropped || drops step))
    (hended : P host dropped) (steps : List (Step σ)) :
    P (host.after steps) (dropped || steps.any drops) := by
  induction steps generalizing host dropped with
  | nil => rwa [List.any_nil, Bool.or_false]
  | cons step steps ih =>
    rw [List.any_cons, ← Bool.or_assoc]
    exact ih (hstep host dropped step hended)

theorem SessionEnded.after (hended : host.SessionEnded place id dropped) (steps : List (Step σ)) :
    (host.after steps).SessionEnded place id (dropped || steps.any (Step.dropsSession place)) :=
  after_dropping (fun host => host.SessionEnded place id) (Step.dropsSession place)
    (fun _ _ step hended => hended.step step) hended steps

theorem RuntimeEnded.after (hended : host.RuntimeEnded place dropped) (steps : List (Step σ)) :
    (host.after steps).RuntimeEnded place (dropped || steps.any (Step.dropsRuntime place)) :=
  after_dropping (fun host => host.RuntimeEnded place) (Step.dropsRuntime place)
    (fun _ _ step hended => hended.step step) hended steps

/-! ## The end -/

/-- An open session ends when it is closed or dropped. The event shows its last counters. -/
theorem step_endsSession {live : LiveGuest σ}
    (hopen : host.session? place = some ⟨id, some live⟩) {step : Step σ}
    (hends : step.endsSession place = true) :
    host.step step =
      ⟨host.setSession place (if step.dropsSession place then none else some ⟨id, none⟩), .done,
        [.session id (.closed live.stats)], []⟩ := by
  cases step with
  | addRuntime | closeRuntime | dropRuntime | openSession | perform => cases hends
  | closeSession other =>
    obtain rfl := of_decide_eq_true hends
    rw [Host.step, endSession, hopen]
    rfl
  | dropSession other =>
    obtain rfl := of_decide_eq_true hends
    rw [Host.step, endSession, hopen, Step.dropsSession, decide_eq_true rfl]
    rfl

/-- An open runtime ends when it is closed or dropped. -/
theorem step_endsRuntime {blueprint : Blueprint σ}
    (hopen : host.runtime? place = some ⟨some blueprint⟩) {step : Step σ}
    (hends : step.endsRuntime place = true) :
    host.step step =
      ⟨host.setRuntime place (if step.dropsRuntime place then none else some ⟨none⟩), .done,
        [.closedRuntime], []⟩ := by
  cases step with
  | addRuntime | openSession | closeSession | dropSession | perform => cases hends
  | closeRuntime other =>
    obtain rfl := of_decide_eq_true hends
    rw [Host.step, endRuntime, hopen]
    rfl
  | dropRuntime other =>
    obtain rfl := of_decide_eq_true hends
    rw [Host.step, endRuntime, hopen, Step.dropsRuntime, decide_eq_true rfl]
    rfl

theorem sessionEnded_step {live : LiveGuest σ}
    (hopen : host.session? place = some ⟨id, some live⟩) {step : Step σ}
    (hends : step.endsSession place = true) :
    (host.step step).host.SessionEnded place id (step.dropsSession place) := by
  rw [step_endsSession hopen hends]
  exact List.getElem?_set_self (List.getElem?_eq_some_iff.1 (session?_eq_some_iff.1 hopen)).1

theorem runtimeEnded_step {blueprint : Blueprint σ}
    (hopen : host.runtime? place = some ⟨some blueprint⟩) {step : Step σ}
    (hends : step.endsRuntime place = true) :
    (host.step step).host.RuntimeEnded place (step.dropsRuntime place) := by
  rw [step_endsRuntime hopen hends]
  exact List.getElem?_set_self (List.getElem?_eq_some_iff.1 (runtime?_eq_some_iff.1 hopen)).1

/-- The events of a step come from one session and none of them is that of closing it, or the step
ends a session or a runtime that was open. -/
theorem events_step (host : Host σ) (step : Step σ) :
    (∃ id events, NoneCloses events ∧ (host.step step).events = events.map (.session id)) ∨
    (∃ place id live, step.endsSession place = true ∧
      host.session? place = some ⟨id, some live⟩) ∨
    ∃ place blueprint, step.endsRuntime place = true ∧
      host.runtime? place = some ⟨some blueprint⟩ := by
  have hsilent {events : List Event} (hnil : events = []) :
      ∃ id inner, NoneCloses inner ∧ events = inner.map (.session id) :=
    ⟨0, [], noneCloses_nil, hnil⟩
  cases step with
  | addRuntime blueprint => exact .inl (hsilent rfl)
  | closeRuntime place | dropRuntime place =>
    cases hlook : host.runtime? place with
    | none => exact .inl (hsilent (by rw [Host.step, endRuntime, hlook]; rfl))
    | some runtime =>
      obtain ⟨_ | blueprint⟩ := runtime
      · exact .inl (hsilent (by rw [Host.step, endRuntime, hlook]; rfl))
      · exact .inr (.inr ⟨place, blueprint, decide_eq_true rfl, hlook⟩)
  | openSession place entropy =>
    cases hlook : host.runtime? place with
    | none => exact .inl (hsilent (by rw [Host.step, openSession, hlook]; rfl))
    | some runtime =>
      obtain ⟨_ | blueprint⟩ := runtime
      · exact .inl (hsilent (by rw [Host.step, openSession, hlook]))
      · refine .inl ⟨host.nextId, _,
          Session.noneCloses_open? blueprint host.nextId entropy host.tripwire, ?_⟩
        rw [Host.step, openSession, hlook]
        dsimp only [openFrom]
        split <;> rfl
  | perform place request =>
    cases hlook : host.session? place with
    | none => exact .inl (hsilent (by rw [Host.step, perform, hlook]; rfl))
    | some session =>
      refine .inl ⟨session.id, _, session.noneCloses_serve host.tripwire request, ?_⟩
      rw [Host.step, perform, hlook]
  | closeSession place | dropSession place =>
    cases hlook : host.session? place with
    | none => exact .inl (hsilent (by rw [Host.step, endSession, hlook]; rfl))
    | some session =>
      obtain ⟨id, _ | live⟩ := session
      · exact .inl (hsilent (by rw [Host.step, endSession, hlook]; rfl))
      · exact .inr (.inl ⟨place, id, live, decide_eq_true rfl, hlook⟩)

/-- An event of closing a session comes from closing or dropping a session that was open. -/
theorem exists_of_closesSession {step : Step σ} {event : Event}
    (hmem : event ∈ (host.step step).events) (hcloses : event.closesSession = true) :
    ∃ place id live, step.endsSession place = true ∧
      host.session? place = some ⟨id, some live⟩ ∧ event = .session id (.closed live.stats) := by
  rcases host.events_step step with
    ⟨id, inner, hnone, hevents⟩ | ⟨place, id, live, hends, hopen⟩ |
      ⟨place, blueprint, hends, hopen⟩
  · rw [hevents] at hmem
    obtain ⟨told, htold, rfl⟩ := List.mem_map.1 hmem
    exact absurd ((hnone told htold).symm.trans hcloses) Bool.false_ne_true
  · rw [step_endsSession hopen hends] at hmem
    exact ⟨place, id, live, hends, hopen, List.mem_singleton.1 hmem⟩
  · rw [step_endsRuntime hopen hends] at hmem
    rw [List.mem_singleton.1 hmem] at hcloses
    cases hcloses

/-- An event of closing a runtime comes from closing or dropping a runtime that was open. -/
theorem exists_of_closesRuntime {step : Step σ} {event : Event}
    (hmem : event ∈ (host.step step).events) (hcloses : event.closesRuntime = true) :
    ∃ place blueprint, step.endsRuntime place = true ∧
      host.runtime? place = some ⟨some blueprint⟩ ∧ event = .closedRuntime := by
  rcases host.events_step step with
    ⟨id, inner, -, hevents⟩ | ⟨place, id, live, hends, hopen⟩ | ⟨place, blueprint, hends, hopen⟩
  · rw [hevents] at hmem
    obtain ⟨told, -, rfl⟩ := List.mem_map.1 hmem
    cases hcloses
  · rw [step_endsSession hopen hends] at hmem
    rw [List.mem_singleton.1 hmem] at hcloses
    cases hcloses
  · rw [step_endsRuntime hopen hends] at hmem
    exact ⟨place, blueprint, hends, hopen, List.mem_singleton.1 hmem⟩

/-! ## No other end -/

/-- An operation leaves an open session open. -/
theorem session?_stays {live : LiveGuest σ} (hopen : host.session? place = some ⟨id, some live⟩)
    {step : Step σ} (hends : step.endsSession place = false) :
    ∃ next, (host.step step).host.session? place = some ⟨id, some next⟩ := by
  have hslot := session?_eq_some_iff.1 hopen
  by_cases hnames : step.session? = some place
  · cases step with
    | addRuntime | closeRuntime | dropRuntime | openSession => cases hnames
    | closeSession other | dropSession other =>
      exact absurd (Option.some.inj hnames) (of_decide_eq_false hends)
    | perform other request =>
      obtain rfl := Option.some.inj hnames
      rw [Host.step, perform, hopen]
      exact ⟨_, session?_eq_some_iff.2
        (List.getElem?_set_self (List.getElem?_eq_some_iff.1 hslot).1)⟩
  · exact ⟨live, session?_eq_some_iff.2 (keeps_sessions_step host hnames _ hslot)⟩

theorem runtime?_stays {blueprint : Blueprint σ}
    (hopen : host.runtime? place = some ⟨some blueprint⟩) {step : Step σ}
    (hends : step.endsRuntime place = false) :
    (host.step step).host.runtime? place = some ⟨some blueprint⟩ := by
  have hslot := runtime?_eq_some_iff.1 hopen
  by_cases hnames : step.runtime? = some place
  · cases step with
    | addRuntime | closeSession | dropSession | perform => cases hnames
    | closeRuntime other | dropRuntime other =>
      exact absurd (Option.some.inj hnames) (of_decide_eq_false hends)
    | openSession other entropy =>
      refine runtime?_eq_some_iff.2 ?_
      rw [Host.step, runtimes_openSession]
      exact hslot
  · exact runtime?_eq_some_iff.2 (keeps_runtimes_step host hnames _ hslot)

/-! ## Whole runs -/

/-- A session that no step ends stays open over a whole run. -/
theorem session?_after {live : LiveGuest σ} (hopen : host.session? place = some ⟨id, some live⟩)
    {steps : List (Step σ)} (hends : ∀ step ∈ steps, step.endsSession place = false) :
    ∃ last, (host.after steps).session? place = some ⟨id, some last⟩ := by
  refine after_invariant (fun host => ∃ last, host.session? place = some ⟨id, some last⟩) ?_
    ⟨live, hopen⟩
  rintro host step hmem ⟨last, hlast⟩
  exact session?_stays hlast (hends step hmem)

theorem runtime?_after {blueprint : Blueprint σ}
    (hopen : host.runtime? place = some ⟨some blueprint⟩) {steps : List (Step σ)}
    (hends : ∀ step ∈ steps, step.endsRuntime place = false) :
    (host.after steps).runtime? place = some ⟨some blueprint⟩ := by
  refine after_invariant (fun host => host.runtime? place = some ⟨some blueprint⟩) ?_ hopen
  intro host step hmem hlast
  exact runtime?_stays hlast (hends step hmem)

/-- Something is over after the step that tells of it, and from then on the steps of that kind tell
of nothing. -/
structure ToldOnce (kind : Step σ → Bool) (told : Event → Bool) (Over : Host σ → Prop) : Prop where
  stays (host : Host σ) (step : Step σ) : Over host → Over (host.step step).host
  quiet (host : Host σ) (step : Step σ) : Over host → kind step = true →
    (host.step step).events = []
  settles (host : Host σ) (step : Step σ) : kind step = true →
    ∀ event ∈ (host.step step).events, told event = true → Over (host.step step).host

namespace ToldOnce

variable {kind : Step σ → Bool} {told : Event → Bool} {Over : Host σ → Prop}

theorem after (honce : ToldOnce kind told Over) (hover : Over host) (steps : List (Step σ)) :
    Over (host.after steps) :=
  after_invariant Over (fun host step _ => honce.stays host step) hover

theorem eventsOf_cons (host : Host σ) (kind : Step σ → Bool) (step : Step σ)
    (steps : List (Step σ)) :
    eventsOf (host.observe kind (step :: steps)) =
      (if kind step then (host.step step).events else []) ++
        eventsOf ((host.step step).host.observe kind steps) := by
  rw [observe_cons, eventsOf, List.flatMap_append]
  split
  · rw [List.flatMap_singleton]; rfl
  · rfl

/-- Once it is over, nothing is told any more. -/
theorem eventsOf_eq_nil (honce : ToldOnce kind told Over) (hover : Over host)
    (steps : List (Step σ)) : eventsOf (host.observe kind steps) = [] := by
  induction steps generalizing host with
  | nil => rfl
  | cons step steps ih =>
    rw [eventsOf_cons, ih (honce.stays host step hover), List.append_nil]
    split
    · next hkind => exact honce.quiet host step hover hkind
    · rfl

/-- As long as it is not over, nothing has been told. -/
theorem filter_eq_nil (honce : ToldOnce kind told Over) {steps : List (Step σ)}
    (hnot : ¬Over (host.after steps)) :
    (eventsOf (host.observe kind steps)).filter told = [] := by
  induction steps generalizing host with
  | nil => rfl
  | cons step steps ih =>
    rw [eventsOf_cons, List.filter_append, ih hnot, List.append_nil]
    split
    · next hkind =>
      exact List.filter_eq_nil_iff.2 fun event hmem htold =>
        hnot (honce.after (honce.settles host step hkind event hmem htold) steps)
    · rfl

/-- Over a whole run, it is told once: by the step with which it is over. -/
theorem filter_eq_singleton (honce : ToldOnce kind told Over) {before later : List (Step σ)}
    {last : Step σ} {event : Event} (hnot : ¬Over (host.after before)) (hkind : kind last = true)
    (hevents : ((host.after before).step last).events = [event]) (htold : told event = true) :
    (eventsOf (host.observe kind (before ++ last :: later))).filter told = [event] := by
  have hover := honce.settles (host.after before) last hkind event
    (hevents ▸ List.mem_singleton_self event) htold
  rw [observe_append, eventsOf, List.flatMap_append, ← eventsOf, ← eventsOf, eventsOf_cons,
    if_pos hkind, hevents, honce.eventsOf_eq_nil hover, List.filter_append,
    honce.filter_eq_nil hnot, List.append_nil, List.nil_append, List.filter_cons_of_pos htold]
  rfl

end ToldOnce

theorem toldOnce_session (place : Nat) :
    ToldOnce (Step.namesSession place) Event.closesSession
      fun host : Host σ => ∃ id dropped, host.SessionEnded place id dropped where
  stays := by
    rintro host step ⟨id, dropped, hended⟩
    exact ⟨id, _, hended.step step⟩
  quiet := by
    rintro host step ⟨id, dropped, hended⟩ hnames
    obtain ⟨answer, heq⟩ := hended.over.step_eq (of_decide_eq_true hnames)
    rw [heq]
  settles := by
    intro host step hnames event hmem htold
    obtain ⟨other, id, live, hends, hopen, -⟩ := exists_of_closesSession hmem htold
    obtain rfl : place = other :=
      Option.some.inj ((of_decide_eq_true hnames).symm.trans (Step.session?_of_endsSession hends))
    exact ⟨id, _, sessionEnded_step hopen hends⟩

theorem toldOnce_runtime (place : Nat) :
    ToldOnce (Step.namesRuntime place) Event.closesRuntime
      fun host : Host σ => ∃ dropped, host.RuntimeEnded place dropped where
  stays := by
    rintro host step ⟨dropped, hended⟩
    exact ⟨_, hended.step step⟩
  quiet := by
    rintro host step ⟨dropped, hended⟩ hnames
    obtain ⟨answer, heq⟩ := hended.over.step_eq (of_decide_eq_true hnames)
    rw [heq]
  settles := by
    intro host step hnames event hmem htold
    obtain ⟨other, blueprint, hends, hopen, -⟩ := exists_of_closesRuntime hmem htold
    obtain rfl : place = other :=
      Option.some.inj ((of_decide_eq_true hnames).symm.trans (Step.runtime?_of_endsRuntime hends))
    exact ⟨_, runtimeEnded_step hopen hends⟩

/-! ## Sessions do without their runtime -/

/-- Two hosts differ in the runtime at a place at most. -/
structure ApartFrom (place : Nat) (first second : Host σ) : Prop where
  nextId : first.nextId = second.nextId
  tripwire : first.tripwire = second.tripwire
  sessions : first.sessions = second.sessions
  length : first.runtimes.length = second.runtimes.length
  runtimes : ∀ other, other ≠ place → first.runtimes[other]? = second.runtimes[other]?

theorem ApartFrom.refl (place : Nat) (host : Host σ) : ApartFrom place host host :=
  ⟨rfl, rfl, rfl, rfl, fun _ _ => rfl⟩

theorem ApartFrom.trans {first second third : Host σ} (hfirst : ApartFrom place first second)
    (hsecond : ApartFrom place second third) : ApartFrom place first third where
  nextId := hfirst.nextId.trans hsecond.nextId
  tripwire := hfirst.tripwire.trans hsecond.tripwire
  sessions := hfirst.sessions.trans hsecond.sessions
  length := hfirst.length.trans hsecond.length
  runtimes other hother := (hfirst.runtimes other hother).trans (hsecond.runtimes other hother)

theorem apartFrom_setRuntime (host : Host σ) (place : Nat) (slot : Option (Runtime σ)) :
    ApartFrom place (host.setRuntime place slot) host :=
  ⟨rfl, rfl, rfl, List.length_set, fun _ hother => List.getElem?_set_ne hother.symm⟩

/-- A step that does not name the runtime in which two hosts differ shows the same of both, and
leaves them different in nothing else. -/
theorem ApartFrom.step {first second : Host σ} (hapart : ApartFrom place first second)
    {step : Step σ} (hnames : step.runtime? ≠ some place) :
    (first.step step).observation = (second.step step).observation ∧
      ApartFrom place (first.step step).host (second.step step).host := by
  obtain ⟨nextId, tripwire, runtimes, sessions⟩ := first
  obtain ⟨_, _, runtimes', _⟩ := second
  obtain ⟨rfl, rfl, rfl, hlength, hruntimes⟩ := hapart
  dsimp only at hlength hruntimes
  cases step with
  | addRuntime blueprint =>
    refine ⟨by simp only [Host.step, Turn.observation, hlength], rfl, rfl, rfl, ?_, ?_⟩
    · simp only [Host.step, List.length_append, hlength]
    · intro other hother
      simp only [Host.step, List.getElem?_append, hlength, hruntimes other hother]
  | closeRuntime other | dropRuntime other =>
    have hne : other ≠ place := fun heq => hnames (congrArg some heq)
    have hlook : runtimes[other]?.join = runtimes'[other]?.join :=
      congrArg Option.join (hruntimes other hne)
    simp only [Host.step, endRuntime, runtime?, hlook]
    cases runtimes'[other]?.join with
    | none => exact ⟨rfl, rfl, rfl, rfl, hlength, hruntimes⟩
    | some runtime =>
      refine ⟨rfl, rfl, rfl, rfl, ?_, ?_⟩
      · simp only [setRuntime, List.length_set, hlength]
      · intro further hfurther
        simp only [setRuntime, List.getElem?_set, hlength, hruntimes further hfurther]
  | openSession other entropy =>
    have hne : other ≠ place := fun heq => hnames (congrArg some heq)
    have hlook : runtimes[other]?.join = runtimes'[other]?.join :=
      congrArg Option.join (hruntimes other hne)
    simp only [Host.step, openSession, runtime?, hlook]
    rcases runtimes'[other]?.join with _ | ⟨_ | blueprint⟩
    · exact ⟨rfl, rfl, rfl, rfl, hlength, hruntimes⟩
    · exact ⟨rfl, rfl, rfl, rfl, hlength, hruntimes⟩
    · dsimp only [openFrom]
      split <;> exact ⟨rfl, rfl, rfl, rfl, hlength, hruntimes⟩
  | perform other request =>
    simp only [Host.step, perform, session?]
    cases sessions[other]?.join <;> exact ⟨rfl, rfl, rfl, rfl, hlength, hruntimes⟩
  | closeSession other | dropSession other =>
    simp only [Host.step, endSession, session?]
    cases sessions[other]?.join <;> exact ⟨rfl, rfl, rfl, rfl, hlength, hruntimes⟩

/-- Steps that name a runtime that has ended change nothing else. -/
theorem RuntimeEnded.apartFrom_step (hended : host.RuntimeEnded place dropped) {step : Step σ}
    (hnames : step.runtime? = some place) : ApartFrom place (host.step step).host host := by
  obtain ⟨answer, heq⟩ := hended.over.step_eq hnames
  rw [heq]
  dsimp only
  split
  · exact apartFrom_setRuntime host place none
  · exact .refl place host

/-- Where a runtime has ended, a run shows the same of the sessions as where it has not and no step
names it. -/
theorem RuntimeEnded.observe_eq {first second : Host σ} (hended : first.RuntimeEnded place dropped)
    (hapart : ApartFrom place first second) (session : Nat) (steps : List (Step σ)) :
    first.observe (Step.namesSession session) steps =
        second.observe (Step.namesSession session)
          (steps.filter fun step => !step.namesRuntime place) ∧
      ApartFrom place (first.after steps)
        (second.after (steps.filter fun step => !step.namesRuntime place)) := by
  induction steps generalizing first second dropped with
  | nil => exact ⟨rfl, hapart⟩
  | cons step steps ih =>
    by_cases hnames : step.runtime? = some place
    · have hsession : step.namesSession session = false := by
        cases step with
        | addRuntime | perform | closeSession | dropSession => cases hnames
        | openSession | closeRuntime | dropRuntime => rfl
      have hnext := ih (hended.step step) ((hended.apartFrom_step hnames).trans hapart)
      rw [List.filter_cons_of_neg (by simp [Step.namesRuntime, hnames]), observe_cons, hsession]
      exact hnext
    · obtain ⟨hshown, hapart⟩ := hapart.step hnames
      obtain ⟨hobserved, hlast⟩ := ih (hended.step step) hapart
      rw [List.filter_cons_of_pos (by simp [Step.namesRuntime, hnames]), observe_cons,
        observe_cons, hshown, hobserved]
      exact ⟨rfl, hlast⟩

/-- No step arms a tripwire. -/
theorem tripwire_step (hnone : host.tripwire = none) (step : Step σ) :
    (host.step step).host.tripwire = none := by
  cases step with
  | addRuntime blueprint => exact hnone
  | closeRuntime other | dropRuntime other =>
    rw [Host.step, endRuntime]
    split <;> exact hnone
  | openSession other entropy =>
    rw [Host.step, openSession]
    split
    · exact hnone
    · exact hnone
    · dsimp only [openFrom]
      rw [hnone]
      split <;> exact Session.tripwire_open? _ _ _
  | perform other request =>
    rw [Host.step, perform, hnone]
    split
    · exact hnone
    · exact Session.tripwire_serve _ request
  | closeSession other | dropSession other =>
    rw [Host.step, endSession]
    split <;> exact hnone

/-- Where no tripwire is armed, all that a run shows of a session follows from the state in which
the run finds it. -/
theorem observe_congr {first second : Host σ} {session : Nat} {slot : Option (Session σ)}
    (hfirst : first.sessions[session]? = some slot)
    (hsecond : second.sessions[session]? = some slot) (hcalm : first.tripwire = none)
    (hcalm' : second.tripwire = none) (steps : List (Step σ)) :
    first.observe (Step.namesSession session) steps =
        second.observe (Step.namesSession session) steps ∧
      (first.after steps).session? session = (second.after steps).session? session := by
  induction steps generalizing first second slot with
  | nil => exact ⟨rfl, (session?_of_slot hfirst).trans (session?_of_slot hsecond).symm⟩
  | cons step steps ih =>
    have hnext := tripwire_step hcalm step
    have hnext' := tripwire_step hcalm' step
    rw [observe_cons, observe_cons, after_cons, after_cons]
    by_cases hnames : step.session? = some session
    · obtain ⟨hshown, -, next, hslot, hslot'⟩ :=
        step_congr_session hnames hfirst hsecond (hcalm.trans hcalm'.symm)
      obtain ⟨hobserved, hlast⟩ := ih hslot hslot' hnext hnext'
      rw [hshown, hobserved]
      exact ⟨rfl, hlast⟩
    · obtain ⟨hobserved, hlast⟩ := ih (keeps_sessions_step first hnames _ hfirst)
        (keeps_sessions_step second hnames _ hsecond) hnext hnext'
      rw [Step.namesSession, decide_eq_false hnames, hobserved]
      exact ⟨rfl, hlast⟩

/-- After a step that ends a runtime, it has ended and nothing else has changed, whether the runtime
was open or closed before. -/
theorem runtimeEnded_of_endsRuntime {runtime : Runtime σ}
    (hruntime : host.runtime? place = some runtime) {last : Step σ}
    (hends : last.endsRuntime place = true) :
    ∃ dropped, (host.step last).host.RuntimeEnded place dropped ∧
      ApartFrom place (host.step last).host host := by
  obtain ⟨_ | blueprint⟩ := runtime
  · have hended : host.RuntimeEnded place false := runtime?_eq_some_iff.1 hruntime
    exact ⟨_, hended.step last, hended.apartFrom_step (Step.runtime?_of_endsRuntime hends)⟩
  · refine ⟨_, runtimeEnded_step hruntime hends, ?_⟩
    rw [step_endsRuntime hruntime hends]
    exact apartFrom_setRuntime host place _

/-! ## The whole life -/

/-- How sessions and runtimes live and end in the runs of a host. -/
structure Lifecycle (host : Host σ) : Prop where
  /-- A run in which an open session is closed or dropped shows one event of closing it, with the
  counters that it had then. After that it is over. -/
  session_ends (place : Nat) (id : UInt64) (live : LiveGuest σ) (before later : List (Step σ))
    (last : Step σ) :
    (host.after before).session? place = some ⟨id, some live⟩ → last.endsSession place = true →
      (eventsOf (host.observe (Step.namesSession place) (before ++ last :: later))).filter
          Event.closesSession = [.session id (.closed live.stats)] ∧
        (host.after (before ++ last :: later)).SessionOver place id
          ((last :: later).any (Step.dropsSession place))
  /-- A run in which an open runtime is closed or dropped shows one event of closing it. After that
  it is over. -/
  runtime_ends (place : Nat) (blueprint : Blueprint σ) (before later : List (Step σ))
    (last : Step σ) :
    (host.after before).runtime? place = some ⟨some blueprint⟩ → last.endsRuntime place = true →
      (eventsOf (host.observe (Step.namesRuntime place) (before ++ last :: later))).filter
          Event.closesRuntime = [.closedRuntime] ∧
        (host.after (before ++ last :: later)).RuntimeOver place
          ((last :: later).any (Step.dropsRuntime place))
  /-- An open session that no step closes or drops stays open, whatever the operations on it come
  to. -/
  session_stays (place : Nat) (id : UInt64) (live : LiveGuest σ) (steps : List (Step σ)) :
    host.session? place = some ⟨id, some live⟩ →
      (∀ step ∈ steps, step.endsSession place = false) →
        ∃ last, (host.after steps).session? place = some ⟨id, some last⟩
  /-- An open runtime that no step closes or drops stays open. -/
  runtime_stays (place : Nat) (blueprint : Blueprint σ) (steps : List (Step σ)) :
    host.runtime? place = some ⟨some blueprint⟩ →
      (∀ step ∈ steps, step.endsRuntime place = false) →
        (host.after steps).runtime? place = some ⟨some blueprint⟩
  /-- An event of closing a session is shown only by a step that closes or drops an open session,
  and it is about that session. -/
  session_told (steps : List (Step σ)) (step : Step σ) (event : Event) :
    event ∈ ((host.after steps).step step).events → event.closesSession = true →
      ∃ place id live, step.endsSession place = true ∧
        (host.after steps).session? place = some ⟨id, some live⟩ ∧
        event = .session id (.closed live.stats)
  /-- An event of closing a runtime is shown only by a step that closes or drops an open runtime. -/
  runtime_told (steps : List (Step σ)) (step : Step σ) (event : Event) :
    event ∈ ((host.after steps).step step).events → event.closesRuntime = true →
      ∃ place blueprint, step.endsRuntime place = true ∧
        (host.after steps).runtime? place = some ⟨some blueprint⟩
  /-- After a runtime is closed or dropped, every run shows the same of all sessions, and leaves
  them in the same states, as it does without that and without the steps that name the runtime. -/
  sessions_apart (place : Nat) (runtime : Runtime σ) (last : Step σ) (later : List (Step σ)) :
    host.runtime? place = some runtime → last.endsRuntime place = true →
      (∀ session, (host.step last).host.observe (Step.namesSession session) later =
        host.observe (Step.namesSession session)
          (later.filter fun step => !step.namesRuntime place)) ∧
      ((host.step last).host.after later).sessions =
        (host.after (later.filter fun step => !step.namesRuntime place)).sessions
  /-- Where no tripwire is armed, every run shows the same of a session opened before, and leaves it
  in the same state, whether the runtime was closed or dropped or not. -/
  sessions_unmoved (place : Nat) (runtime : Runtime σ) (last : Step σ) (later : List (Step σ)) :
    host.tripwire = none → host.runtime? place = some runtime → last.endsRuntime place = true →
      ∀ session < host.sessions.length,
        (host.step last).host.observe (Step.namesSession session) later =
          host.observe (Step.namesSession session) later ∧
        ((host.step last).host.after later).session? session =
          (host.after later).session? session

/-- In every run of every host, sessions and runtimes end once and for all, when they are closed or
dropped and by nothing else, and sessions do not depend on their runtime any more. -/
theorem lifecycle (host : Host σ) : host.Lifecycle where
  session_ends place id live before later last hopen hends := by
    have hover := sessionEnded_step hopen hends
    have hnot : ¬∃ id dropped, (host.after before).SessionEnded place id dropped := by
      rintro ⟨other, dropped, hended⟩
      rw [hended.over.session?_eq] at hopen
      cases dropped <;> cases hopen
    refine ⟨(toldOnce_session place).filter_eq_singleton hnot
      (decide_eq_true (Step.session?_of_endsSession hends)) ?_ rfl, ?_⟩
    · rw [step_endsSession hopen hends]
    · rw [after_append, after_cons, List.any_cons]
      exact (hover.after later).over
  runtime_ends place blueprint before later last hopen hends := by
    have hover := runtimeEnded_step hopen hends
    have hnot : ¬∃ dropped, (host.after before).RuntimeEnded place dropped := by
      rintro ⟨dropped, hended⟩
      rw [hended.over.runtime?_eq] at hopen
      cases dropped <;> cases hopen
    refine ⟨(toldOnce_runtime place).filter_eq_singleton hnot
      (decide_eq_true (Step.runtime?_of_endsRuntime hends)) ?_ rfl, ?_⟩
    · rw [step_endsRuntime hopen hends]
    · rw [after_append, after_cons, List.any_cons]
      exact (hover.after later).over
  session_stays _ _ _ _ hopen hends := session?_after hopen hends
  runtime_stays _ _ _ hopen hends := runtime?_after hopen hends
  session_told _ _ _ hmem hcloses := exists_of_closesSession hmem hcloses
  runtime_told _ _ _ hmem hcloses := by
    obtain ⟨place, blueprint, hends, hopen, -⟩ := exists_of_closesRuntime hmem hcloses
    exact ⟨place, blueprint, hends, hopen⟩
  sessions_apart place runtime last later hruntime hends := by
    obtain ⟨dropped, hended, hapart⟩ := runtimeEnded_of_endsRuntime hruntime hends
    exact ⟨fun session => (hended.observe_eq hapart session later).1,
      (hended.observe_eq hapart 0 later).2.sessions⟩
  sessions_unmoved place runtime last later hcalm hruntime hends session hlt := by
    obtain ⟨-, -, hapart⟩ := runtimeEnded_of_endsRuntime hruntime hends
    have hslot := List.getElem?_eq_getElem hlt
    have hslot' : (host.step last).host.sessions[session]? = some host.sessions[session] := by
      rw [hapart.sessions, hslot]
    exact observe_congr hslot' hslot (hapart.tripwire.trans hcalm) hcalm later

/-- A guest that has no memory to give and returns nothing. -/
def muteExports : Exports Unit where
  alloc _ _ guest := ⟨guest, [], .returned 0⟩
  dealloc _ _ guest := ⟨guest, [], .returned ()⟩
  functions := PackedExport.all.map fun _ _ _ guest => ⟨guest, [], .returned []⟩

/-- An open session with that guest. -/
def muteGuest : LiveGuest Unit where
  exports := muteExports
  guest := ⟨.zeroed 1 1, (), .ofStream fun _ => 0⟩
  stats := .zero

/-- A host with one runtime and one open session. -/
def muteHost : Host Unit where
  nextId := 8
  tripwire := none
  runtimes := [some ⟨some fun _ _ => ⟨[], .failed "no instance"⟩⟩]
  sessions := [some ⟨7, some muteGuest⟩]

/-- A failing operation leaves the session open. It is closed after that, and dropped later. -/
theorem lifecycle_muteHost :
    (muteHost.after [.perform 0 .newPrivateKey]).session? 0 = some ⟨7, some muteGuest⟩ ∧
      (Step.closeSession 0 : Step Unit).endsSession 0 = true ∧
      (eventsOf (muteHost.observe (Step.namesSession 0)
        ([.perform 0 .newPrivateKey] ++ .closeSession 0 ::
          [.closeRuntime 0, .perform 0 (.hashText []), .dropSession 0]))).filter
        Event.closesSession = [.session 7 (.closed .zero)] ∧
      (muteHost.after ([.perform 0 .newPrivateKey] ++ .closeSession 0 ::
        [.closeRuntime 0, .perform 0 (.hashText []), .dropSession 0])).SessionOver 0 7 true := by
  have hopen : (muteHost.after [.perform 0 .newPrivateKey]).session? 0 =
      some ⟨7, some muteGuest⟩ := rfl
  have hends : (Step.closeSession 0 : Step Unit).endsSession 0 = true := rfl
  exact ⟨hopen, hends, (lifecycle muteHost).session_ends 0 7 muteGuest _ _ _ hopen hends⟩

end Host

end GuestBridge
