import GuestBridge.Proofs.Guest.Resolution
import GuestBridge.Proofs.Host.Identity

/-!
# How sessions are numbered

One counter numbers the sessions of a process, whatever runtimes they come from. An attempt to open
a session draws the next number before anything can fail (`Host.draws`), so an attempt that fails
uses up its number; an attempt that is turned away because the runtime is closed draws none.
`Numbering` says what follows for a run: the attempts draw consecutive numbers (`numbers_attempts`),
a session has the number that its attempt drew and keeps it (`Roster`), and as long as the counter
does not overflow, the numbers are distinct and ascend.
-/

namespace GuestBridge

variable {σ : Type}

/-- The number of the session that was opened, if one was. -/
def Answer.openedId? : Answer → Option UInt64
  | .opened _ id => some id
  | _ => none

/-- Whether an attempt to open a session got to no guest module: there is no runtime, or it is
closed. -/
def Answer.isTurnedAway : Answer → Bool
  | .absent | .refused .runtimeClosed => true
  | _ => false

/-- All that a turn shows of a session is under this number. -/
structure Bears (number : UInt64) (turn : Turn σ) : Prop where
  events : ∀ event ∈ turn.events, ∃ told, event = .session number told
  opened : ∀ id, turn.answer.openedId? = some id → id = number

/-- An attempt to open a session, with the number that it drew. -/
structure Attempt (σ : Type) where
  number : UInt64
  turn : Turn σ

namespace Host

/-- Whether a step draws a number: it is an attempt to open a session that is not turned away. -/
def draws (host : Host σ) : Step σ → Bool
  | .openSession place entropy => !(host.step (.openSession place entropy)).answer.isTurnedAway
  | _ => false

/-- The attempts of a run that draw a number, in order. -/
def attempts (host : Host σ) : List (Step σ) → List (Attempt σ)
  | [] => []
  | step :: steps =>
    let later := (host.step step).host.attempts steps
    if host.draws step then ⟨host.nextId, host.step step⟩ :: later else later

/-- The numbers of the sessions that were opened in a run, in order. -/
def created (host : Host σ) (steps : List (Step σ)) : List UInt64 :=
  (host.run steps).2.filterMap (·.answer.openedId?)

variable {host : Host σ} {step : Step σ} {steps : List (Step σ)}

/-! ## What refuses an attempt -/

/-- Nothing about a guest makes an attempt look as if the runtime were closed. -/
theorem not_isTurnedAway_openFrom (host : Host σ) (blueprint : Blueprint σ) (entropy : Entropy) :
    (host.openFrom blueprint entropy).answer.isTurnedAway = false := by
  simp only [openFrom, Session.open?]
  cases (blueprint entropy host.tripwire).birth with
  | failed reason => rfl
  | panicked payload => rfl
  | ready table guest =>
    dsimp only
    cases hresolve : table.resolve with
    | ok exports => rfl
    | error error =>
      rcases table.resolve_error hresolve with ⟨names, rfl⟩ | ⟨name, expected, actual, rfl⟩ <;> rfl

theorem openFrom_cases (host : Host σ) (blueprint : Blueprint σ) (entropy : Entropy) :
    (∃ session : Session σ, session.id = host.nextId ∧
      (host.openFrom blueprint entropy).answer = .opened host.sessions.length host.nextId ∧
      (host.openFrom blueprint entropy).host.sessions = host.sessions ++ [some session]) ∨
    (host.openFrom blueprint entropy).answer.openedId? = none ∧
      (host.openFrom blueprint entropy).host.sessions = host.sessions := by
  simp only [openFrom, Session.open?]
  cases (blueprint entropy host.tripwire).birth with
  | failed reason => exact .inr ⟨rfl, rfl⟩
  | panicked payload => exact .inr ⟨rfl, rfl⟩
  | ready table guest =>
    dsimp only
    cases hresolve : table.resolve with
    | error error => exact .inr ⟨rfl, rfl⟩
    | ok exports => exact .inl ⟨⟨host.nextId, some ⟨exports, guest, .zero⟩⟩, rfl, rfl, rfl⟩

theorem nextId_openFrom (host : Host σ) (blueprint : Blueprint σ) (entropy : Entropy) :
    (host.openFrom blueprint entropy).host.nextId = host.nextId + 1 := by
  simp only [openFrom]
  split <;> rfl

theorem bears_openFrom (host : Host σ) (blueprint : Blueprint σ) (entropy : Entropy) :
    Bears host.nextId (host.openFrom blueprint entropy) where
  events := by
    have hevents : (host.openFrom blueprint entropy).events =
        (Session.open? blueprint host.nextId entropy host.tripwire).events.map
          (.session host.nextId) := by
      simp only [openFrom]
      split <;> rfl
    intro event hmem
    rw [hevents] at hmem
    obtain ⟨told, -, rfl⟩ := List.mem_map.1 hmem
    exact ⟨told, rfl⟩
  opened := by
    intro id hid
    rcases host.openFrom_cases blueprint entropy with ⟨session, -, hanswer, -⟩ | ⟨hnone, -⟩
    · rw [hanswer] at hid
      cases hid
      rfl
    · rw [hnone] at hid
      cases hid

/-! ## One step -/

/-- A step that draws a number opens a session from a guest module, or tries to. -/
theorem step_of_draws (hdraws : host.draws step = true) :
    ∃ blueprint entropy, host.step step = host.openFrom blueprint entropy := by
  cases step with
  | openSession place entropy =>
    simp only [draws, Host.step, openSession] at hdraws ⊢
    rcases hruntime : host.runtime? place with _ | _ | blueprint
    · rw [hruntime] at hdraws
      cases hdraws
    · rw [hruntime] at hdraws
      cases hdraws
    · exact ⟨blueprint, entropy, rfl⟩
  | addRuntime | closeRuntime | dropRuntime | perform | closeSession | dropSession => cases hdraws

/-- An attempt to open a session draws a number unless it is turned away, and then nothing
happens. -/
theorem step_openSession_of_not_draws {place : Nat} {entropy : Entropy}
    (hdraws : host.draws (.openSession place entropy) = false) :
    (host.step (.openSession place entropy)).host = host ∧
      (host.step (.openSession place entropy)).answer.openedId? = none := by
  simp only [draws, Host.step, openSession] at hdraws ⊢
  rcases hruntime : host.runtime? place with _ | _ | blueprint
  · exact ⟨rfl, rfl⟩
  · exact ⟨rfl, rfl⟩
  · rw [hruntime] at hdraws
    dsimp only at hdraws
    rw [not_isTurnedAway_openFrom] at hdraws
    cases hdraws

/-- A step that draws no number leaves the counter alone and opens no session. -/
theorem step_of_not_draws (hdraws : host.draws step = false) :
    (host.step step).host.nextId = host.nextId ∧ (host.step step).answer.openedId? = none ∧
      (host.step step).host.sessions.length = host.sessions.length := by
  cases step with
  | addRuntime blueprint => exact ⟨rfl, rfl, rfl⟩
  | openSession place entropy =>
    obtain ⟨hhost, hopened⟩ := step_openSession_of_not_draws hdraws
    rw [hhost]
    exact ⟨rfl, hopened, rfl⟩
  | closeRuntime other | dropRuntime other =>
    simp only [Host.step, endRuntime]
    cases host.runtime? other <;> exact ⟨rfl, rfl, rfl⟩
  | perform other request =>
    simp only [Host.step, perform]
    cases host.session? other with
    | none => exact ⟨rfl, rfl, rfl⟩
    | some session =>
      refine ⟨rfl, ?_, List.length_set⟩
      dsimp only
      split <;> rfl
  | closeSession other | dropSession other =>
    simp only [Host.step, endSession]
    cases host.session? other with
    | none => exact ⟨rfl, rfl, rfl⟩
    | some session => exact ⟨rfl, rfl, List.length_set⟩

/-! ## The numbers of a run -/

theorem attempts_of_draws (hdraws : host.draws step = true) (steps : List (Step σ)) :
    host.attempts (step :: steps) =
      ⟨host.nextId, host.step step⟩ :: (host.step step).host.attempts steps := by
  rw [attempts, if_pos hdraws]

theorem attempts_of_not_draws (hdraws : host.draws step = false) (steps : List (Step σ)) :
    host.attempts (step :: steps) = (host.step step).host.attempts steps := by
  rw [attempts, hdraws]
  rfl

theorem created_cons (host : Host σ) (step : Step σ) (steps : List (Step σ)) :
    host.created (step :: steps) =
      (host.step step).answer.openedId?.toList ++ (host.step step).host.created steps := by
  show List.filterMap (·.answer.openedId?) (host.step step :: ((host.step step).host.run steps).2) = _
  rw [List.filterMap_cons]
  cases (host.step step).answer.openedId? <;> rfl

/-- The attempts of a run draw consecutive numbers. -/
theorem numbers_attempts (host : Host σ) (steps : List (Step σ)) :
    (host.attempts steps).map Attempt.number =
      (List.range (host.attempts steps).length).map fun n => host.nextId + .ofNat n := by
  induction steps generalizing host with
  | nil => rfl
  | cons step steps ih =>
    cases hdraws : host.draws step with
    | false =>
      rw [attempts_of_not_draws hdraws, ih, (step_of_not_draws hdraws).1]
    | true =>
      obtain ⟨blueprint, entropy, hstep⟩ := step_of_draws hdraws
      have hnext : (host.step step).host.nextId = host.nextId + 1 := by
        rw [hstep, nextId_openFrom]
      have hshift (n : Nat) :
          host.nextId + 1 + UInt64.ofNat n = host.nextId + UInt64.ofNat (n + 1) := by
        rw [UInt64.ofNat_add, UInt64.add_comm (.ofNat n), ← UInt64.add_assoc]
        rfl
      rw [attempts_of_draws hdraws, List.map_cons, ih, hnext, List.length_cons,
        List.range_succ_eq_map, List.map_cons, List.map_map]
      refine List.cons_eq_cons.2 ⟨(UInt64.add_zero _).symm, ?_⟩
      exact List.map_congr_left fun n _ => hshift n

/-- Each attempt shows its own number and no other. -/
theorem bears_of_mem_attempts {host : Host σ} :
    ∀ attempt ∈ host.attempts steps, Bears attempt.number attempt.turn := by
  induction steps generalizing host with
  | nil => exact fun _ hmem => absurd hmem List.not_mem_nil
  | cons step steps ih =>
    cases hdraws : host.draws step with
    | false =>
      rw [attempts_of_not_draws hdraws]
      exact ih
    | true =>
      obtain ⟨blueprint, entropy, hstep⟩ := step_of_draws hdraws
      rw [attempts_of_draws hdraws]
      refine List.forall_mem_cons.2 ⟨?_, ih⟩
      rw [hstep]
      exact bears_openFrom host blueprint entropy

/-- The sessions opened in a run are those of the attempts that succeeded. -/
theorem created_eq (host : Host σ) (steps : List (Step σ)) :
    host.created steps = (host.attempts steps).filterMap (·.turn.answer.openedId?) := by
  induction steps generalizing host with
  | nil => rfl
  | cons step steps ih =>
    rw [created_cons, ih]
    cases hdraws : host.draws step with
    | false =>
      rw [attempts_of_not_draws hdraws, (step_of_not_draws hdraws).2.1]
      rfl
    | true =>
      rw [attempts_of_draws hdraws, List.filterMap_cons]
      cases (host.step step).answer.openedId? <;> rfl

theorem sublist_openedIds {attempts : List (Attempt σ)}
    (hbears : ∀ attempt ∈ attempts, Bears attempt.number attempt.turn) :
    (attempts.filterMap (·.turn.answer.openedId?)).Sublist (attempts.map Attempt.number) := by
  induction attempts with
  | nil => exact .slnil
  | cons attempt rest ih =>
    obtain ⟨hfirst, hrest⟩ := List.forall_mem_cons.1 hbears
    rw [List.filterMap_cons, List.map_cons]
    cases hopened : attempt.turn.answer.openedId? with
    | none => exact (ih hrest).cons _
    | some id =>
      rw [hfirst.opened id hopened]
      exact (ih hrest).cons_cons _

/-- The numbers of the sessions opened are among the numbers drawn, in the same order. -/
theorem created_sublist (host : Host σ) (steps : List (Step σ)) :
    (host.created steps).Sublist ((host.attempts steps).map Attempt.number) := by
  rw [created_eq]
  exact sublist_openedIds bears_of_mem_attempts

/-- Fewer attempts than there are words draw distinct numbers. -/
theorem nodup_numbers (hfew : (host.attempts steps).length ≤ 2 ^ 64) :
    ((host.attempts steps).map Attempt.number).Nodup := by
  rw [numbers_attempts]
  refine (List.nodup_range).map_on fun first hfirst second hsecond hsame => ?_
  rw [List.mem_range] at hfirst hsecond
  have hwords : UInt64.ofNat first = UInt64.ofNat second := (UInt64.add_right_inj _).1 hsame
  have hnats := congrArg UInt64.toNat hwords
  rw [UInt64.toNat_ofNat', UInt64.toNat_ofNat'] at hnats
  omega

/-- As long as the counter does not overflow, the numbers drawn ascend. -/
theorem pairwise_lt_numbers (hfits : host.nextId.toNat + (host.attempts steps).length ≤ 2 ^ 64) :
    ((host.attempts steps).map Attempt.number).Pairwise (· < ·) := by
  rw [numbers_attempts, List.pairwise_map]
  refine List.pairwise_lt_range.imp_of_mem fun {first second} hfirst hsecond hlt => ?_
  rw [List.mem_range] at hfirst hsecond
  rw [UInt64.lt_iff_toNat_lt, UInt64.toNat_add, UInt64.toNat_add, UInt64.toNat_ofNat',
    UInt64.toNat_ofNat']
  omega

/-! ## The numbers of sessions -/

/-- The numbers of the sessions opened so far, place by place. A session that is still there has the
number of its place. -/
structure Roster (ids : List UInt64) (host : Host σ) : Prop where
  length_eq : ids.length = host.sessions.length
  id_eq : ∀ place session, host.session? place = some session → ids[place]? = some session.id

theorem roster_fresh (first : UInt64) (tripwire : Option Tripwire) :
    Roster [] (fresh first tripwire : Host σ) where
  length_eq := rfl
  id_eq _ _ hsession := by cases hsession

/-- Sessions at old places keep their numbers. -/
theorem Roster.id_eq_step {ids : List UInt64} (hroster : Roster ids host) {place : Nat}
    (hplace : place < host.sessions.length) {session : Session σ}
    (hsession : (host.step step).host.session? place = some session) :
    ids[place]? = some session.id := by
  obtain ⟨before, hbefore, hheir⟩ := inherits_step hplace hsession
  rw [hroster.id_eq place before hbefore, hheir.id_eq]

/-- A step opens a session at a new place, or leaves the places as many as they are. -/
theorem opens_or_not (host : Host σ) (step : Step σ) :
    (∃ session : Session σ, (host.step step).answer.openedId? = some session.id ∧
      (host.step step).host.sessions = host.sessions ++ [some session]) ∨
    (host.step step).answer.openedId? = none ∧
      (host.step step).host.sessions.length = host.sessions.length := by
  cases hdraws : host.draws step with
  | false => exact .inr (step_of_not_draws hdraws).2
  | true =>
    obtain ⟨blueprint, entropy, hstep⟩ := step_of_draws hdraws
    rw [hstep]
    rcases host.openFrom_cases blueprint entropy with
      ⟨session, hid, hanswer, hsessions⟩ | ⟨hnone, hsessions⟩
    · refine .inl ⟨session, ?_, hsessions⟩
      rw [hanswer, hid]
      rfl
    · exact .inr ⟨hnone, congrArg List.length hsessions⟩

/-- A step adds the number of the session that it opens, if it opens one. -/
theorem Roster.next {ids : List UInt64} (hroster : Roster ids host) (step : Step σ) :
    Roster (ids ++ (host.step step).answer.openedId?.toList) (host.step step).host := by
  rcases host.opens_or_not step with ⟨opened, hanswer, hsessions⟩ | ⟨hnone, hlength⟩
  · rw [hanswer]
    refine ⟨?_, fun place session hsession => ?_⟩
    · rw [hsessions, List.length_append, List.length_append, hroster.length_eq]
      rfl
    · have hlt := lt_of_session? hsession
      rw [hsessions, List.length_append, List.length_singleton] at hlt
      by_cases hold : place < host.sessions.length
      · rw [List.getElem?_append_left (hroster.length_eq ▸ hold)]
        exact hroster.id_eq_step hold hsession
      · obtain rfl : place = host.sessions.length := by omega
        have hslot : (host.step step).host.sessions[host.sessions.length]? = some (some opened) := by
          rw [hsessions, List.getElem?_concat_length]
        rw [session?_of_slot hslot] at hsession
        cases hsession
        rw [← hroster.length_eq]
        exact List.getElem?_concat_length
  · rw [hnone, Option.toList_none, List.append_nil]
    refine ⟨hroster.length_eq.trans hlength.symm, fun place session hsession => ?_⟩
    exact hroster.id_eq_step (hlength ▸ lt_of_session? hsession) hsession

/-- A run adds the numbers of the sessions that it opens. -/
theorem Roster.after {ids : List UInt64} {host : Host σ} (hroster : Roster ids host)
    (steps : List (Step σ)) : Roster (ids ++ host.created steps) (host.after steps) := by
  induction steps generalizing ids host with
  | nil => rwa [show host.created [] = [] from rfl, List.append_nil]
  | cons step steps ih =>
    rw [created_cons, ← List.append_assoc]
    exact ih (hroster.next step)

theorem created_append (host : Host σ) (before later : List (Step σ)) :
    host.created (before ++ later) = host.created before ++ (host.after before).created later := by
  induction before generalizing host with
  | nil => rfl
  | cons step steps ih =>
    rw [List.cons_append, created_cons, ih, created_cons, List.append_assoc]
    rfl

/-! ## Whole processes -/

/-- How sessions are numbered in a run of a process. -/
structure Numbering (start : Host σ) (steps : List (Step σ)) : Prop where
  /-- The attempts draw consecutive numbers, whether they succeed or not. -/
  nth : ∀ n attempt, (start.attempts steps)[n]? = some attempt →
    attempt.number = start.nextId + .ofNat n
  /-- An attempt shows its own number and no other. -/
  bears : ∀ attempt ∈ start.attempts steps, Bears attempt.number attempt.turn
  /-- All other steps leave the counter alone and open no session, also an attempt that a closed
  runtime refuses. -/
  idle : ∀ before step, before ++ [step] <+: steps → (start.after before).draws step = false →
    ((start.after before).step step).host.nextId = (start.after before).nextId ∧
      ((start.after before).step step).answer.openedId? = none
  /-- The sessions opened are those of the attempts that succeed, in order. -/
  succeeded : start.created steps =
    (start.attempts steps).filterMap (·.turn.answer.openedId?)
  /-- At any time, a session that is still there has the number that it was opened with. -/
  kept : ∀ before, before <+: steps → ∀ place session,
    (start.after before).session? place = some session →
      (start.created steps)[place]? = some session.id
  /-- No number is drawn twice, so no two sessions have the same one. -/
  distinct : (start.attempts steps).length ≤ 2 ^ 64 →
    ((start.attempts steps).map Attempt.number).Nodup ∧ (start.created steps).Nodup
  /-- The number of an attempt that fails is not used for a session. -/
  unused : (start.attempts steps).length ≤ 2 ^ 64 →
    ∀ attempt ∈ start.attempts steps, attempt.turn.answer.openedId? = none →
      attempt.number ∉ start.created steps
  /-- Unless the counter overflows, the numbers ascend, so those of the sessions do. A counter
  that starts at 1 has room for all runs with fewer than `2 ^ 64` attempts. -/
  ascending : start.nextId.toNat + (start.attempts steps).length ≤ 2 ^ 64 →
    ((start.attempts steps).map Attempt.number).Pairwise (· < ·) ∧
      (start.created steps).Pairwise (· < ·)

/-- Sessions are numbered so in every run of a process, from whatever number it starts. -/
theorem numbering (first : UInt64) (tripwire : Option Tripwire) (steps : List (Step σ)) :
    Numbering (fresh first tripwire) steps where
  nth n attempt hattempt := by
    have hnumber : (((fresh first tripwire).attempts steps).map Attempt.number)[n]? =
        some attempt.number := by
      rw [List.getElem?_map, hattempt]
      rfl
    obtain ⟨hlt, -⟩ := List.getElem?_eq_some_iff.1 hattempt
    rw [numbers_attempts, List.getElem?_map, List.getElem?_range hlt] at hnumber
    exact (Option.some.inj hnumber).symm
  bears := bears_of_mem_attempts
  idle before step _ hdraws := by
    obtain ⟨hnext, hopened, -⟩ := step_of_not_draws hdraws
    exact ⟨hnext, hopened⟩
  succeeded := created_eq _ steps
  kept := by
    rintro before ⟨later, rfl⟩ place session hsession
    have hroster : Roster ((fresh first tripwire).created before)
        ((fresh first tripwire : Host σ).after before) := (roster_fresh first tripwire).after before
    have hid := hroster.id_eq place session hsession
    obtain ⟨hlt, -⟩ := List.getElem?_eq_some_iff.1 hid
    rw [created_append, List.getElem?_append_left hlt]
    exact hid
  distinct hfew :=
    ⟨nodup_numbers hfew, (created_sublist _ steps).nodup (nodup_numbers hfew)⟩
  unused hfew attempt hmem hfailed hused := by
    rw [created_eq] at hused
    obtain ⟨other, hother, hopened⟩ := List.mem_filterMap.1 hused
    have hsame := (bears_of_mem_attempts other hother).opened _ hopened
    obtain rfl := List.inj_on_of_nodup_map (nodup_numbers hfew) hmem hother hsame
    rw [hfailed] at hopened
    cases hopened
  ascending hfits :=
    ⟨pairwise_lt_numbers hfits, (pairwise_lt_numbers hfits).sublist (created_sublist _ steps)⟩

/-- A run on three runtimes. The second one makes no instances, and the first one is closed when it
is asked again. -/
def mixedRun : List (Step Unit) :=
  [.addRuntime fun entropy _ => ⟨[], .ready idleTable ⟨.zeroed 1 1, (), entropy⟩⟩,
    .addRuntime fun _ _ => ⟨[], .failed "no memory"⟩, .openSession 0 (stream 3),
    .openSession 1 (stream 5), .closeRuntime 0, .openSession 0 (stream 7),
    .addRuntime fun entropy _ => ⟨[], .ready idleTable ⟨.zeroed 1 1, (), entropy⟩⟩,
    .openSession 2 (stream 9), .closeSession 0]

/-- Three attempts draw numbers. The second one fails and uses up its number, and the session that
the first one opened has its number also after it was closed. -/
theorem numbering_mixedRun :
    let start : Host Unit := fresh 1 none
    (start.attempts mixedRun).map Attempt.number = [1, 2, 3] ∧ start.created mixedRun = [1, 3] ∧
      (start.created mixedRun).Pairwise (· < ·) ∧
      ∀ session, (start.after mixedRun).session? 0 = some session → session.id = 1 := by
  intro start
  have hnumbers : (start.attempts mixedRun).map Attempt.number = [1, 2, 3] := by decide +kernel
  have hcreated : start.created mixedRun = [1, 3] := by decide +kernel
  have hlength : (start.attempts mixedRun).length = 3 := by
    rw [← List.length_map Attempt.number, hnumbers]
    rfl
  have hnumbering := numbering 1 none mixedRun
  refine ⟨hnumbers, hcreated, (hnumbering.ascending ?_).2, fun session hsession => ?_⟩
  · rw [hlength]
    decide
  · have hkept := hnumbering.kept mixedRun (List.prefix_refl _) 0 session hsession
    rw [hcreated] at hkept
    exact (Option.some.inj hkept).symm

end Host

end GuestBridge
