import GuestBridge.Proofs.Host.Isolation

/-!
# Sessions stay who they are

Whatever happens in a process, the session at a place is the one that was opened there. It has the
same number, also after it was closed, and as long as it is open the host calls the same functions
(`Session.Heir`). `inherits_step` says so of one step, `inherits_after` of a whole run.
-/

namespace GuestBridge

variable {σ : Type}

/-- A session comes from an earlier state of itself: it has the same number and, if it is open, the
same functions. -/
structure Session.Heir (before after : Session σ) : Prop where
  id_eq : after.id = before.id
  exports_eq : ∀ next, after.live = some next →
    ∃ live, before.live = some live ∧ next.exports = live.exports

namespace Session.Heir

variable {first second third : Session σ}

theorem refl (session : Session σ) : session.Heir session where
  id_eq := rfl
  exports_eq live hlive := ⟨live, hlive, rfl⟩

theorem trans (hfirst : first.Heir second) (hsecond : second.Heir third) : first.Heir third where
  id_eq := hsecond.id_eq.trans hfirst.id_eq
  exports_eq last hlast := by
    obtain ⟨next, hnext, hsame⟩ := hsecond.exports_eq last hlast
    obtain ⟨live, hlive, hsame'⟩ := hfirst.exports_eq next hnext
    exact ⟨live, hlive, hsame.trans hsame'⟩

end Session.Heir

theorem Session.heir_serve (session : Session σ) (tripwire : Option Tripwire) (request : Request) :
    session.Heir (session.serve tripwire request).session := by
  obtain ⟨id, none | live⟩ := session
  · exact .refl _
  · refine ⟨rfl, ?_⟩
    rintro next hnext
    obtain rfl := Option.some.inj hnext
    exact ⟨live, rfl, rfl⟩

theorem Session.heir_close (session : Session σ) : session.Heir session.close.1 := by
  obtain ⟨id, none | live⟩ := session
  · exact .refl _
  · exact ⟨rfl, nofun⟩

namespace Host

variable {host : Host σ} {place : Nat} {step : Step σ} {after : Session σ}

/-- A session that is at a place after a step on it was there before. -/
theorem inherits_named (hplace : place < host.sessions.length) (hnames : step.session? = some place)
    (hafter : (host.step step).host.session? place = some after) :
    ∃ before, host.session? place = some before ∧ before.Heir after := by
  cases hlook : host.session? place with
  | none =>
    have hsame : (host.step step).host = host := by
      cases step with
      | addRuntime | closeRuntime | dropRuntime | openSession => cases hnames
      | perform other request =>
        obtain rfl := Option.some.inj hnames
        simp only [Host.step, perform, hlook]
        rfl
      | closeSession other | dropSession other =>
        obtain rfl := Option.some.inj hnames
        simp only [Host.step, endSession, hlook]
        rfl
    rw [hsame, hlook] at hafter
    cases hafter
  | some before =>
    refine ⟨before, rfl, ?_⟩
    cases step with
    | addRuntime | closeRuntime | dropRuntime | openSession => cases hnames
    | perform other request =>
      obtain rfl := Option.some.inj hnames
      have hstep : (host.step (.perform other request)).host.session? other =
          some (before.serve host.tripwire request).session := by
        simp only [Host.step, perform, hlook]
        exact session?_setSession hplace _
      rw [hstep] at hafter
      cases hafter
      exact before.heir_serve host.tripwire request
    | closeSession other =>
      obtain rfl := Option.some.inj hnames
      have hstep : (host.step (.closeSession other)).host.session? other = some before.close.1 := by
        simp only [Host.step, endSession, hlook]
        exact session?_setSession hplace _
      rw [hstep] at hafter
      cases hafter
      exact before.heir_close
    | dropSession other =>
      obtain rfl := Option.some.inj hnames
      have hstep : (host.step (.dropSession other)).host.session? other = none := by
        simp only [Host.step, endSession, hlook]
        exact session?_setSession hplace _
      rw [hstep] at hafter
      cases hafter

/-- A session that is at an old place after a step was there before. -/
theorem inherits_step (hplace : place < host.sessions.length)
    (hafter : (host.step step).host.session? place = some after) :
    ∃ before, host.session? place = some before ∧ before.Heir after := by
  by_cases hnames : step.session? = some place
  · exact inherits_named hplace hnames hafter
  · have hslot := keeps_sessions_step host hnames _ (List.getElem?_eq_getElem hplace)
    rw [session?_of_slot hslot] at hafter
    refine ⟨after, ?_, .refl after⟩
    rw [session?_of_slot (List.getElem?_eq_getElem hplace), hafter]

theorem length_sessions_le_step (host : Host σ) (step : Step σ) :
    host.sessions.length ≤ (host.step step).host.sessions.length := by
  rcases length_sessions_step host step with hsame | ⟨-, hmore⟩ <;> omega

/-- A session that is at an old place after a run was there before. -/
theorem inherits_after {steps : List (Step σ)} {host : Host σ}
    (hplace : place < host.sessions.length)
    (hafter : (host.after steps).session? place = some after) :
    ∃ before, host.session? place = some before ∧ before.Heir after := by
  induction steps generalizing host with
  | nil => exact ⟨after, hafter, .refl after⟩
  | cons step steps ih =>
    have hlater := Nat.lt_of_lt_of_le hplace (length_sessions_le_step host step)
    obtain ⟨middle, hmiddle, hheir⟩ := ih hlater hafter
    obtain ⟨before, hbefore, hheir'⟩ := inherits_step hplace hmiddle
    exact ⟨before, hbefore, hheir'.trans hheir⟩

end Host

end GuestBridge
