import GuestBridge.Proofs.Session.Accounting

/-!
# Secrets are overwritten, regions are given back

The release of an operation is read off its trace. Wherever the release function is called, or a
region is overwritten, the trace splits at the turn of one of the regions that the operation
acquired (`Course.exists_turn`), the last one first. From this follows when and how regions with a
private key are overwritten (`WipesSecrets`), and when an operation gives back all that it acquired
(`CleansUp`): unless the release function panics while there are more regions to come.
-/

namespace GuestBridge

variable {σ : Type}

namespace Release

/-! ## Turns -/

/-- The guest that the release function finds when a secret is given back. -/
theorem overwritten_of_secret {release : Release σ} (hsecret : release.held.sensitivity = .secret) :
    Overwritten release.held.region release.before release.call.found := by
  have hfound : release.call.found = release.before.wiped release.held.region := if_pos hsecret
  rw [hfound]
  exact overwritten_wiped _ _

/-- An action at the turn of a region: the overwriting of a secret or the call of the release
function. The actions before and after it in the same turn are listed. -/
inductive Turn (release : Release σ) : List (Action σ) → Action σ → List (Action σ) → Prop
  | wipe (hsecret : release.held.sensitivity = .secret) :
      Turn release [] ⟨release.before, .wipe release.held.region⟩ [release.call]
  | call : Turn release (release.held.wipeActions release.before) release.call []

/-- An action that comes first in the release belongs to the first turn, or to a later one. -/
theorem turn_or_later {release : Release σ} {rest pre post : List (Action σ)} {action : Action σ}
    (hsplit : release.actions ++ rest = pre ++ action :: post) :
    (∃ after, Turn release pre action after ∧ post = after ++ rest) ∨
      ∃ later, pre = release.actions ++ later ∧ rest = later ++ action :: post := by
  unfold actions at hsplit ⊢
  cases hsensitivity : release.held.sensitivity with
  | plain =>
    have hcall : Turn release _ release.call [] := .call
    rw [Held.wipeActions_of_plain hsensitivity] at hsplit hcall ⊢
    cases pre with
    | nil =>
      obtain ⟨rfl, rfl⟩ := List.cons.inj hsplit
      exact .inl ⟨[], hcall, rfl⟩
    | cons first later =>
      obtain ⟨rfl, hrest⟩ := List.cons.inj hsplit
      exact .inr ⟨later, rfl, hrest⟩
  | secret =>
    have hcall : Turn release _ release.call [] := .call
    rw [Held.wipeActions_of_secret hsensitivity] at hsplit hcall ⊢
    match pre with
    | [] =>
      obtain ⟨rfl, rfl⟩ := List.cons.inj hsplit
      exact .inl ⟨_, .wipe hsensitivity, rfl⟩
    | [first] =>
      obtain ⟨rfl, hrest⟩ := List.cons.inj hsplit
      obtain ⟨rfl, rfl⟩ := List.cons.inj hrest
      exact .inl ⟨[], hcall, rfl⟩
    | first :: second :: later =>
      obtain ⟨rfl, htail⟩ := List.cons.inj hsplit
      obtain ⟨rfl, hrest⟩ := List.cons.inj htail
      exact .inr ⟨later, rfl, hrest⟩

/-- Every action of the release belongs to a turn. -/
theorem exists_turn {releases : List (Release σ)} {pre post : List (Action σ)} {action : Action σ}
    (hsplit : releases.flatMap actions = pre ++ action :: post) :
    ∃ early release late before after, releases = early ++ release :: late ∧
      Turn release before action after ∧ pre = early.flatMap actions ++ before ∧
      post = after ++ late.flatMap actions := by
  induction releases generalizing pre with
  | nil => cases pre <;> cases hsplit
  | cons release rest ih =>
    rw [List.flatMap_cons] at hsplit
    rcases turn_or_later hsplit with ⟨after, hturn, hpost⟩ | ⟨later, rfl, hrest⟩
    · exact ⟨[], release, rest, pre, after, rfl, hturn, rfl, hpost⟩
    · obtain ⟨early, found, late, before, after, rfl, hturn, rfl, hpost⟩ := ih hrest
      exact ⟨release :: early, found, late, before, after, rfl, hturn,
        (List.append_assoc _ _ _).symm, hpost⟩

end Release

/-- The region that is to be given back after these actions, with what was planned for it: the last
one acquired that is left, among all that the operation acquires. -/
def turn? (request : Request) (actions pre : List (Action σ)) :
    Option (Acquisition × Lease.Milestone) :=
  ((acquisitions actions).zip request.plan)[
    (acquisitions actions).length - 1 - (deallocs pre).length]?

theorem Release.Turn.deallocs_before {release : Release σ} {before after : List (Action σ)}
    {action : Action σ} (hturn : release.Turn before action after) : deallocs before = [] := by
  cases hturn with
  | wipe hsecret => rfl
  | call => exact release.held.deallocs_wipeActions release.before

/-- What a failed attempt to overwrite a region is reported as. -/
def Wipe.failure? (wipe : Wipe σ) : Option (Region × BridgeError) :=
  if wipe.found.memory.Holds wipe.region then none
  else some (wipe.region, Lease.accessError wipe.found.memory wipe.region)

namespace Release

theorem wipeFailures_callEvents (release : Release σ) : wipeFailures release.callEvents = [] := by
  unfold callEvents
  cases release.reply.ending <;> rfl

/-- The overwriting of a secret is reported if the region leaves guest memory. -/
theorem wipeFailures_events (release : Release σ) :
    wipeFailures release.events = (wipes release.actions).filterMap Wipe.failure? := by
  unfold events actions
  rw [wipeFailures_append, wipeFailures_append, Lease.wipeFailures_noticed,
    release.wipeFailures_callEvents, List.append_nil, List.append_nil]
  cases hsensitivity : release.held.sensitivity with
  | plain =>
    rw [Held.wipeActions_of_plain hsensitivity, Held.wipeEvents, hsensitivity]
    rfl
  | secret =>
    rw [Held.wipeActions_of_secret hsensitivity, Held.wipeEvents, hsensitivity]
    show _ = [(⟨release.held.region, release.before⟩ : Wipe σ)].filterMap Wipe.failure?
    by_cases hin : release.before.memory.Holds release.held.region
    · have hnone : Wipe.failure? ⟨release.held.region, release.before⟩ = none := if_pos hin
      rw [if_neg fun h => h.2 hin, List.filterMap_cons_none hnone]
      rfl
    · have hsome : Wipe.failure? ⟨release.held.region, release.before⟩ =
          some (release.held.region,
            Lease.accessError release.before.memory release.held.region) := if_neg hin
      rw [if_pos ⟨rfl, hin⟩, List.filterMap_cons_some hsome]
      rfl

theorem wipeFailures_flatMap_events (releases : List (Release σ)) :
    wipeFailures (releases.flatMap events) =
      (wipes (releases.flatMap actions)).filterMap Wipe.failure? := by
  induction releases with
  | nil => rfl
  | cons release rest ih =>
    rw [List.flatMap_cons, List.flatMap_cons, wipeFailures_append, wipes_append,
      List.filterMap_append, ih, wipeFailures_events]

end Release

namespace Operation.Course

open Lease

variable {exports : Exports σ} {request : Request} {start last : Lease σ}

/-- Each region that an operation acquires comes with what was planned for it. -/
theorem zip_plan (course : Course exports request start last) :
    (acquisitions last.actions).zip request.plan =
      course.gains.map fun gain => (gain.acquisition, gain.milestone) := by
  obtain ⟨rest, hrest⟩ := course.planned
  rw [course.acquisitions_eq, ← hrest]
  induction course.gains with
  | nil => rfl
  | cons gain gains ih =>
    simp only [List.map_cons, List.cons_append, List.zip_cons_cons, ih]

/-- Regions are given back in the reverse order. -/
theorem gain_of_release (course : Course exports request start last)
    {early late : List (Release σ)} {release : Release σ}
    (hreleases : course.releases = early ++ release :: late) :
    ∃ gain, course.gains[course.gains.length - 1 - early.length]? = some gain ∧
      gain.held = release.held := by
  have hprefix := course.releasing.held_prefix
  rw [hreleases, course.held_eq, ← List.map_reverse] at hprefix
  have hget : (course.gains.reverse.map Gain.held)[early.length]? = some release.held := by
    obtain ⟨rest, hrest⟩ := hprefix
    rw [← hrest, List.map_append, List.append_assoc]
    exact (List.getElem?_append_right (by rw [List.length_map])).trans (by simp)
  rw [List.getElem?_map, Option.map_eq_some_iff] at hget
  obtain ⟨gain, hgain, hheld⟩ := hget
  obtain ⟨hlt, -⟩ := List.getElem?_eq_some_iff.1 hgain
  rw [List.length_reverse] at hlt
  exact ⟨gain, (List.getElem?_reverse hlt).symm.trans hgain, hheld⟩

/-- Regions are overwritten and given back in turns only. -/
theorem exists_turn (course : Course exports request start last) {pre post : List (Action σ)}
    {action : Action σ} (hsplit : last.actions = pre ++ action :: post)
    (haction : action.dealloc? ≠ none ∨ action.wipe? ≠ none) :
    ∃ early release late before after, course.releases = early ++ release :: late ∧
      release.Turn before action after ∧
      pre = course.middle.actions ++ early.flatMap Release.actions ++ before ∧
      post = after ++ late.flatMap Release.actions := by
  -- The body neither overwrites nor gives back, so the action is one of the release.
  have hbody : action ∉ course.middle.actions := fun hmem => haction.elim
    (fun h => h (List.filterMap_eq_nil_iff.1 course.intact_middle.deallocs_nil action hmem))
    (fun h => h (List.filterMap_eq_nil_iff.1 course.intact_middle.wipes_nil action hmem))
  have hcut : ∃ cut, pre = course.middle.actions ++ cut ∧
      course.releases.flatMap Release.actions = cut ++ action :: post := by
    rw [course.actions_eq] at hsplit
    rcases List.append_eq_append_iff.1 hsplit with ⟨cut, hpre, hrest⟩ | ⟨cut, hmiddle, hrest⟩
    · exact ⟨cut, hpre, hrest⟩
    · cases cut with
      | nil => exact ⟨[], by rw [hmiddle, List.append_nil, List.append_nil], hrest.symm⟩
      | cons first cut =>
        obtain ⟨rfl, -⟩ := List.cons.inj hrest
        exact absurd (hmiddle ▸ List.mem_append_right _ List.mem_cons_self) hbody
  obtain ⟨cut, rfl, hrest⟩ := hcut
  obtain ⟨early, release, late, before, after, hreleases, hturn, rfl, hpost⟩ :=
    Release.exists_turn hrest
  exact ⟨early, release, late, before, after, hreleases, hturn,
    (List.append_assoc _ _ _).symm, hpost⟩

/-- The turn of a region is known from what was given back before. -/
theorem turn?_eq (course : Course exports request start last)
    {early late : List (Release σ)} {release : Release σ} {before after : List (Action σ)}
    {action : Action σ} (hreleases : course.releases = early ++ release :: late)
    (hturn : release.Turn before action after) :
    ∃ gain : Gain, turn? request last.actions
        (course.middle.actions ++ early.flatMap Release.actions ++ before) =
          some (gain.acquisition, gain.milestone) ∧ gain.held = release.held := by
  obtain ⟨gain, hgain, hheld⟩ := course.gain_of_release hreleases
  refine ⟨gain, ?_, hheld⟩
  rw [turn?, course.zip_plan, course.acquisitions_eq, deallocs_append, deallocs_append,
    course.intact_middle.deallocs_nil, Release.deallocs_flatMap_actions, hturn.deallocs_before,
    List.append_nil, List.nil_append, List.length_map, List.length_map, List.getElem?_map, hgain]
  rfl

/-- Exactly the secrets that leave guest memory are reported, once each. -/
theorem wipeFailures_eq (course : Course exports request start last) :
    wipeFailures last.events = (wipes last.actions).filterMap Wipe.failure? := by
  have hnotes : wipeFailures course.notes = [] := by
    refine List.filterMap_eq_nil_iff.2 fun note hnote => ?_
    obtain ⟨error, rfl⟩ := course.notes_panic note hnote
    rfl
  rw [congrArg Lease.events course.last_eq, wipeFailures_append, hnotes, List.append_nil,
    course.releasing.events, wipeFailures_append, course.intact_middle.wipeFailures_nil,
    List.nil_append, course.actions_eq, wipes_append, course.intact_middle.wipes_nil,
    List.nil_append]
  exact Release.wipeFailures_flatMap_events course.releases

end Operation.Course

/-- What is known at the entry of a call of the release function, from the actions before it: whose
turn it is, and that this region has just been overwritten if it is a secret. Nothing else is
overwritten. -/
def RightTurn (request : Request) (actions pre : List (Action σ)) (found : Instance σ)
    (ptr : UInt32) : Prop :=
  ∃ acquisition milestone, turn? request actions pre = some (acquisition, milestone) ∧
    acquisition.region.ptr = ptr ∧
    match milestone.sensitivity with
    | .secret => ∃ earlier before, pre = earlier ++ [⟨before, .wipe acquisition.region⟩] ∧
      Overwritten acquisition.region before found
    | .plain => ∀ earlier before region, pre ≠ earlier ++ [⟨before, .wipe region⟩]

/-- The private keys that an operation has in guest memory are overwritten right before they are
given back, and nothing else is. -/
structure WipesSecrets (request : Request) (actions : List (Action σ))
    (events : List SessionEvent) : Prop where
  /-- Regions are acquired as planned. -/
  acquired : (acquisitions actions).map Acquisition.callee <+:
    request.plan.map Lease.Milestone.callee
  /-- Into each region goes what was planned for it, and nothing goes anywhere else. -/
  copied : copies actions =
    ((acquisitions actions).zip request.plan).filterMap fun (acquisition, milestone) =>
      milestone.filling.map fun bytes => (acquisition.region, bytes)
  /-- The release function is called in turn, and finds a secret overwritten. -/
  entry : ∀ pre found ptr sizeHint ending post,
    actions = pre ++ ⟨found, .call .dealloc [ptr, sizeHint] ending⟩ :: post →
    RightTurn request actions pre found ptr
  /-- A region that was overwritten is given back at once, even if it leaves guest memory. -/
  released : ∀ pre before region post, actions = pre ++ ⟨before, .wipe region⟩ :: post →
    ∃ found sizeHint ending rest,
      post = ⟨found, .call .dealloc [region.ptr, sizeHint] ending⟩ :: rest
  /-- A region that leaves guest memory when it is to be overwritten is reported once, as a
  warning. -/
  reported : wipeFailures events = (wipes actions).filterMap Wipe.failure?
  warned : ∀ event ∈ events, event.wipeFailure?.isSome → event.level = .warn
  /-- Unless the release function panics, all regions get their turn. -/
  complete : (∀ dealloc ∈ deallocs actions, dealloc.ending.isPanic = false) →
    (deallocs actions).length = (acquisitions actions).length

theorem level_of_wipeFailure {event : SessionEvent} (hevent : event.wipeFailure?.isSome) :
    event.level = .warn := by
  cases event with
  | wipeFailed region error => rfl
  | _ => cases hevent

/-- An operation that does nothing overwrites nothing. -/
theorem wipesSecrets_nil (request : Request) :
    WipesSecrets request ([] : List (Action σ)) [] where
  acquired := List.nil_prefix
  copied := rfl
  entry pre _ _ _ _ _ hsplit := by cases pre <;> cases hsplit
  released pre _ _ _ hsplit := by cases pre <;> cases hsplit
  reported := rfl
  warned _ _ := level_of_wipeFailure
  complete _ := rfl

namespace Operation.Course

open Lease

variable {exports : Exports σ} {request : Request} {start last : Lease σ}

theorem callees_prefix (course : Course exports request start last) :
    (acquisitions last.actions).map Acquisition.callee <+: request.plan.map Milestone.callee := by
  have hprefix := course.planned.map Milestone.callee
  rw [course.acquisitions_eq, List.map_map]
  rwa [List.map_map] at hprefix

/-- Between turns, nothing has just been overwritten. -/
theorem ne_append_wipe (course : Course exports request start last) (early : List (Release σ))
    (earlier : List (Action σ)) (before : Instance σ) (region : Region) :
    course.middle.actions ++ early.flatMap Release.actions ≠
      earlier ++ [⟨before, .wipe region⟩] := by
  intro heq
  rcases List.eq_nil_or_concat early with rfl | ⟨early, release, rfl⟩
  · have hwipes := course.intact_middle.wipes_nil
    rw [List.flatMap_nil, List.append_nil] at heq
    rw [heq, wipes_append] at hwipes
    cases (List.append_eq_nil_iff.1 hwipes).2
  · -- Every turn ends with a call.
    rw [List.concat_eq_append, List.flatMap_append, List.flatMap_singleton, Release.actions,
      ← List.append_assoc, ← List.append_assoc] at heq
    cases (List.append_inj' heq rfl).2

/-- A region is right before its release overwritten if it is a secret, and otherwise not. -/
theorem rightTurn (course : Course exports request start last) {pre post : List (Action σ)}
    {found : Instance σ} {ptr sizeHint : UInt32} {ending : Ending Unit}
    (hsplit : last.actions = pre ++ ⟨found, .call .dealloc [ptr, sizeHint] ending⟩ :: post) :
    RightTurn request last.actions pre found ptr := by
  obtain ⟨early, release, late, before, after, hreleases, hturn, rfl, -⟩ :=
    course.exists_turn hsplit (.inl nofun)
  obtain ⟨gain, hgain, hheld⟩ := course.turn?_eq hreleases hturn
  refine ⟨gain.acquisition, gain.milestone, hgain, ?_⟩
  -- An equation instead of the action itself, so that the turn can be taken apart.
  generalize hcall : (⟨found, .call .dealloc [ptr, sizeHint] ending⟩ : Action σ) = call at hturn
  cases hturn with
  | wipe hsecret => cases hcall
  | call =>
    cases hcall
    refine ⟨congrArg (·.region.ptr) hheld, ?_⟩
    have hsensitivity : gain.milestone.sensitivity = release.held.sensitivity :=
      congrArg Held.sensitivity hheld
    have hregion : gain.acquisition.region = release.held.region := congrArg Held.region hheld
    rw [hsensitivity, hregion]
    cases hsecret : release.held.sensitivity with
    | secret =>
      rw [Held.wipeActions_of_secret hsecret]
      exact ⟨_, _, rfl, Release.overwritten_of_secret hsecret⟩
    | plain =>
      rw [Held.wipeActions_of_plain hsecret, List.append_nil]
      exact course.ne_append_wipe early

/-- A region that was overwritten is given back at once. -/
theorem exists_dealloc (course : Course exports request start last) {pre post : List (Action σ)}
    {before : Instance σ} {region : Region}
    (hsplit : last.actions = pre ++ ⟨before, .wipe region⟩ :: post) :
    ∃ found sizeHint ending rest,
      post = ⟨found, .call .dealloc [region.ptr, sizeHint] ending⟩ :: rest := by
  obtain ⟨early, release, late, earlier, after, -, hturn, -, rfl⟩ :=
    course.exists_turn hsplit (.inr nofun)
  generalize hwipe : (⟨before, .wipe region⟩ : Action σ) = wipe at hturn
  cases hturn with
  | wipe hsecret => cases hwipe; exact ⟨_, _, _, _, rfl⟩
  | call => cases hwipe

/-- If nothing but the release of the region acquired first panics, everything is given back. -/
theorem map_held_releases (course : Course exports request start last)
    (hcalm : ∀ dealloc ∈ (deallocs last.actions).take ((acquisitions last.actions).length - 1),
      dealloc.ending.isPanic = false) :
    course.releases.map Release.held = (course.gains.map Gain.held).reverse := by
  rw [← course.held_eq]
  refine course.releasing.held_eq fun release hmem => hcalm release.dealloc ?_
  rw [course.deallocs_eq, course.acquisitions_eq, List.length_map, ← List.map_take]
  rw [List.length_reverse, course.held_eq, List.length_map] at hmem
  exact List.mem_map_of_mem hmem

theorem length_deallocs (course : Course exports request start last)
    (hcalm : ∀ dealloc ∈ deallocs last.actions, dealloc.ending.isPanic = false) :
    (deallocs last.actions).length = (acquisitions last.actions).length := by
  have hheld := course.map_held_releases fun dealloc hmem => hcalm _ (List.mem_of_mem_take hmem)
  have := congrArg List.length hheld
  rwa [List.length_map, List.length_reverse, List.length_map, ← List.length_map Release.dealloc,
    ← course.deallocs_eq, ← List.length_map Gain.acquisition, ← course.acquisitions_eq] at this

theorem wipesSecrets (course : Course exports request start last) :
    WipesSecrets request last.actions last.events where
  acquired := course.callees_prefix
  copied := by
    rw [course.copies_eq, course.zip_plan, List.filterMap_map]
    rfl
  entry _ _ _ _ _ _ hsplit := course.rightTurn hsplit
  released _ _ _ _ hsplit := course.exists_dealloc hsplit
  reported := course.wipeFailures_eq
  warned _ _ := level_of_wipeFailure
  complete hcalm := course.length_deallocs hcalm

end Operation.Course

/-- Every operation of every session overwrites its private keys. -/
theorem wipesSecrets_serve (session : Session σ) (tripwire : Option Tripwire) (request : Request) :
    WipesSecrets request (session.serve tripwire request).actions
      (session.serve tripwire request).events := by
  rcases session.serve_cases tripwire request with
    ⟨hactions, hevents, -⟩ | ⟨live, last, -, ⟨course⟩, hactions, hevents, -⟩
  · rw [hactions, hevents]
    exact wipesSecrets_nil request
  · rw [hactions, hevents]
    exact course.wipesSecrets

/-! ## Everything is given back -/

/-- What an operation owes the guest: each region that it acquired is passed to the release function
exactly once, and each private key in guest memory has been overwritten by then. -/
structure CleansUp (request : Request) (actions : List (Action σ)) : Prop where
  once : ((deallocs actions).map Dealloc.ptr).Perm ((acquisitions actions).map (·.region.ptr))
  overwritten : ∀ acquisition milestone,
    (acquisition, milestone) ∈ (acquisitions actions).zip request.plan →
    milestone.sensitivity = .secret →
    ∃ earlier before found sizeHint ending post,
      actions = earlier ++ ⟨before, .wipe acquisition.region⟩ ::
        ⟨found, .call .dealloc [acquisition.region.ptr, sizeHint] ending⟩ :: post ∧
      Overwritten acquisition.region before found

namespace Operation.Course

open Lease

variable {exports : Exports σ} {request : Request} {start last : Lease σ}

/-- Everything is given back if all regions get their turn. -/
theorem cleansUp_of_held (course : Course exports request start last)
    (hheld : course.releases.map Release.held = (course.gains.map Gain.held).reverse) :
    CleansUp request last.actions where
  once := by
    have hptrs : (deallocs last.actions).map Dealloc.ptr =
        ((acquisitions last.actions).map (·.region.ptr)).reverse := by
      have := congrArg (List.map fun held : Held => held.region.ptr) hheld
      rw [List.map_map, List.map_reverse, List.map_map] at this
      rw [course.deallocs_eq, course.acquisitions_eq, List.map_map, List.map_map]
      exact this
    rw [hptrs]
    exact List.reverse_perm _
  overwritten acquisition milestone hmem hsecret := by
    rw [course.zip_plan] at hmem
    obtain ⟨gain, hgain, hpair⟩ := List.mem_map.1 hmem
    obtain ⟨rfl, rfl⟩ := Prod.mk.inj hpair
    have hreleased : gain.held ∈ course.releases.map Release.held := by
      rw [hheld, List.mem_reverse]
      exact List.mem_map_of_mem hgain
    obtain ⟨release, hrelease, hsame⟩ := List.mem_map.1 hreleased
    obtain ⟨early, late, hsplit⟩ := List.append_of_mem hrelease
    have hsecret' : release.held.sensitivity = .secret :=
      (congrArg Held.sensitivity hsame).trans hsecret
    have hregion : gain.acquisition.region = release.held.region :=
      (congrArg Held.region hsame).symm
    rw [hregion]
    refine ⟨course.middle.actions ++ early.flatMap Release.actions, release.before,
      release.call.found, release.held.sizeHint, release.reply.ending,
      late.flatMap Release.actions, ?_, Release.overwritten_of_secret hsecret'⟩
    rw [course.actions_eq, hsplit, List.flatMap_append, List.flatMap_cons, Release.actions,
      Held.wipeActions_of_secret hsecret', List.append_assoc]
    exact (List.append_assoc _ _ _).symm

/-- If as many regions are given back as were acquired, only the last release can panic. -/
theorem calm_of_length (course : Course exports request start last)
    (hlength : (deallocs last.actions).length = (acquisitions last.actions).length) :
    ∀ dealloc ∈ (deallocs last.actions).take ((acquisitions last.actions).length - 1),
      dealloc.ending.isPanic = false := by
  intro dealloc hmem
  rw [← hlength, ← List.dropLast_eq_take, course.deallocs_eq, ← List.map_dropLast] at hmem
  obtain ⟨release, hrelease, rfl⟩ := List.mem_map.1 hmem
  exact course.releasing.calm_dropLast release hrelease

end Operation.Course

/-- An operation cleans up exactly if the release function does not panic, except perhaps at the
last turn, which is that of the region acquired first. A panic at any other turn ends the release,
and the regions whose turn has not come are left behind. -/
theorem cleansUp_serve_iff (session : Session σ) (tripwire : Option Tripwire) (request : Request) :
    CleansUp request (session.serve tripwire request).actions ↔
      ∀ dealloc ∈ (deallocs (session.serve tripwire request).actions).take
        ((acquisitions (session.serve tripwire request).actions).length - 1),
        dealloc.ending.isPanic = false := by
  rcases session.serve_cases tripwire request with
    ⟨hactions, -⟩ | ⟨live, last, -, ⟨course⟩, hactions, -⟩
  · rw [hactions]
    exact ⟨fun _ => nofun, fun _ => ⟨.nil, nofun⟩⟩
  · rw [hactions]
    refine ⟨fun hclean => course.calm_of_length ?_, fun hcalm => ?_⟩
    · have := hclean.once.length_eq
      rwa [List.length_map, List.length_map] at this
    · exact course.cleansUp_of_held (course.map_held_releases hcalm)

/-- What a new key from the frail guest leaves behind. -/
def frailKeygen : SessionReport Unit Product :=
  (Session.fresh 1 frailExports frailGuest).serve none .newPrivateKey

/-- The frail guest panics when the address of the new key is released, and so the key is left
behind as it is. -/
theorem frailKeygen_leaves_key :
    acquisitions frailKeygen.actions =
      [⟨.packed .newPrivateKey, ⟨1024, 59⟩⟩, ⟨.packed .getAddress, ⟨2048, 62⟩⟩] ∧
    (deallocs frailKeygen.actions).map Dealloc.ptr = [2048] ∧
    (wipes frailKeygen.actions).length = 0 ∧
    ¬CleansUp .newPrivateKey frailKeygen.actions := by
  have hacquired : acquisitions frailKeygen.actions =
      [⟨.packed .newPrivateKey, ⟨1024, 59⟩⟩, ⟨.packed .getAddress, ⟨2048, 62⟩⟩] := by decide
  have hreleased : (deallocs frailKeygen.actions).map Dealloc.ptr = [2048] := by decide
  refine ⟨hacquired, hreleased, by decide, fun hclean => ?_⟩
  have hlength := hclean.once.length_eq
  rw [hacquired, hreleased] at hlength
  cases hlength

end GuestBridge
