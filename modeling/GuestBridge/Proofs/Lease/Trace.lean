import GuestBridge.Proofs.Lease.Release

/-!
# What the actions of an operation tell

The actions recorded during an operation are the only evidence of what the host did to the guest.
This module reads them: which regions the host acquired (`acquisitions`), what it copied into them
(`copies`), what it overwrote (`wipes`) and which calls of the release function it made
(`deallocs`). The main results tie the bookkeeping of an operation to that evidence. Along a path, a
lease acquires and fills just the regions of the path and holds them (`Path.took`), and nothing is
overwritten or given back (`Reaches.intact`). While regions are given back, each release leaves its
own actions and no others (`Releasing.actions`).
-/

namespace GuestBridge

/-- A region that a guest function handed to the host. -/
structure Acquisition where
  callee : Callee
  region : Region
deriving DecidableEq

/-- A call of the release function. -/
structure Dealloc (σ : Type) where
  ptr : UInt32
  sizeHint : UInt32
  found : Instance σ
  ending : Ending Unit

/-- An attempt to overwrite a region, with the guest as it was right before. -/
structure Wipe (σ : Type) where
  region : Region
  found : Instance σ

namespace Action

variable {σ : Type}

/-- The region that an action acquired, if it did: a pointer from the allocator or a packed result,
unless it is null. -/
def acquisition? : Action σ → Option Acquisition
  | ⟨_, .call .alloc [size] (.returned ptr)⟩ =>
    if ptr = 0 then none else some ⟨.alloc, ⟨ptr, size⟩⟩
  | ⟨_, .call (.packed entry) _ (.returned values)⟩ =>
    (regionOf? values).map fun region => ⟨.packed entry, region⟩
  | _ => none

/-- The call of the release function that an action is, if it is one. -/
def dealloc? : Action σ → Option (Dealloc σ)
  | ⟨found, .call .dealloc [ptr, sizeHint] ending⟩ => some ⟨ptr, sizeHint, found, ending⟩
  | _ => none

/-- The bytes that an action copied, if it did, and where they were to go. -/
def copy? : Action σ → Option (Region × Bytes)
  | ⟨_, .write region bytes⟩ => some (region, bytes)
  | _ => none

/-- The attempt to overwrite a region that an action is, if it is one. -/
def wipe? : Action σ → Option (Wipe σ)
  | ⟨found, .wipe region⟩ => some ⟨region, found⟩
  | _ => none

theorem acquisition?_alloc_eq_none {found : Instance σ} {size : UInt32} {ending : Ending UInt32}
    (hnull : ∀ ptr, ending = .returned ptr → ptr = 0) :
    acquisition? ⟨found, .call .alloc [size] ending⟩ = none := by
  cases ending with
  | returned ptr => exact if_pos (hnull ptr rfl)
  | trapped | panicked => rfl

theorem acquisition?_packed_eq_none {found : Instance σ} {entry : PackedExport}
    {args : List UInt32} {ending : Ending (List Value)}
    (hnull : ∀ values, ending = .returned values → regionOf? values = none) :
    acquisition? ⟨found, .call (.packed entry) args ending⟩ = none := by
  cases ending with
  | returned values =>
    show (regionOf? values).map _ = none
    rw [hnull values rfl, Option.map_none]
  | trapped | panicked => rfl

end Action

/-- The failed attempt to overwrite a region that an event reports, if it reports one. -/
def SessionEvent.wipeFailure? : SessionEvent → Option (Region × BridgeError)
  | .wipeFailed region error => some (region, error)
  | _ => none

section
variable {σ : Type}

/-- The regions that the host acquired, in order. -/
def acquisitions (actions : List (Action σ)) : List Acquisition :=
  actions.filterMap Action.acquisition?

/-- The calls of the release function, in order. -/
def deallocs (actions : List (Action σ)) : List (Dealloc σ) :=
  actions.filterMap Action.dealloc?

/-- What the host copied to guest memory, and where, in order. -/
def copies (actions : List (Action σ)) : List (Region × Bytes) :=
  actions.filterMap Action.copy?

/-- The attempts to overwrite a region, in order. -/
def wipes (actions : List (Action σ)) : List (Wipe σ) :=
  actions.filterMap Action.wipe?

/-- The reported failures to overwrite a region, in order. -/
def wipeFailures (events : List SessionEvent) : List (Region × BridgeError) :=
  events.filterMap SessionEvent.wipeFailure?

theorem acquisitions_append (first second : List (Action σ)) :
    acquisitions (first ++ second) = acquisitions first ++ acquisitions second :=
  List.filterMap_append

theorem deallocs_append (first second : List (Action σ)) :
    deallocs (first ++ second) = deallocs first ++ deallocs second :=
  List.filterMap_append

theorem copies_append (first second : List (Action σ)) :
    copies (first ++ second) = copies first ++ copies second :=
  List.filterMap_append

theorem wipes_append (first second : List (Action σ)) :
    wipes (first ++ second) = wipes first ++ wipes second :=
  List.filterMap_append

theorem wipeFailures_append (first second : List SessionEvent) :
    wipeFailures (first ++ second) = wipeFailures first ++ wipeFailures second :=
  List.filterMap_append

theorem acquisitions_singleton (action : Action σ) :
    acquisitions [action] = action.acquisition?.toList := by
  unfold acquisitions
  cases h : action.acquisition? <;> simp [h]

end

theorem Held.acquisitions_wipeActions {σ : Type} (held : Held) (guest : Instance σ) :
    acquisitions (held.wipeActions guest) = [] := by
  unfold wipeActions
  split <;> rfl

theorem Held.deallocs_wipeActions {σ : Type} (held : Held) (guest : Instance σ) :
    deallocs (held.wipeActions guest) = [] := by
  unfold wipeActions
  split <;> rfl

namespace Release

variable {σ : Type}

/-- The call of the release function in a release, as the trace shows it. -/
def dealloc (release : Release σ) : Dealloc σ where
  ptr := release.held.region.ptr
  sizeHint := release.held.sizeHint
  found := release.held.prepare release.before
  ending := release.reply.ending

theorem acquisitions_actions (release : Release σ) : acquisitions release.actions = [] := by
  rw [actions, acquisitions_append, release.held.acquisitions_wipeActions]
  rfl

theorem deallocs_actions (release : Release σ) :
    deallocs release.actions = [release.dealloc] := by
  rw [actions, deallocs_append, release.held.deallocs_wipeActions]
  rfl

theorem copies_actions (release : Release σ) : copies release.actions = [] := by
  unfold actions Held.wipeActions
  split <;> rfl

theorem acquisitions_flatMap_actions (releases : List (Release σ)) :
    acquisitions (releases.flatMap actions) = [] :=
  List.filterMap_flatMap.trans
    (List.flatMap_eq_nil_iff.2 fun release _ => release.acquisitions_actions)

theorem deallocs_flatMap_actions (releases : List (Release σ)) :
    deallocs (releases.flatMap actions) = releases.map dealloc := by
  rw [deallocs, List.filterMap_flatMap, List.map_eq_flatMap]
  exact congrArg releases.flatMap (funext deallocs_actions)

theorem copies_flatMap_actions (releases : List (Release σ)) :
    copies (releases.flatMap actions) = [] :=
  List.filterMap_flatMap.trans (List.flatMap_eq_nil_iff.2 fun release _ => release.copies_actions)

end Release

namespace Lease

/-- A region that was acquired, as the trace shows it. -/
def Gain.acquisition (gain : Gain) : Acquisition :=
  ⟨gain.callee, gain.held.region⟩

/-- What was copied into a region that was acquired, as the trace shows it. -/
def Gain.copy? (gain : Gain) : Option (Region × Bytes) :=
  gain.filling.map fun bytes => (gain.held.region, bytes)

variable {σ : Type} {exports : Exports σ}

/-! ## The body of an operation -/

/-- Nothing has been overwritten or given back. -/
structure Intact (lease : Lease σ) : Prop where
  deallocs_nil : deallocs lease.actions = []
  wipes_nil : wipes lease.actions = []
  wipeFailures_nil : wipeFailures lease.events = []

/-- Nothing has happened in an operation yet. -/
structure Blank (lease : Lease σ) : Prop where
  held_nil : lease.held = []
  events_nil : lease.events = []
  actions_nil : lease.actions = []

theorem blank_start (guest : Instance σ) (tripwire : Option Tripwire) (stats : AllocationStats) :
    (start guest tripwire stats).Blank :=
  ⟨rfl, rfl, rfl⟩

theorem Blank.intact {lease : Lease σ} (hblank : lease.Blank) : lease.Intact where
  deallocs_nil := by rw [hblank.actions_nil]; rfl
  wipes_nil := by rw [hblank.actions_nil]; rfl
  wipeFailures_nil := by rw [hblank.events_nil]; rfl

theorem wipeFailures_noticed (notices : List Notice) :
    wipeFailures (notices.map .noticed) = [] := by
  unfold wipeFailures
  rw [List.filterMap_map]
  exact List.filterMap_eq_nil_iff.2 fun _ _ => rfl

/-- A change of the lease that gives nothing back. -/
theorem Intact.push {lease after : Lease σ} (hintact : lease.Intact) {actions : List (Action σ)}
    {events : List SessionEvent} (hactions : after.actions = lease.actions ++ actions)
    (hevents : after.events = lease.events ++ events) (hdeallocs : deallocs actions = [])
    (hwipes : wipes actions = []) (hquiet : wipeFailures events = []) : after.Intact where
  deallocs_nil := by rw [hactions, deallocs_append, hintact.deallocs_nil, hdeallocs]; rfl
  wipes_nil := by rw [hactions, wipes_append, hintact.wipes_nil, hwipes]; rfl
  wipeFailures_nil := by
    rw [hevents, wipeFailures_append, hintact.wipeFailures_nil, hquiet]; rfl

/-- A call of a guest function other than the release function gives nothing back, whatever else is
reported about it. -/
theorem Intact.call {lease after : Lease σ} (hintact : lease.Intact) (callee : Callee)
    (args : List UInt32) {events : List SessionEvent} (hcallee : callee ≠ .dealloc)
    (hactions : after.actions = (lease.called exports callee args).actions)
    (hevents : after.events = (lease.called exports callee args).events ++ events)
    (hquiet : wipeFailures events = []) : after.Intact := by
  refine hintact.push hactions (hevents.trans (List.append_assoc _ _ _)) ?_ rfl ?_
  · cases callee with
    | dealloc => exact absurd rfl hcallee
    | alloc | packed => rfl
  · rw [wipeFailures_append, wipeFailures_noticed, hquiet]; rfl

theorem Intact.allocated {lease : Lease σ} (hintact : lease.Intact) (exports : Exports σ)
    (region : Region) (sensitivity : Sensitivity) :
    (lease.allocated exports region sensitivity).Intact :=
  hintact.call .alloc [region.len] nofun rfl rfl rfl

/-- No step gives anything back. -/
theorem Advance.intact {label : List Gain} {lease after : Lease σ}
    (hstep : Advance exports lease label after) (hintact : lease.Intact) : after.Intact := by
  cases hstep with
  | denied size hnull =>
    exact hintact.call .alloc [size] nofun rfl (List.append_nil _).symm rfl
  | placed region sensitivity bytes hret hne hlen =>
    exact (hintact.allocated exports region sensitivity).push (actions_written _ _ _)
      ((events_written _ _ _).trans (List.append_nil _).symm) rfl rfl rfl
  | rejected entry args notes hnull hnotes =>
    refine hintact.call (.packed entry) args nofun rfl rfl (List.filterMap_eq_nil_iff.2 ?_)
    intro note hnote
    obtain ⟨len, rfl⟩ := hnotes note hnote
    rfl
  | adopted entry args values region hret hregion =>
    exact hintact.call (.packed entry) args nofun rfl rfl rfl
  | looked region => exact hintact.push rfl (List.append_nil _).symm rfl rfl rfl

/-- The body of an operation gives nothing back. -/
theorem Reaches.intact {lease after : Lease σ} (hreach : Reaches exports lease after)
    (hintact : lease.Intact) : after.Intact := by
  induction hreach with
  | refl => exact hintact
  | tail _ hmove ih =>
    cases hmove with
    | advance hstep => exact hstep.intact ih
    | marked region => exact ⟨ih.deallocs_nil, ih.wipes_nil, ih.wipeFailures_nil⟩

/-- Between two states of an operation, exactly these regions were acquired, filled and held. -/
structure Took (gains : List Gain) (lease after : Lease σ) : Prop where
  acquired : acquisitions after.actions =
    acquisitions lease.actions ++ gains.map Gain.acquisition
  copied : copies after.actions = copies lease.actions ++ gains.filterMap Gain.copy?
  held : after.held = lease.held ++ gains.map Gain.held

/-- A call adds what it handed over to what was acquired before. -/
theorem acquisitions_called (exports : Exports σ) (callee : Callee) (args : List UInt32)
    (lease : Lease σ) :
    acquisitions (lease.called exports callee args).actions =
      acquisitions lease.actions ++
        (Action.acquisition? ⟨lease.guest, .call callee args
          (exports.function callee args lease.tripwire lease.guest).ending⟩).toList := by
  rw [← acquisitions_singleton, ← acquisitions_append]
  rfl

theorem copies_called (exports : Exports σ) (callee : Callee) (args : List UInt32)
    (lease : Lease σ) :
    copies (lease.called exports callee args).actions = copies lease.actions := by
  show copies (lease.actions ++ [_]) = _
  rw [copies_append]
  exact List.append_nil _

theorem acquisitions_allocated {lease : Lease σ} {region : Region}
    (hret : (exports.alloc [region.len] lease.tripwire lease.guest).ending = .returned region.ptr)
    (hne : region.ptr ≠ 0) (sensitivity : Sensitivity) :
    acquisitions (lease.allocated exports region sensitivity).actions =
      acquisitions lease.actions ++ [⟨.alloc, region⟩] := by
  refine (acquisitions_called exports .alloc [region.len] lease).trans ?_
  dsimp only [Exports.function]
  rw [hret]
  exact congrArg (_ ++ Option.toList ·) (if_neg hne)

/-- The guest function that a lease was called with handed over nothing. -/
theorem took_called {callee : Callee} {args : List UInt32} {lease after : Lease σ}
    (hnone : Action.acquisition? ⟨lease.guest, .call callee args
      (exports.function callee args lease.tripwire lease.guest).ending⟩ = none)
    (hactions : after.actions = (lease.called exports callee args).actions)
    (hheld : after.held = lease.held) : Took [] lease after where
  acquired := by rw [hactions, acquisitions_called, hnone]; rfl
  copied := by rw [hactions, copies_called]; exact (List.append_nil _).symm
  held := by rw [hheld]; exact (List.append_nil _).symm

theorem Took.trans {first second : List Gain} {lease middle after : Lease σ}
    (hfirst : Took first lease middle) (hsecond : Took second middle after) :
    Took (first ++ second) lease after where
  acquired := by rw [hsecond.acquired, hfirst.acquired, List.append_assoc, List.map_append]
  copied := by rw [hsecond.copied, hfirst.copied, List.append_assoc, List.filterMap_append]
  held := by rw [hsecond.held, hfirst.held, List.append_assoc, List.map_append]

theorem Took.refl (lease : Lease σ) : Took [] lease lease where
  acquired := (List.append_nil _).symm
  copied := (List.append_nil _).symm
  held := (List.append_nil _).symm

/-- A step acquires what it is labelled with. -/
theorem Advance.took {label : List Gain} {lease after : Lease σ}
    (hstep : Advance exports lease label after) : Took label lease after := by
  cases hstep with
  | denied size hnull =>
    exact took_called (Action.acquisition?_alloc_eq_none hnull) rfl rfl
  | placed region sensitivity bytes hret hne hlen =>
    have hcopied : copies (lease.allocated exports region sensitivity).actions =
        copies lease.actions := copies_called exports .alloc [region.len] lease
    refine ⟨?_, ?_, held_written _ _ _⟩
    · rw [actions_written, acquisitions_append, acquisitions_allocated hret hne]
      exact List.append_nil _
    · rw [actions_written, copies_append, hcopied]
      rfl
  | rejected entry args notes hnull hnotes =>
    exact took_called (Action.acquisition?_packed_eq_none hnull) rfl rfl
  | adopted entry args values region hret hregion =>
    refine ⟨(acquisitions_called exports (.packed entry) args lease).trans ?_,
      (copies_called exports (.packed entry) args lease).trans (List.append_nil _).symm, rfl⟩
    dsimp only [Exports.function]
    rw [hret]
    exact congrArg (fun found : Option Region =>
      acquisitions lease.actions ++ (found.map (Acquisition.mk (.packed entry))).toList) hregion
  | looked region =>
    refine ⟨?_, ?_, (List.append_nil _).symm⟩
    · exact acquisitions_append _ _
    · exact copies_append _ _

/-- A walk acquires the regions along its path. -/
theorem Path.took {gains : List Gain} {lease after : Lease σ}
    (hpath : Path exports lease gains after) : Took gains lease after := by
  induction hpath with
  | refl => exact .refl lease
  | tail _ hstep ih => exact ih.trans hstep.took

/-- What a region is marked as does not matter to what ignores it. -/
theorem map_markSecretIn {β : Type} {f : Held → β}
    (hsame : ∀ held : Held, f { held with sensitivity := .secret } = f held) (region : Region)
    (regions : List Held) : (markSecretIn region regions).map f = regions.map f := by
  induction regions with
  | nil => rfl
  | cons held rest ih =>
    unfold markSecretIn
    split
    · rw [List.map_cons, List.map_cons, hsame]
    · rw [List.map_cons, ih, List.map_cons]

/-! ## The release -/

variable {lease last : Lease σ} {regions : List Held} {releases : List (Release σ)}

/-- The release leaves the actions of its releases, one after the other. -/
theorem Releasing.actions (hloop : Releasing exports lease regions releases last) :
    last.actions = lease.actions ++ releases.flatMap Release.actions := by
  induction hloop with
  | done => exact (List.append_nil _).symm
  | stopped lease held rest hpanic => simp [Release.apply]
  | next lease held hcalm _ ih => rw [ih]; simp [Release.apply]

/-- The release leaves the events of its releases, one after the other. -/
theorem Releasing.events (hloop : Releasing exports lease regions releases last) :
    last.events = lease.events ++ releases.flatMap Release.events := by
  induction hloop with
  | done => exact (List.append_nil _).symm
  | stopped lease held rest hpanic => simp [Release.apply]
  | next lease held hcalm _ ih => rw [ih]; simp [Release.apply]

/-- The release gets to the regions in order, without leaving one out. -/
theorem Releasing.held_prefix (hloop : Releasing exports lease regions releases last) :
    releases.map Release.held <+: regions := by
  induction hloop with
  | done => exact List.nil_prefix
  | stopped lease held rest hpanic => exact ⟨rest, rfl⟩
  | next lease held hcalm _ ih => exact List.cons_prefix_cons.2 ⟨rfl, ih⟩

/-- Only the last release can panic. -/
theorem Releasing.calm_dropLast (hloop : Releasing exports lease regions releases last) :
    ∀ release ∈ releases.dropLast, release.isPanic = false := by
  induction hloop with
  | done | stopped => nofun
  | @next lease held rest releases last hcalm _ ih =>
    cases releases with
    | nil => nofun
    | cons second releases =>
      intro release hmem
      rw [List.dropLast_cons_cons] at hmem
      rcases List.mem_cons.1 hmem with rfl | hmem
      · exact hcalm
      · exact ih release hmem

/-- If nothing but the release of the last region panics, the release gets to every region. -/
theorem Releasing.held_eq (hloop : Releasing exports lease regions releases last)
    (hcalm : ∀ release ∈ releases.take (regions.length - 1), release.isPanic = false) :
    releases.map Release.held = regions := by
  induction hloop with
  | done => rfl
  | stopped lease held rest hpanic =>
    cases rest with
    | nil => rfl
    | cons second rest =>
      rw [hcalm _ List.mem_cons_self] at hpanic
      cases hpanic
  | @next lease held rest releases last _ _ ih =>
    have hrest : releases.map Release.held = rest := by
      refine ih fun release hmem => hcalm release ?_
      cases rest with
      | nil => cases hmem
      | cons second rest => exact List.mem_cons_of_mem _ hmem
    rw [List.map_cons, hrest]
    rfl

end Lease

end GuestBridge
