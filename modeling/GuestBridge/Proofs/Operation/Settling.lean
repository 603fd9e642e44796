import GuestBridge.Proofs.Operation.Cleanup

/-!
# How regions are given back, whatever they were used for

The operations of a session use their lease in a few fixed ways. The release does not depend on
that. After any sequence of uses (`Lease.Use`), the lease holds the regions that were acquired, in
order, each with the size that the guest is told (`Reaches.booked`), and the secrets among them are
those that the uses made secret (`holdsSecret_used`). They are given back one turn after another,
the last one first (`Lease.GivesBack`). `Lease.givesBack_settle` says so for every sequence of uses
and every guest. The release function may trap, change memory or panic at any turn; only a panic has
an effect on the turns after it, and then there are none.
-/

namespace GuestBridge

variable {σ : Type}

/-! ## What is due at the release -/

/-- What the guest is told when a region is given back. -/
def Held.due (held : Held) : UInt32 × UInt32 :=
  (held.region.ptr, held.sizeHint)

/-- What the guest has to be told when a region that it handed over is given back: its pointer and
the size that was requested, or zero for a result. -/
def Acquisition.due (acquisition : Acquisition) : UInt32 × UInt32 :=
  (acquisition.region.ptr, if acquisition.callee = .alloc then acquisition.region.len else 0)

/-- What the guest was told by a call of the release function. -/
def Dealloc.told (dealloc : Dealloc σ) : UInt32 × UInt32 :=
  (dealloc.ptr, dealloc.sizeHint)

namespace Release

/-- A release counts by how the call of the release function ended. -/
theorem ofActions_flatMap_actions (releases : List (Release σ)) :
    AllocationStats.ofActions (releases.flatMap actions) =
      ⟨0, 0, .ofNat (releases.countP (·.reply.ending.isReturn)),
        .ofNat (releases.countP (·.reply.ending.isTrap))⟩ := by
  simp only [AllocationStats.ofActions, allocations, adoptions, goodReleases, failedReleases,
    acquisitions_flatMap_actions, deallocs_flatMap_actions, List.countP_map]
  rfl

/-- Only a call that traps is reported as a warning, once. -/
theorem countP_warn_callEvents (release : Release σ) :
    release.callEvents.countP (·.level = .warn) =
      if release.reply.ending.isTrap then 1 else 0 := by
  unfold callEvents
  cases release.reply.ending <;> rfl

/-- What is overwritten in a release: the region, if it is a secret. -/
theorem wipes_actions (release : Release σ) :
    (wipes release.actions).map Wipe.region =
      ([release.held].filter (·.sensitivity = .secret)).map Held.region := by
  unfold actions Held.wipeActions
  rw [List.filter_singleton]
  cases release.held.sensitivity <;> rfl

theorem wipes_flatMap_actions (releases : List (Release σ)) :
    (wipes (releases.flatMap actions)).map Wipe.region =
      ((releases.map Release.held).filter (·.sensitivity = .secret)).map Held.region := by
  induction releases with
  | nil => rfl
  | cons release rest ih =>
    rw [List.flatMap_cons, wipes_append, List.map_append, ih, wipes_actions, ← List.map_append,
      ← List.filter_append]
    rfl

end Release

namespace Lease

variable {exports : Exports σ}

/-! ## Uses of a lease -/

/-- What can be done with a lease before everything is given back. -/
inductive Use
  /-- Bytes are to be copied to a region that the guest allocates for them. -/
  | place (bytes : Bytes) (sensitivity : Sensitivity)
  /-- A guest function is called, and its result is to be taken over. -/
  | take (entry : PackedExport) (args : List UInt32)
  /-- A region is to be copied out. -/
  | look (region : Region)
  /-- A region turns out to hold a secret. -/
  | mark (region : Region)

/-- The lease after one use, whether it succeeds, fails or panics. -/
def Use.apply (exports : Exports σ) (lease : Lease σ) : Use → Lease σ
  | place bytes sensitivity => final (allocBytes exports bytes sensitivity) lease
  | take entry args => final (callPacked exports entry args) lease
  | look region => final (read region) lease
  | mark region => final (markSecret region) lease

/-- The lease after a sequence of uses. -/
def used (exports : Exports σ) (uses : List Use) (lease : Lease σ) : Lease σ :=
  uses.foldl (Use.apply exports) lease

theorem Use.reaches (use : Use) (exports : Exports σ) (lease : Lease σ) :
    Reaches exports lease (use.apply exports lease) := by
  cases use with
  | place bytes sensitivity =>
    exact (Operation.follows_of_walks (.allocBytes exports bytes sensitivity) lease).1
  | take entry args => exact (Operation.follows_of_walks (.callPacked exports entry args) lease).1
  | look region => exact (Operation.follows_of_walks (.read region) lease).1
  | mark region => exact .single (.marked region)

theorem reaches_used (exports : Exports σ) (uses : List Use) (lease : Lease σ) :
    Reaches exports lease (used exports uses lease) := by
  induction uses generalizing lease with
  | nil => exact .refl
  | cons use rest ih => exact (use.reaches exports lease).trans (ih _)

/-! ## What is held -/

/-- The regions held are those that were acquired, in order, each with the size that the guest has
to be told. -/
structure Booked (lease : Lease σ) : Prop where
  region : lease.held.map Held.region = (acquisitions lease.actions).map Acquisition.region
  due : lease.held.map Held.due = (acquisitions lease.actions).map Acquisition.due

theorem Blank.booked {lease : Lease σ} (hblank : lease.Blank) : lease.Booked where
  region := by rw [hblank.held_nil, hblank.actions_nil]; rfl
  due := by rw [hblank.held_nil, hblank.actions_nil]; rfl

/-- A region is booked as the guest handed it over. -/
theorem Advance.due_eq {label : List Gain} {lease after : Lease σ}
    (hstep : Advance exports lease label after) :
    (label.map Gain.held).map Held.due = (label.map Gain.acquisition).map Acquisition.due := by
  cases hstep <;> rfl

theorem Advance.booked {label : List Gain} {lease after : Lease σ}
    (hstep : Advance exports lease label after) (hbooked : lease.Booked) : after.Booked where
  region := by
    rw [hstep.took.held, hstep.took.acquired, List.map_append, List.map_append, hbooked.region,
      List.map_map, List.map_map]
    rfl
  due := by
    rw [hstep.took.held, hstep.took.acquired, List.map_append, List.map_append, hbooked.due,
      hstep.due_eq]

theorem Reaches.booked {lease after : Lease σ} (hreach : Reaches exports lease after)
    (hbooked : lease.Booked) : after.Booked := by
  induction hreach with
  | refl => exact hbooked
  | tail _ hmove ih =>
    cases hmove with
    | advance hstep => exact hstep.booked ih
    | marked region =>
      exact ⟨(map_markSecretIn (fun _ => rfl) _ _).trans ih.region,
        (map_markSecretIn (fun _ => rfl) _ _).trans ih.due⟩

/-! ## What is secret -/

/-- A use makes a secret of a region: it marks a region that is held, or it acquires the region to
copy a secret there. -/
inductive Use.Conceals (exports : Exports σ) (lease : Lease σ) (region : Region) : Use → Prop
  | mark (hheld : region ∈ lease.held.map Held.region) :
      Conceals exports lease region (.mark region)
  | place (bytes : Bytes)
      (hacquired : acquisitions ((Use.place bytes .secret).apply exports lease).actions =
        acquisitions lease.actions ++ [⟨.alloc, region⟩]) :
      Conceals exports lease region (.place bytes .secret)

/-- One of a sequence of uses makes a secret of a region. -/
def Concealed (exports : Exports σ) (uses : List Use) (lease : Lease σ) (region : Region) : Prop :=
  ∃ early use late, uses = early ++ use :: late ∧
    use.Conceals exports (used exports early lease) region

/-- A region is held as a secret. -/
def HoldsSecret (lease : Lease σ) (region : Region) : Prop :=
  ∃ held ∈ lease.held, held.region = region ∧ held.sensitivity = .secret

/-- Marking makes a secret of the marked region, if it is there, and of no other. -/
theorem exists_secret_markSecretIn (marked region : Region) (regions : List Held) :
    (∃ held ∈ markSecretIn marked regions, held.region = region ∧ held.sensitivity = .secret) ↔
      (∃ held ∈ regions, held.region = region ∧ held.sensitivity = .secret) ∨
        (marked = region ∧ marked ∈ regions.map Held.region) := by
  induction regions with
  | nil => simp [markSecretIn]
  | cons held rest ih =>
    rw [List.map_cons, List.mem_cons]
    unfold markSecretIn
    split
    · next hfound =>
      simp only [List.exists_mem_cons_iff, hfound, true_or, and_true]
      rw [or_right_comm, or_iff_right_of_imp And.left]
    · next hother =>
      simp only [List.exists_mem_cons_iff, ih, Ne.symm hother, false_or, or_assoc]

/-- The secrets held are those held before and those among the regions acquired. -/
theorem Took.holdsSecret_iff {gains : List Gain} {lease after : Lease σ}
    (htook : Took gains lease after) {region : Region} :
    after.HoldsSecret region ↔ lease.HoldsSecret region ∨
      ∃ gain ∈ gains, gain.held.region = region ∧ gain.held.sensitivity = .secret := by
  unfold HoldsSecret
  rw [htook.held]
  simp only [List.mem_append, List.mem_map, or_and_right, exists_or, exists_exists_and_eq_and]

/-- Where one region is planned, it is acquired or none is. -/
theorem eq_nil_or_singleton_of_planned {gains : List Gain} {milestone : Milestone}
    (hplanned : gains.map Gain.milestone <+: [milestone]) :
    gains = [] ∨ ∃ gain, gains = [gain] ∧ gain.milestone = milestone := by
  cases gains with
  | nil => exact .inl rfl
  | cons gain rest =>
    obtain ⟨hfirst, hrest⟩ := List.cons_prefix_cons.1 hplanned
    have hnil := List.map_eq_nil_iff.1 (List.prefix_nil.1 hrest)
    exact .inr ⟨gain, by rw [hnil], hfirst⟩

/-- Bytes that are placed make a secret of the region acquired for them if they are a secret. -/
theorem Use.conceals_place_iff {bytes : Bytes} {sensitivity : Sensitivity} {lease : Lease σ}
    {gains : List Gain} (hplanned : gains.map Gain.milestone <+: [⟨.alloc, sensitivity, some bytes⟩])
    (htook : Took gains lease ((Use.place bytes sensitivity).apply exports lease))
    (region : Region) :
    (Use.place bytes sensitivity).Conceals exports lease region ↔
      ∃ gain ∈ gains, gain.held.region = region ∧ gain.held.sensitivity = .secret := by
  rcases eq_nil_or_singleton_of_planned hplanned with rfl | ⟨gain, rfl, hgain⟩
  · refine ⟨fun hconceals => ?_, nofun⟩
    cases hconceals with
    | place _ hacquired =>
      have hlist := List.append_cancel_left (htook.acquired.symm.trans hacquired)
      cases hlist
  · have hsensitivity : gain.held.sensitivity = sensitivity :=
      congrArg Milestone.sensitivity hgain
    have hcallee : gain.callee = .alloc := congrArg Milestone.callee hgain
    simp only [List.mem_singleton, exists_eq_left, hsensitivity]
    constructor
    · intro hconceals
      cases hconceals with
      | place _ hacquired =>
        have hlist := List.append_cancel_left (htook.acquired.symm.trans hacquired)
        exact ⟨congrArg Acquisition.region (List.cons.inj hlist).1, rfl⟩
    · rintro ⟨rfl, rfl⟩
      exact .place bytes (htook.acquired.trans (by rw [← hcallee]; rfl))

/-- One use adds to the secrets held what it makes a secret of. -/
theorem Use.holdsSecret_apply (use : Use) (exports : Exports σ) (lease : Lease σ)
    (region : Region) :
    (use.apply exports lease).HoldsSecret region ↔
      lease.HoldsSecret region ∨ use.Conceals exports lease region := by
  cases use with
  | place bytes sensitivity =>
    obtain ⟨-, gains, hplanned, htook⟩ :=
      Operation.follows_of_walks (.allocBytes exports bytes sensitivity) lease
    rw [Use.conceals_place_iff hplanned htook region]
    exact htook.holdsSecret_iff
  | take entry args =>
    obtain ⟨-, gains, hplanned, htook⟩ :=
      Operation.follows_of_walks (.callPacked exports entry args) lease
    refine htook.holdsSecret_iff.trans (or_congr_right ⟨?_, nofun⟩)
    rintro ⟨gain, hmem, -, hsecret⟩
    rcases eq_nil_or_singleton_of_planned hplanned with rfl | ⟨_, rfl, hgain⟩
    · cases hmem
    · obtain rfl := List.mem_singleton.1 hmem
      have hplain : gain.held.sensitivity = .plain := congrArg Milestone.sensitivity hgain
      rw [hplain] at hsecret
      cases hsecret
  | look target =>
    have hwalk : Walks exports [] (read target) := .read target
    obtain ⟨-, gains, hplanned, htook⟩ := Operation.follows_of_walks hwalk lease
    refine htook.holdsSecret_iff.trans (or_congr_right ⟨?_, nofun⟩)
    rw [List.map_eq_nil_iff.1 (List.prefix_nil.1 hplanned)]
    nofun
  | mark marked =>
    refine (exists_secret_markSecretIn marked region lease.held).trans (or_congr_right ?_)
    constructor
    · rintro ⟨rfl, hheld⟩
      exact .mark hheld
    · intro hconceals
      cases hconceals with
      | mark hheld => exact ⟨rfl, hheld⟩

/-- What is held as a secret after a sequence of uses is what they made a secret of. -/
theorem holdsSecret_used {lease : Lease σ} (hblank : lease.Blank) (exports : Exports σ)
    (uses : List Use) (region : Region) :
    (used exports uses lease).HoldsSecret region ↔ Concealed exports uses lease region := by
  -- On the last use, since whether a use makes a secret depends on the uses before it.
  induction uses using List.reverseRecOn with
  | nil =>
    have hnone : ¬lease.HoldsSecret region := by
      rintro ⟨held, hmem, -⟩
      rw [hblank.held_nil] at hmem
      cases hmem
    refine iff_of_false hnone ?_
    rintro ⟨early, use, late, hsplit, -⟩
    cases early <;> cases hsplit
  | append_singleton uses use ih =>
    have hlast : used exports (uses ++ [use]) lease = use.apply exports (used exports uses lease) :=
      List.foldl_concat _ _ _ _
    rw [hlast, use.holdsSecret_apply, ih]
    constructor
    · rintro (⟨early, found, late, rfl, hconceals⟩ | hconceals)
      · exact ⟨early, found, late ++ [use], by rw [List.append_assoc]; rfl, hconceals⟩
      · exact ⟨uses, use, [], rfl, hconceals⟩
    · rintro ⟨early, found, late, hsplit, hconceals⟩
      rcases List.eq_nil_or_concat late with rfl | ⟨later, last, rfl⟩
      · obtain ⟨rfl, hlist⟩ := List.append_inj' hsplit rfl
        cases hlist
        exact .inr hconceals
      · rw [List.concat_eq_append, ← List.cons_append, ← List.append_assoc] at hsplit
        obtain ⟨rfl, -⟩ := List.append_inj' hsplit rfl
        exact .inl ⟨early, found, later, rfl, hconceals⟩

/-! ## Turns -/

/-- The regions held by a lease are given back in turns. -/
structure GivesBack (exports : Exports σ) (lease last : Lease σ) (turns : List (Release σ)) :
    Prop where
  /-- The regions are those that were acquired. -/
  booked : lease.Booked
  /-- Each turn begins where the turn before it ended, and takes the reply of the guest. -/
  releasing : Releasing exports lease lease.held.reverse turns last
  /-- The regions get their turns from the last one down, and none is left out. -/
  order : turns.map Release.held = lease.held.reverse.take turns.length
  /-- Unless there is a panic, every region gets its turn, whatever fails. -/
  complete : (∀ turn ∈ turns, turn.isPanic = false) → turns.length = lease.held.length
  /-- A turn with a panic is the last one. -/
  stopped : ∀ early turn late, turns = early ++ turn :: late → turn.isPanic = true → late = []
  /-- In a turn, the region is overwritten if it is a secret, then the release function is called,
  and nothing else is done. -/
  actions : last.actions = lease.actions ++ turns.flatMap fun turn =>
    (if turn.held.sensitivity = .secret then [⟨turn.before, .wipe turn.held.region⟩] else []) ++
      [⟨turn.held.prepare turn.before,
        .call .dealloc [turn.held.region.ptr, turn.held.sizeHint] turn.reply.ending⟩]
  /-- The release function finds the whole region of a secret overwritten. -/
  found : ∀ turn ∈ turns, match turn.held.sensitivity with
    | .secret => Overwritten turn.held.region turn.before (turn.held.prepare turn.before)
    | .plain => turn.held.prepare turn.before = turn.before
  /-- All that the guest is told by the release function is what is due for the regions acquired,
  the last one first. -/
  calls : (deallocs last.actions).map Dealloc.told =
    ((acquisitions lease.actions).map Acquisition.due).reverse.take turns.length
  /-- All that is overwritten are the secrets among the regions that get their turn. -/
  wiped : (wipes last.actions).map Wipe.region =
    ((lease.held.reverse.take turns.length).filter (·.sensitivity = .secret)).map Held.region
  /-- A call that returns counts as a release, a call that traps as a failure. -/
  stats : last.stats = lease.stats.add
    ⟨0, 0, .ofNat (turns.countP (·.reply.ending.isReturn)),
      .ofNat (turns.countP (·.reply.ending.isTrap))⟩
  /-- Reported are a secret that leaves guest memory, what the host noticed during the call, and how
  the call ended. -/
  events : last.events = lease.events ++ turns.flatMap fun turn =>
    turn.held.wipeEvents turn.before ++ turn.reply.notices.map .noticed ++ turn.callEvents
  /-- A call that traps is reported as one warning, and no other call is. -/
  warned : ∀ turn ∈ turns, turn.callEvents.countP (·.level = .warn) =
    if turn.reply.ending.isTrap then 1 else 0

variable {lease last : Lease σ} {regions : List Held} {turns : List (Release σ)}

/-- The loop gets to the first regions of the list. -/
theorem Releasing.order (hloop : Releasing exports lease regions turns last) :
    turns.map Release.held = regions.take turns.length := by
  have htake := List.prefix_iff_eq_take.1 hloop.held_prefix
  rwa [List.length_map] at htake

/-- The loop ends with a turn that panics. -/
theorem Releasing.late_eq_nil (hloop : Releasing exports lease regions turns last)
    {early late : List (Release σ)} {turn : Release σ} (hsplit : turns = early ++ turn :: late)
    (hpanic : turn.isPanic = true) : late = [] := by
  by_contra hlate
  have hmem : turn ∈ turns.dropLast := by
    rw [hsplit, List.dropLast_append_of_ne_nil (List.cons_ne_nil _ _),
      List.dropLast_cons_of_ne_nil hlate]
    exact List.mem_append_right _ List.mem_cons_self
  rw [hloop.calm_dropLast turn hmem] at hpanic
  cases hpanic

/-- The loop gets to every region if there is no panic. -/
theorem Releasing.length_of_calm (hloop : Releasing exports lease regions turns last)
    (hcalm : ∀ turn ∈ turns, turn.isPanic = false) : turns.length = regions.length := by
  have hheld := hloop.held_eq fun turn hmem => hcalm turn (List.mem_of_mem_take hmem)
  rw [← List.length_map Release.held, hheld]

/-- The loop changes the counters by its turns. -/
theorem Releasing.stats_eq (hloop : Releasing exports lease regions turns last)
    {base : AllocationStats} (hcounted : Counted base lease) :
    last.stats = lease.stats.add (.ofActions (turns.flatMap Release.actions)) := by
  have hlast : last.stats = _ := hloop.counted hcounted
  have hlease : lease.stats = _ := hcounted
  rw [hlast, hlease, hloop.actions, AllocationStats.ofActions_append, AllocationStats.add_assoc]

/-- A loop over what a lease holds, from the last region down, gives it back. -/
theorem Releasing.givesBack (hloop : Releasing exports lease lease.held.reverse turns last)
    (hbooked : lease.Booked) (hintact : lease.Intact) {base : AllocationStats}
    (hcounted : Counted base lease) : GivesBack exports lease last turns where
  booked := hbooked
  releasing := hloop
  order := hloop.order
  complete hcalm := (hloop.length_of_calm hcalm).trans List.length_reverse
  stopped _ _ _ hsplit hpanic := hloop.late_eq_nil hsplit hpanic
  actions := hloop.actions
  found turn _ := by
    cases hsensitivity : turn.held.sensitivity with
    | secret => exact Release.overwritten_of_secret hsensitivity
    | plain => exact Held.prepare_of_plain hsensitivity _
  calls := by
    have htold : turns.map (Dealloc.told ∘ Release.dealloc) =
        (turns.map Release.held).map Held.due := by
      rw [List.map_map]
      rfl
    rw [hloop.actions, deallocs_append, hintact.deallocs_nil, List.nil_append,
      Release.deallocs_flatMap_actions, List.map_map, htold, hloop.order, List.map_take,
      List.map_reverse, hbooked.due]
  wiped := by
    rw [hloop.actions, wipes_append, hintact.wipes_nil, List.nil_append,
      Release.wipes_flatMap_actions, hloop.order]
  stats := by rw [hloop.stats_eq hcounted, Release.ofActions_flatMap_actions]
  events := hloop.events
  warned turn _ := turn.countP_warn_callEvents

/-- After any uses of a lease, however they went and whatever comes of the operation, all regions
that were acquired are given back in turns, unless a panic stops that. The secrets among them are
those that the uses made secret. -/
theorem givesBack_settle {α : Type} (exports : Exports σ) (guest : Instance σ)
    (tripwire : Option Tripwire) (stats : AllocationStats) (uses : List Use)
    (outcome : Except Abort α) :
    let fresh := start guest tripwire stats
    let lease := used exports uses fresh
    (∀ region, lease.HoldsSecret region ↔ Concealed exports uses fresh region) ∧
      ∃ turns, GivesBack exports lease (settle exports outcome lease).1 turns := by
  intro fresh lease
  have hblank : fresh.Blank := blank_start guest tripwire stats
  have hreach : Reaches exports fresh lease := reaches_used exports uses fresh
  have hcounted : Counted stats fresh := (AllocationStats.add_ofActions_nil stats).symm
  obtain ⟨turns, hloop⟩ := releasing_releaseAll exports lease.held.reverse lease
  refine ⟨holdsSecret_used hblank exports uses, turns, ?_⟩
  rw [Operation.settle_eq]
  exact hloop.givesBack (hreach.booked hblank.booked) (hreach.intact hblank.intact)
    (hreach.counted hcounted)

/-- The frail guest panics at the third of four turns, so the region acquired first is left behind.
The new key is overwritten at its turn. -/
example :
    let lease := used frailExports [.place [0x78] .secret, .take .getAddress [],
      .place [0x79, 0x7A] .plain, .take .newPrivateKey [], .mark ⟨1024, 59⟩]
      (start frailGuest none .zero)
    let last := (settle frailExports (.ok ()) lease).1
    (deallocs last.actions).map Dealloc.told = [(1024, 0), (4096, 2), (2048, 0)] ∧
      (wipes last.actions).map Wipe.region = [⟨1024, 59⟩] ∧ last.stats = ⟨2, 2, 2, 0⟩ := by
  decide

end Lease

end GuestBridge
