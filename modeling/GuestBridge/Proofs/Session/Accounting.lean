import GuestBridge.Proofs.Operation.Course

/-!
# The counters of a session add up

Each operation changes the counters of its session as its actions tell (`Course.stats_eq`): one for
each region acquired, one for each call of the release function that returned or trapped. An
operation gives back all that it acquired, except when the release function panics: then the region
at hand and those not reached yet are stranded (`Course.balance`). Over a run of operations both add
up (`stats_serveAll`, `totals_of_explained`).
-/

namespace GuestBridge

/-- Whether a call returned. -/
def Ending.isReturn {α : Type} : Ending α → Bool
  | .returned _ => true
  | _ => false

/-- Whether a call trapped. -/
def Ending.isTrap {α : Type} : Ending α → Bool
  | .trapped _ => true
  | _ => false

/-- A call that did not panic returned or trapped. -/
theorem Ending.return_add_trap {α : Type} {ending : Ending α} (hcalm : ending.isPanic = false) :
    (if ending.isReturn = true then 1 else 0) + (if ending.isTrap = true then 1 else 0) = 1 := by
  cases ending with
  | returned | trapped => rfl
  | panicked payload => cases hcalm

/-- A call that panicked neither returned nor trapped. -/
theorem Ending.not_return_nor_trap {α : Type} {ending : Ending α} (hpanic : ending.isPanic = true) :
    ending.isReturn = false ∧ ending.isTrap = false := by
  cases ending with
  | returned | trapped => cases hpanic
  | panicked payload => exact ⟨rfl, rfl⟩

/-! ## What the actions count -/

section
variable {σ : Type}

/-- How many regions the guest allocated for the host. -/
def allocations (actions : List (Action σ)) : Nat :=
  (acquisitions actions).countP (·.callee = .alloc)

/-- How many results the host took over. -/
def adoptions (actions : List (Action σ)) : Nat :=
  (acquisitions actions).countP (·.callee ≠ .alloc)

/-- How many calls of the release function returned. -/
def goodReleases (actions : List (Action σ)) : Nat :=
  (deallocs actions).countP (·.ending.isReturn)

/-- How many calls of the release function trapped. -/
def failedReleases (actions : List (Action σ)) : Nat :=
  (deallocs actions).countP (·.ending.isTrap)

/-- Whether a call of the release function panicked. -/
def releasePanicked (actions : List (Action σ)) : Bool :=
  (deallocs actions).any (·.ending.isPanic)

/-- How many regions an operation with these actions left behind. None, unless a call of the release
function panicked: then the region that was to be released by it, and all those that were acquired
but not reached yet. -/
def stranded (actions : List (Action σ)) : Nat :=
  if releasePanicked actions then
    1 + ((acquisitions actions).length - (deallocs actions).length)
  else 0

theorem allocations_add_adoptions (actions : List (Action σ)) :
    allocations actions + adoptions actions = (acquisitions actions).length := by
  rw [List.length_eq_countP_add_countP (fun acquisition => acquisition.callee = .alloc)]
  simp [allocations, adoptions]

end

namespace AllocationStats

/-- Two sets of counters added up. -/
def add (first second : AllocationStats) : AllocationStats where
  allocated := first.allocated + second.allocated
  adopted := first.adopted + second.adopted
  released := first.released + second.released
  releaseFailures := first.releaseFailures + second.releaseFailures

/-- What actions add to the counters. -/
def ofActions {σ : Type} (actions : List (Action σ)) : AllocationStats where
  allocated := .ofNat (allocations actions)
  adopted := .ofNat (adoptions actions)
  released := .ofNat (goodReleases actions)
  releaseFailures := .ofNat (failedReleases actions)

variable {σ : Type}

theorem add_assoc (first second third : AllocationStats) :
    (first.add second).add third = first.add (second.add third) := by
  simp only [add, UInt64.add_assoc]

theorem zero_add (stats : AllocationStats) : zero.add stats = stats := by
  simp only [add, zero, UInt64.zero_add]

theorem add_ofActions_nil (stats : AllocationStats) :
    stats.add (ofActions ([] : List (Action σ))) = stats := by
  show (⟨_ + 0, _ + 0, _ + 0, _ + 0⟩ : AllocationStats) = stats
  simp only [UInt64.add_zero]

theorem ofActions_append (first second : List (Action σ)) :
    ofActions (first ++ second) = (ofActions first).add (ofActions second) := by
  simp only [ofActions, add, allocations, adoptions, goodReleases, failedReleases,
    acquisitions_append, deallocs_append, List.countP_append, UInt64.ofNat_add]

end AllocationStats

namespace Lease

variable {σ : Type} {exports : Exports σ}

/-- The counters are those at the start of the operation, changed as its actions tell. -/
def Counted (base : AllocationStats) (lease : Lease σ) : Prop :=
  lease.stats = base.add (.ofActions lease.actions)

/-- A change of the lease keeps the counters right if they change as the new actions tell. -/
theorem Counted.push {base : AllocationStats} {lease after : Lease σ} (hcounted : Counted base lease)
    {actions : List (Action σ)} (hactions : after.actions = lease.actions ++ actions)
    (hstats : after.stats = lease.stats.add (.ofActions actions)) : Counted base after := by
  unfold Counted at hcounted ⊢
  rw [hstats, hcounted, hactions, AllocationStats.ofActions_append, AllocationStats.add_assoc]

/-- Actions that neither acquire a region nor release one do not count. -/
theorem add_ofActions_of_silent (stats : AllocationStats) {action : Action σ}
    (hacquired : action.acquisition? = none) (hreleased : action.dealloc? = none) :
    stats.add (.ofActions [action]) = stats := by
  have hnone : AllocationStats.ofActions [action] = .ofActions ([] : List (Action σ)) := by
    simp [AllocationStats.ofActions, allocations, adoptions, goodReleases, failedReleases,
      acquisitions, deallocs, hacquired, hreleased]
  rw [hnone, AllocationStats.add_ofActions_nil]

/-- An action that acquires a region counts once, by the function that handed it over. -/
theorem ofActions_of_acquisition {action : Action σ} {acquisition : Acquisition}
    (hacquired : action.acquisition? = some acquisition) (hreleased : action.dealloc? = none) :
    AllocationStats.ofActions [action] =
      if acquisition.callee = .alloc then ⟨1, 0, 0, 0⟩ else ⟨0, 1, 0, 0⟩ := by
  by_cases hcallee : acquisition.callee = .alloc <;>
    simp [AllocationStats.ofActions, allocations, adoptions, goodReleases, failedReleases,
      acquisitions, deallocs, hacquired, hreleased, hcallee]

theorem Advance.counted {base : AllocationStats} {label : List Gain} {lease after : Lease σ}
    (hstep : Advance exports lease label after) (hcounted : Counted base lease) :
    Counted base after := by
  cases hstep with
  | denied size hnull =>
    exact hcounted.push rfl
      (add_ofActions_of_silent _ (Action.acquisition?_alloc_eq_none hnull) rfl).symm
  | rejected entry args notes hnull hnotes =>
    exact hcounted.push rfl
      (add_ofActions_of_silent _ (Action.acquisition?_packed_eq_none hnull) rfl).symm
  | placed region sensitivity bytes hret hne hlen =>
    have hacquired : Action.acquisition? ⟨lease.guest, .call .alloc [region.len]
        (exports.alloc [region.len] lease.tripwire lease.guest).ending⟩ =
        some ⟨.alloc, region⟩ := by
      rw [hret]
      exact if_neg hne
    have hallocated : Counted base (lease.allocated exports region sensitivity) := by
      refine hcounted.push rfl ((congrArg _ (ofActions_of_acquisition hacquired rfl)).trans ?_).symm
      simp [AllocationStats.add, Lease.allocated, acquire, called, afterCall]
    exact hallocated.push (actions_written _ _ _)
      ((stats_written _ _ _).trans (add_ofActions_of_silent _ rfl rfl).symm)
  | adopted entry args values region hret hregion =>
    have hacquired : Action.acquisition? ⟨lease.guest, .call (.packed entry) args
        (exports.packed entry args lease.tripwire lease.guest).ending⟩ =
        some ⟨.packed entry, region⟩ := by
      rw [hret]
      exact congrArg (Option.map _) hregion
    refine hcounted.push rfl ((congrArg _ (ofActions_of_acquisition hacquired rfl)).trans ?_).symm
    simp [AllocationStats.add, Lease.adopted, acquire, called, afterCall]
  | looked region =>
    exact hcounted.push rfl (add_ofActions_of_silent _ rfl rfl).symm

theorem Reaches.counted {base : AllocationStats} {lease after : Lease σ}
    (hreach : Reaches exports lease after) (hcounted : Counted base lease) :
    Counted base after := by
  induction hreach with
  | refl => exact hcounted
  | tail _ hmove ih =>
    cases hmove with
    | advance hstep => exact hstep.counted ih
    | marked region => exact ih

/-- A release counts once if the call returned or trapped, and not if it panicked. -/
theorem count_eq_add (release : Release σ) (stats : AllocationStats) :
    release.count stats = stats.add (.ofActions release.actions) := by
  have hcall : AllocationStats.ofActions release.actions =
      ⟨0, 0, if release.reply.ending.isReturn then 1 else 0,
        if release.reply.ending.isTrap then 1 else 0⟩ := by
    simp only [AllocationStats.ofActions, allocations, adoptions, goodReleases, failedReleases,
      release.acquisitions_actions, release.deallocs_actions, List.countP_singleton,
      Release.dealloc]
    cases release.reply.ending <;> rfl
  rw [hcall, Release.count]
  cases release.reply.ending <;> simp [AllocationStats.add, Ending.isReturn, Ending.isTrap]

theorem Releasing.counted {base : AllocationStats} {lease last : Lease σ} {regions : List Held}
    {releases : List (Release σ)} (hloop : Releasing exports lease regions releases last)
    (hcounted : Counted base lease) : Counted base last := by
  induction hloop with
  | done => exact hcounted
  | stopped lease held rest hpanic => exact hcounted.push rfl (count_eq_add _ _)
  | next lease held hcalm _ ih => exact ih (hcounted.push rfl (count_eq_add _ _))

/-- The release gets rid of all regions, by a call that returned or trapped for each of them, or a
panic strands one and those after it. -/
theorem Releasing.length_eq {lease last : Lease σ} {regions : List Held}
    {releases : List (Release σ)} (hloop : Releasing exports lease regions releases last) :
    regions.length =
      (releases.map Release.dealloc).countP (·.ending.isReturn) +
      (releases.map Release.dealloc).countP (·.ending.isTrap) +
      if (releases.map Release.dealloc).any (·.ending.isPanic) then
        1 + (regions.length - (releases.map Release.dealloc).length)
      else 0 := by
  induction hloop with
  | done => rfl
  | stopped lease held rest hpanic =>
    have hending : (Release.of exports held lease).dealloc.ending.isPanic = true := hpanic
    obtain ⟨hreturn, htrap⟩ := Ending.not_return_nor_trap hending
    rw [List.map_singleton, List.any_cons, hending, Bool.true_or, if_pos rfl,
      List.countP_singleton, List.countP_singleton, hreturn, htrap, if_neg Bool.false_ne_true,
      List.length_cons, List.length_singleton]
    omega
  | next lease held hcalm _ ih =>
    have hending : (Release.of exports held lease).dealloc.ending.isPanic = false := hcalm
    -- The region in front is counted by exactly one of the two counters.
    have hone := Ending.return_add_trap hending
    rw [List.map_cons, List.any_cons, hending, Bool.false_or, List.countP_cons, List.countP_cons,
      List.length_cons, List.length_cons, Nat.add_sub_add_right]
    omega

end Lease

namespace Operation

open Lease

variable {σ : Type} {exports : Exports σ} {request : Request} {start last : Lease σ}

/-- An operation changes the counters as its actions tell. -/
theorem Course.stats_eq (course : Course exports request start last) :
    last.stats = start.stats.add (.ofActions last.actions) := by
  have hbase : Counted start.stats start := by
    rw [Counted, course.blank.actions_nil, AllocationStats.add_ofActions_nil]
  have hsettled := course.releasing.counted (course.reaches.counted hbase)
  rw [congrArg Lease.stats course.last_eq, congrArg Lease.actions course.last_eq]
  exact hsettled

/-- An operation gets rid of what it acquired, except for what a panic strands. -/
theorem Course.balance (course : Course exports request start last) :
    allocations last.actions + adoptions last.actions =
      goodReleases last.actions + failedReleases last.actions + stranded last.actions := by
  have hlength : (acquisitions last.actions).length = course.middle.held.reverse.length := by
    rw [course.acquisitions_eq, course.held_eq, List.length_map, List.length_reverse,
      List.length_map]
  unfold goodReleases failedReleases stranded releasePanicked
  rw [allocations_add_adoptions, course.deallocs_eq, hlength]
  exact course.releasing.length_eq

theorem length_plan_le (request : Request) : request.plan.length ≤ 3 := by
  cases request <;> simp [Request.plan]

/-- Few regions were acquired, and it is known what became of each: it was released, its release
failed, or it was stranded. -/
structure Explained (actions : List (Action σ)) : Prop where
  few : (acquisitions actions).length ≤ 3
  balance : allocations actions + adoptions actions =
    goodReleases actions + failedReleases actions + stranded actions

/-- The accounts of an operation are in order: the counters changed as its actions tell, and these
are explained. -/
structure Accounted (base : AllocationStats) (actions : List (Action σ)) (stats : AllocationStats) :
    Prop extends Explained actions where
  stats_eq : stats = base.add (.ofActions actions)

/-- The accounts of an operation that did nothing are in order. -/
theorem accounted_nil (stats : AllocationStats) : Accounted stats ([] : List (Action σ)) stats :=
  ⟨⟨Nat.zero_le 3, rfl⟩, (AllocationStats.add_ofActions_nil stats).symm⟩

theorem Course.accounted (course : Course exports request start last) :
    Accounted start.stats last.actions last.stats :=
  ⟨⟨course.length_acquisitions_le.trans (length_plan_le request), course.balance⟩,
    course.stats_eq⟩

end Operation

/-! ## Runs -/

namespace AllocationStats

/-- If nothing is stranded, what is outstanding are the regions whose release failed. -/
theorem outstanding_eq {stats : AllocationStats}
    (hfits : stats.allocated.toNat + stats.adopted.toNat < 2 ^ 64)
    (hsum : stats.allocated.toNat + stats.adopted.toNat =
      stats.released.toNat + stats.releaseFailures.toNat) :
    stats.outstanding = stats.releaseFailures ∧
      (stats.isBalanced = true ↔ stats.releaseFailures = 0) := by
  have hacquired : stats.acquired.toNat = stats.released.toNat + stats.releaseFailures.toNat := by
    rw [acquired, UInt64.toNat_add, Nat.mod_eq_of_lt hfits, hsum]
  have hzero : stats.acquired = stats.released ↔ stats.releaseFailures = 0 := by
    rw [← UInt64.toNat_inj, ← UInt64.toNat_inj, hacquired]
    exact Nat.add_eq_left
  refine ⟨?_, beq_iff_eq.trans hzero⟩
  unfold outstanding
  split
  · next hle =>
    have hnone := UInt64.le_iff_toNat_le.1 hle
    refine (hzero.1 (UInt64.toNat_inj.1 ?_)).symm
    omega
  · next hlt =>
    have hle : stats.released ≤ stats.acquired := UInt64.le_iff_toNat_le.2 (by omega)
    rw [← UInt64.toNat_inj, UInt64.toNat_sub_of_le _ _ hle]
    omega

end AllocationStats

namespace Session

variable {σ : Type}

/-- A session as it is when it was opened: nothing has happened to guest memory yet. -/
def fresh (id : UInt64) (exports : Exports σ) (guest : Instance σ) : Session σ :=
  ⟨id, some ⟨exports, guest, .zero⟩⟩

/-- Serves requests one after the other. Each finds the session and the tripwire as the one before
left them. -/
def serveAll (session : Session σ) (tripwire : Option Tripwire) :
    List Request → List (SessionReport σ Product)
  | [] => []
  | request :: rest =>
    let report := session.serve tripwire request
    report :: serveAll report.session report.tripwire rest

@[simp] theorem length_serveAll (session : Session σ) (tripwire : Option Tripwire)
    (requests : List Request) : (session.serveAll tripwire requests).length = requests.length := by
  induction requests generalizing session tripwire with
  | nil => rfl
  | cons request rest ih => rw [serveAll, List.length_cons, List.length_cons, ih]

/-- An operation leaves an open session open, with its accounts in order. -/
theorem live_serve {session : Session σ} {live : LiveGuest σ} (hlive : session.live = some live)
    (tripwire : Option Tripwire) (request : Request) :
    ∃ after, (session.serve tripwire request).session.live = some after ∧
      Operation.Accounted live.stats (session.serve tripwire request).actions after.stats := by
  rcases serve_cases session tripwire request with
    ⟨hactions, -, hsession⟩ | ⟨live', last, hlive', ⟨course⟩, hactions, -, hafter⟩
  · rw [hactions, hsession]
    exact ⟨live, hlive, Operation.accounted_nil live.stats⟩
  · obtain rfl : live = live' := Option.some.inj (hlive.symm.trans hlive')
    rw [hactions, hafter]
    exact ⟨_, rfl, course.accounted⟩

theorem stats_of_live {session : Session σ} {live : LiveGuest σ} (hlive : session.live = some live) :
    session.stats = .ok live.stats := by
  rw [stats, hlive]

/-- All that was done to the guest in operations, in order. -/
def actionsOf (reports : List (SessionReport σ Product)) : List (Action σ) :=
  reports.flatMap SessionReport.actions

/-- How many regions operations left behind because the release function panicked. -/
def strandedIn (reports : List (SessionReport σ Product)) : Nat :=
  (reports.map fun report => stranded report.actions).sum

/-- After each operation of a run, the counters are what all actions so far tell. -/
theorem stats_serveAll {requests : List Request} {session : Session σ} {live : LiveGuest σ}
    (hlive : session.live = some live) {tripwire : Option Tripwire}
    {before after : List (SessionReport σ Product)} {report : SessionReport σ Product}
    (hsplit : session.serveAll tripwire requests = before ++ report :: after) :
    report.session.stats =
        .ok (live.stats.add (.ofActions (actionsOf (before ++ [report])))) ∧
      ∀ earlier ∈ before ++ [report], Operation.Explained earlier.actions := by
  -- The first operation leaves a session from which the rest is served, so the session varies.
  induction requests generalizing session live tripwire before with
  | nil => cases before <;> cases hsplit
  | cons request rest ih =>
    obtain ⟨next, hnext, haccounted⟩ := live_serve hlive tripwire request
    rw [serveAll] at hsplit
    cases before with
    | nil =>
      obtain ⟨rfl, -⟩ := List.cons.inj hsplit
      refine ⟨?_, ?_⟩
      · rw [stats_of_live hnext, haccounted.stats_eq, actionsOf, List.nil_append,
          List.flatMap_singleton]
      · intro earlier hmem
        rw [List.mem_singleton.1 hmem]
        exact haccounted.toExplained
    | cons first before =>
      obtain ⟨rfl, hrest⟩ := List.cons.inj hsplit
      obtain ⟨hstats, hexplained⟩ := ih hnext hrest
      refine ⟨?_, ?_⟩
      · rw [hstats, haccounted.stats_eq, AllocationStats.add_assoc,
          ← AllocationStats.ofActions_append]
        rfl
      · intro earlier hmem
        rcases List.mem_cons.1 hmem with rfl | hmem
        · exact haccounted.toExplained
        · exact hexplained earlier hmem

/-- Explained operations add up. -/
theorem totals_of_explained {reports : List (SessionReport σ Product)}
    (hexplained : ∀ report ∈ reports, Operation.Explained report.actions) :
    allocations (actionsOf reports) + adoptions (actionsOf reports) =
        goodReleases (actionsOf reports) + failedReleases (actionsOf reports) +
          strandedIn reports ∧
      allocations (actionsOf reports) + adoptions (actionsOf reports) ≤ 3 * reports.length := by
  induction reports with
  | nil => exact ⟨rfl, Nat.le_refl 0⟩
  | cons report rest ih =>
    obtain ⟨hsum, hfew⟩ := ih fun other hmem => hexplained other (List.mem_cons_of_mem _ hmem)
    have hfirst := hexplained report List.mem_cons_self
    have hbalance := hfirst.balance
    have hlength := hfirst.few
    rw [← allocations_add_adoptions] at hlength
    have hactions : actionsOf (report :: rest) = report.actions ++ actionsOf rest := rfl
    have hstranded : strandedIn (report :: rest) = stranded report.actions + strandedIn rest := rfl
    simp only [hactions, hstranded, allocations, adoptions, goodReleases, failedReleases,
      acquisitions_append, deallocs_append, List.countP_append] at hsum hfew hbalance hlength ⊢
    rw [List.length_cons]
    omega

theorem strandedIn_eq_zero {reports : List (SessionReport σ Product)}
    (hcalm : ∀ report ∈ reports, releasePanicked report.actions = false) :
    strandedIn reports = 0 := by
  induction reports with
  | nil => rfl
  | cons report rest ih =>
    have hfirst : stranded report.actions = 0 := by
      rw [stranded, hcalm report List.mem_cons_self]
      rfl
    have hrest := ih fun other hmem => hcalm other (List.mem_cons_of_mem _ hmem)
    rw [strandedIn, List.map_cons, List.sum_cons, hfirst, Nat.zero_add]
    exact hrest

/-- The counters of a session add up after each operation of its life: what was acquired was
released, its release failed, or it was stranded by a panic of the release function. As long as no
such panic happened, what is outstanding are the regions whose release failed. -/
theorem counters_serveAll (id : UInt64) (exports : Exports σ) (guest : Instance σ)
    (tripwire : Option Tripwire) (requests : List Request) (hshort : requests.length < 2 ^ 62) :
    ((fresh id exports guest).serveAll tripwire requests).length = requests.length ∧
    ∀ before report after,
      (fresh id exports guest).serveAll tripwire requests = before ++ report :: after →
      ∃ stats, report.session.stats = .ok stats ∧
        stats.allocated.toNat + stats.adopted.toNat =
          stats.released.toNat + stats.releaseFailures.toNat + strandedIn (before ++ [report]) ∧
        ((∀ earlier ∈ before ++ [report], releasePanicked earlier.actions = false) →
          stats.outstanding = stats.releaseFailures ∧
            (stats.isBalanced = true ↔ stats.releaseFailures = 0)) := by
  refine ⟨length_serveAll _ _ _, fun before report after hsplit => ?_⟩
  obtain ⟨hstats, hexplained⟩ := stats_serveAll rfl hsplit
  obtain ⟨hsum, hfew⟩ := totals_of_explained hexplained
  have hcount : (before ++ [report]).length ≤ requests.length := by
    have := congrArg List.length hsplit
    rw [length_serveAll, List.length_append, List.length_cons] at this
    rw [List.length_append, List.length_singleton]
    omega
  rw [AllocationStats.zero_add] at hstats
  generalize actionsOf (before ++ [report]) = actions at hstats hsum hfew
  -- None of the counters wraps around.
  have htoNat (count : Nat) (hle : count ≤ 3 * (before ++ [report]).length) :
      (UInt64.ofNat count).toNat = count := UInt64.toNat_ofNat_of_lt' (by
    show count < 2 ^ 64
    omega)
  have hallocated := htoNat (allocations actions) (by omega)
  have hadopted := htoNat (adoptions actions) (by omega)
  have hreleased := htoNat (goodReleases actions) (by omega)
  have hfailed := htoNat (failedReleases actions) (by omega)
  have hequation : (AllocationStats.ofActions actions).allocated.toNat +
      (AllocationStats.ofActions actions).adopted.toNat =
      (AllocationStats.ofActions actions).released.toNat +
        (AllocationStats.ofActions actions).releaseFailures.toNat +
          strandedIn (before ++ [report]) := by
    simp only [AllocationStats.ofActions, hallocated, hadopted, hreleased, hfailed, hsum]
  refine ⟨_, hstats, hequation, fun hcalm => AllocationStats.outstanding_eq ?_ ?_⟩
  · simp only [AllocationStats.ofActions, hallocated, hadopted]
    omega
  · rw [hequation, strandedIn_eq_zero hcalm, Nat.add_zero]

end Session

/-- A guest that hands out fixed regions, and whose release function panics for one of them. That is
the address of a new key, which also has the wrong length. -/
def frailExports : Exports Unit where
  alloc _ _ guest := ⟨guest, [], .returned 4096⟩
  dealloc args _ guest :=
    ⟨guest, [],
      if args.head? = some 2048 then .panicked (.text "log sink failed") else .returned ()⟩
  functions := PackedExport.all.map fun entry _ _ guest =>
    ⟨guest, [], .returned [.i64 (PackedResult.encode
      (if entry = .getAddress then .success 2048 62 else .success 1024 59))]⟩

/-- An instance of that guest, with one page of memory. -/
def frailGuest : Instance Unit where
  memory := .zeroed 1 1
  state := ()
  entropy := .ofStream fun _ => 0

/-- A new key strands two regions of the frail guest, and they stay the only ones. -/
theorem Session.counters_serveAll_frail :
    ([.newPrivateKey, .hashBytes [0x78]] : List Request).length < 2 ^ 62 ∧
    ∃ before report stats,
      (fresh 1 frailExports frailGuest).serveAll none [.newPrivateKey, .hashBytes [0x78]] =
        before ++ [report] ∧
      strandedIn (before ++ [report]) = 2 ∧
      report.session.stats = .ok stats ∧
      stats.allocated.toNat + stats.adopted.toNat =
        stats.released.toNat + stats.releaseFailures.toNat + 2 := by
  have hshort : ([.newPrivateKey, .hashBytes [0x78]] : List Request).length < 2 ^ 62 := by decide
  have htwo : strandedIn ((fresh 1 frailExports frailGuest).serveAll none
      [.newPrivateKey, .hashBytes [0x78]]) = 2 := by decide
  obtain ⟨hlength, hall⟩ := counters_serveAll 1 frailExports frailGuest none _ hshort
  generalize (fresh 1 frailExports frailGuest).serveAll none
    [.newPrivateKey, .hashBytes [0x78]] = reports at htwo hlength hall ⊢
  obtain ⟨first, second, rfl⟩ := List.length_eq_two.1 hlength
  obtain ⟨stats, hstats, hsum, -⟩ := hall [first] second [] rfl
  have hsame : strandedIn ([first] ++ [second]) = 2 := htwo
  rw [hsame] at hsum
  exact ⟨hshort, [first], second, stats, rfl, hsame, hstats, hsum⟩

end GuestBridge
