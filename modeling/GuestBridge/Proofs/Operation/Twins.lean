import GuestBridge.Proofs.Memory.Replaced
import GuestBridge.Proofs.Operation.Outcome

/-!
# Two runs side by side

Two leases are `Twins` if their guests are related in some way and everything else that the host or
the log subscriber can see of them is the same: the counters, the regions held, the events and the
calls of guest functions. A guest function `Respects` the relation in a state if from there it does
the same to related guests. So twins stay twins when an export is called (`Twins.callPacked`), when
a region is read that looks the same in both (`Twins.readText`) and when regions are given back
(`Twins.apply`). The relation that matters here is `Instance.AgreeOutside`, that two guests are the
same but for the contents of a region.
-/

namespace GuestBridge

variable {σ : Type}

/-! ## Guests that agree but for a region -/

/-- The regions have no address in common. -/
def Region.Apart (first second : Region) : Prop :=
  ∀ address, first.Contains address → ¬second.Contains address

/-- Two guests are in the same state, but for the bytes that a region of memory holds. -/
structure Instance.AgreeOutside (region : Region) (first second : Instance σ) : Prop where
  state_eq : first.state = second.state
  entropy_eq : first.entropy = second.entropy
  size_eq : first.memory.size = second.memory.size
  limit_eq : first.memory.pageLimit = second.memory.pageLimit
  byte_eq : ∀ address, ¬region.Contains address →
    first.memory.byte address = second.memory.byte address

/-- The guest with bytes stored in a region. -/
def Instance.stored (region : Region) (bytes : Bytes) (guest : Instance σ) : Instance σ :=
  { guest with memory := guest.memory.store region.ptr.toNat bytes }

/-- What is stored in a region makes no difference outside of it. -/
theorem agreeOutside_stored (guest : Instance σ) {region : Region} {first second : Bytes}
    (hfirst : region.len.toNat = first.length) (hsecond : region.len.toNat = second.length)
    (hin : guest.memory.Holds region) :
    (guest.stored region first).AgreeOutside region (guest.stored region second) where
  state_eq := rfl
  entropy_eq := rfl
  size_eq := (Memory.replaced_store hfirst hin).size_eq.trans
    (Memory.replaced_store hsecond hin).size_eq.symm
  limit_eq := (Memory.replaced_store hfirst hin).limit_eq.trans
    (Memory.replaced_store hsecond hin).limit_eq.symm
  byte_eq address hout := ((Memory.replaced_store hfirst hin).byte_eq address hout).trans
    ((Memory.replaced_store hsecond hin).byte_eq address hout).symm

namespace Instance.AgreeOutside

variable {region other : Region} {first second : Instance σ}

theorem holds_iff (hagree : first.AgreeOutside region second) (other : Region) :
    first.memory.Holds other ↔ second.memory.Holds other := by
  rw [Memory.Holds, Memory.Holds, hagree.size_eq]

/-- A region apart reads the same in both guests. -/
theorem read?_eq (hagree : first.AgreeOutside region second) (hapart : region.Apart other) :
    first.memory.read? other = second.memory.read? other := by
  by_cases hin : first.memory.Holds other
  · have hin' := (hagree.holds_iff other).1 hin
    refine Memory.read?_congr hin' hin fun address hge hlt => ?_
    refine hagree.byte_eq address fun hinside => hapart address hinside ⟨hge, hlt⟩
  · have hout' : ¬second.memory.Holds other := fun hin' => hin ((hagree.holds_iff other).2 hin')
    rw [Memory.read?, Memory.read?, if_neg hin, if_neg hout']

/-- Once the region is overwritten, nothing is different any more. -/
theorem wiped_eq (hagree : first.AgreeOutside region second) (hin : first.memory.Holds region) :
    first.wiped region = second.wiped region := by
  have hin' := (hagree.holds_iff region).1 hin
  obtain ⟨memory, state, entropy⟩ := first
  obtain ⟨memory', state', entropy'⟩ := second
  obtain rfl : state = state' := hagree.state_eq
  obtain rfl : entropy = entropy' := hagree.entropy_eq
  unfold Instance.wiped Memory.wipe?
  rw [if_pos hin, if_pos hin']
  have hmemory : memory.fill region.ptr.toNat region.len.toNat 0 =
      memory'.fill region.ptr.toNat region.len.toNat 0 := by
    apply Memory.ext_byte
    · rw [Memory.size_fill, Memory.size_fill]
      exact hagree.size_eq
    · rw [Memory.pageLimit_fill, Memory.pageLimit_fill]
      exact hagree.limit_eq
    · intro address hlt
      rw [Memory.size_fill] at hlt
      have hlt' : address < memory'.size := hagree.size_eq ▸ hlt
      rw [Memory.byte_fill, Memory.byte_fill]
      by_cases hinside : region.Contains address
      · rw [if_pos ⟨hinside.1, hinside.2, hlt⟩, if_pos ⟨hinside.1, hinside.2, hlt'⟩]
      · rw [if_neg fun h => hinside ⟨h.1, h.2.1⟩, if_neg fun h => hinside ⟨h.1, h.2.1⟩]
        exact hagree.byte_eq address hinside
  dsimp only
  rw [hmemory]

end Instance.AgreeOutside

/-- Called in this state, a function of the guest does the same to all related guests: the call ends
in the same way, the same is noticed, and the guests are still related. -/
def Exports.Respects (related : Instance σ → Instance σ → Prop) (exports : Exports σ)
    (callee : Callee) (args : List UInt32) (tripwire : Option Tripwire) (guest : Instance σ) :
    Prop :=
  ∀ other, related guest other →
    let reply := exports.function callee args tripwire guest
    let otherReply := exports.function callee args tripwire other
    reply.ending = otherReply.ending ∧ reply.notices = otherReply.notices ∧
      related reply.guest otherReply.guest

theorem respects_eq (exports : Exports σ) (callee : Callee) (args : List UInt32)
    (tripwire : Option Tripwire) (guest : Instance σ) :
    exports.Respects Eq callee args tripwire guest := by
  rintro other rfl
  exact ⟨rfl, rfl, rfl⟩

/-! ## Calls of guest functions -/

/-- Whether a deed is the call of a guest function. -/
def Deed.isCall : Deed → Bool
  | .call _ _ _ => true
  | _ => false

/-- The calls of guest functions, with arguments and endings, in order. -/
def guestCalls (actions : List (Action σ)) : List Deed :=
  (actions.map Action.deed).filter Deed.isCall

theorem guestCalls_append (first second : List (Action σ)) :
    guestCalls (first ++ second) = guestCalls first ++ guestCalls second := by
  rw [guestCalls, List.map_append, List.filter_append]
  rfl

theorem guestCalls_wipeActions (held : Held) (guest : Instance σ) :
    guestCalls (held.wipeActions guest) = [] := by
  unfold Held.wipeActions
  split <;> rfl

theorem guestCalls_actions (release : Release σ) :
    guestCalls release.actions = [release.call.deed] := by
  rw [Release.actions, guestCalls_append, guestCalls_wipeActions]
  rfl

/-! ## Twins -/

namespace Lease

variable {α β : Type} {exports : Exports σ} {related : Instance σ → Instance σ → Prop}
  {first second : Lease σ}

/-- Two leases with related guests that are otherwise the same to the host and to the log
subscriber. -/
structure Twins (related : Instance σ → Instance σ → Prop) (first second : Lease σ) : Prop where
  guest : related first.guest second.guest
  tripwire_eq : first.tripwire = second.tripwire
  stats_eq : first.stats = second.stats
  held_eq : first.held = second.held
  events_eq : first.events = second.events
  calls_eq : guestCalls first.actions = guestCalls second.actions

theorem Twins.refl (lease : Lease σ) : Twins Eq lease lease :=
  ⟨rfl, rfl, rfl, rfl, rfl, rfl⟩

/-- A call that respects the relation ends in the same way and leaves twins behind. -/
theorem Twins.called (htwins : Twins related first second) {callee : Callee} {args : List UInt32}
    (hrespects : exports.Respects related callee args first.tripwire first.guest) :
    (exports.function callee args first.tripwire first.guest).ending =
        (exports.function callee args second.tripwire second.guest).ending ∧
      Twins related (first.called exports callee args) (second.called exports callee args) := by
  obtain ⟨hending, hnotices, hguest⟩ := hrespects second.guest htwins.guest
  rw [← htwins.tripwire_eq]
  refine ⟨hending, ?_⟩
  unfold Lease.called afterCall
  rw [← htwins.tripwire_eq]
  refine ⟨hguest, ?_, htwins.stats_eq, htwins.held_eq, ?_, ?_⟩
  · dsimp only
    rw [hending]
  · dsimp only
    rw [hnotices, htwins.events_eq]
  · dsimp only
    rw [guestCalls_append, guestCalls_append, htwins.calls_eq, hending]
    rfl

theorem Twins.acquire (htwins : Twins related first second)
    (change : AllocationStats → AllocationStats) (event : SessionEvent) (held : Held) :
    Twins related (first.acquire change event held) (second.acquire change event held) where
  guest := htwins.guest
  tripwire_eq := htwins.tripwire_eq
  stats_eq := congrArg change htwins.stats_eq
  held_eq := congrArg (· ++ [held]) htwins.held_eq
  events_eq := congrArg (· ++ [event]) htwins.events_eq
  calls_eq := htwins.calls_eq

/-- The host may access memory of twins in different ways. -/
theorem Twins.recorded (htwins : Twins related first second) {deed deed' : Deed}
    (hdeed : deed.isCall = false) (hdeed' : deed'.isCall = false) :
    Twins related (first.recorded deed) (second.recorded deed') where
  guest := htwins.guest
  tripwire_eq := htwins.tripwire_eq
  stats_eq := htwins.stats_eq
  held_eq := htwins.held_eq
  events_eq := htwins.events_eq
  calls_eq := by
    have hnone {deed : Deed} (hdeed : deed.isCall = false) (guest : Instance σ) :
        guestCalls [⟨guest, deed⟩] = [] := by
      simp [guestCalls, hdeed]
    show guestCalls (first.actions ++ [_]) = guestCalls (second.actions ++ [_])
    rw [guestCalls_append, guestCalls_append, hnone hdeed, hnone hdeed', htwins.calls_eq]

theorem Twins.withMemory {before : Instance σ → Instance σ → Prop}
    (htwins : Twins before first second) {memory memory' : Memory}
    (hguest : related { first.guest with memory := memory }
      { second.guest with memory := memory' }) :
    Twins related (first.withMemory memory) (second.withMemory memory') :=
  ⟨hguest, htwins.tripwire_eq, htwins.stats_eq, htwins.held_eq, htwins.events_eq,
    htwins.calls_eq⟩

/-! ## Parts of an operation -/

/-- Two parts of an operation end with the same result or for the same reason, and leave twins
behind. -/
inductive Alike (related : Instance σ → Instance σ → Prop) :
    EStateM.Result Abort (Lease σ) α → EStateM.Result Abort (Lease σ) α → Prop
  | ok (result : α) {lease lease' : Lease σ} (htwins : Twins related lease lease') :
      Alike related (.ok result lease) (.ok result lease')
  | error (abort : Abort) {lease lease' : Lease σ} (htwins : Twins related lease lease') :
      Alike related (.error abort lease) (.error abort lease')

theorem Alike.bind {part part' : LeaseM σ α} {next next' : α → LeaseM σ β}
    (hpart : Alike related (part first) (part' second))
    (hnext : ∀ result middle middle', part first = .ok result middle → Twins related middle middle' →
      Alike related (next result middle) (next' result middle')) :
    Alike related ((part >>= next) first) ((part' >>= next') second) := by
  rw [bind_apply, bind_apply]
  cases hfirst : part first with
  | ok result middle =>
    rw [hfirst] at hpart
    cases hsecond : part' second with
    | ok result' middle' =>
      rw [hsecond] at hpart
      cases hpart with
      | ok _ htwins => exact hnext _ _ _ hfirst htwins
    | error => rw [hsecond] at hpart; cases hpart
  | error abort middle =>
    rw [hfirst] at hpart
    cases hsecond : part' second with
    | ok => rw [hsecond] at hpart; cases hpart
    | error abort' middle' =>
      rw [hsecond] at hpart
      cases hpart with
      | error _ htwins => exact .error _ htwins

theorem Alike.map {part part' : LeaseM σ α} (f : α → β)
    (hpart : Alike related (part first) (part' second)) :
    Alike related ((f <$> part) first) ((f <$> part') second) := by
  rw [← bind_pure_comp, ← bind_pure_comp]
  exact hpart.bind fun result _ _ _ hmiddle => .ok (f result) hmiddle

theorem Alike.final {part part' : LeaseM σ α} (hpart : Alike related (part first) (part' second)) :
    Twins related (final part first) (final part' second) := by
  unfold Lease.final
  generalize part first = result at hpart
  generalize part' second = result' at hpart
  cases hpart with
  | ok _ htwins => exact htwins
  | error _ htwins => exact htwins

theorem Alike.outcome_eq {part part' : LeaseM σ α}
    (hpart : Alike related (part first) (part' second)) :
    outcome part first = outcome part' second := by
  unfold outcome
  generalize part first = result at hpart
  generalize part' second = result' at hpart
  cases hpart <;> rfl

theorem Alike.notes_eq {part part' : LeaseM σ α}
    (hpart : Alike related (part first) (part' second)) (operation : String) :
    notes operation part first = notes operation part' second := by
  unfold notes
  generalize part first = result at hpart
  generalize part' second = result' at hpart
  cases hpart with
  | ok => rfl
  | error abort => cases abort <;> rfl

/-- An export that respects the relation answers twins alike. -/
theorem Twins.callPacked (htwins : Twins related first second) {entry : PackedExport}
    {args : List UInt32}
    (hrespects : exports.Respects related (.packed entry) args first.tripwire first.guest) :
    Alike related (callPacked exports entry args first) (callPacked exports entry args second) := by
  obtain ⟨hending, hcalled⟩ := htwins.called hrespects
  rw [callPacked_eq, callPacked_eq]
  dsimp only [Exports.function] at hending
  rw [← hending]
  cases (exports.packed entry args first.tripwire first.guest).ending with
  | trapped trap => exact .error _ hcalled
  | panicked payload => exact .error _ hcalled
  | returned values =>
    dsimp only
    cases regionOf? values with
    | some region => exact .ok _ (hcalled.acquire _ _ _)
    | none =>
      refine .error _ ⟨hcalled.guest, hcalled.tripwire_eq, hcalled.stats_eq, hcalled.held_eq, ?_,
        hcalled.calls_eq⟩
      exact congrArg (· ++ nullNotes entry values) hcalled.events_eq

theorem Twins.expectLength (htwins : Twins related first second) (entry : PackedExport)
    (expected : Nat) (region : Region) :
    Alike related (expectLength entry expected region first)
      (expectLength entry expected region second) := by
  unfold Lease.expectLength
  by_cases hfits : region.len.toNat = expected
  · rw [if_pos hfits]
    exact .ok _ htwins
  · rw [if_neg hfits]
    exact .error _ htwins

/-- A region that looks the same in both guests is read alike. -/
theorem Twins.read (htwins : Twins related first second) {region : Region}
    (hsize : first.guest.memory.size = second.guest.memory.size)
    (hread : first.guest.memory.read? region = second.guest.memory.read? region) :
    Alike related (read region first) (read region second) := by
  have hrecorded : Twins related (first.recorded (.read region)) (second.recorded (.read region)) :=
    htwins.recorded rfl rfl
  have herror : accessError first.guest.memory region = accessError second.guest.memory region := by
    rw [accessError, accessError, hsize]
  rw [read_eq, read_eq, ← hread, ← herror]
  cases first.guest.memory.read? region with
  | some bytes => exact .ok _ hrecorded
  | none => exact .error _ hrecorded

theorem Twins.readText (htwins : Twins related first second) (entry : PackedExport)
    {region : Region} (hsize : first.guest.memory.size = second.guest.memory.size)
    (hread : first.guest.memory.read? region = second.guest.memory.read? region) :
    Alike related (readText entry region first) (readText entry region second) := by
  refine (htwins.read hsize hread).bind fun bytes middle middle' _ hmiddle => ?_
  cases Utf8.decode? bytes with
  | some text => exact .ok _ hmiddle
  | none => exact .error _ hmiddle

/-! ## Giving back -/

/-- What is told of a release depends on how the release function replied. -/
theorem Release.tells_congr {release release' : Release σ} (hheld : release.held = release'.held)
    (hwiped : release.held.wipeEvents release.before = release'.held.wipeEvents release'.before)
    (hnotices : release.reply.notices = release'.reply.notices)
    (hending : release.reply.ending = release'.reply.ending) :
    release.events = release'.events ∧ release.call.deed = release'.call.deed ∧
      release.count = release'.count := by
  have hcallEvents : release.callEvents = release'.callEvents := by
    unfold Release.callEvents
    rw [hheld, hending]
  refine ⟨?_, ?_, ?_⟩
  · unfold Release.events
    rw [hwiped, hnotices, hcallEvents]
  · unfold Release.call
    rw [hheld, hending]
  · funext stats
    unfold Release.count
    rw [hending]

/-- If the guests are related once a secret is overwritten, and the release function respects that,
a region is given back alike. -/
theorem Twins.apply {before : Instance σ → Instance σ → Prop} (htwins : Twins before first second)
    {held : Held} (hprepared : related (held.prepare first.guest) (held.prepare second.guest))
    (hevents : held.wipeEvents first.guest = held.wipeEvents second.guest)
    (hrespects : exports.Respects related .dealloc [held.region.ptr, held.sizeHint] first.tripwire
      (held.prepare first.guest)) :
    (Release.of exports held first).isPanic = (Release.of exports held second).isPanic ∧
      Twins related ((Release.of exports held first).apply first)
        ((Release.of exports held second).apply second) := by
  let release := Release.of exports held first
  let release' := Release.of exports held second
  obtain ⟨hending, hnotices, hguest⟩ := hrespects _ hprepared
  have hreply : release'.reply =
      exports.dealloc [held.region.ptr, held.sizeHint] first.tripwire
        (held.prepare second.guest) := by
    rw [htwins.tripwire_eq]
    rfl
  have hending : release.reply.ending = release'.reply.ending := by
    rw [hreply]
    exact hending
  have hnotices : release.reply.notices = release'.reply.notices := by
    rw [hreply]
    exact hnotices
  have hguest : related release.reply.guest release'.reply.guest := by
    rw [hreply]
    exact hguest
  obtain ⟨htold, hcall, hcount⟩ :
      release.events = release'.events ∧ release.call.deed = release'.call.deed ∧
        release.count = release'.count :=
    Release.tells_congr rfl hevents hnotices hending
  refine ⟨congrArg Ending.isPanic hending, hguest, ?_, ?_, htwins.held_eq, ?_, ?_⟩
  · show release.reply.ending.rearm _ = release'.reply.ending.rearm _
    rw [hending, htwins.tripwire_eq]
  · show release.count _ = release'.count _
    rw [hcount, htwins.stats_eq]
  · show first.events ++ _ = second.events ++ _
    rw [htold, htwins.events_eq]
  · show guestCalls (first.actions ++ _) = guestCalls (second.actions ++ _)
    rw [guestCalls_append, guestCalls_append, guestCalls_actions, guestCalls_actions, hcall,
      htwins.calls_eq]

/-- A region without a secret is given back alike if the release function respects the relation. -/
theorem Twins.apply_plain (htwins : Twins related first second) {held : Held}
    (hplain : held.sensitivity = .plain)
    (hrespects : exports.Respects related .dealloc [held.region.ptr, held.sizeHint] first.tripwire
      first.guest) :
    (Release.of exports held first).isPanic = (Release.of exports held second).isPanic ∧
      Twins related ((Release.of exports held first).apply first)
        ((Release.of exports held second).apply second) := by
  have hprepare (guest : Instance σ) : held.prepare guest = guest :=
    Held.prepare_of_plain hplain guest
  have hevents (guest : Instance σ) : held.wipeEvents guest = [] :=
    Held.wipeEvents_of_plain hplain guest
  refine htwins.apply ?_ ((hevents _).trans (hevents _).symm) ?_
  · rw [hprepare, hprepare]
    exact htwins.guest
  · rw [hprepare]
    exact hrespects

/-- Giving a secret back takes away all difference that it made. -/
theorem Twins.apply_secret {region : Region} {sizeHint : UInt32}
    (htwins : Twins (Instance.AgreeOutside region) first second)
    (hin : first.guest.memory.Holds region) :
    let held : Held := ⟨region, sizeHint, .secret⟩
    (Release.of exports held first).isPanic = (Release.of exports held second).isPanic ∧
      Twins Eq ((Release.of exports held first).apply first)
        ((Release.of exports held second).apply second) := by
  intro held
  have hin' : second.guest.memory.Holds region := (htwins.guest.holds_iff region).1 hin
  have hprepared : held.prepare first.guest = held.prepare second.guest :=
    htwins.guest.wiped_eq hin
  have hevents : held.wipeEvents first.guest = held.wipeEvents second.guest :=
    (Held.wipeEvents_of_holds hin).trans (Held.wipeEvents_of_holds hin').symm
  exact htwins.apply hprepared hevents (respects_eq exports .dealloc _ first.tripwire _)

/-- Twins with the same guest give everything back alike. -/
theorem Releasing.exists_twin {regions : List Held} {releases : List (Release σ)} {last : Lease σ}
    (hloop : Releasing exports first regions releases last)
    (hcalm : ∀ release ∈ releases, release.isPanic = false) (htwins : Twins Eq first second) :
    ∃ last', releaseAll exports regions second = .ok () last' ∧ Twins Eq last last' := by
  induction hloop generalizing second with
  | done lease => exact ⟨second, rfl, htwins⟩
  | stopped lease held rest hpanic =>
    rw [hcalm _ List.mem_cons_self] at hpanic
    cases hpanic
  | next lease held hfirst _ ih =>
    have hguest : lease.guest = second.guest := htwins.guest
    have hprepared : held.prepare lease.guest = held.prepare second.guest := by rw [hguest]
    have hevents : held.wipeEvents lease.guest = held.wipeEvents second.guest := by rw [hguest]
    obtain ⟨hpanic, hafter⟩ :=
      htwins.apply hprepared hevents (respects_eq exports .dealloc _ lease.tripwire _)
    rw [releaseAll_cons (hpanic ▸ hfirst)]
    exact ih (fun release hmem => hcalm release (List.mem_cons_of_mem _ hmem)) hafter

end Lease

end GuestBridge
