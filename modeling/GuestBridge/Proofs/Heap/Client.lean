import GuestBridge.Proofs.Heap.Basic

/-!
# The host as a client of a sound allocator

A session whose guest manages its heap well (`SoundGuest`) treats that heap well. The invariant
`Client` relates the regions that an operation holds to the heap: they are distinct blocks that the
guest has lent to it, and apart from them nothing is lent that was not lent before. It is kept by
each step of an operation (`Advance.keeper`) and by each release (`Settler.next`). So an operation
is `Tidy`: it writes to blocks that it holds and to nothing else, gives back each of them once, and
leaves lent what it found lent.
-/

namespace GuestBridge

variable {σ : Type} {exports : Exports σ} {heapOf : Instance σ → Heap} {Sane : Instance σ → Prop}
  {base : Instance σ}

/-! ## The invariant -/

/-- Compared with an earlier instance, exactly the blocks of some regions are lent in addition, and
what was lent has kept its contents. -/
structure Client (heapOf : Instance σ → Heap) (Sane : Instance σ → Prop) (base : Instance σ)
    (regions : List Region) (guest : Instance σ) : Prop where
  sane : Sane guest
  distinct : (regions.map Region.ptr).Nodup
  fresh : ∀ region ∈ regions, (heapOf base).lentAt region.ptr = none
  lent : ∀ region ∈ regions,
    ∃ capacity, (heapOf guest).lentAt region.ptr = some capacity ∧ region.len.toNat ≤ capacity
  others : ∀ ptr, ptr ∉ regions.map Region.ptr →
    (heapOf guest).lentAt ptr = (heapOf base).lentAt ptr
  bytes : ∀ address, (heapOf base).Lends address →
    guest.memory.byte address = base.memory.byte address

namespace Client

variable {regions : List Region} {guest after : Instance σ}

theorem refl (hsane : Sane base) : Client heapOf Sane base [] base where
  sane := hsane
  distinct := List.nodup_nil
  fresh := nofun
  lent := nofun
  others _ _ := rfl
  bytes _ _ := rfl

theorem reverse (hclient : Client heapOf Sane base regions guest) :
    Client heapOf Sane base regions.reverse guest where
  sane := hclient.sane
  distinct := by rw [List.map_reverse]; exact List.nodup_reverse.2 hclient.distinct
  fresh region hmem := hclient.fresh region (List.mem_reverse.1 hmem)
  lent region hmem := hclient.lent region (List.mem_reverse.1 hmem)
  others ptr hnot := hclient.others ptr fun hmem =>
    hnot (by rwa [List.map_reverse, List.mem_reverse])
  bytes := hclient.bytes

/-- What was lent before is still lent. -/
theorem lentAt_of_base (hclient : Client heapOf Sane base regions guest) {ptr : UInt32}
    {capacity : Nat} (hlent : (heapOf base).lentAt ptr = some capacity) :
    (heapOf guest).lentAt ptr = some capacity := by
  rw [hclient.others ptr ?_, hlent]
  intro hmem
  obtain ⟨region, hregion, rfl⟩ := List.mem_map.1 hmem
  rw [hclient.fresh region hregion] at hlent
  cases hlent

theorem lends_of_base (hclient : Client heapOf Sane base regions guest) {address : Nat}
    (hlends : (heapOf base).Lends address) : (heapOf guest).Lends address := by
  obtain ⟨ptr, capacity, hlent, hrange⟩ := hlends
  exact ⟨ptr, capacity, hclient.lentAt_of_base hlent, hrange⟩

/-- What was lent before does not overlap with what the operation holds. -/
theorem not_covers (hclient : Client heapOf Sane base regions guest)
    (hwell : (heapOf guest).WellFormed guest.memory) {region : Region} (hmem : region ∈ regions)
    {address : Nat} (hlends : (heapOf base).Lends address) :
    ¬(heapOf guest).Covers region.ptr address := by
  intro hcovers
  obtain ⟨ptr, capacity, hlent, hge, hlt⟩ := hlends
  have hother := Heap.covers_of_lentAt (hclient.lentAt_of_base hlent) hge hlt
  obtain rfl := hwell.disjoint _ _ _ hcovers hother
  rw [hclient.fresh region hmem] at hlent
  cases hlent

/-- A call that handed over nothing. -/
theorem called (hclient : Client heapOf Sane base regions guest)
    (hlending : Lending heapOf Sane none guest after) :
    Client heapOf Sane base regions after where
  sane := hlending.sane
  distinct := hclient.distinct
  fresh := hclient.fresh
  lent region hmem := by rw [hlending.others _ nofun]; exact hclient.lent region hmem
  others ptr hnot := (hlending.others ptr nofun).trans (hclient.others ptr hnot)
  bytes address hlends :=
    (hlending.bytes address (hclient.lends_of_base hlends)).trans (hclient.bytes address hlends)

/-- A call that handed over a block. The block is not one of those that the operation holds. -/
theorem handed (hclient : Client heapOf Sane base regions guest) {region : Region}
    (hlending : Lending heapOf Sane (some region) guest after) :
    Client heapOf Sane base (regions ++ [region]) after := by
  have hfresh := hlending.fresh region rfl
  have hnew : region.ptr ∉ regions.map Region.ptr := by
    intro hmem
    obtain ⟨old, hold, hsame⟩ := List.mem_map.1 hmem
    obtain ⟨capacity, hlent, -⟩ := hclient.lent old hold
    rw [hsame, hfresh] at hlent
    cases hlent
  have hothers {ptr : UInt32} (hne : region.ptr ≠ ptr) :
      (heapOf after).lentAt ptr = (heapOf guest).lentAt ptr :=
    hlending.others ptr fun _ h => Option.some.inj h ▸ hne
  constructor
  case sane => exact hlending.sane
  case distinct =>
    rw [List.map_append, List.map_singleton]
    exact List.concat_eq_append ▸ hclient.distinct.concat hnew
  case fresh =>
    intro other hmem
    rcases List.mem_append.1 hmem with hold | hmem
    · exact hclient.fresh other hold
    · rw [List.mem_singleton.1 hmem, ← hclient.others _ hnew, hfresh]
  case lent =>
    intro other hmem
    rcases List.mem_append.1 hmem with hold | hmem
    · rw [hothers fun h => hnew (h ▸ List.mem_map_of_mem hold)]
      exact hclient.lent other hold
    · rw [List.mem_singleton.1 hmem]
      exact hlending.large region rfl
  case others =>
    intro ptr hnot
    rw [List.map_append, List.mem_append, not_or] at hnot
    rw [hothers fun h => hnot.2 (List.mem_singleton.2 h.symm)]
    exact hclient.others ptr hnot.1
  case bytes =>
    intro address hlends
    rw [hlending.bytes address (hclient.lends_of_base hlends)]
    exact hclient.bytes address hlends

/-- A held block is given back. -/
theorem returned {region : Region} {reply : Reply σ Unit}
    (hclient : Client heapOf Sane base (region :: regions) guest)
    (hwell : (heapOf guest).WellFormed guest.memory)
    (hreturning : Returning heapOf Sane region.ptr guest reply) :
    Client heapOf Sane base regions reply.guest := by
  obtain ⟨hnew, hdistinct⟩ := List.nodup_cons.1 hclient.distinct
  constructor
  case sane => exact hreturning.sane
  case distinct => exact hdistinct
  case fresh => exact fun other hmem => hclient.fresh other (List.mem_cons_of_mem _ hmem)
  case lent =>
    intro other hmem
    rw [hreturning.others _ fun h => hnew (h ▸ List.mem_map_of_mem hmem)]
    exact hclient.lent other (List.mem_cons_of_mem _ hmem)
  case others =>
    intro ptr hnot
    by_cases hsame : ptr = region.ptr
    · rw [hsame, hreturning.dead, hclient.fresh region List.mem_cons_self]
    · rw [hreturning.others ptr hsame]
      exact hclient.others ptr fun hmem => (List.mem_cons.1 hmem).elim hsame hnot
  case bytes =>
    intro address hlends
    rw [hreturning.bytes address (hclient.lends_of_base hlends)
      (hclient.not_covers hwell List.mem_cons_self hlends)]
    exact hclient.bytes address hlends

/-- The host stores something in the region of a held block. -/
theorem stored (hsound : SoundGuest exports heapOf Sane)
    (hclient : Client heapOf Sane base regions guest) {region : Region} (hmem : region ∈ regions)
    {memory : Memory} (hsize : memory.size = guest.memory.size)
    (hlimit : memory.pageLimit = guest.memory.pageLimit)
    (hbytes : ∀ address, ¬(region.ptr.toNat ≤ address ∧ address < region.stop) →
      memory.byte address = guest.memory.byte address) :
    Client heapOf Sane base regions { guest with memory := memory } := by
  obtain ⟨capacity, hlent, hlarge⟩ := hclient.lent region hmem
  have hinside {address : Nat} (hrange : region.ptr.toNat ≤ address ∧ address < region.stop) :
      address < region.ptr.toNat + capacity :=
    Nat.lt_of_lt_of_le hrange.2 (Nat.add_le_add_left hlarge _)
  obtain ⟨hsane, hheap⟩ := hsound.stores guest memory hclient.sane hsize hlimit
    fun address hnot => hbytes address fun hrange =>
      hnot ⟨region.ptr, capacity, hlent, hrange.1, hinside hrange⟩
  constructor
  case sane => exact hsane
  case distinct => exact hclient.distinct
  case fresh => exact hclient.fresh
  case lent => rw [hheap]; exact hclient.lent
  case others => rw [hheap]; exact hclient.others
  case bytes =>
    intro address hlends
    have hapart := hclient.not_covers (hsound.wellFormed guest hclient.sane) hmem hlends
    refine (hbytes address fun hrange => hapart ?_).trans (hclient.bytes address hlends)
    exact Heap.covers_of_lentAt hlent hrange.1 (hinside hrange)

end Client

/-! ## Lawful traces -/

/-- Where the regions start that an operation acquired. -/
def acquiredPtrs (actions : List (Action σ)) : List UInt32 :=
  (acquisitions actions).map (·.region.ptr)

/-- Where the regions start that an operation gave back. -/
def releasedPtrs (actions : List (Action σ)) : List UInt32 :=
  (deallocs actions).map Dealloc.ptr

/-- By these actions, an operation acquired a region that starts at an address, and it has not given
it back. -/
def Holding (actions : List (Action σ)) (ptr : UInt32) : Prop :=
  ptr ∈ acquiredPtrs actions ∧ ptr ∉ releasedPtrs actions

/-- After these actions, an operation may store what it likes in a region: the region lies in a
block that it holds, and so does not overlap with any other live block. -/
structure Owns (heapOf : Instance σ → Heap) (actions : List (Action σ)) (found : Instance σ)
    (region : Region) : Prop where
  holding : Holding actions region.ptr
  fits : ∃ capacity, (heapOf found).lentAt region.ptr = some capacity ∧
    region.len.toNat ≤ capacity
  apart : ∀ other address, other ≠ region.ptr → (heapOf found).Covers other address →
    ¬(region.ptr.toNat ≤ address ∧ address < region.stop)

/-- The host may do this after the actions before: what it writes to or overwrites is its own, and
what it gives back is a block that it holds. -/
def LawfulAt (heapOf : Instance σ → Heap) (pre : List (Action σ)) : Action σ → Prop
  | ⟨found, .write region bytes⟩ => Owns heapOf pre found region ∧ bytes.length = region.len.toNat
  | ⟨found, .wipe region⟩ => Owns heapOf pre found region
  | ⟨found, .call .dealloc args _⟩ => ∃ ptr sizeHint, args = [ptr, sizeHint] ∧ Holding pre ptr ∧
    ∃ capacity, (heapOf found).lentAt ptr = some capacity
  | _ => True

/-- The host may do everything that it does. -/
def Lawful (heapOf : Instance σ → Heap) (actions : List (Action σ)) : Prop :=
  ∀ pre action post, actions = pre ++ action :: post → LawfulAt heapOf pre action

theorem lawful_nil : Lawful heapOf ([] : List (Action σ)) := by
  intro pre action post hsplit
  cases pre <;> cases hsplit

theorem Lawful.push {actions : List (Action σ)} (hlawful : Lawful heapOf actions)
    {action : Action σ} (hnew : LawfulAt heapOf actions action) :
    Lawful heapOf (actions ++ [action]) := by
  intro pre other post hsplit
  rcases List.eq_nil_or_concat post with rfl | ⟨post, final, rfl⟩
  · obtain ⟨rfl, hsame⟩ := List.append_inj' hsplit rfl
    obtain ⟨rfl, -⟩ := List.cons.inj hsame
    exact hnew
  · rw [List.concat_eq_append, ← List.cons_append, ← List.append_assoc] at hsplit
    exact hlawful pre other post (List.append_inj' hsplit rfl).1

theorem Client.owns {regions : List Region} {guest : Instance σ}
    (hclient : Client heapOf Sane base regions guest)
    (hwell : (heapOf guest).WellFormed guest.memory) {region : Region} (hmem : region ∈ regions)
    {actions : List (Action σ)} (hholding : Holding actions region.ptr) :
    Owns heapOf actions guest region where
  holding := hholding
  fits := hclient.lent region hmem
  apart other address hne hcovers hrange := by
    obtain ⟨capacity, hlent, hlarge⟩ := hclient.lent region hmem
    have hlt := Nat.lt_of_lt_of_le hrange.2 (Nat.add_le_add_left hlarge _)
    exact hne (hwell.disjoint _ _ _ hcovers (Heap.covers_of_lentAt hlent hrange.1 hlt))

/-! ## The body of an operation -/

/-- While its body runs, an operation is a client of the heap with the regions that it holds, and
has done only what it may. -/
structure Keeper (heapOf : Instance σ → Heap) (Sane : Instance σ → Prop) (base : Instance σ)
    (lease : Lease σ) : Prop where
  client : Client heapOf Sane base (lease.held.map Held.region) lease.guest
  acquired : (acquisitions lease.actions).map Acquisition.region = lease.held.map Held.region
  intact : lease.Intact
  lawful : Lawful heapOf lease.actions

namespace Lease

/-- What is held in the body was acquired and has not been given back. -/
theorem holding_of_acquired {lease : Lease σ} (hintact : lease.Intact) {region : Region}
    (hmem : region ∈ (acquisitions lease.actions).map Acquisition.region) :
    Holding lease.actions region.ptr := by
  refine ⟨?_, ?_⟩
  · obtain ⟨acquisition, hacquisition, rfl⟩ := List.mem_map.1 hmem
    exact List.mem_map_of_mem hacquisition
  · rw [releasedPtrs, hintact.deallocs_nil]
    nofun

/-- What a step acquires is held from then on. -/
theorem Took.acquired_eq_held {gains : List Gain} {lease after : Lease σ}
    (htook : Took gains lease after)
    (heq : (acquisitions lease.actions).map Acquisition.region = lease.held.map Held.region) :
    (acquisitions after.actions).map Acquisition.region = after.held.map Held.region := by
  rw [htook.acquired, htook.held, List.map_append, List.map_append, heq, List.map_map,
    List.map_map]
  rfl

/-- The host stores bytes in a region that it has just been allocated. -/
theorem client_written (hsound : SoundGuest exports heapOf Sane) {lease : Lease σ}
    {regions : List Region} (hclient : Client heapOf Sane base regions lease.guest)
    {region : Region} (hmem : region ∈ regions) {bytes : Bytes}
    (hlen : region.len.toNat = bytes.length) :
    Client heapOf Sane base regions (lease.written region bytes).guest := by
  unfold written
  cases hwrite : lease.guest.memory.write? region.ptr bytes with
  | none => exact hclient
  | some memory =>
    unfold Memory.write? at hwrite
    split at hwrite
    · next hinside =>
      obtain rfl := Option.some.inj hwrite
      refine hclient.stored hsound hmem (Memory.size_store _ _ _) (Memory.pageLimit_store _ _ _)
        fun address hout => ?_
      refine (Memory.byte_store _ _ _ _ hinside).trans (if_neg ?_)
      rwa [← hlen]
    · cases hwrite

/-- Every step of the body treats the heap well. -/
theorem Advance.keeper (hsound : SoundGuest exports heapOf Sane) {label : List Gain}
    {lease after : Lease σ} (hstep : Advance exports lease label after)
    (hkeeper : Keeper heapOf Sane base lease) : Keeper heapOf Sane base after := by
  have hacquired := hstep.took.acquired_eq_held hkeeper.acquired
  have hintact := hstep.intact hkeeper.intact
  have hsane := hkeeper.client.sane
  suffices h : Client heapOf Sane base (after.held.map Held.region) after.guest ∧
      Lawful heapOf after.actions from ⟨h.1, hacquired, hintact, h.2⟩
  cases hstep with
  | denied size hnull =>
    have hlending := hsound.alloc lease.guest lease.tripwire size hsane
    rw [Ending.allocated?_eq_none hnull] at hlending
    exact ⟨hkeeper.client.called hlending, hkeeper.lawful.push trivial⟩
  | rejected entry args notes hnull hnotes =>
    have hlending := hsound.packed entry args lease.guest lease.tripwire hsane
    rw [Ending.result?_eq_none hnull] at hlending
    exact ⟨hkeeper.client.called hlending, hkeeper.lawful.push trivial⟩
  | adopted entry args values region hret hregion =>
    have hlending := hsound.packed entry args lease.guest lease.tripwire hsane
    rw [hret] at hlending
    have hhanded : (Ending.returned values).result? = some region := hregion
    rw [hhanded] at hlending
    refine ⟨?_, hkeeper.lawful.push trivial⟩
    have hheld : (lease.adopted exports entry args region).held.map Held.region =
        lease.held.map Held.region ++ [region] := List.map_append
    rw [hheld]
    exact hkeeper.client.handed hlending
  | placed region sensitivity bytes hret hne hlen =>
    have hlending := hsound.alloc lease.guest lease.tripwire region.len hsane
    rw [hret] at hlending
    have hhanded : (Ending.returned region.ptr).allocated? region.len = some region :=
      if_neg hne
    rw [hhanded] at hlending
    -- The region is held before anything is stored in it.
    have hclient := hkeeper.client.handed hlending
    have hmem : region ∈ lease.held.map Held.region ++ [region] :=
      List.mem_append_right _ List.mem_cons_self
    have hholding : Holding (lease.allocated exports region sensitivity).actions region.ptr := by
      refine holding_of_acquired (hkeeper.intact.allocated exports region sensitivity) ?_
      rw [acquisitions_allocated hret hne, List.map_append, hkeeper.acquired]
      exact hmem
    have howns := hclient.owns (hsound.wellFormed _ hclient.sane) hmem hholding
    have hheld : ((lease.allocated exports region sensitivity).written region bytes).held.map
        Held.region = lease.held.map Held.region ++ [region] := by
      rw [held_written]
      exact List.map_append
    have hlawful : Lawful heapOf (lease.allocated exports region sensitivity).actions :=
      hkeeper.lawful.push trivial
    rw [hheld, actions_written]
    exact ⟨client_written hsound hclient hmem hlen, hlawful.push ⟨howns, hlen.symm⟩⟩
  | looked region => exact ⟨hkeeper.client, hkeeper.lawful.push trivial⟩

/-- The body of an operation treats the heap well. -/
theorem Reaches.keeper (hsound : SoundGuest exports heapOf Sane) {lease after : Lease σ}
    (hreach : Reaches exports lease after) (hkeeper : Keeper heapOf Sane base lease) :
    Keeper heapOf Sane base after := by
  induction hreach with
  | refl => exact hkeeper
  | tail _ hmove ih =>
    cases hmove with
    | advance hstep => exact hstep.keeper hsound ih
    | marked region =>
      have hsame := map_markSecretIn (f := Held.region) (fun _ => rfl) region
      exact ⟨by rw [hsame]; exact ih.client, by rw [hsame]; exact ih.acquired,
        ⟨ih.intact.deallocs_nil, ih.intact.wipes_nil, ih.intact.wipeFailures_nil⟩, ih.lawful⟩

/-! ## The release -/

/-- While an operation gives regions back, it is a client of the heap with those that are left, and
has done only what it may. -/
structure Settler (heapOf : Instance σ → Heap) (Sane : Instance σ → Prop) (base : Instance σ)
    (left : List Held) (lease : Lease σ) : Prop where
  client : Client heapOf Sane base (left.map Held.region) lease.guest
  order : releasedPtrs lease.actions ++ left.map (·.region.ptr) =
    (acquiredPtrs lease.actions).reverse
  distinct : (acquiredPtrs lease.actions).Nodup
  lawful : Lawful heapOf lease.actions

/-- When the release begins, everything is left. -/
theorem settler_of_keeper {lease : Lease σ} (hkeeper : Keeper heapOf Sane base lease) :
    Settler heapOf Sane base lease.held.reverse lease := by
  have hptrs : acquiredPtrs lease.actions = lease.held.map (·.region.ptr) := by
    have := congrArg (List.map Region.ptr) hkeeper.acquired
    rwa [List.map_map, List.map_map] at this
  constructor
  case client =>
    rw [List.map_reverse]
    exact hkeeper.client.reverse
  case order =>
    rw [releasedPtrs, hkeeper.intact.deallocs_nil, hptrs, List.map_reverse]
    rfl
  case distinct =>
    have := hkeeper.client.distinct
    rw [List.map_map] at this
    rw [hptrs]
    exact this
  case lawful => exact hkeeper.lawful

/-- What is left to be given back is held. -/
theorem Settler.holding {held : Held} {left : List Held} {lease : Lease σ}
    (hsettler : Settler heapOf Sane base (held :: left) lease) :
    Holding lease.actions held.region.ptr := by
  refine ⟨?_, fun hreleased => ?_⟩
  · rw [← List.mem_reverse, ← hsettler.order]
    exact List.mem_append_right _ List.mem_cons_self
  · have hdistinct := List.nodup_reverse.2 hsettler.distinct
    rw [← hsettler.order] at hdistinct
    exact (List.nodup_append.1 hdistinct).2.2 _ hreleased _ List.mem_cons_self rfl

/-- A secret is overwritten in a block that is held. -/
theorem Settler.prepared (hsound : SoundGuest exports heapOf Sane) {held : Held}
    {left : List Held} {lease : Lease σ}
    (hsettler : Settler heapOf Sane base (held :: left) lease) :
    Client heapOf Sane base ((held :: left).map Held.region) (held.prepare lease.guest) ∧
      Lawful heapOf (lease.actions ++ held.wipeActions lease.guest) := by
  have hmem : held.region ∈ (held :: left).map Held.region := List.mem_cons_self
  unfold Held.prepare Held.wipeActions
  by_cases hsecret : held.sensitivity = .secret
  · rw [if_pos hsecret, if_pos hsecret]
    have hoverwritten := overwritten_wiped held.region lease.guest
    obtain ⟨memory, hwiped, hlimit⟩ := wiped_eq_withMemory held.region lease.guest
    rw [hwiped] at hoverwritten ⊢
    refine ⟨hsettler.client.stored hsound hmem hoverwritten.size_eq hlimit hoverwritten.elsewhere,
      hsettler.lawful.push ?_⟩
    exact hsettler.client.owns (hsound.wellFormed _ hsettler.client.sane) hmem hsettler.holding
  · rw [if_neg hsecret, if_neg hsecret, List.append_nil]
    exact ⟨hsettler.client, hsettler.lawful⟩

/-- One region is given back. -/
theorem Settler.next (hsound : SoundGuest exports heapOf Sane) {held : Held} {left : List Held}
    {lease : Lease σ} (hsettler : Settler heapOf Sane base (held :: left) lease)
    (hcalm : (Release.of exports held lease).isPanic = false) :
    Settler heapOf Sane base left ((Release.of exports held lease).apply lease) := by
  obtain ⟨hclient, hlawful⟩ := hsettler.prepared hsound
  obtain ⟨capacity, hlent, -⟩ := hclient.lent held.region List.mem_cons_self
  -- Overwriting the secret has not changed the heap, so the block can still be released.
  have hreturning := hsound.dealloc (held.prepare lease.guest) lease.tripwire held.region.ptr
    held.sizeHint capacity hclient.sane hlent hcalm
  have hreleased : releasedPtrs ((Release.of exports held lease).apply lease).actions =
      releasedPtrs lease.actions ++ [held.region.ptr] := by
    show (deallocs (_ ++ _)).map _ = _
    rw [deallocs_append, Release.deallocs_actions, List.map_append]
    rfl
  have hacquired : acquiredPtrs ((Release.of exports held lease).apply lease).actions =
      acquiredPtrs lease.actions := by
    show (acquisitions (_ ++ _)).map _ = _
    rw [acquisitions_append, Release.acquisitions_actions, List.append_nil]
    rfl
  constructor
  case client =>
    exact hclient.returned (hsound.wellFormed _ hclient.sane) hreturning
  case order =>
    rw [hreleased, hacquired, List.append_assoc]
    exact hsettler.order
  case distinct =>
    rw [hacquired]
    exact hsettler.distinct
  case lawful =>
    show Lawful heapOf (lease.actions ++ (_ ++ _))
    rw [← List.append_assoc]
    refine hlawful.push ⟨_, _, rfl, ?_, capacity, hlent⟩
    have hacquisitions := held.acquisitions_wipeActions lease.guest
    have hdeallocs := held.deallocs_wipeActions lease.guest
    rw [Holding, acquiredPtrs, releasedPtrs, acquisitions_append, deallocs_append, hacquisitions,
      hdeallocs, List.append_nil, List.append_nil]
    exact hsettler.holding

/-- The release treats the heap well and gives everything back, unless it is stopped. -/
theorem Releasing.settler (hsound : SoundGuest exports heapOf Sane) {lease last : Lease σ}
    {left : List Held} {releases : List (Release σ)}
    (hloop : Releasing exports lease left releases last)
    (hcalm : ∀ release ∈ releases, release.isPanic = false)
    (hsettler : Settler heapOf Sane base left lease) : Settler heapOf Sane base [] last := by
  induction hloop with
  | done => exact hsettler
  | stopped lease held rest hpanic =>
    rw [hcalm _ List.mem_cons_self] at hpanic
    cases hpanic
  | next lease held hfirst _ ih =>
    exact ih (fun release hmem => hcalm release (List.mem_cons_of_mem _ hmem))
      (hsettler.next hsound hfirst)

end Lease

/-! ## Whole operations -/

/-- An operation treated a heap well: it did only what it may, it acquired distinct blocks and gave
back each of them once, the last one first, and it left lent what was lent before, with the same
contents. -/
structure Tidy (heapOf : Instance σ → Heap) (Sane : Instance σ → Prop) (actions : List (Action σ))
    (before after : Instance σ) : Prop where
  lawful : Lawful heapOf actions
  distinct : (acquiredPtrs actions).Nodup
  released : releasedPtrs actions = (acquiredPtrs actions).reverse
  sane : Sane after
  lent : ∀ ptr, (heapOf after).lentAt ptr = (heapOf before).lentAt ptr
  bytes : ∀ address, (heapOf before).Lends address →
    after.memory.byte address = before.memory.byte address

/-- An operation that does nothing is tidy. -/
theorem tidy_nil (hsane : Sane base) : Tidy heapOf Sane [] base base where
  lawful := lawful_nil
  distinct := List.nodup_nil
  released := rfl
  sane := hsane
  lent _ := rfl
  bytes _ _ := rfl

theorem Operation.Course.tidy {request : Request} {start last : Lease σ}
    (course : Course exports request start last) (hsound : SoundGuest exports heapOf Sane)
    (hsane : Sane start.guest)
    (hcalm : ∀ dealloc ∈ deallocs last.actions, dealloc.ending.isPanic = false) :
    Tidy heapOf Sane last.actions start.guest last.guest := by
  have hstart : Keeper heapOf Sane start.guest start := by
    refine ⟨?_, ?_, course.blank.intact, ?_⟩
    · rw [course.blank.held_nil]; exact .refl hsane
    · rw [course.blank.held_nil, course.blank.actions_nil]; rfl
    · rw [course.blank.actions_nil]; exact lawful_nil
  have hmiddle := Lease.settler_of_keeper (course.reaches.keeper hsound hstart)
  have hreleases : ∀ release ∈ course.releases, release.isPanic = false := by
    intro release hmem
    refine hcalm release.dealloc ?_
    rw [course.deallocs_eq]
    exact List.mem_map_of_mem hmem
  have hlast := course.releasing.settler hsound hreleases hmiddle
  rw [congrArg Lease.actions course.last_eq, congrArg Lease.guest course.last_eq]
  have horder := hlast.order
  rw [List.map_nil, List.append_nil] at horder
  exact ⟨hlast.lawful, hlast.distinct, horder, hlast.client.sane,
    fun ptr => hlast.client.others ptr nofun, hlast.client.bytes⟩

/-- Every operation treats the heap of a sound guest well, whatever its arguments are and however it
ends, as long as the release function does not panic. -/
theorem tidy_serve {session : Session σ} {live : LiveGuest σ} (hlive : session.live = some live)
    (hsound : SoundGuest live.exports heapOf Sane) (hsane : Sane live.guest)
    (tripwire : Option Tripwire) (request : Request)
    (hcalm : ∀ dealloc ∈ deallocs (session.serve tripwire request).actions,
      dealloc.ending.isPanic = false) :
    ∃ after, (session.serve tripwire request).session.live = some after ∧
      after.exports = live.exports ∧
      Tidy heapOf Sane (session.serve tripwire request).actions live.guest after.guest := by
  rcases session.serve_cases tripwire request with
    ⟨hactions, -, hsession⟩ | ⟨live', last, hlive', ⟨course⟩, hactions, -, hafter⟩
  · rw [hactions, hsession]
    exact ⟨live, hlive, rfl, tidy_nil hsane⟩
  · obtain rfl : live = live' := Option.some.inj (hlive.symm.trans hlive')
    rw [hactions] at hcalm ⊢
    rw [hafter]
    exact ⟨_, rfl, rfl, course.tidy hsound hsane hcalm⟩

end GuestBridge
