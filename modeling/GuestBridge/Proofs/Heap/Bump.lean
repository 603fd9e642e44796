import GuestBridge.Proofs.Guest.PackedWord
import GuestBridge.Proofs.Heap.Client
import GuestBridge.Proofs.Session.Accounting

/-!
# A guest with a sound allocator

The simplest sound guest hands out blocks from the bottom of its memory to the top, one behind the
other, and never uses an address twice. Its packed exports hand out results of a fixed length in the
same way. It keeps its books outside guest memory. `soundGuest_bump` says that it manages its heap
well.
-/

namespace GuestBridge

namespace PackedResult

/-- The word of a result refers to its region, unless the pointer is null. -/
theorem regionOf?_encode_success (ptr len : UInt32) :
    regionOf? [.i64 (encode (.success ptr len))] = if ptr = 0 then none else some ⟨ptr, len⟩ := by
  show Region.ofPacked? (decode _) = _
  rw [decode_encode_success]
  by_cases hnull : ptr = 0
  · rw [if_pos hnull, if_pos hnull]; rfl
  · rw [if_neg hnull, if_neg hnull]; rfl

end PackedResult

/-- The books of a guest that hands out its memory from the bottom to the top. -/
structure Bump where
  /-- The first address that was never handed out. -/
  top : Nat
  /-- The capacities of the blocks lent to the host, by their addresses. -/
  blocks : UInt32 → Option Nat

namespace Bump

variable {guest : Instance Bump}

/-- All live blocks are lent to the host. -/
def heap (guest : Instance Bump) : Heap := fun ptr =>
  (guest.state.blocks ptr).map fun capacity => ⟨capacity, true⟩

/-- Lent blocks lie one behind the other, inside memory and below the top. -/
structure Sane (guest : Instance Bump) : Prop where
  positive : 0 < guest.state.top
  top_le : guest.state.top ≤ guest.memory.size + 1
  below : ∀ ptr capacity, guest.state.blocks ptr = some capacity →
    0 < ptr.toNat ∧ ptr.toNat + capacity < guest.state.top
  apart : ∀ ptr other capacity, guest.state.blocks ptr = some capacity →
    (guest.state.blocks other).isSome → ptr.toNat < other.toNat →
    ptr.toNat + capacity < other.toNat

/-- The guest after the block at the top was handed out. One address stays free behind it, so that
no two blocks start at the same address. -/
def lend (size : UInt32) (guest : Instance Bump) : Instance Bump :=
  { guest with state := {
      top := guest.state.top + size.toNat + 1
      blocks := fun ptr =>
        if ptr.toNat = guest.state.top then some size.toNat else guest.state.blocks ptr } }

/-- Hands out a block from the top, or null if not enough memory is left. -/
def take (size : UInt32) (guest : Instance Bump) : UInt32 × Instance Bump :=
  if guest.state.top + size.toNat ≤ guest.memory.size ∧ guest.state.top < 2 ^ 32 then
    (UInt32.ofNat guest.state.top, lend size guest)
  else (0, guest)

/-- Strikes a block from the books. -/
def give (ptr : UInt32) (guest : Instance Bump) : Instance Bump :=
  { guest with state := { guest.state with
      blocks := fun other => if other = ptr then none else guest.state.blocks other } }

end Bump

/-- The functions of the guest. -/
def bumpExports : Exports Bump where
  alloc args _ guest :=
    let (ptr, after) := Bump.take (args.headD 0) guest
    ⟨after, [], .returned ptr⟩
  dealloc args _ guest := ⟨Bump.give (args.headD 0) guest, [], .returned ()⟩
  functions := PackedExport.all.map fun _ _ _ guest =>
    let (ptr, after) := Bump.take 59 guest
    ⟨after, [], .returned [.i64 (PackedResult.encode (.success ptr 59))]⟩

namespace Bump

variable {guest : Instance Bump}

theorem lentAt_heap (guest : Instance Bump) (ptr : UInt32) :
    (heap guest).lentAt ptr = guest.state.blocks ptr := by
  unfold Heap.lentAt heap
  cases guest.state.blocks ptr <;> rfl

theorem exists_of_covers {ptr : UInt32} {address : Nat} (hcovers : (heap guest).Covers ptr address) :
    ∃ capacity, guest.state.blocks ptr = some capacity ∧ ptr.toNat ≤ address ∧
      address < ptr.toNat + capacity := by
  obtain ⟨block, hblock, hrange⟩ := hcovers
  obtain ⟨capacity, hcapacity, rfl⟩ := Option.map_eq_some_iff.1 hblock
  exact ⟨capacity, hcapacity, hrange⟩

theorem Sane.wellFormed (hsane : Sane guest) : (heap guest).WellFormed guest.memory where
  null := by
    unfold heap
    cases hblock : guest.state.blocks 0 with
    | none => rfl
    | some capacity => exact absurd (hsane.below 0 capacity hblock).1 (Nat.lt_irrefl 0)
  inside ptr block hblock := by
    obtain ⟨capacity, hcapacity, rfl⟩ := Option.map_eq_some_iff.1 hblock
    have hbelow := (hsane.below ptr capacity hcapacity).2
    have htop := hsane.top_le
    show ptr.toNat + capacity ≤ _
    omega
  disjoint ptr other address hptr hother := by
    obtain ⟨capacity, hcapacity, hge, hlt⟩ := exists_of_covers hptr
    obtain ⟨capacity', hcapacity', hge', hlt'⟩ := exists_of_covers hother
    rcases Nat.lt_trichotomy ptr.toNat other.toNat with hless | hsame | hmore
    · have := hsane.apart ptr other capacity hcapacity (by rw [hcapacity']; rfl) hless
      omega
    · exact UInt32.toNat_inj.1 hsame
    · have := hsane.apart other ptr capacity' hcapacity' (by rw [hcapacity]; rfl) hmore
      omega

/-- Nothing starts at the top. -/
theorem Sane.blocks_top (hsane : Sane guest) {ptr : UInt32}
    (htop : ptr.toNat = guest.state.top) : guest.state.blocks ptr = none := by
  cases hblock : guest.state.blocks ptr with
  | none => rfl
  | some capacity =>
    have := (hsane.below ptr capacity hblock).2
    omega

/-- Handing out a block keeps the books in order. -/
theorem Sane.lend (hsane : Sane guest) {size : UInt32}
    (hroom : guest.state.top + size.toNat ≤ guest.memory.size) : Sane (lend size guest) where
  positive := Nat.succ_pos _
  top_le := Nat.succ_le_succ hroom
  below ptr capacity hblock := by
    have hpositive := hsane.positive
    dsimp only [Bump.lend] at hblock ⊢
    split at hblock
    · next htop =>
      obtain rfl := Option.some.inj hblock
      omega
    · have := hsane.below ptr capacity hblock
      omega
  apart ptr other capacity hblock hother hless := by
    dsimp only [Bump.lend] at hblock hother
    -- The new block lies behind all others, so it can only be the second one.
    split at hother
    · next htop =>
      rw [if_neg (by omega)] at hblock
      have := (hsane.below ptr capacity hblock).2
      omega
    · next hne =>
      obtain ⟨capacity', hcapacity'⟩ := Option.isSome_iff_exists.1 hother
      have hbelow := (hsane.below other capacity' hcapacity').2
      rw [if_neg (by omega)] at hblock
      exact hsane.apart ptr other capacity hblock hother hless

/-- The guest lends nothing or the block at the top. -/
theorem Sane.lending_take (hsane : Sane guest) (size : UInt32) :
    Lending heap Sane (if (take size guest).1 = 0 then none else some ⟨(take size guest).1, size⟩)
      guest (take size guest).2 := by
  unfold take
  split
  · next hroom =>
    have hpositive := hsane.positive
    have htop : (UInt32.ofNat guest.state.top).toNat = guest.state.top :=
      UInt32.toNat_ofNat_of_lt' hroom.2
    have hne : UInt32.ofNat guest.state.top ≠ 0 := fun hnull => by
      have hzero : guest.state.top = 0 := htop.symm.trans (congrArg UInt32.toNat hnull)
      omega
    rw [if_neg hne]
    constructor
    case sane => exact hsane.lend hroom.1
    case fresh =>
      intro region hregion
      obtain rfl := Option.some.inj hregion
      rw [lentAt_heap, hsane.blocks_top htop]
    case large =>
      intro region hregion
      obtain rfl := Option.some.inj hregion
      exact ⟨size.toNat, (lentAt_heap _ _).trans (if_pos htop), Nat.le_refl _⟩
    case others =>
      intro ptr hother
      rw [lentAt_heap, lentAt_heap]
      refine if_neg fun hsame => hother _ rfl ?_
      exact UInt32.toNat_inj.1 (htop.trans hsame.symm)
    case bytes => exact fun _ _ => rfl
  · rw [if_pos rfl]
    exact .refl hsane

/-- Striking a block from the books keeps them in order. -/
theorem Sane.give (hsane : Sane guest) (ptr : UInt32) : Sane (give ptr guest) where
  positive := hsane.positive
  top_le := hsane.top_le
  below other capacity hblock := by
    dsimp only [Bump.give] at hblock
    split at hblock
    · cases hblock
    · exact hsane.below other capacity hblock
  apart first second capacity hfirst hsecond hless := by
    dsimp only [Bump.give] at hfirst hsecond
    split at hfirst
    · cases hfirst
    · split at hsecond
      · cases hsecond
      · exact hsane.apart first second capacity hfirst hsecond hless

end Bump

/-- The guest manages its heap well. -/
theorem soundGuest_bump : SoundGuest bumpExports Bump.heap Bump.Sane where
  wellFormed _ hsane := hsane.wellFormed
  stores guest memory hsane hsize _ _ := by
    refine ⟨⟨hsane.positive, ?_, hsane.below, hsane.apart⟩, rfl⟩
    rw [hsize]
    exact hsane.top_le
  alloc guest _ size hsane := hsane.lending_take size
  packed entry args guest tripwire hsane := by
    have hlending := hsane.lending_take 59
    rw [← PackedResult.regionOf?_encode_success] at hlending
    rw [bumpExports, Exports.packed_map_all]
    exact hlending
  dealloc guest _ ptr _ capacity hsane hlent _ := by
    constructor
    case sane => exact hsane.give ptr
    case dead => exact (Bump.lentAt_heap _ _).trans (if_pos rfl)
    case others =>
      intro other hne
      rw [Bump.lentAt_heap, Bump.lentAt_heap]
      exact if_neg hne
    case bytes => exact fun _ _ _ => rfl

/-- An instance of the guest with one page of memory. Nothing is lent yet. -/
def bumpGuest : Instance Bump where
  memory := .zeroed 1 1
  state := ⟨16, fun _ => none⟩
  entropy := .ofStream fun _ => 0

theorem sane_bumpGuest : Bump.Sane bumpGuest where
  positive := by decide
  top_le := by simp [bumpGuest, Memory.size, Memory.zeroed, pageSize]
  below _ _ hblock := by cases hblock
  apart _ _ _ hblock _ _ := by cases hblock

/-- A request to hash a message is served with two blocks, both of which are given back. -/
theorem tidy_serve_bump :
    SoundGuest bumpExports Bump.heap Bump.Sane ∧ Bump.Sane bumpGuest ∧
    (acquiredPtrs ((Session.fresh 1 bumpExports bumpGuest).serve none
      (.hashBytes [0x78])).actions).length = 2 ∧
    (∀ dealloc ∈ deallocs ((Session.fresh 1 bumpExports bumpGuest).serve none
      (.hashBytes [0x78])).actions, dealloc.ending.isPanic = false) ∧
    ∃ after, ((Session.fresh 1 bumpExports bumpGuest).serve none
        (.hashBytes [0x78])).session.live = some after ∧
      after.exports = bumpExports ∧
      Tidy Bump.heap Bump.Sane ((Session.fresh 1 bumpExports bumpGuest).serve none
        (.hashBytes [0x78])).actions bumpGuest after.guest := by
  have hlive : (Session.fresh 1 bumpExports bumpGuest).live =
      some ⟨bumpExports, bumpGuest, .zero⟩ := rfl
  have hcalm : ∀ dealloc ∈ deallocs ((Session.fresh 1 bumpExports bumpGuest).serve none
      (.hashBytes [0x78])).actions, dealloc.ending.isPanic = false := by decide
  exact ⟨soundGuest_bump, sane_bumpGuest, by decide, hcalm,
    tidy_serve hlive soundGuest_bump sane_bumpGuest none (.hashBytes [0x78]) hcalm⟩

end GuestBridge
