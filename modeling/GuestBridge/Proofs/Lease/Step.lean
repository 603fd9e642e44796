import GuestBridge.Session
import Mathlib

/-!
# What the steps of an operation do

The body of an operation is built from a handful of steps. Each has an equation that says what it
returns and in which state it leaves the lease (`write_eq`, `allocBytes_eq`, `callPacked_eq`, …).
`Advance` collects the changes of a lease that steps can make, each labelled with the regions that
it acquires (`Gain`). A part of an operation `Walks` by a plan if it makes only such changes, one
after another, and acquires regions as planned: all of them if it succeeds, and the first few of
them otherwise. So whatever every `Advance` keeps is kept by all that is built from the steps.
-/

namespace GuestBridge

/-- The region that the values returned by a guest function refer to, if they refer to one. -/
def regionOf? : List Value → Option Region
  | .i64 word :: _ => Region.ofPacked? (PackedResult.decode word)
  | _ => none

namespace Lease

variable {σ α β : Type} {exports : Exports σ}

/-! ## States that steps leave behind -/

/-- The lease after a guest function was called. -/
def called (exports : Exports σ) (callee : Callee) (args : List UInt32) (lease : Lease σ) :
    Lease σ :=
  lease.afterCall callee args (exports.function callee args lease.tripwire lease.guest)

/-- The lease after an action of the host was recorded. -/
def recorded (deed : Deed) (lease : Lease σ) : Lease σ :=
  { lease with actions := lease.actions ++ [⟨lease.guest, deed⟩] }

/-- The lease after the host changed guest memory. -/
def withMemory (memory : Memory) (lease : Lease σ) : Lease σ :=
  { lease with guest := { lease.guest with memory := memory } }

/-- The lease after bytes were to be copied to a region. Memory changes if the region lies inside
it, and the action is recorded anyway. -/
def written (region : Region) (bytes : Bytes) (lease : Lease σ) : Lease σ :=
  match lease.guest.memory.write? region.ptr bytes with
  | some memory => (lease.recorded (.write region bytes)).withMemory memory
  | none => lease.recorded (.write region bytes)

@[simp] theorem actions_written (region : Region) (bytes : Bytes) (lease : Lease σ) :
    (lease.written region bytes).actions =
      lease.actions ++ [⟨lease.guest, .write region bytes⟩] := by
  unfold written
  split <;> rfl

@[simp] theorem held_written (region : Region) (bytes : Bytes) (lease : Lease σ) :
    (lease.written region bytes).held = lease.held := by
  unfold written
  split <;> rfl

@[simp] theorem stats_written (region : Region) (bytes : Bytes) (lease : Lease σ) :
    (lease.written region bytes).stats = lease.stats := by
  unfold written
  split <;> rfl

@[simp] theorem events_written (region : Region) (bytes : Bytes) (lease : Lease σ) :
    (lease.written region bytes).events = lease.events := by
  unfold written
  split <;> rfl

@[simp] theorem tripwire_written (region : Region) (bytes : Bytes) (lease : Lease σ) :
    (lease.written region bytes).tripwire = lease.tripwire := by
  unfold written
  split <;> rfl

/-- The lease with one more region: it is counted, reported and held. -/
def acquire (change : AllocationStats → AllocationStats) (event : SessionEvent) (held : Held)
    (lease : Lease σ) : Lease σ :=
  { lease with
    stats := change lease.stats
    events := lease.events ++ [event]
    held := lease.held ++ [held] }

/-- The lease after the guest allocated a region for the host. -/
def allocated (exports : Exports σ) (region : Region) (sensitivity : Sensitivity)
    (lease : Lease σ) : Lease σ :=
  (lease.called exports .alloc [region.len]).acquire
    (fun stats => { stats with allocated := stats.allocated + 1 })
    (.allocated region.ptr region.len) ⟨region, region.len, sensitivity⟩

/-- The lease after the host took over a result. -/
def adopted (exports : Exports σ) (entry : PackedExport) (args : List UInt32) (region : Region)
    (lease : Lease σ) : Lease σ :=
  (lease.called exports (.packed entry) args).acquire
    (fun stats => { stats with adopted := stats.adopted + 1 })
    (.adopted region.ptr region.len) ⟨region, 0, .plain⟩

/-- The lease after a guest function returned no region, with what the host noted about that. -/
def rejected (exports : Exports σ) (entry : PackedExport) (args : List UInt32)
    (notes : List SessionEvent) (lease : Lease σ) : Lease σ :=
  let after := lease.called exports (.packed entry) args
  { after with events := after.events ++ notes }

/-- The lease in which a part of an operation ends, on whatever path. -/
def final (part : LeaseM σ α) (lease : Lease σ) : Lease σ :=
  match part lease with
  | .ok _ after => after
  | .error _ after => after

/-! ## Equations of the steps -/

theorem bind_apply (part : LeaseM σ α) (next : α → LeaseM σ β) (lease : Lease σ) :
    (part >>= next) lease =
      match part lease with
      | .ok result after => next result after
      | .error abort after => .error abort after := by
  show EStateM.bind part next lease = _
  rw [EStateM.bind.eq_1]
  cases part lease <;> rfl

theorem bind_of_ok {part : LeaseM σ α} {lease after : Lease σ} {result : α}
    (hpart : part lease = .ok result after) (next : α → LeaseM σ β) :
    (part >>= next) lease = next result after := by
  rw [bind_apply, hpart]

theorem bind_of_error {part : LeaseM σ α} {lease after : Lease σ} {abort : Abort}
    (hpart : part lease = .error abort after) (next : α → LeaseM σ β) :
    (part >>= next) lease = .error abort after := by
  rw [bind_apply, hpart]

theorem final_bind_of_ok {part : LeaseM σ α} {lease after : Lease σ} {result : α}
    (hpart : part lease = .ok result after) (next : α → LeaseM σ β) :
    final (part >>= next) lease = final (next result) after := by
  rw [final, bind_of_ok hpart, final]

theorem call_eq (exports : Exports σ) (callee : Callee) (args : List UInt32) (lease : Lease σ) :
    call exports callee args lease =
      match (exports.function callee args lease.tripwire lease.guest).ending with
      | .returned result => .ok (.ok result) (lease.called exports callee args)
      | .trapped trap => .ok (.error trap) (lease.called exports callee args)
      | .panicked payload => .error (.panicked payload) (lease.called exports callee args) := rfl

/-- Copying to a region fails if the region leaves guest memory. -/
theorem write_eq (region : Region) (bytes : Bytes) (lease : Lease σ) :
    write region bytes lease =
      match lease.guest.memory.write? region.ptr bytes with
      | some _ => .ok () (lease.written region bytes)
      | none =>
        .error (.failed (accessError lease.guest.memory region)) (lease.written region bytes) := by
  show (match lease.guest.memory.write? region.ptr bytes with
    | some memory => set _
    | none => fail _ : LeaseM σ Unit) _ = _
  unfold written
  cases lease.guest.memory.write? region.ptr bytes <;> rfl

/-- Copying from a region changes nothing, and is recorded. -/
theorem read_eq (region : Region) (lease : Lease σ) :
    read region lease =
      match lease.guest.memory.read? region with
      | some bytes => .ok bytes (lease.recorded (.read region))
      | none =>
        .error (.failed (accessError lease.guest.memory region))
          (lease.recorded (.read region)) := by
  show (match lease.guest.memory.read? region with
    | some bytes => pure bytes
    | none => fail _ : LeaseM σ Bytes) _ = _
  cases lease.guest.memory.read? region <;> rfl

theorem allocate_eq (exports : Exports σ) (size : UInt32) (lease : Lease σ) :
    allocate exports size lease =
      let after := lease.called exports .alloc [size]
      match (exports.alloc [size] lease.tripwire lease.guest).ending with
      | .returned ptr =>
        if ptr = 0 then
          .error (.failed (.allocation size "guest allocator returned a null pointer")) after
        else
          .ok ptr
            { after with
              stats := { after.stats with allocated := after.stats.allocated + 1 }
              events := after.events ++ [.allocated ptr size] }
      | .trapped trap => .error (.failed (.allocation size trap.message)) after
      | .panicked payload => .error (.panicked payload) after := by
  rw [allocate, bind_apply, call_eq]
  simp only [Exports.function]
  cases (exports.alloc [size] lease.tripwire lease.guest).ending with
  | trapped | panicked => rfl
  | returned ptr =>
    dsimp only
    by_cases hnull : ptr = 0
    · rw [if_pos hnull, if_pos hnull]; rfl
    · rw [if_neg hnull, if_neg hnull]; rfl

/-- A guest length fits exactly if the host length does, and then it is the same number. -/
theorem guestLength_eq_ok_iff {length : Nat} {len : UInt32} :
    guestLength length = .ok len ↔ len.toNat = length := by
  unfold guestLength
  split
  · next hlt =>
    rw [Except.ok.injEq, ← UInt32.toNat_inj, UInt32.toNat_ofNat_of_lt' hlt]
    exact eq_comm
  · next hge =>
    have := len.toNat_lt_size
    simp only [reduceCtorEq, false_iff]
    omega

/-- A buffer that is too long is refused before the guest is asked. -/
theorem allocBytes_eq_of_error {bytes : Bytes} {error : BridgeError}
    (hlength : guestLength bytes.length = .error error) (exports : Exports σ)
    (sensitivity : Sensitivity) (lease : Lease σ) :
    allocBytes exports bytes sensitivity lease = .error (.failed error) lease := by
  rw [allocBytes, hlength]
  rfl

/-- A buffer that fits is allocated, held and then filled. -/
theorem allocBytes_eq {bytes : Bytes} {len : UInt32} (hlen : len.toNat = bytes.length)
    (exports : Exports σ) (sensitivity : Sensitivity) (lease : Lease σ) :
    allocBytes exports bytes sensitivity lease =
      match (exports.alloc [len] lease.tripwire lease.guest).ending with
      | .returned ptr =>
        if ptr = 0 then
          .error (.failed (.allocation len "guest allocator returned a null pointer"))
            (lease.called exports .alloc [len])
        else
          (write ⟨ptr, len⟩ bytes >>= fun _ => pure (⟨ptr, len⟩ : Region))
            (lease.allocated exports ⟨ptr, len⟩ sensitivity)
      | .trapped trap =>
        .error (.failed (.allocation len trap.message)) (lease.called exports .alloc [len])
      | .panicked payload => .error (.panicked payload) (lease.called exports .alloc [len]) := by
  rw [allocBytes, guestLength_eq_ok_iff.2 hlen]
  show (allocate exports len >>= fun ptr => do
    hold ⟨⟨ptr, len⟩, len, sensitivity⟩
    write ⟨ptr, len⟩ bytes
    pure (⟨ptr, len⟩ : Region) : LeaseM σ Region) lease = _
  rw [bind_apply, allocate_eq]
  cases (exports.alloc [len] lease.tripwire lease.guest).ending with
  | trapped | panicked => rfl
  | returned ptr =>
    dsimp only
    by_cases hnull : ptr = 0
    · rw [if_pos hnull, if_pos hnull]
    · rw [if_neg hnull, if_neg hnull]; rfl

/-- A call that returns leaves the tripwire as it was. -/
theorem tripwire_called {callee : Callee} {args : List UInt32} {lease : Lease σ}
    {result : callee.Result}
    (hret : (exports.function callee args lease.tripwire lease.guest).ending = .returned result) :
    (lease.called exports callee args).tripwire = lease.tripwire := by
  show Ending.rearm _ _ = _
  rw [hret]
  rfl

/-- Placing an operand leaves the tripwire as it was if the allocator returns. -/
theorem tripwire_placed {ptr len : UInt32} {lease : Lease σ}
    (hret : (exports.alloc [len] lease.tripwire lease.guest).ending = .returned ptr)
    (region : Region) (sensitivity : Sensitivity) (bytes : Bytes) (hlen : region.len = len) :
    ((lease.allocated exports region sensitivity).written region bytes).tripwire =
      lease.tripwire := by
  subst hlen
  rw [tripwire_written]
  exact tripwire_called hret

/-- Bytes are written to a region that lies inside memory. -/
theorem written_of_holds (lease : Lease σ) {region : Region} {bytes : Bytes}
    (hlen : region.len.toNat = bytes.length) (hin : lease.guest.memory.Holds region) :
    lease.written region bytes = (lease.recorded (.write region bytes)).withMemory
      (lease.guest.memory.store region.ptr.toNat bytes) := by
  have hwrite : lease.guest.memory.write? region.ptr bytes =
      some (lease.guest.memory.store region.ptr.toNat bytes) := if_pos (hlen ▸ hin)
  rw [written, hwrite]

/-- An operand is placed if the allocator returns a region inside memory. -/
theorem allocBytes_of_holds {bytes : Bytes} {len ptr : UInt32} {sensitivity : Sensitivity}
    {lease : Lease σ} (hlen : len.toNat = bytes.length)
    (hret : (exports.alloc [len] lease.tripwire lease.guest).ending = .returned ptr)
    (hne : ptr ≠ 0)
    (hin : (lease.allocated exports ⟨ptr, len⟩ sensitivity).guest.memory.Holds ⟨ptr, len⟩) :
    allocBytes exports bytes sensitivity lease =
      .ok ⟨ptr, len⟩
        ((lease.allocated exports ⟨ptr, len⟩ sensitivity).written ⟨ptr, len⟩ bytes) := by
  have hinside : ptr.toNat + bytes.length ≤
      (lease.allocated exports ⟨ptr, len⟩ sensitivity).guest.memory.size := hlen ▸ hin
  rw [allocBytes_eq hlen, hret]
  dsimp only
  rw [if_neg hne, bind_apply, write_eq, Memory.write?, if_pos hinside]
  rfl

/-- An operand is not placed if the allocator returns a region that leaves memory. The region is
held anyway. -/
theorem allocBytes_of_not_holds {bytes : Bytes} {len ptr : UInt32} {sensitivity : Sensitivity}
    {lease : Lease σ} (hlen : len.toNat = bytes.length)
    (hret : (exports.alloc [len] lease.tripwire lease.guest).ending = .returned ptr)
    (hne : ptr ≠ 0)
    (hout : ¬(lease.allocated exports ⟨ptr, len⟩ sensitivity).guest.memory.Holds ⟨ptr, len⟩) :
    allocBytes exports bytes sensitivity lease =
      .error (.failed (accessError
          (lease.allocated exports ⟨ptr, len⟩ sensitivity).guest.memory ⟨ptr, len⟩))
        ((lease.allocated exports ⟨ptr, len⟩ sensitivity).written ⟨ptr, len⟩ bytes) := by
  have houtside : ¬ptr.toNat + bytes.length ≤
      (lease.allocated exports ⟨ptr, len⟩ sensitivity).guest.memory.size := hlen ▸ hout
  rw [allocBytes_eq hlen, hret]
  dsimp only
  rw [if_neg hne, bind_apply, write_eq, Memory.write?, if_neg houtside]

/-- What is wrong with values that refer to no region. -/
def resultError : List Value → ResultError
  | [] => .emptyReturn
  | .i64 _ :: _ => .invalidInput
  | other :: _ => .unexpectedType other.typeName

/-- What the host notes about values that refer to no region. -/
def nullNotes (entry : PackedExport) : List Value → List SessionEvent
  | .i64 word :: _ => [.nullResult entry (word >>> 32).toUInt32]
  | _ => []

theorem unpack_eq (entry : PackedExport) (values : List Value) (lease : Lease σ) :
    unpack entry values lease =
      match regionOf? values with
      | some region => .ok region lease
      | none =>
        .error (.failed (.invalidResult entry.name (resultError values)))
          { lease with events := lease.events ++ nullNotes entry values } := by
  cases values with
  | nil => simp only [regionOf?, nullNotes, List.append_nil]; rfl
  | cons value rest =>
    cases value with
    | i64 word =>
      by_cases hnull : word.toUInt32 = 0
      · simp only [unpack, regionOf?, nullNotes, PackedResult.decode, if_pos hnull,
          Region.ofPacked?]
        rfl
      · simp only [unpack, regionOf?, PackedResult.decode, if_neg hnull, Region.ofPacked?]
        rfl
    | i32 | f32 | f64 | v128 | reference =>
      simp only [regionOf?, nullNotes, List.append_nil]; rfl

/-- A result that refers to a region is taken over. -/
theorem callPacked_eq (exports : Exports σ) (entry : PackedExport) (args : List UInt32)
    (lease : Lease σ) :
    callPacked exports entry args lease =
      match (exports.packed entry args lease.tripwire lease.guest).ending with
      | .returned values =>
        match regionOf? values with
        | some region => .ok region (lease.adopted exports entry args region)
        | none =>
          .error (.failed (.invalidResult entry.name (resultError values)))
            (lease.rejected exports entry args (nullNotes entry values))
      | .trapped trap =>
        .error (.failed (.fault (.trap entry.name trap))) (lease.called exports (.packed entry) args)
      | .panicked payload =>
        .error (.panicked payload) (lease.called exports (.packed entry) args) := by
  rw [callPacked, bind_apply, call_eq]
  simp only [Exports.function]
  cases (exports.packed entry args lease.tripwire lease.guest).ending with
  | trapped | panicked => rfl
  | returned values =>
    show (unpack entry values >>= fun region => do
      count fun stats => { stats with adopted := stats.adopted + 1 }
      emit (.adopted region.ptr region.len)
      hold ⟨region, 0, .plain⟩
      pure region : LeaseM σ Region) (lease.called exports (.packed entry) args) = _
    rw [bind_apply, unpack_eq]
    dsimp only
    cases regionOf? values <;> rfl

/-! ## Walks -/

/-- A region to be acquired: from which guest function, whether it holds a secret, and what the host
copies into it. -/
structure Milestone where
  callee : Callee
  sensitivity : Sensitivity
  filling : Option Bytes

/-- Regions to be acquired, in order. -/
abbrev Plan : Type := List Milestone

/-- A region that was acquired: from which guest function, and what the host copied into it. -/
structure Gain where
  callee : Callee
  held : Held
  filling : Option Bytes

/-- What was to be acquired. -/
def Gain.milestone (gain : Gain) : Milestone :=
  ⟨gain.callee, gain.held.sensitivity, gain.filling⟩

/-- A region that the guest allocated for the host, to be filled with bytes. -/
def Gain.operand (region : Region) (sensitivity : Sensitivity) (bytes : Bytes) : Gain :=
  ⟨.alloc, ⟨region, region.len, sensitivity⟩, some bytes⟩

/-- A result that the host takes over. -/
def Gain.result (entry : PackedExport) (region : Region) : Gain :=
  ⟨.packed entry, ⟨region, 0, .plain⟩, none⟩

/-- The ways in which a step changes the lease, with the regions that it acquires. -/
inductive Advance (exports : Exports σ) (lease : Lease σ) : List Gain → Lease σ → Prop
  /-- The guest allocated nothing. -/
  | denied (size : UInt32)
      (hnull : ∀ ptr, (exports.alloc [size] lease.tripwire lease.guest).ending = .returned ptr →
        ptr = 0) :
      Advance exports lease [] (lease.called exports .alloc [size])
  /-- The guest allocated a region and bytes of its length were to be copied there. -/
  | placed (region : Region) (sensitivity : Sensitivity) (bytes : Bytes)
      (hret : (exports.alloc [region.len] lease.tripwire lease.guest).ending =
        .returned region.ptr)
      (hne : region.ptr ≠ 0) (hlen : region.len.toNat = bytes.length) :
      Advance exports lease [.operand region sensitivity bytes]
        ((lease.allocated exports region sensitivity).written region bytes)
  /-- A guest function returned no region. -/
  | rejected (entry : PackedExport) (args : List UInt32) (notes : List SessionEvent)
      (hnull : ∀ values, (exports.packed entry args lease.tripwire lease.guest).ending =
        .returned values → regionOf? values = none)
      (hnotes : ∀ note ∈ notes, ∃ len, note = .nullResult entry len) :
      Advance exports lease [] (lease.rejected exports entry args notes)
  /-- A guest function returned a region. -/
  | adopted (entry : PackedExport) (args : List UInt32) (values : List Value) (region : Region)
      (hret : (exports.packed entry args lease.tripwire lease.guest).ending = .returned values)
      (hregion : regionOf? values = some region) :
      Advance exports lease [.result entry region] (lease.adopted exports entry args region)
  /-- Bytes were to be copied out of guest memory. -/
  | looked (region : Region) : Advance exports lease [] (lease.recorded (.read region))

/-- Any number of advances, with all the regions that they acquire. -/
inductive Path (exports : Exports σ) (lease : Lease σ) : List Gain → Lease σ → Prop
  | refl : Path exports lease [] lease
  | tail {gains label : List Gain} {middle after : Lease σ}
      (hpath : Path exports lease gains middle) (hstep : Advance exports middle label after) :
      Path exports lease (gains ++ label) after

theorem Path.single {label : List Gain} {lease after : Lease σ}
    (hstep : Advance exports lease label after) : Path exports lease label after :=
  .tail .refl hstep

theorem Path.trans {first second : List Gain} {lease middle after : Lease σ}
    (hfirst : Path exports lease first middle) (hsecond : Path exports middle second after) :
    Path exports lease (first ++ second) after := by
  induction hsecond with
  | refl => rwa [List.append_nil]
  | tail _ hstep ih => rw [← List.append_assoc]; exact .tail ih hstep

/-- A part of an operation changes the lease by advances only, and acquires regions by a plan. -/
def Walks (exports : Exports σ) (plan : Plan) (part : LeaseM σ α) : Prop :=
  ∀ lease, match part lease with
    | .ok _ after => ∃ gains, gains.map Gain.milestone = plan ∧ Path exports lease gains after
    | .error _ after => ∃ gains, gains.map Gain.milestone <+: plan ∧ Path exports lease gains after

/-- A walk ends somewhere along its plan, on whatever path. -/
theorem Walks.final {plan : Plan} {part : LeaseM σ α} (hwalk : Walks exports plan part)
    (lease : Lease σ) :
    ∃ gains, gains.map Gain.milestone <+: plan ∧ Path exports lease gains (final part lease) := by
  have := hwalk lease
  unfold Lease.final
  cases h : part lease with
  | ok result after =>
    rw [h] at this
    obtain ⟨gains, hplan, hpath⟩ := this
    exact ⟨gains, hplan ▸ List.prefix_refl _, hpath⟩
  | error abort after => rw [h] at this; exact this

theorem Walks.pure (result : α) : Walks exports [] (Pure.pure result : LeaseM σ α) :=
  fun _ => ⟨[], rfl, .refl⟩

theorem Walks.fail (plan : Plan) (error : BridgeError) :
    Walks exports plan (Lease.fail error : LeaseM σ α) :=
  fun _ => ⟨[], List.nil_prefix, .refl⟩

theorem Walks.bind {first second : Plan} {part : LeaseM σ α} {next : α → LeaseM σ β}
    (hpart : Walks exports first part) (hnext : ∀ result, Walks exports second (next result)) :
    Walks exports (first ++ second) (part >>= next) := by
  intro lease
  have hfirst := hpart lease
  rw [bind_apply]
  cases h : part lease with
  | ok result middle =>
    rw [h] at hfirst
    obtain ⟨early, rfl, hearly⟩ := hfirst
    have hsecond := hnext result middle
    dsimp only
    cases h' : next result middle with
    | ok _ after =>
      rw [h'] at hsecond
      obtain ⟨late, rfl, hlate⟩ := hsecond
      exact ⟨early ++ late, List.map_append, hearly.trans hlate⟩
    | error abort after =>
      rw [h'] at hsecond
      obtain ⟨late, hprefix, hlate⟩ := hsecond
      refine ⟨early ++ late, ?_, hearly.trans hlate⟩
      rw [List.map_append]
      exact (List.prefix_append_right_inj _).2 hprefix
  | error abort after =>
    rw [h] at hfirst
    obtain ⟨early, hprefix, hearly⟩ := hfirst
    exact ⟨early, hprefix.trans (List.prefix_append first second), hearly⟩

theorem Walks.map {plan : Plan} {part : LeaseM σ α} (f : α → β)
    (hpart : Walks exports plan part) : Walks exports plan (f <$> part) := by
  have := hpart.bind fun result => Walks.pure (f result)
  rwa [List.append_nil, bind_pure_comp] at this

theorem Walks.read (region : Region) : Walks exports [] (read region : LeaseM σ Bytes) := by
  intro lease
  rw [read_eq]
  cases lease.guest.memory.read? region with
  | some bytes => exact ⟨[], rfl, .single (.looked region)⟩
  | none => exact ⟨[], List.nil_prefix, .single (.looked region)⟩

theorem Walks.readText (entry : PackedExport) (region : Region) :
    Walks exports [] (readText entry region : LeaseM σ String) := by
  refine (Walks.read region).bind fun bytes => ?_
  cases Utf8.decode? bytes with
  | some text => exact .pure text
  | none => exact .fail [] _

theorem Walks.expectLength (entry : PackedExport) (expected : Nat) (region : Region) :
    Walks exports [] (expectLength entry expected region : LeaseM σ Unit) := by
  unfold Lease.expectLength
  split
  · exact .pure ()
  · exact .fail [] _

theorem eq_nullResult_of_mem_nullNotes {entry : PackedExport} {values : List Value} :
    ∀ note ∈ nullNotes entry values, ∃ len, note = .nullResult entry len := by
  intro note hnote
  unfold nullNotes at hnote
  split at hnote
  · exact ⟨_, List.mem_singleton.1 hnote⟩
  · cases hnote

/-- A call for a packed result takes over a region, or fails and leaves none. -/
theorem callPacked_cases (exports : Exports σ) (entry : PackedExport) (args : List UInt32)
    (lease : Lease σ) :
    (∃ region, callPacked exports entry args lease =
        .ok region (lease.adopted exports entry args region) ∧
      Advance exports lease [.result entry region] (lease.adopted exports entry args region)) ∨
    ∃ abort after, callPacked exports entry args lease = .error abort after ∧
      Advance exports lease [] after := by
  have hplain (hnull : ∀ values, (exports.packed entry args lease.tripwire lease.guest).ending =
      .returned values → regionOf? values = none) :
      Advance exports lease [] (lease.called exports (.packed entry) args) := by
    have hstep : Advance exports lease [] (lease.rejected exports entry args []) :=
      .rejected entry args [] hnull nofun
    rwa [Lease.rejected, List.append_nil] at hstep
  rw [callPacked_eq]
  cases hending : (exports.packed entry args lease.tripwire lease.guest).ending with
  | trapped trap => exact .inr ⟨_, _, rfl, hplain (by rw [hending]; nofun)⟩
  | panicked payload => exact .inr ⟨_, _, rfl, hplain (by rw [hending]; nofun)⟩
  | returned values =>
    dsimp only
    cases hregion : regionOf? values with
    | some region => exact .inl ⟨region, rfl, .adopted entry args values region hending hregion⟩
    | none =>
      refine .inr ⟨_, _, rfl, .rejected entry args (nullNotes entry values) (fun other h => ?_)
        eq_nullResult_of_mem_nullNotes⟩
      rw [hending, Ending.returned.injEq] at h
      rwa [← h]

theorem Walks.callPacked (exports : Exports σ) (entry : PackedExport) (args : List UInt32) :
    Walks exports [⟨.packed entry, .plain, none⟩] (callPacked exports entry args) := by
  intro lease
  rcases callPacked_cases exports entry args lease with
    ⟨region, heq, hstep⟩ | ⟨abort, after, heq, hstep⟩
  · rw [heq]
    exact ⟨_, rfl, .single hstep⟩
  · rw [heq]
    exact ⟨[], List.nil_prefix, .single hstep⟩

/-- A region is held before it is filled, so it is given back even if it cannot be filled. -/
theorem Walks.allocBytes (exports : Exports σ) (bytes : Bytes) (sensitivity : Sensitivity) :
    Walks exports [⟨.alloc, sensitivity, some bytes⟩] (allocBytes exports bytes sensitivity) := by
  intro lease
  cases hlength : guestLength bytes.length with
  | error error =>
    rw [allocBytes_eq_of_error hlength]
    exact ⟨[], List.nil_prefix, .refl⟩
  | ok len =>
    have hlen := guestLength_eq_ok_iff.1 hlength
    rw [allocBytes_eq hlen]
    cases hending : (exports.alloc [len] lease.tripwire lease.guest).ending with
    | trapped trap =>
      exact ⟨[], List.nil_prefix, .single (.denied len (by rw [hending]; nofun))⟩
    | panicked payload =>
      exact ⟨[], List.nil_prefix, .single (.denied len (by rw [hending]; nofun))⟩
    | returned ptr =>
      dsimp only
      by_cases hnull : ptr = 0
      · rw [if_pos hnull]
        refine ⟨[], List.nil_prefix, .single (.denied len fun other h => ?_)⟩
        rw [hending, Ending.returned.injEq] at h
        rw [← h, hnull]
      · have hstep : Advance exports lease [.operand ⟨ptr, len⟩ sensitivity bytes]
            ((lease.allocated exports ⟨ptr, len⟩ sensitivity).written ⟨ptr, len⟩ bytes) :=
          .placed ⟨ptr, len⟩ sensitivity bytes hending hnull hlen
        rw [if_neg hnull, bind_apply, write_eq]
        cases (lease.allocated exports ⟨ptr, len⟩ sensitivity).guest.memory.write? ptr bytes with
        | none => exact ⟨_, List.prefix_refl _, .single hstep⟩
        | some memory => exact ⟨_, rfl, .single hstep⟩

/-! ## Actions pile up -/

theorem Advance.prefix_actions {label : List Gain} {lease after : Lease σ}
    (hstep : Advance exports lease label after) : lease.actions <+: after.actions := by
  cases hstep with
  | placed region sensitivity bytes hret hne hlen =>
    rw [actions_written]
    exact (List.prefix_append _ _).trans (List.prefix_append _ _)
  | denied | rejected | adopted | looked => exact List.prefix_append _ _

theorem Path.prefix_actions {gains : List Gain} {lease after : Lease σ}
    (hpath : Path exports lease gains after) : lease.actions <+: after.actions := by
  induction hpath with
  | refl => exact List.prefix_refl _
  | tail _ hstep ih => exact ih.trans hstep.prefix_actions

/-- A part of a body only adds to what was done before. -/
theorem Walks.prefix_actions {plan : Plan} {part : LeaseM σ α} (hwalk : Walks exports plan part)
    (lease : Lease σ) : lease.actions <+: (Lease.final part lease).actions := by
  obtain ⟨gains, -, hpath⟩ := hwalk.final lease
  exact hpath.prefix_actions

/-- What is done in a first part stays done in the whole. -/
theorem prefix_actions_bind {part : LeaseM σ α} {next : α → LeaseM σ β}
    (hgrows : ∀ result lease, lease.actions <+: (final (next result) lease).actions)
    (lease : Lease σ) :
    (final part lease).actions <+: (final (part >>= next) lease).actions := by
  cases hpart : part lease with
  | ok result after =>
    rw [final_bind_of_ok hpart, final, hpart]
    exact hgrows result after
  | error abort after => rw [final, final, bind_of_error hpart, hpart]

/-- Wherever placing an operand ends, the allocator was called first. -/
theorem prefix_actions_allocBytes {bytes : Bytes} {len : UInt32} (hlen : len.toNat = bytes.length)
    (sensitivity : Sensitivity) (lease : Lease σ) :
    (lease.called exports .alloc [len]).actions <+:
      (final (allocBytes exports bytes sensitivity) lease).actions := by
  rw [final, allocBytes_eq hlen]
  cases (exports.alloc [len] lease.tripwire lease.guest).ending with
  | trapped | panicked => exact List.prefix_refl _
  | returned ptr =>
    dsimp only
    by_cases hnull : ptr = 0
    · rw [if_pos hnull]
    · have hwritten : (lease.called exports .alloc [len]).actions <+:
          ((lease.allocated exports ⟨ptr, len⟩ sensitivity).written ⟨ptr, len⟩ bytes).actions := by
        rw [actions_written]
        exact List.prefix_append _ _
      rw [if_neg hnull, bind_apply, write_eq]
      cases (lease.allocated exports ⟨ptr, len⟩ sensitivity).guest.memory.write? ptr bytes <;>
        exact hwritten

/-- Wherever asking for an answer ends, the export was called first. -/
theorem prefix_actions_callPacked (entry : PackedExport) (args : List UInt32) (lease : Lease σ) :
    (lease.called exports (.packed entry) args).actions <+:
      (final (callPacked exports entry args) lease).actions := by
  rw [final, callPacked_eq]
  cases (exports.packed entry args lease.tripwire lease.guest).ending with
  | trapped | panicked => exact List.prefix_refl _
  | returned values =>
    dsimp only
    cases regionOf? values <;> exact List.prefix_refl _

/-! ## Moves -/

/-- What happens to the lease in the body of an operation: an advance, or a held region turns out to
be a secret. -/
inductive Move (exports : Exports σ) (lease : Lease σ) : Lease σ → Prop
  | advance {label : List Gain} {after : Lease σ} (hstep : Advance exports lease label after) :
      Move exports lease after
  | marked (region : Region) :
      Move exports lease { lease with held := markSecretIn region lease.held }

/-- Any number of moves. -/
abbrev Reaches (exports : Exports σ) : Lease σ → Lease σ → Prop :=
  Relation.ReflTransGen (Move exports)

theorem Path.reaches {gains : List Gain} {lease after : Lease σ}
    (hpath : Path exports lease gains after) : Reaches exports lease after := by
  induction hpath with
  | refl => exact .refl
  | tail _ hstep ih => exact ih.tail (.advance hstep)

end Lease

end GuestBridge
