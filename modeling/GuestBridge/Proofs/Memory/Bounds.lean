import GuestBridge.Proofs.Memory.Replaced
import GuestBridge.Proofs.Memory.Slices
import GuestBridge.Proofs.Operation.Outcome
import GuestBridge.Script.Run

/-!
# Guest memory is bounded exactly

A region of guest memory is read, written and overwritten by the host, and it is shown to the log
subscriber and filled with random bytes when the guest asks for that. All five accesses look at the
same condition: the region lies inside memory, its end computed as a natural number. If it does,
each of them does what it should and changes at most the bytes of the region (`Memory.Serves`,
`Memory.Replaced`). If it does not, each of them fails in its own way and memory stays as it was
(`Memory.Refuses`). `exactly_bounded` says so for all memories and regions, and that it makes no
difference that the ends are computed in words of the machine.
-/

namespace GuestBridge

/-! ## Accesses of the host -/

namespace Lease

variable {σ : Type} {lease : Lease σ} {region : Region}

theorem read_of_read?_eq {bytes : Bytes} (hread : lease.guest.memory.read? region = some bytes) :
    read region lease = .ok bytes (lease.recorded (.read region)) := by
  rw [read_eq, hread]

/-- What a memory holds is read from it once it is that of the guest. -/
theorem outcome_read_withMemory {after : Memory} {bytes : Bytes}
    (hread : after.read? region = some bytes) :
    outcome (read region) (lease.withMemory after) = .ok bytes := by
  have hguest : (lease.withMemory after).guest.memory.read? region = some bytes := hread
  rw [outcome, read_of_read?_eq hguest]

theorem read_of_not_holds (hout : ¬lease.guest.memory.Holds region) :
    read region lease = .error (.failed (accessError lease.guest.memory region))
      (lease.recorded (.read region)) := by
  rw [read_eq, Memory.read?, if_neg hout]

/-- Bytes that fill a region are written if the region lies inside memory. -/
theorem write_of_holds {bytes : Bytes} (hlen : region.len.toNat = bytes.length)
    (hin : lease.guest.memory.Holds region) :
    write region bytes lease = .ok () ((lease.recorded (.write region bytes)).withMemory
      (lease.guest.memory.store region.ptr.toNat bytes)) := by
  have hwrite : lease.guest.memory.write? region.ptr bytes =
      some (lease.guest.memory.store region.ptr.toNat bytes) := if_pos (hlen ▸ hin)
  rw [write_eq, hwrite, written_of_holds lease hlen hin]

theorem write_of_not_holds {bytes : Bytes} (hlen : region.len.toNat = bytes.length)
    (hout : ¬lease.guest.memory.Holds region) :
    write region bytes lease = .error (.failed (accessError lease.guest.memory region))
      (lease.recorded (.write region bytes)) := by
  have houtside : ¬region.ptr.toNat + bytes.length ≤ lease.guest.memory.size := hlen ▸ hout
  rw [write_eq, written, Memory.write?, if_neg houtside]

theorem wipe_of_holds (hin : lease.guest.memory.Holds region) :
    wipe region lease = .ok () ((lease.recorded (.wipe region)).withMemory
      (lease.guest.memory.fill region.ptr.toNat region.len.toNat 0)) := by
  have hevents : Held.wipeEvents ⟨region, 0, .secret⟩ lease.guest = [] :=
    Held.wipeEvents_of_holds hin
  rw [wipe_eq, prepared, hevents, List.append_nil, Held.wipeActions_of_secret rfl, Held.prepare,
    if_pos rfl, Instance.wiped, Memory.wipe?, if_pos hin]
  rfl

theorem wipe_of_not_holds (hout : ¬lease.guest.memory.Holds region) :
    wipe region lease = .ok () { lease.recorded (.wipe region) with
      events := lease.events ++ [.wipeFailed region (accessError lease.guest.memory region)] } := by
  rw [wipe_eq, prepared, Held.wipeEvents, if_pos ⟨rfl, hout⟩, Held.wipeActions_of_secret rfl,
    Held.prepare, if_pos rfl, Instance.wiped, Memory.wipe?, if_neg hout]
  rfl

end Lease

/-! ## Accesses for the guest -/

namespace Script

/-- In a running call of a script, the host sees a memory. -/
structure Shows (linked : Linked) (machine : Machine) (memory : Memory) : Prop where
  exported : linked.exportsMemory = true
  shared_eq : machine.shared = memory

/-- The machine after the log subscriber was shown something. -/
def Machine.noticing (item : Notice) (machine : Machine) : Machine :=
  { machine with notices := item :: machine.notices }

variable {linked : Linked} {machine : Machine} {memory : Memory} {region : Region}

theorem Machine.shared_share (machine : Machine) (memory : Memory) :
    (machine.share memory).shared = memory := by
  unfold share shared
  cases machine.other <;> rfl

theorem Machine.share_shared (machine : Machine) : machine.share machine.shared = machine := by
  obtain ⟨memory, other⟩ := machine
  cases other <;> rfl

theorem bind_of_ok {α β : Type} {part : RunM α} {result : α} {after : Machine}
    (hpart : part machine = .ok result after) (next : α → RunM β) :
    (part >>= next) machine = next result after := by
  show EStateM.bind part next machine = _
  rw [EStateM.bind.eq_1, hpart]

theorem notice_eq (item : Notice) (machine : Machine) :
    notice item machine = match Capability.tripped machine.tripwire item with
      | none => .ok () (machine.noticing item)
      | some payload =>
        .error (.panicked payload) { machine.noticing item with tripwire := none } := by
  unfold notice
  cases Capability.tripped machine.tripwire item <;> rfl

theorem callLog_eq (hshows : Shows linked machine memory) (region : Region) :
    callLog linked region machine = notice (Capability.log (some memory) region) machine := by
  show notice (Capability.log (if linked.exportsMemory then some machine.shared else none) region)
    machine = _
  rw [hshows.exported, if_pos rfl, hshows.shared_eq]

theorem log_of_holds (hin : memory.Holds region) :
    Capability.log (some memory) region =
      .logged (Utf8.decodeLossy (memory.bytesAt region.ptr.toNat region.len.toNat)) := by
  rw [Capability.log, Memory.read?, if_pos hin]

/-- The log subscriber never panics at a region that leaves memory, so the guest goes on. -/
theorem callLog_of_not_holds (hshows : Shows linked machine memory) (hout : ¬memory.Holds region) :
    callLog linked region machine =
      .ok () (machine.noticing (.logOutOfBounds region.ptr region.len)) := by
  have huntripped : Capability.tripped machine.tripwire
      (.logOutOfBounds region.ptr region.len) = none := by
    cases machine.tripwire <;> rfl
  rw [callLog_eq hshows, Capability.log, Memory.read?, if_neg hout]
  dsimp only
  rw [notice_eq, huntripped]

theorem callRandom_of_holds (hshows : Shows linked machine memory) (hin : memory.Holds region) :
    callRandom linked region machine =
      .ok 0 { machine.share (memory.store region.ptr.toNat
          (machine.entropy.next region.len.toNat)) with
        entropy := machine.entropy.skip region.len.toNat
        notices := machine.notices } := by
  rw [callRandom, hshows.exported, hshows.shared_eq, Capability.random, if_pos rfl, if_pos hin]
  rfl

theorem callRandom_of_not_holds (hshows : Shows linked machine memory)
    (hout : ¬memory.Holds region) :
    callRandom linked region machine =
      .ok 21 (machine.noticing (.randomOutOfBounds region.ptr region.len)) := by
  rw [callRandom, hshows.exported, hshows.shared_eq, Capability.random, if_pos rfl, if_neg hout]
  dsimp only
  rw [← hshows.shared_eq, Machine.share_shared]
  rfl

/-- A statement that logs a region which leaves memory is followed by the rest of the body. -/
theorem execute_log_of_not_holds (hshows : Shows linked machine memory)
    (hout : ¬memory.Holds region) (hbinding : linked.logBinding = .log)
    {eval : Expr → RunM UInt32} {ptr len : Expr} {before middle : Machine}
    (hptr : eval ptr before = .ok region.ptr middle) (hlen : eval len middle = .ok region.len machine)
    (types : List ValueType) (fuel : Nat) (rest : Body) :
    execute linked eval types (fuel + 1) (.log ptr len :: rest) before =
      execute linked eval types fuel rest
        (machine.noticing (.logOutOfBounds region.ptr region.len)) := by
  have hstatement : (Stmt.log ptr len).runSimple linked eval before =
      .ok () (machine.noticing (.logOutOfBounds region.ptr region.len)) := by
    -- Both operands are evaluated before the capability is called.
    rw [Stmt.runSimple, bind_of_ok hptr, bind_of_ok hlen, hbinding]
    exact callLog_of_not_holds hshows hout
  rw [execute.eq_def]
  dsimp only
  rw [hstatement]

end Script

/-! ## All accesses -/

namespace Memory

open Script

/-- What comes of the accesses to a region that lies inside a memory: all of them succeed. -/
structure Serves (memory : Memory) (region : Region) : Prop where
  /-- The host reads the bytes of the region, and nothing changes. -/
  read : ∀ {σ : Type} (lease : Lease σ), lease.guest.memory = memory →
    Lease.read region lease =
      .ok (memory.bytesAt region.ptr.toNat region.len.toNat) (lease.recorded (.read region))
  /-- The host writes bytes that fill the region, and can read them back. -/
  write : ∀ {σ : Type} (lease : Lease σ), lease.guest.memory = memory → ∀ bytes,
    region.len.toNat = bytes.length → ∃ after, memory.Replaced region bytes after ∧
      Lease.write region bytes lease =
        .ok () ((lease.recorded (.write region bytes)).withMemory after) ∧
      Lease.outcome (Lease.write region bytes >>= fun _ => Lease.read region) lease = .ok bytes
  /-- The host overwrites the region, and can read zeros from there. -/
  wipe : ∀ {σ : Type} (lease : Lease σ), lease.guest.memory = memory →
    ∃ after, memory.Replaced region (List.replicate region.len.toNat 0) after ∧
      memory.wipe? region = some after ∧
      Lease.wipe region lease = .ok () ((lease.recorded (.wipe region)).withMemory after) ∧
      Lease.outcome (Lease.wipe region >>= fun _ => Lease.read region) lease =
        .ok (List.replicate region.len.toNat 0)
  /-- The text that the guest logs is shown to the log subscriber, as information, and nothing
  changes. Only a panic of the log subscriber keeps the guest from going on. -/
  log : ∀ linked machine, Shows linked machine memory →
    let item := Notice.logged
      (Utf8.decodeLossy (memory.bytesAt region.ptr.toNat region.len.toNat))
    (SessionEvent.noticed item).level = .info ∧
    callLog linked region machine = match Capability.tripped machine.tripwire item with
      | none => .ok () (machine.noticing item)
      | some payload =>
        .error (.panicked payload) { machine.noticing item with tripwire := none }
  /-- The guest is given random bytes in the region, and zero for an answer. -/
  random : ∀ linked machine, Shows linked machine memory →
    ∃ after, memory.Replaced region (machine.entropy.next region.len.toNat) after ∧
      (machine.share after).shared = after ∧
      callRandom linked region machine = .ok 0 { machine.share after with
        entropy := machine.entropy.skip region.len.toNat
        notices := machine.notices }

/-- What comes of the accesses to a region that leaves a memory: all of them fail and leave the
memory alone. -/
structure Refuses (memory : Memory) (region : Region) : Prop where
  /-- To read the region is an error that names the region and the size of memory. -/
  read : ∀ {σ : Type} (lease : Lease σ), lease.guest.memory = memory →
    Lease.read region lease =
      .error (.failed (.memoryAccess region.ptr region.len memory.size))
        (lease.recorded (.read region))
  /-- To write bytes of that length is the same error. -/
  write : ∀ {σ : Type} (lease : Lease σ), lease.guest.memory = memory → ∀ bytes,
    region.len.toNat = bytes.length →
      Lease.write region bytes lease =
        .error (.failed (.memoryAccess region.ptr region.len memory.size))
          (lease.recorded (.write region bytes))
  /-- To overwrite the region is the same error, which is reported and does not stop the host. -/
  wipe : ∀ {σ : Type} (lease : Lease σ), lease.guest.memory = memory →
    memory.wipe? region = none ∧
    Lease.wipe region lease = .ok () { lease.recorded (.wipe region) with
      events := lease.events ++
        [.wipeFailed region (.memoryAccess region.ptr region.len memory.size)] }
  /-- If the guest logs the region, there is one warning. -/
  log : ∀ linked machine, Shows linked machine memory →
    let item := Notice.logOutOfBounds region.ptr region.len
    (SessionEvent.noticed item).level = .warn ∧
    callLog linked region machine = .ok () (machine.noticing item)
  /-- Then the guest goes on with the statements that follow. -/
  log_continues : ∀ linked machine, Shows linked machine memory → linked.logBinding = .log →
    ∀ (eval : Expr → RunM UInt32) ptr len before middle,
      eval ptr before = .ok region.ptr middle → eval len middle = .ok region.len machine →
      ∀ types fuel rest, execute linked eval types (fuel + 1) (.log ptr len :: rest) before =
        execute linked eval types fuel rest
          (machine.noticing (.logOutOfBounds region.ptr region.len))
  /-- If the guest asks for random bytes in the region, it is given the number of the failure for
  an answer, and there is one warning. -/
  random : ∀ linked machine, Shows linked machine memory →
    let item := Notice.randomOutOfBounds region.ptr region.len
    (SessionEvent.noticed item).level = .warn ∧
    callRandom linked region machine = .ok 21 (machine.noticing item)

variable {memory : Memory} {region : Region}

theorem serves_of_holds (hin : memory.Holds region) : memory.Serves region where
  read lease hlease := by
    subst hlease
    exact Lease.read_of_read?_eq (if_pos hin)
  write lease hlease bytes hlen := by
    subst hlease
    have hreplaced := replaced_store hlen hin
    have hwrite := Lease.write_of_holds hlen hin
    refine ⟨_, hreplaced, hwrite, ?_⟩
    rw [Lease.outcome_bind_of_ok hwrite, Lease.outcome_read_withMemory hreplaced.read_eq]
  wipe lease hlease := by
    subst hlease
    have hreplaced := replaced_fill hin 0
    have hwipe := Lease.wipe_of_holds hin
    refine ⟨_, hreplaced, if_pos hin, hwipe, ?_⟩
    rw [Lease.outcome_bind_of_ok hwipe, Lease.outcome_read_withMemory hreplaced.read_eq]
  log linked machine hshows := by
    refine ⟨rfl, ?_⟩
    rw [callLog_eq hshows, log_of_holds hin, notice_eq]
  random linked machine hshows :=
    ⟨_, replaced_store (by simp [Entropy.next]) hin, machine.shared_share _,
      callRandom_of_holds hshows hin⟩

theorem refuses_of_not_holds (hout : ¬memory.Holds region) : memory.Refuses region where
  read lease hlease := by
    subst hlease
    exact Lease.read_of_not_holds hout
  write lease hlease bytes hlen := by
    subst hlease
    exact Lease.write_of_not_holds hlen hout
  wipe lease hlease := by
    subst hlease
    exact ⟨if_neg hout, Lease.wipe_of_not_holds hout⟩
  log linked machine hshows := ⟨rfl, callLog_of_not_holds hshows hout⟩
  log_continues linked machine hshows hbinding eval ptr len before middle hptr hlen :=
    execute_log_of_not_holds hshows hout hbinding hptr hlen
  random linked machine hshows := ⟨rfl, callRandom_of_not_holds hshows hout⟩

/-- For every memory and every region: if the region ends inside memory, all accesses to it succeed,
and if it does not, all of them fail. None of this depends on the way in which an access finds the
end of the region in words of the machine. -/
theorem exactly_bounded (memory : Memory) (region : Region) :
    memory.Sliced region ∧
      if region.ptr.toNat + region.len.toNat ≤ memory.size then memory.Serves region
      else memory.Refuses region := by
  refine ⟨memory.sliced region, ?_⟩
  by_cases hin : region.ptr.toNat + region.len.toNat ≤ memory.size
  · rw [if_pos hin]
    exact serves_of_holds hin
  · rw [if_neg hin]
    exact refuses_of_not_holds hin

end Memory

end GuestBridge
