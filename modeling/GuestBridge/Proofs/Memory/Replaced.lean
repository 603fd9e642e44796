import GuestBridge.Memory.Fill

/-!
# Replacing the bytes of a region

A region that lies inside memory can be given other bytes, one by one (`replaced_store`) or all the
same (`replaced_fill`). Either way the region holds what was put there, and nothing else of memory
has changed (`Memory.Replaced`).
-/

namespace GuestBridge

/-- The address lies in the region. -/
def Region.Contains (region : Region) (address : Nat) : Prop :=
  region.ptr.toNat ≤ address ∧ address < region.stop

/-- A memory after these bytes were put in a region: they are read from there, and everything else
is as before. -/
structure Memory.Replaced (region : Region) (bytes : Bytes) (before after : Memory) : Prop where
  size_eq : after.size = before.size
  limit_eq : after.pageLimit = before.pageLimit
  read_eq : after.read? region = some bytes
  byte_eq : ∀ address, ¬region.Contains address → after.byte address = before.byte address

namespace Memory

variable {memory : Memory} {region : Region} {bytes : Bytes}

theorem replaced_store (hlen : region.len.toNat = bytes.length) (hin : memory.Holds region) :
    memory.Replaced region bytes (memory.store region.ptr.toNat bytes) where
  size_eq := size_store _ _ _
  limit_eq := pageLimit_store _ _ _
  read_eq := read?_store memory hlen hin
  byte_eq address hout := by
    have hinside : region.ptr.toNat + bytes.length ≤ memory.size := hlen ▸ hin
    rw [byte_store _ _ _ _ hinside, ← hlen]
    exact if_neg hout

theorem replaced_fill (hin : memory.Holds region) (value : UInt8) :
    memory.Replaced region (List.replicate region.len.toNat value)
      (memory.fill region.ptr.toNat region.len.toNat value) where
  size_eq := size_fill _ _ _ _
  limit_eq := pageLimit_fill _ _ _ _
  read_eq := by
    have hin' : (memory.fill region.ptr.toNat region.len.toNat value).Holds region := by
      rw [Holds, size_fill]
      exact hin
    rw [read?, if_pos hin', Option.some.injEq]
    refine List.eq_replicate_iff.2 ⟨length_bytesAt _ _ _, fun byte hmem => ?_⟩
    obtain ⟨offset, hoffset, rfl⟩ := List.mem_map.1 hmem
    have hlt : region.ptr.toNat + offset < region.ptr.toNat + region.len.toNat :=
      Nat.add_lt_add_left (List.mem_range.1 hoffset) _
    rw [byte_fill]
    exact if_pos ⟨Nat.le_add_right _ _, hlt, Nat.lt_of_lt_of_le hlt hin⟩
  byte_eq address hout := by
    rw [byte_fill]
    exact if_neg fun h => hout ⟨h.1, h.2.1⟩

end Memory

end GuestBridge
