/-! # Counters of guest allocations

A session counts what happens to guest memory: how many regions the host allocated and how many
results it took over, and how many releases succeeded and failed. The counters are 64-bit words that
only ever go up. `AllocationStats.outstanding` is the number of regions not released yet, and
`AllocationStats.isBalanced` says that every region was released successfully.
-/

namespace GuestBridge

/-- What has happened to guest memory over the life of a session. -/
structure AllocationStats where
  /-- Allocations that the host requested and got. -/
  allocated : UInt64
  /-- Result buffers that the guest allocated and the host took over. -/
  adopted : UInt64
  /-- Releases that succeeded. -/
  released : UInt64
  /-- Releases that failed. -/
  releaseFailures : UInt64
deriving DecidableEq

namespace AllocationStats

/-- The counters of a session that has done nothing. -/
def zero : AllocationStats := ⟨0, 0, 0, 0⟩

/-- The number of regions ever acquired, from either source. -/
def acquired (stats : AllocationStats) : UInt64 :=
  stats.allocated + stats.adopted

/-- The number of regions acquired and not released, or zero if more were released. -/
def outstanding (stats : AllocationStats) : UInt64 :=
  if stats.acquired ≤ stats.released then 0 else stats.acquired - stats.released

/-- Whether exactly as many regions were released as were acquired. -/
def isBalanced (stats : AllocationStats) : Bool :=
  stats.acquired == stats.released

/-- The diagnostic text of the counters. -/
def describe (stats : AllocationStats) : String :=
  let allocated := stats.allocated
  let adopted := stats.adopted
  let released := stats.released
  let failures := stats.releaseFailures
  s!"AllocationStats \x7b allocated: {allocated}, adopted: {adopted}, released: {released}, " ++
    s!"release_failures: {failures} \x7d"

end AllocationStats

end GuestBridge
