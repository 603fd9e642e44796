import GuestBridge.Proofs.Guest.Resolution
import GuestBridge.Proofs.Heap.Computing

/-!
# What holds of all parts of an operation

The bodies of all operations and the release of what they hold are built from a few steps. A
property of parts is `Pervasive` if it holds of those steps and carries over to sequences; then it
holds of every body (`Pervasive.body`) and of the release (`Pervasive.releaseAll`). It has to hold
of the steps only as operations take them: a function is called with as many words as it takes, a
counter goes up by one, and a failure is no input error.
-/

namespace GuestBridge

open Lease Operation

variable {σ : Type}

/-- A counter goes up by one. -/
inductive Tick : (AllocationStats → AllocationStats) → Prop
  | allocated : Tick fun stats => { stats with allocated := stats.allocated + 1 }
  | adopted : Tick fun stats => { stats with adopted := stats.adopted + 1 }
  | released : Tick fun stats => { stats with released := stats.released + 1 }
  | releaseFailures : Tick fun stats => { stats with releaseFailures := stats.releaseFailures + 1 }

/-- A property of parts of an operation holds of all steps that operations are built from. -/
structure Pervasive (exports : Exports σ) (P : (α : Type) → LeaseM σ α → Prop) : Prop where
  pure : ∀ {α : Type} (result : α), P α (Pure.pure result)
  bind : ∀ {α β : Type} {part : LeaseM σ α} {next : α → LeaseM σ β},
    P α part → (∀ result, P β (next result)) → P β (part >>= next)
  fail : ∀ {α : Type} {error : BridgeError}, error.isInvalidInput = false → P α (Lease.fail error)
  emit : ∀ event, P Unit (Lease.emit event)
  count : ∀ {change : AllocationStats → AllocationStats}, Tick change → P Unit (Lease.count change)
  hold : ∀ held, P Unit (Lease.hold held)
  markSecret : ∀ region, P Unit (Lease.markSecret region)
  write : ∀ region bytes, P Unit (Lease.write region bytes)
  read : ∀ region, P Bytes (Lease.read region)
  wipe : ∀ region, P Unit (Lease.wipe region)
  call : ∀ {callee : Callee} {args : List UInt32}, args.length = callee.arity →
    P (Except Trap callee.Result) (Lease.call exports callee args)

namespace Pervasive

variable {exports : Exports σ} {P : (α : Type) → LeaseM σ α → Prop} {α β : Type}

theorem map (hparts : Pervasive exports P) (f : α → β) {part : LeaseM σ α} (hpart : P α part) :
    P β (f <$> part) := by
  rw [← bind_pure_comp]
  exact hparts.bind hpart fun result => hparts.pure (f result)

/-! ## Results -/

theorem readText (hparts : Pervasive exports P) (entry : PackedExport) (region : Region) :
    P String (Lease.readText entry region) := by
  refine hparts.bind (hparts.read region) fun bytes => ?_
  cases Utf8.decode? bytes with
  | some text => exact hparts.pure text
  | none => exact hparts.fail rfl

theorem expectLength (hparts : Pervasive exports P) (entry : PackedExport) (expected : Nat)
    (region : Region) : P Unit (Lease.expectLength entry expected region) := by
  unfold Lease.expectLength
  split
  · exact hparts.pure ()
  · exact hparts.fail rfl

theorem unpack (hparts : Pervasive exports P) (entry : PackedExport) (values : List Value) :
    P Region (Lease.unpack entry values) := by
  unfold Lease.unpack
  split
  · exact hparts.fail rfl
  · split
    · exact hparts.pure _
    · exact hparts.bind (hparts.emit _) fun _ => hparts.fail rfl
  · exact hparts.fail rfl

/-! ## Regions -/

theorem allocate (hparts : Pervasive exports P) (size : UInt32) :
    P UInt32 (Lease.allocate exports size) := by
  refine hparts.bind (hparts.call rfl) fun reply => ?_
  cases reply with
  | error trap => exact hparts.fail rfl
  | ok ptr =>
    have hcounted : P UInt32 (do
        Lease.count fun stats => { stats with allocated := stats.allocated + 1 }
        Lease.emit (.allocated ptr size)
        Pure.pure ptr) :=
      hparts.bind (hparts.count .allocated) fun _ =>
        hparts.bind (hparts.emit _) fun _ => hparts.pure ptr
    dsimp only
    split
    · exact hparts.bind (hparts.fail rfl) fun _ => hcounted
    · exact hcounted

/-- Placing an operand fails with an input error only if the operand has no guest length. -/
theorem allocBytes (hparts : Pervasive exports P) {bytes : Bytes} {len : UInt32}
    (hlen : len.toNat = bytes.length) (sensitivity : Sensitivity) :
    P Region (Lease.allocBytes exports bytes sensitivity) := by
  have hlength : Lease.orFail (guestLength bytes.length) = (Pure.pure len : LeaseM σ UInt32) := by
    rw [guestLength_eq_ok_iff.2 hlen]
    rfl
  unfold Lease.allocBytes
  rw [hlength]
  refine hparts.bind (hparts.pure len) fun len => ?_
  refine hparts.bind (hparts.allocate len) fun ptr => ?_
  refine hparts.bind (hparts.hold _) fun _ => ?_
  exact hparts.bind (hparts.write _ bytes) fun _ => hparts.pure _

theorem callPacked (hparts : Pervasive exports P) {entry : PackedExport} {args : List UInt32}
    (hcount : args.length = entry.arity) : P Region (Lease.callPacked exports entry args) := by
  have hcall : P _ (Lease.call exports (.packed entry) args) := hparts.call hcount
  refine hparts.bind hcall fun reply => ?_
  cases reply with
  | error trap => exact hparts.fail rfl
  | ok values =>
    refine hparts.bind (hparts.unpack entry values) fun region => ?_
    refine hparts.bind (hparts.count .adopted) fun _ => ?_
    refine hparts.bind (hparts.emit _) fun _ => ?_
    exact hparts.bind (hparts.hold _) fun _ => hparts.pure region

theorem deallocate (hparts : Pervasive exports P) (held : Held) :
    P Unit (Lease.deallocate exports held) := by
  refine hparts.bind (hparts.call rfl) fun reply => ?_
  cases reply with
  | error trap => exact hparts.bind (hparts.count .releaseFailures) fun _ => hparts.emit _
  | ok _ => exact hparts.bind (hparts.count .released) fun _ => hparts.emit _

theorem releaseAll (hparts : Pervasive exports P) (regions : List Held) :
    P Unit (Lease.releaseAll exports regions) := by
  induction regions with
  | nil => exact hparts.pure ()
  | cons held rest ih =>
    refine hparts.bind ?_ fun _ => ih
    unfold Lease.release
    split
    · exact hparts.bind (hparts.wipe held.region) fun _ => hparts.deallocate held
    · exact hparts.deallocate held

/-! ## Bodies -/

theorem transformBody (hparts : Pervasive exports P) (entry : PackedExport) {input : Bytes}
    {len : UInt32} (hlen : len.toNat = input.length) {extra : List UInt32}
    (hcount : extra.length + 2 = entry.arity) {read : Region → LeaseM σ α}
    (hread : ∀ region, P α (read region)) :
    P α (Operation.transformBody exports entry input extra read) := by
  refine hparts.bind (hparts.allocBytes hlen .plain) fun operand => ?_
  have hwords : ([operand.ptr, operand.len] ++ extra).length = entry.arity := hcount
  exact hparts.bind (hparts.callPacked hwords) hread

theorem newPrivateKeyBody (hparts : Pervasive exports P) :
    P KeyPair (Operation.newPrivateKeyBody exports) := by
  refine hparts.bind (hparts.callPacked rfl) fun key => ?_
  refine hparts.bind (hparts.markSecret key) fun _ => ?_
  refine hparts.bind (hparts.expectLength .newPrivateKey privateKeySize key) fun _ => ?_
  refine hparts.bind (hparts.read key) fun privateKey => ?_
  refine hparts.bind (hparts.callPacked rfl) fun address => ?_
  refine hparts.bind (hparts.expectLength .getAddress addressSize address) fun _ => ?_
  exact hparts.bind (hparts.readText .getAddress address) fun text => hparts.pure _

theorem signBody (hparts : Pervasive exports P) {privateKey message : Bytes}
    {keyLen len : UInt32} (hkey : keyLen.toNat = privateKey.length)
    (hmessage : len.toNat = message.length) :
    P String (Operation.signBody exports privateKey message) := by
  refine hparts.bind (hparts.allocBytes hmessage .plain) fun operand => ?_
  refine hparts.bind (hparts.allocBytes hkey .secret) fun key => ?_
  refine hparts.bind (hparts.callPacked rfl) fun signature => ?_
  refine hparts.bind (hparts.expectLength .sign signatureSize signature) fun _ => ?_
  exact hparts.readText .sign signature

/-- The check of the arguments has seen to it that all operands have guest lengths. -/
theorem body (hparts : Pervasive exports P) {request : Request} (hcheck : request.check = .ok ()) :
    P Product (request.body exports) := by
  have hlens := exists_len_of_check hcheck
  cases request with
  | newPrivateKey => exact hparts.map _ hparts.newPrivateKeyBody
  | sign privateKey message =>
    obtain ⟨keyLen, hkey⟩ := hlens privateKey List.mem_cons_self
    obtain ⟨len, hmessage⟩ := hlens message (List.mem_cons_of_mem _ List.mem_cons_self)
    exact hparts.map _ (hparts.signBody hkey hmessage)
  | hashText message =>
    obtain ⟨len, hlen⟩ := hlens message List.mem_cons_self
    exact hparts.map _ (hparts.transformBody _ hlen rfl (hparts.readText .hashMessage))
  | formatMessage message | recoverMessage message | hashBytes message =>
    obtain ⟨len, hlen⟩ := hlens message List.mem_cons_self
    exact hparts.map _ (hparts.transformBody _ hlen rfl hparts.read)

end Pervasive

end GuestBridge
