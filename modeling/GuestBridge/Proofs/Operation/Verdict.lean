import GuestBridge.Proofs.Heap.Computing
import GuestBridge.Proofs.Operation.Outcome

/-!
# The first failure decides

An operation other than making a key calls the allocator for each of its operands and then one
packed export, and each thing that it needs from these calls can be missing. `Request.failures`
lists what can go wrong, in the order in which it counts and with the data of the moment at which it
goes wrong: each entry is the cause of failure, or nothing if all is well at that point. The list is
computed from the replies of the guest alone, and from all of them: what comes behind a failure is
of no consequence. `Request.verdict` is the first failure or, if there is none, what the bytes of
the result stand for. `verdict_serve` says that this is the outcome of the operation, whatever the
guest does.
-/

namespace GuestBridge

variable {σ α β : Type}

/-! ## Checks in a row -/

/-- Of checks that are made one after another the first one that fails decides. If none does, the
result counts. -/
def firstFailureOr (failures : List (Option BridgeError)) (result : Except BridgeError α) :
    Except BridgeError α :=
  match failures.findSome? id with
  | some error => .error error
  | none => result

@[simp] theorem firstFailureOr_nil (result : Except BridgeError α) :
    firstFailureOr [] result = result := rfl

@[simp] theorem firstFailureOr_none (failures : List (Option BridgeError))
    (result : Except BridgeError α) :
    firstFailureOr (none :: failures) result = firstFailureOr failures result := rfl

@[simp] theorem firstFailureOr_some (error : BridgeError) (failures : List (Option BridgeError))
    (result : Except BridgeError α) :
    firstFailureOr (some error :: failures) result = .error error := rfl

theorem firstFailureOr_append (first second : List (Option BridgeError))
    (result : Except BridgeError α) :
    firstFailureOr (first ++ second) result =
      firstFailureOr first (firstFailureOr second result) := by
  unfold firstFailureOr
  rw [List.findSome?_append]
  cases first.findSome? id <;> rfl

theorem map_firstFailureOr (f : α → β) (failures : List (Option BridgeError))
    (result : Except BridgeError α) :
    (firstFailureOr failures result).map f = firstFailureOr failures (result.map f) := by
  unfold firstFailureOr
  cases failures.findSome? id <;> rfl

/-- A result comes out exactly if no check fails. -/
theorem exists_firstFailureOr_eq_ok_iff (failures : List (Option BridgeError)) (result : α) :
    (∃ other, firstFailureOr failures (.ok result) = .ok other) ↔
      ∀ failure ∈ failures, failure = none := by
  have hnone : failures.findSome? id = none ↔ ∀ failure ∈ failures, failure = none :=
    List.findSome?_eq_none_iff
  rw [firstFailureOr, ← hnone]
  cases failures.findSome? id <;> simp

/-- What the access of the host to a region fails with. -/
def accessFailure (memory : Memory) (region : Region) : Option BridgeError :=
  if memory.Holds region then none
  else some (.memoryAccess region.ptr region.len memory.size)

/-! ## Placing operands -/

/-- An operand with the reply of the allocator that was asked for its size. -/
structure Placing (σ : Type) where
  bytes : Bytes
  reply : Reply σ UInt32

namespace Placing

/-- The allocator is asked for the size of an operand. -/
def of (exports : Exports σ) (tripwire : Option Tripwire) (bytes : Bytes) (guest : Instance σ) :
    Placing σ :=
  ⟨bytes, exports.alloc [.ofNat bytes.length] tripwire guest⟩

/-- The size that the allocator is asked for. -/
def size (placing : Placing σ) : UInt32 :=
  .ofNat placing.bytes.length

/-- The region allocated for the operand, if the allocator returned one. -/
def region (placing : Placing σ) : Region :=
  match placing.reply.ending with
  | .returned ptr => ⟨ptr, placing.size⟩
  | _ => ⟨0, placing.size⟩

/-- The guest with the operand in the region allocated for it. -/
def after (placing : Placing σ) : Instance σ :=
  let memory := placing.reply.guest.memory.store placing.region.ptr.toNat placing.bytes
  { placing.reply.guest with memory := memory }

/-- The allocator traps, panics or returns a null pointer. -/
def allocFailure (placing : Placing σ) : Option BridgeError :=
  match placing.reply.ending with
  | .trapped trap => some (.allocation placing.size trap.message)
  | .panicked payload => some (.ofPanic payload)
  | .returned ptr =>
    if ptr = 0 then some (.allocation placing.size "guest allocator returned a null pointer")
    else none

/-- What can go wrong with an operand. The region has to be inside memory as the allocator left
it. -/
def failures (placing : Placing σ) : List (Option BridgeError) :=
  [placing.allocFailure, accessFailure placing.reply.guest.memory placing.region]

end Placing

/-- The placing of operands one after another, the first one of the list first. -/
def placings (exports : Exports σ) (tripwire : Option Tripwire) :
    List Bytes → Instance σ → List (Placing σ)
  | [], _ => []
  | bytes :: rest, guest =>
    let placing := Placing.of exports tripwire bytes guest
    placing :: placings exports tripwire rest placing.after

/-! ## Calling the export -/

/-- A packed export with its reply. -/
structure Calling (σ : Type) where
  entry : PackedExport
  reply : Reply σ (List Value)

namespace Calling

/-- The values that the export returned; none if it did not return. -/
def values (calling : Calling σ) : List Value :=
  match calling.reply.ending with
  | .returned values => values
  | _ => []

/-- The first value as a word; zero if it is none. -/
def word (calling : Calling σ) : UInt64 :=
  match calling.values with
  | .i64 word :: _ => word
  | _ => 0

/-- The region that the word refers to: the pointer in its low half, the length in its high half. -/
def region (calling : Calling σ) : Region :=
  ⟨calling.word.toUInt32, (calling.word >>> 32).toUInt32⟩

/-- The bytes of that region in memory as the export left it. -/
def bytes (calling : Calling σ) : Bytes :=
  calling.reply.guest.memory.bytesAt calling.region.ptr.toNat calling.region.len.toNat

/-- The cause of failure that the result of the export is bad. -/
def bad (calling : Calling σ) (error : ResultError) : BridgeError :=
  .invalidResult calling.entry.name error

/-- The export traps or panics. -/
def callFailure (calling : Calling σ) : Option BridgeError :=
  match calling.reply.ending with
  | .trapped trap => some (.fault (.trap calling.entry.name trap))
  | .panicked payload => some (.ofPanic payload)
  | .returned _ => none

/-- The export returns no value. -/
def emptyFailure (calling : Calling σ) : Option BridgeError :=
  match calling.values with
  | [] => some (calling.bad .emptyReturn)
  | _ :: _ => none

/-- The first value that the export returns is no 64-bit word. Further values do not matter. -/
def typeFailure (calling : Calling σ) : Option BridgeError :=
  match calling.values with
  | [] | .i64 _ :: _ => none
  | other :: _ => some (calling.bad (.unexpectedType other.typeName))

/-- The pointer is null, whatever the length is. -/
def pointerFailure (calling : Calling σ) : Option BridgeError :=
  if calling.region.ptr = 0 then some (calling.bad .invalidInput) else none

/-- The result does not have the required length. -/
def lengthFailure (calling : Calling σ) (expected : Nat) : Option BridgeError :=
  if calling.region.len.toNat = expected then none
  else some (calling.bad (.unexpectedLength expected calling.region.len.toNat))

/-- The result is not inside memory. -/
def readFailure (calling : Calling σ) : Option BridgeError :=
  accessFailure calling.reply.guest.memory calling.region

/-- The result is no text. -/
def textFailure (calling : Calling σ) : Option BridgeError :=
  match Utf8.decode? calling.bytes with
  | some _ => none
  | none => some (calling.bad .notUtf8)

/-- What can go wrong before there is a result. -/
def failures (calling : Calling σ) : List (Option BridgeError) :=
  [calling.callFailure, calling.emptyFailure, calling.typeFailure, calling.pointerFailure]

/-- Values that refer to a region refer to the one that is read. -/
theorem region_eq {calling : Calling σ} {values : List Value} {region : Region}
    (hret : calling.reply.ending = .returned values) (hregion : regionOf? values = some region) :
    calling.region = region := by
  have hvalues : calling.values = values := by rw [Calling.values, hret]
  unfold Calling.region Calling.word
  rw [hvalues]
  cases values with
  | nil => cases hregion
  | cons value rest =>
    cases value with
    | i32 | f32 | f64 | v128 | reference => cases hregion
    | i64 word =>
      by_cases hnull : word.toUInt32 = 0
      · simp [regionOf?, PackedResult.decode, hnull, Region.ofPacked?] at hregion
      · simpa [regionOf?, PackedResult.decode, hnull, Region.ofPacked?] using hregion

/-- The first failure of a call is a trap or a panic, or that its values refer to no region. -/
theorem firstFailureOr_failures (calling : Calling σ) (verdict : Except BridgeError α) :
    firstFailureOr calling.failures verdict =
      match calling.reply.ending with
      | .returned values =>
        match regionOf? values with
        | some _ => verdict
        | none => .error (calling.bad (Lease.resultError values))
      | .trapped trap => .error (.fault (.trap calling.entry.name trap))
      | .panicked payload => .error (.ofPanic payload) := by
  unfold failures callFailure emptyFailure typeFailure pointerFailure Calling.region Calling.word
    Calling.values
  cases calling.reply.ending with
  | trapped | panicked => rfl
  | returned values =>
    dsimp only
    cases values with
    | nil => rfl
    | cons value rest =>
      cases value with
      | i32 | f32 | f64 | v128 | reference => rfl
      | i64 word =>
        by_cases hnull : word.toUInt32 = 0
        · simp [regionOf?, PackedResult.decode, hnull, Region.ofPacked?, Lease.resultError]
        · simp [regionOf?, PackedResult.decode, hnull, Region.ofPacked?]

end Calling

/-! ## The whole list -/

namespace Request

/-- The length that the result has to have, if it is fixed. -/
def resultLength? : Request → Option Nat
  | .sign _ _ => some Operation.signatureSize
  | _ => none

/-- Whether the result has to be text. -/
def isText : Request → Bool
  | .hashText _ | .sign _ _ => true
  | _ => false

/-- What the bytes of the result stand for. -/
def product (bytes : Bytes) : Request → Product
  | .hashText _ | .sign _ _ => .text ((Utf8.decode? bytes).getD "")
  | .formatMessage _ _ => .bytes (bytes.filter (· ≠ 0x0A))
  | _ => .bytes bytes

/-- The placing of the operands. The last one comes first: to sign, the message and then the key. -/
def placed (exports : Exports σ) (tripwire : Option Tripwire) (guest : Instance σ)
    (request : Request) : List (Placing σ) :=
  placings exports tripwire request.query.operands.reverse guest

/-- The call of the export, once all operands are in memory. -/
def called (exports : Exports σ) (tripwire : Option Tripwire) (guest : Instance σ)
    (request : Request) : Calling σ :=
  let placed := request.placed exports tripwire guest
  ⟨request.entry, exports.packed request.entry
    (argumentsOf (placed.reverse.map Placing.region) request.query.words) tripwire
    ((placed.getLast?.map Placing.after).getD guest)⟩

/-- All that can go wrong in an operation, in the order in which it counts. -/
def failures (exports : Exports σ) (tripwire : Option Tripwire) (guest : Instance σ)
    (request : Request) : List (Option BridgeError) :=
  let calling := request.called exports tripwire guest
  (request.placed exports tripwire guest).flatMap Placing.failures ++
    (calling.failures ++
      (request.resultLength?.toList.map calling.lengthFailure ++
        ([calling.readFailure] ++ if request.isText then [calling.textFailure] else [])))

/-- What an operation comes to: its first failure, or what the result stands for. -/
def verdict (exports : Exports σ) (tripwire : Option Tripwire) (guest : Instance σ)
    (request : Request) : Except BridgeError Product :=
  firstFailureOr (request.failures exports tripwire guest)
    (.ok (request.product (request.called exports tripwire guest).bytes))

end Request

/-! ## What parts of an operation come to -/

namespace Lease

variable {exports : Exports σ} {tripwire : Option Tripwire} {guest : Instance σ}

/-- Wherever a part of an operation finds this guest and this tripwire, it comes to this. -/
def ComesTo (part : LeaseM σ α) (tripwire : Option Tripwire) (guest : Instance σ)
    (verdict : Except BridgeError α) : Prop :=
  ∀ lease : Lease σ, lease.tripwire = tripwire → lease.guest = guest →
    outcome part lease = verdict

theorem ComesTo.map (f : α → β) {part : LeaseM σ α} {verdict : Except BridgeError α}
    (hpart : ComesTo part tripwire guest verdict) :
    ComesTo (f <$> part) tripwire guest (verdict.map f) := by
  intro lease htripwire hguest
  rw [outcome_map, hpart lease htripwire hguest]

/-- An operand is placed, or one of the failures of placing it decides. -/
theorem ComesTo.allocBytes_bind {bytes : Bytes} {len : UInt32} (hlen : len.toNat = bytes.length)
    (sensitivity : Sensitivity) {next : Region → LeaseM σ α} {verdict : Except BridgeError α}
    (hnext : ComesTo (next (Placing.of exports tripwire bytes guest).region) tripwire
      (Placing.of exports tripwire bytes guest).after verdict) :
    ComesTo (allocBytes exports bytes sensitivity >>= next) tripwire guest
      (firstFailureOr (Placing.of exports tripwire bytes guest).failures verdict) := by
  rintro lease rfl rfl
  have hsize : UInt32.ofNat bytes.length = len := by rw [← hlen, UInt32.ofNat_toNat]
  have halloc := allocBytes_eq hlen exports sensitivity lease
  simp only [Placing.failures, Placing.allocFailure, Placing.region, Placing.after, Placing.size,
    Placing.of, hsize] at hnext ⊢
  cases hending : (exports.alloc [len] lease.tripwire lease.guest).ending with
  | trapped trap =>
    rw [hending] at halloc
    exact outcome_bind_of_error halloc next
  | panicked payload =>
    rw [hending] at halloc
    exact outcome_bind_of_error halloc next
  | returned ptr =>
    rw [hending] at halloc hnext
    dsimp only at halloc hnext ⊢
    by_cases hnull : ptr = 0
    · rw [if_pos hnull] at halloc ⊢
      exact outcome_bind_of_error halloc next
    · rw [if_neg hnull] at halloc ⊢
      rw [firstFailureOr_none, accessFailure]
      by_cases hin : (exports.alloc [len] lease.tripwire lease.guest).guest.memory.Holds ⟨ptr, len⟩
      · have hplaced : allocBytes exports bytes sensitivity lease = .ok ⟨ptr, len⟩ _ :=
          allocBytes_of_holds hlen hending hnull hin
        rw [if_pos hin, outcome_bind_of_ok hplaced,
          written_of_holds (lease.allocated exports ⟨ptr, len⟩ sensitivity) hlen hin]
        exact hnext _ (tripwire_called hending) rfl
      · have hdenied : allocBytes exports bytes sensitivity lease = .error _ _ :=
          allocBytes_of_not_holds hlen hending hnull hin
        rw [if_neg hin]
        exact outcome_bind_of_error hdenied next

/-- An export returns a region, or one of the failures up to there decides. -/
theorem ComesTo.callPacked_bind (entry : PackedExport) (args : List UInt32)
    {next : Region → LeaseM σ α} {verdict : Except BridgeError α}
    (hnext : ComesTo (next (Calling.mk entry (exports.packed entry args tripwire guest)).region)
      tripwire (exports.packed entry args tripwire guest).guest verdict) :
    ComesTo (callPacked exports entry args >>= next) tripwire guest
      (firstFailureOr (Calling.mk entry (exports.packed entry args tripwire guest)).failures
        verdict) := by
  rintro lease rfl rfl
  have hcall := callPacked_eq exports entry args lease
  rw [Calling.firstFailureOr_failures]
  dsimp only
  cases hending : (exports.packed entry args lease.tripwire lease.guest).ending with
  | trapped trap =>
    rw [hending] at hcall
    exact outcome_bind_of_error hcall next
  | panicked payload =>
    rw [hending] at hcall
    exact outcome_bind_of_error hcall next
  | returned values =>
    rw [hending] at hcall
    dsimp only at hcall ⊢
    cases hregion : regionOf? values with
    | none =>
      rw [hregion] at hcall
      exact outcome_bind_of_error hcall next
    | some region =>
      rw [hregion] at hcall
      rw [Calling.region_eq hending hregion] at hnext
      rw [outcome_bind_of_ok hcall]
      exact hnext _ (tripwire_called hending) rfl

variable (calling : Calling σ)

theorem comesTo_read :
    ComesTo (read calling.region) tripwire calling.reply.guest
      (firstFailureOr [calling.readFailure] (.ok calling.bytes)) := by
  rintro lease - hguest
  rw [outcome, read_eq, hguest, Calling.readFailure, accessFailure, Memory.read?]
  by_cases hin : calling.reply.guest.memory.Holds calling.region
  · rw [if_pos hin, if_pos hin]
    rfl
  · rw [if_neg hin, if_neg hin]
    rfl

theorem comesTo_readText :
    ComesTo (readText calling.entry calling.region) tripwire calling.reply.guest
      (firstFailureOr [calling.readFailure, calling.textFailure]
        (.ok ((Utf8.decode? calling.bytes).getD ""))) := by
  rintro lease - hguest
  have hread := read_eq calling.region lease
  rw [hguest, Memory.read?] at hread
  rw [Calling.readFailure, accessFailure]
  by_cases hin : calling.reply.guest.memory.Holds calling.region
  · rw [if_pos hin] at hread ⊢
    rw [readText, outcome_bind_of_ok hread, Calling.textFailure, Calling.bytes]
    cases Utf8.decode? (calling.reply.guest.memory.bytesAt calling.region.ptr.toNat
      calling.region.len.toNat) <;> rfl
  · rw [if_neg hin] at hread ⊢
    exact outcome_bind_of_error hread _

theorem ComesTo.expectLength_bind (expected : Nat) {next : Unit → LeaseM σ α}
    {verdict : Except BridgeError α} (hnext : ComesTo (next ()) tripwire guest verdict) :
    ComesTo (expectLength calling.entry expected calling.region >>= next) tripwire guest
      (firstFailureOr [calling.lengthFailure expected] verdict) := by
  rintro lease htripwire hguest
  unfold expectLength Calling.lengthFailure
  by_cases hfits : calling.region.len.toNat = expected
  · rw [if_pos hfits, if_pos hfits]
    exact hnext lease htripwire hguest
  · rw [if_neg hfits, if_neg hfits]
    rfl

end Lease

/-! ## What bodies come to -/

namespace Operation

open Lease

variable {exports : Exports σ} {tripwire : Option Tripwire} {guest : Instance σ}

/-- A body with one operand: placing it can fail, then the call, then reading the result. -/
theorem comesTo_transformBody {input : Bytes} {len : UInt32} (hlen : len.toNat = input.length)
    {entry : PackedExport} {extra : List UInt32} {read : Region → LeaseM σ α}
    {failures : List (Option BridgeError)} {result : α} (f : α → β) :
    let placing := Placing.of exports tripwire input guest
    let calling := Calling.mk entry
      (exports.packed entry (argumentsOf [placing.region] extra) tripwire placing.after)
    ComesTo (read calling.region) tripwire calling.reply.guest
        (firstFailureOr failures (.ok result)) →
      ComesTo (f <$> transformBody exports entry input extra read) tripwire guest
        (firstFailureOr placing.failures (firstFailureOr calling.failures
          (firstFailureOr failures (.ok (f result))))) := by
  intro placing calling hread
  have hbody : ComesTo (transformBody exports entry input extra read) tripwire guest _ :=
    ComesTo.allocBytes_bind hlen .plain (ComesTo.callPacked_bind entry _ hread)
  have hmapped := hbody.map f
  rwa [map_firstFailureOr, map_firstFailureOr, map_firstFailureOr] at hmapped

/-- The body of signing: placing the message, placing the key, the call, the length of the signature
and reading it. -/
theorem comesTo_signBody {privateKey message : Bytes} {keyLen messageLen : UInt32}
    (hkey : keyLen.toNat = privateKey.length) (hmessage : messageLen.toNat = message.length)
    (f : String → β) :
    let first := Placing.of exports tripwire message guest
    let second := Placing.of exports tripwire privateKey first.after
    let calling := Calling.mk .sign
      (exports.packed .sign (argumentsOf [second.region, first.region] []) tripwire second.after)
    ComesTo (f <$> signBody exports privateKey message) tripwire guest
      (firstFailureOr (first.failures ++ second.failures)
        (firstFailureOr calling.failures (firstFailureOr [calling.lengthFailure signatureSize]
          (firstFailureOr [calling.readFailure, calling.textFailure]
            (.ok (f ((Utf8.decode? calling.bytes).getD ""))))))) := by
  intro first second calling
  rw [firstFailureOr_append]
  have hread : ComesTo (readText .sign calling.region) tripwire calling.reply.guest _ :=
    comesTo_readText calling
  have hbody : ComesTo (signBody exports privateKey message) tripwire guest _ :=
    ComesTo.allocBytes_bind hmessage .plain <| ComesTo.allocBytes_bind hkey .secret <|
      ComesTo.callPacked_bind .sign _ <| ComesTo.expectLength_bind calling signatureSize hread
  have hmapped := hbody.map f
  rwa [map_firstFailureOr, map_firstFailureOr, map_firstFailureOr, map_firstFailureOr,
    map_firstFailureOr] at hmapped

/-- Every body but that of making a key comes to the verdict on its request. -/
theorem comesTo_body {request : Request} (hwork : request ≠ .newPrivateKey)
    (hcheck : request.check = .ok ()) :
    ComesTo (request.body exports) tripwire guest (request.verdict exports tripwire guest) := by
  have hlens := exists_len_of_check hcheck
  rw [Request.verdict, Request.failures, firstFailureOr_append, firstFailureOr_append,
    firstFailureOr_append]
  cases request with
  | newPrivateKey => exact absurd rfl hwork
  | recoverMessage operand | hashBytes operand =>
    obtain ⟨len, hlen⟩ := hlens operand List.mem_cons_self
    exact comesTo_transformBody hlen Product.bytes (comesTo_read _)
  | hashText operand =>
    obtain ⟨len, hlen⟩ := hlens operand List.mem_cons_self
    exact comesTo_transformBody hlen Product.text (comesTo_readText _)
  | formatMessage message chunks =>
    obtain ⟨len, hlen⟩ := hlens message List.mem_cons_self
    exact comesTo_transformBody hlen (Product.bytes ∘ withoutLineFeeds) (comesTo_read _)
  | sign privateKey message =>
    obtain ⟨keyLen, hkey⟩ := hlens privateKey List.mem_cons_self
    obtain ⟨messageLen, hmessage⟩ := hlens message (List.mem_cons_of_mem _ List.mem_cons_self)
    exact comesTo_signBody hkey hmessage Product.text

end Operation

/-- Unless the release function panics, the outcome of an operation other than making a key, with
arguments that pass the check, is its first failure in the order in which they count. It succeeds
exactly if there is none. -/
theorem verdict_serve {session : Session σ} {live : LiveGuest σ} (hlive : session.live = some live)
    {tripwire : Option Tripwire} {request : Request} (hwork : request ≠ .newPrivateKey)
    (hcheck : request.check = .ok ()) (hcalm : Calm (session.serve tripwire request).actions) :
    (session.serve tripwire request).outcome =
        request.verdict live.exports tripwire live.guest ∧
      ((∃ product, (session.serve tripwire request).outcome = .ok product) ↔
        ∀ failure ∈ request.failures live.exports tripwire live.guest, failure = none) := by
  have hverdict : (session.serve tripwire request).outcome =
      request.verdict live.exports tripwire live.guest := by
    rw [Session.serve_eq hlive tripwire hcheck] at hcalm ⊢
    exact (Operation.outcome_shielded hcalm).trans
      (Operation.comesTo_body hwork hcheck _ rfl rfl)
  refine ⟨hverdict, ?_⟩
  rw [hverdict]
  exact exists_firstFailureOr_eq_ok_iff _ _

/-! ## A signature behind the end of memory -/

/-- A guest whose allocator adds a page to memory for each region. It signs with a region at the
last address there is, and returns a second value that nobody asked for. -/
def boundlessExports : Exports Unit where
  alloc _ _ guest :=
    ⟨{ guest with memory := (guest.memory.grow? 1).getD guest.memory }, [],
      .returned (.ofNat guest.memory.size)⟩
  dealloc _ _ guest := ⟨guest, [], .trapped (.ofCode .unreachableCodeReached)⟩
  functions := PackedExport.all.map fun _ _ _ guest =>
    ⟨guest, [], .returned [.i64 (PackedResult.encode (.success 0xFFFFFFFF 216)), .i32 7]⟩

/-- That guest with one page of memory and room for two more. -/
def boundlessLive : LiveGuest Unit where
  exports := boundlessExports
  guest := ⟨.zeroed 1 3, (), .ofStream fun _ => 0⟩
  stats := .zero

/-- A request to sign a short message. -/
def plainSigning : Request :=
  .sign (List.replicate Operation.privateKeySize 0x6B) [0x68, 0x69]

/-- The signature of that guest cannot be read. Memory has three pages by then. -/
theorem verdict_serve_boundless :
    let report := (⟨1, some boundlessLive⟩ : Session Unit).serve none plainSigning
    plainSigning ≠ .newPrivateKey ∧ plainSigning.check = .ok () ∧ Calm report.actions ∧
      report.outcome = .error (.memoryAccess 0xFFFFFFFF 216 (3 * 65536)) := by
  intro report
  have hwork : plainSigning ≠ .newPrivateKey := nofun
  have hcheck : plainSigning.check = .ok () := rfl
  have hcalm : Calm report.actions := by decide +kernel
  have hverdict : plainSigning.verdict boundlessExports none boundlessLive.guest =
      .error (.memoryAccess 0xFFFFFFFF 216 (3 * 65536)) := by decide +kernel
  have hlive : (⟨1, some boundlessLive⟩ : Session Unit).live = some boundlessLive := rfl
  have hserve := verdict_serve hlive hwork hcheck hcalm
  exact ⟨hwork, hcheck, hcalm, hserve.1.trans hverdict⟩

end GuestBridge
