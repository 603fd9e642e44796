import GuestBridge.Proofs.Operation.Calls
import GuestBridge.Proofs.Operation.InputErrors
import GuestBridge.Proofs.Operation.Verdict

/-!
# Validation comes first and is exact

Each operation has preconditions on the lengths of its arguments and on the number of chunks.
`Request.Violates` says which one a request violates, the first one if it violates several, and is
stated without the checks that the operations make. `validation_serve` is the main result: an
operation is refused for a precondition exactly if its request violates it, and then nothing has
happened; any other operation with operands first calls the allocator, for as many bytes as the
operand has that is placed first. `checkFormatWord?_eq` says that the checks may be computed in
words of the machine, since their only product does not overflow.
-/

namespace GuestBridge

/-! ## Preconditions -/

/-- The precondition that a request violates, the first one if it violates several. -/
inductive Request.Violates : Request → InputError → Prop
  | chunkCount {message : Bytes} {chunks : Nat} (hcount : ¬(1 ≤ chunks ∧ chunks ≤ 32)) :
      Violates (.formatMessage message chunks) (.chunkCount chunks)
  | messageTooLong {message : Bytes} {chunks : Nat} (hcount : 1 ≤ chunks ∧ chunks ≤ 32)
      (hlong : 512 * chunks < message.length) :
      Violates (.formatMessage message chunks) (.messageTooLong message.length (512 * chunks))
  | keyLength {privateKey message : Bytes} (hsize : privateKey.length ≠ 59) :
      Violates (.sign privateKey message) (.keyLength 59 privateKey.length)
  | signed {privateKey message : Bytes} (hsize : privateKey.length = 59)
      (hlarge : 2 ^ 32 ≤ message.length) :
      Violates (.sign privateKey message) (.tooLarge message.length)
  | recovered {formatted : Bytes} (hlarge : 2 ^ 32 ≤ formatted.length) :
      Violates (.recoverMessage formatted) (.tooLarge formatted.length)
  | hashedText {message : Bytes} (hlarge : 2 ^ 32 ≤ message.length) :
      Violates (.hashText message) (.tooLarge message.length)
  | hashedBytes {message : Bytes} (hlarge : 2 ^ 32 ≤ message.length) :
      Violates (.hashBytes message) (.tooLarge message.length)

/-- The operands in the order in which they are placed. To sign, the message comes first. -/
def Request.placements : Request → List Bytes
  | .newPrivateKey => []
  | .sign privateKey message => [message, privateKey]
  | .formatMessage operand _ | .recoverMessage operand | .hashText operand | .hashBytes operand =>
    [operand]

namespace Lease

theorem guestLength_eq_error {length : Nat} (hlarge : 2 ^ 32 ≤ length) :
    guestLength length = .error (.invalidInput (.tooLarge length)) :=
  if_neg (Nat.not_lt.2 hlarge)

theorem guestLength_eq_ok {length : Nat} (hlt : length < 2 ^ 32) :
    guestLength length = .ok (UInt32.ofNat length) :=
  if_pos hlt

end Lease

namespace Operation

open Lease

theorem checkFormat_of_count {length chunks : Nat} (hcount : ¬(1 ≤ chunks ∧ chunks ≤ 32)) :
    checkFormat length chunks = .error (.chunkCount chunks) :=
  if_neg hcount

theorem checkFormat_of_long {length chunks : Nat} (hcount : 1 ≤ chunks ∧ chunks ≤ 32)
    (hlong : 512 * chunks < length) :
    checkFormat length chunks = .error (.messageTooLong length (512 * chunks)) := by
  rw [Nat.mul_comm] at hlong ⊢
  exact (if_pos hcount).trans (if_pos hlong)

theorem checkFormat_of_fits {length chunks : Nat} (hcount : 1 ≤ chunks ∧ chunks ≤ 32)
    (hfits : length ≤ 512 * chunks) : checkFormat length chunks = .ok () := by
  rw [Nat.mul_comm] at hfits
  exact (if_pos hcount).trans (if_neg (Nat.not_lt.2 hfits))

end Operation

namespace Request

open Lease Operation

variable {request : Request}

/-- The check finds the precondition that is violated. -/
theorem Violates.check_eq {error : InputError} (hviolates : request.Violates error) :
    request.check = .error (.invalidInput error) := by
  cases hviolates with
  | chunkCount hcount => rw [check, checkFormat_of_count hcount]; rfl
  | messageTooLong hcount hlong => rw [check, checkFormat_of_long hcount hlong]; rfl
  | keyLength hsize => exact if_neg hsize
  | signed hsize hlarge =>
    refine (if_pos hsize).trans ?_
    rw [guestLength_eq_error hlarge]
    rfl
  | recovered hlarge | hashedText hlarge | hashedBytes hlarge =>
    rw [check, guestLength_eq_error hlarge]
    rfl

/-- A request violates a precondition or passes the check. -/
theorem violates_or_check (request : Request) :
    (∃ error, request.Violates error) ∨ request.check = .ok () := by
  cases request with
  | newPrivateKey => exact .inr rfl
  | formatMessage message chunks =>
    by_cases hcount : 1 ≤ chunks ∧ chunks ≤ 32
    · rcases Nat.lt_or_ge (512 * chunks) message.length with hlong | hfits
      · exact .inl ⟨_, .messageTooLong hcount hlong⟩
      · -- Neither the number of chunks nor the message can be too large after this check.
        have hchunks : chunks < 2 ^ 32 := by omega
        have hmessage : message.length < 2 ^ 32 := by omega
        refine .inr ?_
        rw [check, checkFormat_of_fits hcount hfits, guestLength_eq_ok hchunks,
          guestLength_eq_ok hmessage]
        rfl
    · exact .inl ⟨_, .chunkCount hcount⟩
  | sign privateKey message =>
    by_cases hsize : privateKey.length = 59
    · rcases Nat.lt_or_ge message.length (2 ^ 32) with hlt | hlarge
      · refine .inr ((if_pos hsize).trans ?_)
        rw [guestLength_eq_ok hlt]
        rfl
      · exact .inl ⟨_, .signed hsize hlarge⟩
    · exact .inl ⟨_, .keyLength hsize⟩
  | recoverMessage operand | hashText operand | hashBytes operand =>
    rcases Nat.lt_or_ge operand.length (2 ^ 32) with hlt | hlarge
    · exact .inr (by rw [check, guestLength_eq_ok hlt]; rfl)
    · exact .inl ⟨.tooLarge operand.length, by constructor; exact hlarge⟩

/-- What the check refuses violates a precondition. -/
theorem violates_of_check {error : InputError}
    (hcheck : request.check = .error (.invalidInput error)) : request.Violates error := by
  rcases request.violates_or_check with ⟨other, hviolates⟩ | hok
  · rw [hviolates.check_eq] at hcheck
    cases hcheck
    exact hviolates
  · rw [hok] at hcheck
    cases hcheck

theorem filterMap_filling_plan (request : Request) :
    request.plan.filterMap Lease.Milestone.filling = request.placements := by
  cases request <;> rfl

theorem mem_placements {operand : Bytes} (hmem : operand ∈ request.placements) :
    operand ∈ request.query.operands := by
  cases request with
  | newPrivateKey => exact hmem
  | sign privateKey message => exact List.mem_reverse.1 hmem
  | formatMessage | recoverMessage | hashText | hashBytes => exact hmem

end Request

namespace Operation

open Lease

variable {σ α : Type} {exports : Exports σ}

/-! ## The first action -/

/-- What follows after the first operand was placed does not undo that the allocator was called
first. -/
theorem head?_actions_of_allocBytes {bytes : Bytes} {len : UInt32} (hlen : len.toNat = bytes.length)
    {sensitivity : Sensitivity} {next : Region → LeaseM σ α} {plan : Region → Plan}
    (hnext : ∀ region, Walks exports (plan region) (next region)) {start : Lease σ}
    (hstart : start.actions = []) (f : α → Product) :
    ∃ ending, (final (f <$> (allocBytes exports bytes sensitivity >>= next)) start).actions.head? =
      some ⟨start.guest, .call .alloc [len] ending⟩ := by
  have hgrows : (final (allocBytes exports bytes sensitivity) start).actions <+:
      (final (allocBytes exports bytes sensitivity >>= next) start).actions :=
    prefix_actions_bind (fun region lease => (hnext region).prefix_actions lease) start
  obtain ⟨more, hmore⟩ := (prefix_actions_allocBytes hlen sensitivity start).trans hgrows
  have hcalled : (start.called exports .alloc [len]).actions = start.actions ++
      [⟨start.guest, .call .alloc [len]
        (exports.alloc [len] start.tripwire start.guest).ending⟩] := rfl
  rw [final_map, ← hmore, hcalled, hstart]
  exact ⟨_, rfl⟩

/-- The body of an operation with operands calls the allocator first. -/
theorem head?_actions_body {request : Request} {operand : Bytes} {len : UInt32}
    (hfirst : request.placements.head? = some operand) (hlen : len.toNat = operand.length)
    {start : Lease σ} (hstart : start.actions = []) :
    ∃ ending, (final (request.body exports) start).actions.head? =
      some ⟨start.guest, .call .alloc [len] ending⟩ := by
  cases request with
  | newPrivateKey => cases hfirst
  | sign privateKey message =>
    cases hfirst
    exact head?_actions_of_allocBytes hlen (fun operand =>
      (Walks.allocBytes exports privateKey .secret).bind fun _ =>
        (Walks.callPacked exports .sign _).bind fun signature =>
          (Walks.expectLength .sign signatureSize signature).bind fun _ =>
            .readText .sign signature) hstart _
  | hashText message =>
    cases hfirst
    exact head?_actions_of_allocBytes hlen (fun operand =>
      (Walks.callPacked exports _ _).bind (.readText .hashMessage)) hstart _
  | formatMessage operand | recoverMessage operand | hashBytes operand =>
    cases hfirst
    exact head?_actions_of_allocBytes hlen (fun operand =>
      (Walks.callPacked exports _ _).bind .read) hstart _

/-! ## Words of the machine -/

/-- The product of two words, unless it overflows. -/
def mulWord? (left right : USize) : Option USize :=
  if left.toNat * right.toNat < USize.size then some (left * right) else none

/-- The check of the arguments of a request to format a message in words of the machine, unless a
product overflows. -/
def checkFormatWord? (length chunks : USize) : Option (Except InputError Unit) :=
  if 1 ≤ chunks ∧ chunks ≤ USize.ofNat maxFormatChunks then do
    let limit ← mulWord? chunks (USize.ofNat formatBlockSize)
    pure <| if limit < length then .error (.messageTooLong length.toNat limit.toNat) else .ok ()
  else some (.error (.chunkCount chunks.toNat))

/-- A small number is a word on every machine. -/
theorem toNat_ofNat_word {number : Nat} (hsmall : number < 2 ^ 32) :
    (USize.ofNat number).toNat = number :=
  USize.toNat_ofNat_of_lt (Nat.lt_of_lt_of_le hsmall USize.le_size)

/-- The product of a word and a small number is a word if it is small. -/
theorem mulWord?_ofNat {word : USize} {number : Nat} (hnumber : number < 2 ^ 32)
    (hproduct : word.toNat * number < 2 ^ 32) :
    ∃ product, mulWord? word (USize.ofNat number) = some product ∧
      product.toNat = word.toNat * number := by
  have hfits : word.toNat * number < USize.size := Nat.lt_of_lt_of_le hproduct USize.le_size
  refine ⟨word * USize.ofNat number, ?_, ?_⟩
  · rw [mulWord?, toNat_ofNat_word hnumber, if_pos hfits]
  · rw [USize.toNat_mul, toNat_ofNat_word hnumber]
    exact Nat.mod_eq_of_lt hfits

theorem word_range_iff {word : USize} {greatest : Nat} (hsmall : greatest < 2 ^ 32) :
    (1 ≤ word ∧ word ≤ USize.ofNat greatest) ↔ (1 ≤ word.toNat ∧ word.toNat ≤ greatest) := by
  rw [USize.le_iff_toNat_le, USize.le_iff_toNat_le, toNat_ofNat_word hsmall, USize.toNat_one]

/-- Nothing overflows, whatever the words are. -/
theorem checkFormatWord?_eq (length chunks : USize) :
    checkFormatWord? length chunks = some (checkFormat length.toNat chunks.toNat) := by
  have hcount : (1 ≤ chunks ∧ chunks ≤ USize.ofNat maxFormatChunks) ↔ _ :=
    word_range_iff (by decide)
  unfold checkFormatWord? checkFormat
  by_cases hchunks : 1 ≤ chunks.toNat ∧ chunks.toNat ≤ maxFormatChunks
  · have hsmall : chunks.toNat * formatBlockSize < 2 ^ 32 :=
      Nat.lt_of_le_of_lt (Nat.mul_le_mul_right _ hchunks.2) (by decide)
    obtain ⟨limit, hlimit, hvalue⟩ := mulWord?_ofNat (by decide) hsmall
    rw [if_pos (hcount.2 hchunks), if_pos hchunks, hlimit]
    simp only [Option.bind_eq_bind, Option.bind_some, USize.lt_iff_toNat_lt, hvalue]
    rfl
  · rw [if_neg (mt hcount.1 hchunks), if_neg hchunks]

end Operation

/-! ## What is copied -/

/-- All that an operation copies into guest memory are its operands, in the order in which they are
placed. It may stop before it has copied all of them. -/
theorem Session.copies_prefix_placements {σ : Type} (session : Session σ)
    (tripwire : Option Tripwire) (request : Request) :
    (copies (session.serve tripwire request).actions).map Prod.snd <+: request.placements := by
  rcases session.serve_cases tripwire request with
    ⟨hactions, -, -⟩ | ⟨live, last, -, ⟨course⟩, hactions, -, -⟩
  · rw [hactions]
    exact List.nil_prefix
  · have hcopied (gains : List Lease.Gain) : (gains.filterMap Lease.Gain.copy?).map Prod.snd =
        (gains.map Lease.Gain.milestone).filterMap Lease.Milestone.filling := by
      rw [List.map_filterMap, List.filterMap_map]
      refine List.filterMap_congr fun gain _ => ?_
      show (gain.filling.map _).map _ = gain.filling
      rw [Option.map_map]
      exact Option.map_id'
    rw [hactions, course.copies_eq, hcopied, ← request.filterMap_filling_plan]
    exact course.planned.filterMap _

/-! ## Validation of whole operations -/

section
variable {σ : Type}

/-- Validation of a request on an open session comes first and is exact. -/
structure Session.Validates (session : Session σ) (live : LiveGuest σ) (tripwire : Option Tripwire)
    (request : Request) : Prop where
  /-- If the log subscriber does not panic, an input error is returned exactly for the precondition
  that is violated. -/
  exact : (∀ payload, ¬Panicked payload (session.serve tripwire request).actions) →
    ∀ error, (session.serve tripwire request).outcome = .error (.invalidInput error) ↔
      request.Violates error
  /-- For a violated precondition, nothing at all has happened. -/
  refused : ∀ error, request.Violates error →
    session.serve tripwire request = ⟨.error (.invalidInput error), session, tripwire, [], []⟩
  /-- Otherwise the allocator is called first, for as many bytes as the first operand has. -/
  first : (¬∃ error, request.Violates error) → ∀ operand,
    request.placements.head? = some operand →
    ∃ len ending, len.toNat = operand.length ∧
      (session.serve tripwire request).actions.head? =
        some ⟨live.guest, .call .alloc [len] ending⟩
  /-- Then the length check that comes with the placing of an operand succeeds for all of them. -/
  fits : (¬∃ error, request.Violates error) → ∀ operand ∈ request.placements,
    ∃ len, Lease.guestLength operand.length = .ok len

/-- On every open session, validation of every request comes first and is exact, and the check of
the number of chunks is the same in words of the machine, where nothing overflows. -/
theorem validation_serve {session : Session σ} {live : LiveGuest σ}
    (hlive : session.live = some live) (tripwire : Option Tripwire) (request : Request) :
    session.Validates live tripwire request ∧
      ∀ length chunks : USize, Operation.checkFormatWord? length chunks =
        some (Operation.checkFormat length.toNat chunks.toNat) := by
  have hpasses : (¬∃ error, request.Violates error) → request.check = .ok () :=
    fun hnone => request.violates_or_check.resolve_left hnone
  have hfits : (¬∃ error, request.Violates error) → ∀ operand ∈ request.placements,
      ∃ len, Lease.guestLength operand.length = .ok len := by
    intro hnone operand hmem
    obtain ⟨len, hlen⟩ :=
      Operation.exists_len_of_check (hpasses hnone) operand (Request.mem_placements hmem)
    exact ⟨len, Lease.guestLength_eq_ok_iff.2 hlen⟩
  refine ⟨⟨?_, ?_, ?_, hfits⟩, Operation.checkFormatWord?_eq⟩
  · intro hquiet error
    refine ⟨fun houtcome => ?_, fun hviolates => ?_⟩
    · rcases Session.serve_of_isInvalidInput houtcome rfl with ⟨hcheck, -⟩ | ⟨hpanicked, -⟩
      · exact Request.violates_of_check hcheck
      · exact absurd hpanicked (hquiet _)
    · rw [Session.serve_of_refused hlive tripwire hviolates.check_eq]
  · exact fun error hviolates => Session.serve_of_refused hlive tripwire hviolates.check_eq
  · intro hnone operand hfirst
    obtain ⟨len, hlen⟩ := hfits hnone operand (List.mem_of_mem_head? hfirst)
    have hlen := Lease.guestLength_eq_ok_iff.1 hlen
    let start : Lease σ := .start live.guest tripwire live.stats
    obtain ⟨ending, hhead⟩ : ∃ ending,
        (Lease.final (request.body live.exports) start).actions.head? =
          some ⟨live.guest, .call .alloc [len] ending⟩ :=
      Operation.head?_actions_body hfirst hlen rfl
    obtain ⟨releases, -, hactions⟩ :=
      Operation.actions_shielded request.entry.name live.exports (request.body live.exports) start
    refine ⟨len, ending, hlen, ?_⟩
    rw [Session.serve_eq hlive tripwire (hpasses hnone)]
    show (Operation.shielded _ _ _ _).lease.actions.head? = _
    rw [hactions, List.head?_append, hhead]
    rfl

end

/-- A guest that never panics is asked for two bytes to sign a message of two bytes, and is not
asked at all to format a message in 33 chunks. -/
theorem validation_serve_boundless :
    let session : Session Unit := ⟨1, some boundlessLive⟩
    let signing := session.serve none plainSigning
    session.live = some boundlessLive ∧ (∀ payload, ¬Panicked payload signing.actions) ∧
      (∀ error, signing.outcome ≠ .error (.invalidInput error)) ∧
      (∃ len ending, len.toNat = 2 ∧
        signing.actions.head? = some ⟨boundlessLive.guest, .call .alloc [len] ending⟩) ∧
      session.serve none (.formatMessage [] 33) =
        ⟨.error (.invalidInput (.chunkCount 33)), session, none, [], []⟩ := by
  intro session signing
  have hlive : session.live = some boundlessLive := rfl
  have hquiet : ∀ payload, ¬Panicked payload signing.actions := by
    rintro payload ⟨found, callee, args, hmem⟩
    generalize hending : Ending.panicked payload = ending at hmem
    cases session.fits_serve hlive none plainSigning _ hmem with
    | call =>
      cases callee with
      | alloc | dealloc => cases hending
      | packed entry => cases entry <;> cases hending
  have hnone : ¬∃ error, plainSigning.Violates error := by
    rintro ⟨error, hviolates⟩
    cases hviolates.check_eq
  obtain ⟨hsigning, -⟩ := validation_serve hlive none plainSigning
  obtain ⟨hformatting, -⟩ := validation_serve hlive none (.formatMessage [] 33)
  have hcount : ¬(1 ≤ 33 ∧ 33 ≤ 32) := by decide
  exact ⟨hlive, hquiet, fun error herror => hnone ⟨error, (hsigning.exact hquiet error).1 herror⟩,
    hsigning.first hnone _ rfl, hformatting.refused _ (.chunkCount hcount)⟩

end GuestBridge
