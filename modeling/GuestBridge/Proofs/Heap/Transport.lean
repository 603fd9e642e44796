import GuestBridge.Proofs.Heap.Stage
import GuestBridge.Proofs.Operation.Outcome

/-!
# Operands and results arrive unchanged

An operation on a guest that computes functions of byte strings (`ComputingGuest`) may be understood
without guest memory. `transports_serve` says that its outcome is what `Request.expected` makes of
the answers, and that the regions handed to the packed exports hold exactly the operands of
`Request.queries` when the calls are made. The release of the regions comes after the answer has
been copied out, so it changes neither the outcome nor the calls.
-/

namespace GuestBridge

variable {σ : Type} {exports : Exports σ} {heapOf : Instance σ → Heap} {Sane : Instance σ → Prop}
  {HasRoom : Callee → List UInt32 → Instance σ → Prop} {functions : ByteFunctions σ}
  {tripwire : Option Tripwire} {base : Instance σ}

/-! ## Bodies -/

namespace Operation

open Lease

variable {α : Type} {start : Lease σ}

theorem answerIn_eq (functions : ByteFunctions σ) (guest : Instance σ) {query : Query}
    (hentry : query.entry ≠ .newPrivateKey) :
    functions.answerIn guest query = functions.answer query := by
  unfold ByteFunctions.answerIn
  split
  · next hnew => exact absurd hnew hentry
  · rfl

/-- An operation with one operand makes of the answer what is read from it. -/
theorem does_transformBody (hguest : ComputingGuest exports heapOf Sane HasRoom functions tripwire)
    (hstart : Stage heapOf Sane base tripwire [] [] start) {entry : PackedExport} {input : Bytes}
    {len : UInt32} {extra : List UInt32} (hfits : Query.Fits ⟨entry, [input], extra⟩)
    (hlen : len.toNat = input.length) {reader : Region → LeaseM σ α}
    {make : Bytes → Except BridgeError α} (hreads : Reads exports reader make)
    (hroom : Roomy HasRoom (final (transformBody exports entry input extra reader) start).actions) :
    ∃ call : GuestCall σ, call.Asks ⟨entry, [input], extra⟩ ∧
      Does (transformBody exports entry input extra reader) start
        (answerOf entry (functions.answer ⟨entry, [input], extra⟩) >>= make) [call] := by
  have hgrows (operand : Region) :=
    ((Walks.callPacked exports entry ([operand.ptr, operand.len] ++ extra)).bind
      hreads.walks).prefix_actions
  obtain ⟨operand, placed, hplaced, hstage, hread, -⟩ :=
    hstart.allocBytes hguest hlen .plain (roomy_of_bind hgrows hroom)
  rw [transformBody, final_bind_of_ok hplaced] at hroom
  let query : Query := ⟨entry, [input], extra⟩
  have hcarries : Carries placed.guest.memory [operand] query.operands := .cons hread .nil
  have hentry : entry ≠ .newPrivateKey := by
    rintro rfl
    have hnone : 2 + extra.length = 0 := hfits.1
    omega
  have hdoes := hstage.does_callPacked hguest hfits (fun _ hmem => hmem) hcarries hreads hroom
  rw [answerIn_eq functions placed.guest hentry] at hdoes
  exact ⟨Stage.callOf query [operand] placed, ⟨rfl, [operand], rfl, hcarries⟩,
    Does.bind_ok hplaced hdoes⟩

/-- A signature is made of the answer, if it has the right length and is text. -/
theorem does_signBody (hguest : ComputingGuest exports heapOf Sane HasRoom functions tripwire)
    (hstart : Stage heapOf Sane base tripwire [] [] start) {privateKey message : Bytes}
    {keyLen messageLen : UInt32} (hkey : keyLen.toNat = privateKey.length)
    (hmessage : messageLen.toNat = message.length)
    (hroom : Roomy HasRoom (final (signBody exports privateKey message) start).actions) :
    ∃ call : GuestCall σ, call.Asks ⟨.sign, [privateKey, message], []⟩ ∧
      Does (signBody exports privateKey message) start
        (answerOf .sign (functions.answer ⟨.sign, [privateKey, message], []⟩) >>= fun answer =>
          ofLength .sign signatureSize answer >>= fun _ => asText .sign answer) [call] := by
  have hreads := (reads_readText exports .sign).checked .sign signatureSize
  have hcalls (operand key : Region) :=
    (Walks.callPacked exports .sign [key.ptr, key.len, operand.ptr, operand.len]).bind
      hreads.walks
  have hplaces (operand : Region) :=
    (Walks.allocBytes exports privateKey .secret).bind (hcalls operand)
  obtain ⟨operand, first, hfirst, hstage, hread, -⟩ :=
    hstart.allocBytes hguest hmessage .plain
      (roomy_of_bind (fun operand => (hplaces operand).prefix_actions) hroom)
  rw [signBody, final_bind_of_ok hfirst] at hroom
  obtain ⟨key, second, hsecond, hstage, hread', hkept⟩ :=
    hstage.allocBytes hguest hkey .secret
      (roomy_of_bind (fun key => (hcalls operand key).prefix_actions) hroom)
  rw [final_bind_of_ok hsecond] at hroom
  let query : Query := ⟨.sign, [privateKey, message], []⟩
  -- The key was placed last but is the first operand.
  have hcarries : Carries second.guest.memory [key, operand] query.operands :=
    .cons hread' (.cons ((hkept operand List.mem_cons_self).trans hread) .nil)
  have hmem : ∀ region ∈ [key, operand], region ∈ [operand] ++ [key] := by
    simp
  have hfits : query.Fits := Request.fits_query (.sign privateKey message)
  have hdoes := hstage.does_callPacked hguest hfits hmem hcarries hreads hroom
  rw [answerIn_eq functions second.guest (show query.entry ≠ .newPrivateKey from nofun)] at hdoes
  exact ⟨Stage.callOf query [key, operand] second, ⟨rfl, [key, operand], rfl, hcarries⟩,
    Does.bind_ok hfirst (Does.bind_ok hsecond hdoes)⟩

theorem expectLength_eq_ok {lease : Lease σ} {region : Region} {bytes : Bytes}
    (hread : lease.guest.memory.read? region = some bytes) (entry : PackedExport) {expected : Nat}
    (hfits : bytes.length = expected) :
    expectLength entry expected region lease = .ok () lease := by
  rw [expectLength, if_pos ((Memory.len_of_read? hread).trans hfits)]
  rfl

/-- If a new key has the right length, its address is asked for with the region of the key. -/
theorem does_addressBody
    (hguest : ComputingGuest exports heapOf Sane HasRoom functions tripwire) {lease : Lease σ}
    {key : Region} {bytes : Bytes} {calls : List (GuestCall σ)}
    (hstage : Stage heapOf Sane base tripwire [key] calls lease)
    (hread : lease.guest.memory.read? key = some bytes)
    (hroom : Roomy HasRoom (final (addressBody exports key) lease).actions) :
    ∃ more : List (GuestCall σ),
      List.Forall₂ GuestCall.Asks more
        (((some bytes).filter (·.length = privateKeySize)).toList.map Request.addressQuery) ∧
      Does (addressBody exports key) lease
        (ofLength .newPrivateKey privateKeySize bytes >>= fun _ =>
          answerOf .getAddress (functions.answer (Request.addressQuery bytes)) >>= fun address =>
          ofLength .getAddress addressSize address >>= fun _ =>
          asText .getAddress address >>= fun text => .ok ⟨bytes, text⟩) (calls ++ more) := by
  by_cases hfits : bytes.length = privateKeySize
  · have hcopied : Lease.read key lease = .ok bytes (lease.recorded (.read key)) := by
      rw [read_eq, hread]
    rw [addressBody, final_bind_of_ok (expectLength_eq_ok hread .newPrivateKey hfits),
      final_bind_of_ok hcopied] at hroom
    let query := Request.addressQuery bytes
    have hcalls : packedCalls (lease.recorded (.read key)).actions = packedCalls lease.actions :=
      packedCalls_push _ rfl
    have hcopiedStage : Stage heapOf Sane base tripwire [key] calls (lease.recorded (.read key)) :=
      ⟨hstage.client, hstage.tripwire_eq, hcalls.trans hstage.calls_eq⟩
    have hcarries : Carries lease.guest.memory [key] query.operands := .cons hread .nil
    have hreads := ((reads_readText exports .getAddress).map
      fun text => (⟨bytes, text⟩ : KeyPair)).checked .getAddress addressSize
    have hshape : query.Fits := Request.fits_addressQuery bytes
    have hdoes := hcopiedStage.does_callPacked hguest hshape (fun _ hmem => hmem) hcarries hreads
      hroom
    rw [answerIn_eq functions _ (show query.entry ≠ .newPrivateKey from nofun)] at hdoes
    refine ⟨[Stage.callOf query [key] (lease.recorded (.read key))], ?_,
      Does.expectLength .newPrivateKey privateKeySize hread (fun hnot => absurd hfits hnot)
        fun _ => Does.bind_ok hcopied hdoes⟩
    rw [Option.filter_some, if_pos (decide_eq_true hfits)]
    exact .cons ⟨rfl, [key], rfl, hcarries⟩ .nil
  · refine ⟨[], ?_, ?_⟩
    · rw [Option.filter_some, if_neg (by simpa using hfits)]
      exact .nil
    · rw [List.append_nil]
      exact Does.expectLength .newPrivateKey privateKeySize hread (fun _ => hstage.calls_eq)
        fun heq => absurd heq hfits

/-- A new key and its address are made of two answers, if both have the right lengths and the
address is text. The address is asked for if the key has the right length. -/
theorem does_newPrivateKeyBody
    (hguest : ComputingGuest exports heapOf Sane HasRoom functions tripwire)
    (hstart : Stage heapOf Sane base tripwire [] [] start)
    (hroom : Roomy HasRoom (final (newPrivateKeyBody exports) start).actions) :
    ∃ calls : List (GuestCall σ),
      List.Forall₂ GuestCall.Asks calls (Request.newPrivateKey.queries functions start.guest) ∧
      Does (newPrivateKeyBody exports) start
        (answerOf .newPrivateKey (functions.newKey start.guest) >>= fun key =>
          ofLength .newPrivateKey privateKeySize key >>= fun _ =>
          answerOf .getAddress (functions.answer (Request.addressQuery key)) >>= fun address =>
          ofLength .getAddress addressSize address >>= fun _ =>
          asText .getAddress address >>= fun text => .ok ⟨key, text⟩) calls := by
  have hbody : newPrivateKeyBody exports =
      (callPacked exports .newPrivateKey (argumentsOf [] []) >>= fun key =>
        markSecret key >>= fun _ => addressBody exports key : LeaseM σ KeyPair) := rfl
  have hmark (key : Region) (lease : Lease σ) : markSecret key lease =
      .ok () { lease with held := markSecretIn key lease.held } := rfl
  have hgrows (key : Region) (lease : Lease σ) : lease.actions <+:
      (final (markSecret key >>= fun _ => addressBody exports key) lease).actions := by
    rw [final_bind_of_ok (hmark key lease)]
    exact (walks_addressBody exports key).prefix_actions
      { lease with held := markSecretIn key lease.held }
  rw [hbody] at hroom ⊢
  have hasked := hstart.callPacked hguest ⟨.newPrivateKey, [], []⟩
    (Request.fits_query .newPrivateKey) [] nofun .nil (roomy_of_bind hgrows hroom)
  have hasks : (Stage.callOf ⟨.newPrivateKey, [], []⟩ [] start).Asks ⟨.newPrivateKey, [], []⟩ :=
    ⟨rfl, [], rfl, .nil⟩
  rw [show functions.answerIn start.guest ⟨.newPrivateKey, [], []⟩ =
    functions.newKey start.guest from rfl] at hasked
  rw [Request.queries]
  cases hkey : functions.newKey start.guest with
  | none =>
    rw [hkey] at hasked
    obtain ⟨after, hcall, hcalls⟩ := hasked
    exact ⟨_, .cons hasks .nil, Does.bind_error hcall hcalls⟩
  | some bytes =>
    rw [hkey] at hasked
    obtain ⟨key, after, hcall, hstage, hread⟩ := hasked
    dsimp only at hcall
    rw [final_bind_of_ok hcall, final_bind_of_ok (hmark key after)] at hroom
    have hmarked : Stage heapOf Sane base tripwire [key]
        [Stage.callOf ⟨.newPrivateKey, [], []⟩ [] start]
        { after with held := markSecretIn key after.held } :=
      ⟨hstage.client, hstage.tripwire_eq, hstage.calls_eq⟩
    obtain ⟨more, hmore, hdoes⟩ := does_addressBody hguest hmarked hread hroom
    exact ⟨_, .cons hasks hmore, Does.bind_ok hcall (Does.bind_ok (hmark key after) hdoes)⟩

/-! ## Whole operations -/

theorem Does.map {β : Type} (f : α → β) {part : LeaseM σ α} {lease : Lease σ}
    {outcome : Except BridgeError α} {calls : List (GuestCall σ)}
    (hdoes : Does part lease outcome calls) : Does (f <$> part) lease (f <$> outcome) calls := by
  rw [← bind_pure_comp, ← bind_pure_comp]
  exact hdoes.bind_pure f

/-- An operation with one operand has only one query. -/
theorem does_transform (hguest : ComputingGuest exports heapOf Sane HasRoom functions tripwire)
    (hstart : Stage heapOf Sane base tripwire [] [] start) (entry : PackedExport) {input : Bytes}
    {extra : List UInt32} {len : UInt32} (hlen : len.toNat = input.length)
    (hfits : Query.Fits ⟨entry, [input], extra⟩) {reader : Region → LeaseM σ α}
    {make : Bytes → Except BridgeError α} (hreads : Reads exports reader make)
    (product : α → Product)
    (hroom : Roomy HasRoom
      (final (product <$> transformBody exports entry input extra reader) start).actions) :
    ∃ calls : List (GuestCall σ), List.Forall₂ GuestCall.Asks calls [⟨entry, [input], extra⟩] ∧
      Does (product <$> transformBody exports entry input extra reader) start
        (answerOf entry (functions.answer ⟨entry, [input], extra⟩) >>= fun answer =>
          product <$> make answer) calls := by
  rw [final_map] at hroom
  obtain ⟨call, hasks, hdoes⟩ := does_transformBody hguest hstart hfits hlen hreads hroom
  have hmapped := Does.map product hdoes
  rw [map_bind] at hmapped
  exact ⟨[call], .cons hasks .nil, hmapped⟩

/-- An operation whose arguments pass the check asks for what it should, and makes of the answers
what it should. -/
theorem does_body (hguest : ComputingGuest exports heapOf Sane HasRoom functions tripwire)
    (hstart : Stage heapOf Sane base tripwire [] [] start) {request : Request}
    (hcheck : request.check = .ok ())
    (hroom : Roomy HasRoom (final (request.body exports) start).actions) :
    ∃ calls : List (GuestCall σ),
      List.Forall₂ GuestCall.Asks calls (request.queries functions start.guest) ∧
      Does (request.body exports) start (request.expected functions start.guest) calls := by
  have hlens := exists_len_of_check hcheck
  cases request with
  | newPrivateKey =>
    rw [Request.body, final_map] at hroom
    obtain ⟨calls, hasks, hdoes⟩ := does_newPrivateKeyBody hguest hstart hroom
    have hmapped := Does.map Product.keyPair hdoes
    simp only [map_bind] at hmapped
    exact ⟨calls, hasks, hmapped⟩
  | recoverMessage operand =>
    obtain ⟨len, hlen⟩ := hlens operand List.mem_cons_self
    exact does_transform hguest hstart .recoverMessage hlen
      (Request.fits_query (.recoverMessage operand)) (reads_read exports) Product.bytes hroom
  | hashBytes operand =>
    obtain ⟨len, hlen⟩ := hlens operand List.mem_cons_self
    exact does_transform hguest hstart .hashMessageBytes hlen
      (Request.fits_query (.hashBytes operand)) (reads_read exports) Product.bytes hroom
  | hashText operand =>
    obtain ⟨len, hlen⟩ := hlens operand List.mem_cons_self
    exact does_transform hguest hstart .hashMessage hlen
      (Request.fits_query (.hashText operand)) (reads_readText exports .hashMessage) Product.text
      hroom
  | formatMessage message chunks =>
    obtain ⟨len, hlen⟩ := hlens message List.mem_cons_self
    exact does_transform hguest hstart .formatMessage hlen
      (Request.fits_query (.formatMessage message chunks)) (reads_read exports)
      (Product.bytes ∘ withoutLineFeeds) hroom
  | sign privateKey message =>
    obtain ⟨keyLen, hkey⟩ := hlens privateKey List.mem_cons_self
    obtain ⟨messageLen, hmessage⟩ := hlens message (List.mem_cons_of_mem _ List.mem_cons_self)
    rw [Request.body, final_map] at hroom
    obtain ⟨call, hasks, hdoes⟩ := does_signBody hguest hstart hkey hmessage hroom
    have hmapped := Does.map Product.text hdoes
    simp only [map_bind] at hmapped
    exact ⟨[call], .cons hasks .nil, hmapped⟩

end Operation

/-! ## The release changes nothing -/

namespace Lease

/-- Giving a region back asks for nothing. -/
theorem packedCalls_release (release : Release σ) : packedCalls release.actions = [] := by
  rw [Release.actions, packedCalls_push _ rfl]
  unfold Held.wipeActions
  split <;> rfl

theorem packedCalls_flatMap_release (releases : List (Release σ)) :
    packedCalls (releases.flatMap Release.actions) = [] := by
  induction releases with
  | nil => rfl
  | cons release rest ih =>
    rw [List.flatMap_cons, packedCalls_append, packedCalls_release, ih]
    rfl

end Lease

namespace Operation

open Lease

variable {α : Type} {start : Lease σ}

theorem final_of_ended {body : LeaseM σ α} {outcome : Except BridgeError α} {middle : Lease σ}
    (hbody : body start = ended outcome middle) : final body start = middle := by
  rw [final, hbody]
  cases outcome <;> rfl

/-- An operation makes the calls that its body makes. -/
theorem packedCalls_shielded {name : String} {body : LeaseM σ α} {outcome : Except BridgeError α}
    {calls : List (GuestCall σ)} (hdoes : Does body start outcome calls) :
    packedCalls (shielded name exports body start).lease.actions = calls := by
  obtain ⟨releases, -, hactions⟩ := actions_shielded name exports body start
  obtain ⟨middle, hbody, hcalls⟩ := hdoes
  rw [hactions, packedCalls_append, packedCalls_flatMap_release, List.append_nil,
    final_of_ended hbody, hcalls]

/-- An operation comes to what its body comes to, unless the release function panics. -/
theorem outcome_of_does {name : String} {body : LeaseM σ α} {outcome : Except BridgeError α}
    {calls : List (GuestCall σ)} (hdoes : Does body start outcome calls)
    (hcalm : Calm (shielded name exports body start).lease.actions) :
    (shielded name exports body start).outcome = outcome := by
  obtain ⟨middle, hbody, -⟩ := hdoes
  rw [outcome_shielded hcalm, Lease.outcome, hbody]
  cases outcome <;> rfl

end Operation

/-- On a guest that computes functions of byte strings and has room for the operation, an operation
whose arguments pass the check calls the functions with exactly the operands that it should. Its
outcome is made of the answers alone, as long as the release function does not panic. -/
theorem transports_serve {session : Session σ} {live : LiveGuest σ}
    (hlive : session.live = some live)
    (hguest : ComputingGuest live.exports heapOf Sane HasRoom functions tripwire)
    (hsane : Sane live.guest) {request : Request} (hcheck : request.check = .ok ())
    (hroom : Roomy HasRoom (session.serve tripwire request).actions) :
    List.Forall₂ GuestCall.Asks (packedCalls (session.serve tripwire request).actions)
        (request.queries functions live.guest) ∧
      ((∀ dealloc ∈ deallocs (session.serve tripwire request).actions,
          dealloc.ending.isPanic = false) →
        (session.serve tripwire request).outcome = request.expected functions live.guest) := by
  let start := Lease.start live.guest tripwire live.stats
  have hperform : Operation.perform live.exports start request =
      Operation.shielded request.entry.name live.exports (request.body live.exports) start := by
    rw [Operation.perform_eq, hcheck]
  have hserve : (session.serve tripwire request).outcome =
        (Operation.perform live.exports start request).outcome ∧
      (session.serve tripwire request).actions =
        (Operation.perform live.exports start request).lease.actions := by
    rw [Session.serve, Session.perform, hlive]
    exact ⟨rfl, rfl⟩
  rw [hperform] at hserve
  obtain ⟨houtcome, hactions⟩ := hserve
  rw [hactions] at hroom ⊢
  rw [houtcome]
  obtain ⟨releases, -, hsplit⟩ := Operation.actions_shielded request.entry.name live.exports
    (request.body live.exports) start
  have hstart : Stage heapOf Sane live.guest tripwire [] [] start :=
    ⟨.refl hsane, rfl, rfl⟩
  obtain ⟨calls, hasks, hdoes⟩ := Operation.does_body hguest hstart hcheck
    (hroom.of_prefix (hsplit ▸ List.prefix_append _ _))
  rw [Operation.packedCalls_shielded hdoes]
  exact ⟨hasks, Operation.outcome_of_does hdoes⟩

end GuestBridge
