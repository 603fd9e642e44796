import GuestBridge.Proofs.Heap.Computing

/-!
# Parts of an operation on a guest that computes

The body of an operation is followed part by part. A `Stage` is what is known between two parts:
which regions are held, what the tripwire is and what the guest has been asked for. As a client of
the heap, the operation keeps what it has placed, because guest calls leave lent blocks alone and
the host writes to one of its blocks at a time: so an operand that is placed stays readable
(`Stage.allocBytes`), and a query that refers to operands is answered as it should
(`Stage.callPacked`). `Does` says what comes of a part of a body, and `Reads` what comes of reading
an answer.
-/

namespace GuestBridge

variable {σ : Type} {exports : Exports σ} {heapOf : Instance σ → Heap} {Sane : Instance σ → Prop}
  {HasRoom : Callee → List UInt32 → Instance σ → Prop} {functions : ByteFunctions σ}
  {tripwire : Option Tripwire} {base : Instance σ}

namespace Client

variable {regions : List Region} {guest after : Instance σ}

/-- The region of a block that the operation holds lies inside memory. -/
theorem holds (hclient : Client heapOf Sane base regions guest)
    (hwell : (heapOf guest).WellFormed guest.memory) {region : Region} (hmem : region ∈ regions) :
    guest.memory.Holds region := by
  obtain ⟨capacity, hlent, hlarge⟩ := hclient.lent region hmem
  exact (Nat.add_le_add_left hlarge _).trans
    (hwell.inside region.ptr _ (Heap.eq_some_of_lentAt hlent))

/-- A guest call leaves the contents of what the operation holds alone. -/
theorem read?_lending (hsound : SoundGuest exports heapOf Sane)
    (hclient : Client heapOf Sane base regions guest) {handed : Option Region}
    (hlending : Lending heapOf Sane handed guest after)
    (hclient' : Client heapOf Sane base (regions ++ handed.toList) after) {region : Region}
    (hmem : region ∈ regions) : after.memory.read? region = guest.memory.read? region := by
  obtain ⟨capacity, hlent, hlarge⟩ := hclient.lent region hmem
  refine Memory.read?_congr (hclient.holds (hsound.wellFormed _ hclient.sane) hmem)
    (hclient'.holds (hsound.wellFormed _ hclient'.sane) (List.mem_append_left _ hmem))
    fun address hge hlt => hlending.bytes address ⟨region.ptr, capacity, hlent, hge, ?_⟩
  exact Nat.lt_of_lt_of_le hlt (Nat.add_le_add_left hlarge _)

/-- Storing something in one of the regions that the operation holds leaves the others alone. -/
theorem read?_store_ne (hsound : SoundGuest exports heapOf Sane)
    (hclient : Client heapOf Sane base regions guest) {region other : Region}
    (hmem : region ∈ regions) (hother : other ∈ regions) (hne : other.ptr ≠ region.ptr)
    {bytes : Bytes} (hlen : region.len.toNat = bytes.length) :
    (guest.memory.store region.ptr.toNat bytes).read? other = guest.memory.read? other := by
  have hwell := hsound.wellFormed _ hclient.sane
  have hin := hclient.holds hwell hmem
  have hin' := hclient.holds hwell hother
  obtain ⟨capacity, hlent, hlarge⟩ := hclient.lent region hmem
  obtain ⟨capacity', hlent', hlarge'⟩ := hclient.lent other hother
  refine Memory.read?_congr hin' (by rwa [Memory.Holds, Memory.size_store])
    fun address hge hlt => ?_
  rw [Memory.byte_store _ _ _ _ (hlen ▸ hin), if_neg]
  rintro ⟨hge', hlt'⟩
  -- An address in both regions would lie in two blocks.
  rw [← hlen] at hlt'
  refine hne (hwell.disjoint _ _ address (Heap.covers_of_lentAt hlent' hge ?_)
    (Heap.covers_of_lentAt hlent hge' ?_))
  · exact Nat.lt_of_lt_of_le hlt (Nat.add_le_add_left hlarge' _)
  · exact Nat.lt_of_lt_of_le hlt' (Nat.add_le_add_left hlarge _)

end Client

/-! ## Parts of a body, one after the other -/

theorem Roomy.of_prefix {actions more : List (Action σ)} (hroom : Roomy HasRoom more)
    (hstarts : actions <+: more) : Roomy HasRoom actions :=
  fun action hmem => hroom action (hstarts.subset hmem)

theorem packedCalls_append (first second : List (Action σ)) :
    packedCalls (first ++ second) = packedCalls first ++ packedCalls second :=
  List.filterMap_append

theorem packedCalls_push (actions : List (Action σ)) {action : Action σ}
    (hnone : action.packed? = none) : packedCalls (actions ++ [action]) = packedCalls actions := by
  rw [packedCalls, List.filterMap_append, List.filterMap_cons_none hnone]
  exact List.append_nil _

namespace Lease

variable {α β : Type}

/-- A first part has room if the whole has. -/
theorem roomy_of_bind {part : LeaseM σ α} {next : α → LeaseM σ β}
    (hgrows : ∀ result lease, lease.actions <+: (final (next result) lease).actions)
    {lease : Lease σ} (hroom : Roomy HasRoom (final (part >>= next) lease).actions) :
    Roomy HasRoom (final part lease).actions :=
  hroom.of_prefix (prefix_actions_bind hgrows lease)

end Lease

theorem Ending.exists_of_result? {ending : Ending (List Value)} {region : Region}
    (hresult : ending.result? = some region) :
    ∃ values, ending = .returned values ∧ regionOf? values = some region := by
  cases ending with
  | returned values => exact ⟨values, rfl, hresult⟩
  | trapped | panicked => cases hresult

/-! ## Placing operands and asking for answers -/

/-- In the body of an operation on a computing guest: the operation is a client of the heap with
some regions, the tripwire is as it was, and certain calls have been made. -/
structure Stage (heapOf : Instance σ → Heap) (Sane : Instance σ → Prop) (base : Instance σ)
    (tripwire : Option Tripwire) (regions : List Region) (calls : List (GuestCall σ))
    (lease : Lease σ) : Prop where
  client : Client heapOf Sane base regions lease.guest
  tripwire_eq : lease.tripwire = tripwire
  calls_eq : packedCalls lease.actions = calls

namespace Stage

open Lease

variable {regions : List Region} {calls : List (GuestCall σ)} {lease : Lease σ}

/-- An operand is placed in a region of its own, and what was placed before stays where it is. -/
theorem allocBytes (hguest : ComputingGuest exports heapOf Sane HasRoom functions tripwire)
    (hstage : Stage heapOf Sane base tripwire regions calls lease) {bytes : Bytes} {len : UInt32}
    (hlen : len.toNat = bytes.length) (sensitivity : Sensitivity)
    (hroom : Roomy HasRoom (final (allocBytes exports bytes sensitivity) lease).actions) :
    ∃ region after, Lease.allocBytes exports bytes sensitivity lease = .ok region after ∧
      Stage heapOf Sane base tripwire (regions ++ [region]) calls after ∧
      after.guest.memory.read? region = some bytes ∧
      ∀ other ∈ regions, after.guest.memory.read? other = lease.guest.memory.read? other := by
  have hsound := hguest.toSoundGuest
  have hcall : HasRoom .alloc [len] lease.guest :=
    hroom.of_prefix (prefix_actions_allocBytes hlen sensitivity lease) _
      (List.mem_append_right _ List.mem_cons_self) (.alloc, [len]) rfl
  obtain ⟨ptr, hne, hret⟩ := hguest.allocates lease.guest len hstage.client.sane hcall
  rw [← hstage.tripwire_eq] at hret
  have hlending := hsound.alloc lease.guest lease.tripwire len hstage.client.sane
  have hhanded : (Ending.returned ptr).allocated? len = some ⟨ptr, len⟩ := if_neg hne
  rw [hret, hhanded] at hlending
  have hclient : Client heapOf Sane base (regions ++ [⟨ptr, len⟩])
      (lease.allocated exports ⟨ptr, len⟩ sensitivity).guest := hstage.client.handed hlending
  have hmem : (⟨ptr, len⟩ : Region) ∈ regions ++ [⟨ptr, len⟩] :=
    List.mem_append_right _ List.mem_cons_self
  have hin := hclient.holds (hsound.wellFormed _ hclient.sane) hmem
  have hwritten := written_of_holds (lease.allocated exports ⟨ptr, len⟩ sensitivity) hlen hin
  have htripwire : (lease.called exports .alloc [len]).tripwire = lease.tripwire :=
    tripwire_called hret
  have hcalls : packedCalls (lease.called exports .alloc [len]).actions =
      packedCalls lease.actions := packedCalls_push _ rfl
  refine ⟨_, _, allocBytes_of_holds hlen hret hne hin,
    ⟨client_written hsound hclient hmem hlen, ?_, ?_⟩, ?_, ?_⟩
  · rw [hwritten]
    exact htripwire.trans hstage.tripwire_eq
  · rw [actions_written, packedCalls_push _ rfl]
    exact hcalls.trans hstage.calls_eq
  · rw [hwritten]
    exact Memory.read?_store _ hlen hin
  · intro other hother
    have hapart : other.ptr ≠ ptr := by
      intro hsame
      obtain ⟨capacity, hlent, -⟩ := hstage.client.lent other hother
      rw [hsame, hlending.fresh ⟨ptr, len⟩ rfl] at hlent
      cases hlent
    rw [hwritten]
    exact (hclient.read?_store_ne hsound hmem (List.mem_append_left _ hother) hapart hlen).trans
      (hstage.client.read?_lending hsound hlending hclient hother)

/-- The call of an export that is asked for something. -/
def callOf (query : Query) (regions : List Region) (lease : Lease σ) : GuestCall σ :=
  ⟨lease.guest, query.entry, argumentsOf regions query.words⟩

/-- A query is answered: the answer is in a region that the operation takes over, or the operation
stops because there is none. In both cases the call asked for what the query says. -/
theorem callPacked (hguest : ComputingGuest exports heapOf Sane HasRoom functions tripwire)
    (hstage : Stage heapOf Sane base tripwire regions calls lease) (query : Query)
    (hfits : query.Fits) (operands : List Region) (hmem : ∀ region ∈ operands, region ∈ regions)
    (hcarries : Carries lease.guest.memory operands query.operands)
    (hroom : Roomy HasRoom (final
      (Lease.callPacked exports query.entry (argumentsOf operands query.words)) lease).actions) :
    match answerOf query.entry (functions.answerIn lease.guest query) with
    | .ok bytes => ∃ region after,
        Lease.callPacked exports query.entry (argumentsOf operands query.words) lease =
          .ok region after ∧
        Stage heapOf Sane base tripwire (regions ++ [region])
          (calls ++ [callOf query operands lease]) after ∧
        after.guest.memory.read? region = some bytes
    | .error error => ∃ after,
        Lease.callPacked exports query.entry (argumentsOf operands query.words) lease =
          .error (.failed error) after ∧
        packedCalls after.actions = calls ++ [callOf query operands lease] := by
  have hsound := hguest.toSoundGuest
  let args := argumentsOf operands query.words
  have hcalls : packedCalls (lease.called exports (.packed query.entry) args).actions =
      calls ++ [callOf query operands lease] := by
    show packedCalls (lease.actions ++ [_]) = _
    rw [packedCalls_append, hstage.calls_eq]
    rfl
  have hcall : HasRoom (.packed query.entry) args lease.guest :=
    hroom.of_prefix (prefix_actions_callPacked query.entry args lease) _
      (List.mem_append_right _ List.mem_cons_self) (.packed query.entry, args) rfl
  have hanswered := hguest.computes lease.guest query operands hstage.client.sane hfits
    (fun region hregion => hstage.client.lent region (hmem region hregion)) hcarries hcall
  have hlending := hsound.packed query.entry args lease.guest lease.tripwire hstage.client.sane
  rw [← hstage.tripwire_eq] at hanswered
  cases hanswer : functions.answerIn lease.guest query with
  | some bytes =>
    rw [hanswer] at hanswered
    obtain ⟨region, hresult, hread⟩ := hanswered
    obtain ⟨values, hret, hregion⟩ := Ending.exists_of_result? hresult
    rw [hresult] at hlending
    have htripwire : (lease.called exports (.packed query.entry) args).tripwire = lease.tripwire :=
      tripwire_called hret
    refine ⟨region, lease.adopted exports query.entry args region, ?_,
      ⟨hstage.client.handed hlending, htripwire.trans hstage.tripwire_eq, hcalls⟩, hread⟩
    rw [callPacked_eq, hret]
    dsimp only
    rw [hregion]
  | none =>
    rw [hanswer] at hanswered
    obtain ⟨word, more, len, hret, hnull⟩ := hanswered
    have hregion : regionOf? (.i64 word :: more) = none := congrArg Region.ofPacked? hnull
    refine ⟨lease.rejected exports query.entry args (nullNotes query.entry (.i64 word :: more)), ?_,
      hcalls⟩
    rw [callPacked_eq, hret]
    dsimp only
    rw [hregion]
    rfl

end Stage

/-! ## Bodies -/

/-- How a part of an operation ends with an outcome. -/
def ended {α : Type} (outcome : Except BridgeError α) (after : Lease σ) :
    EStateM.Result Abort (Lease σ) α :=
  match outcome with
  | .ok result => .ok result after
  | .error error => .error (.failed error) after

/-- A part of an operation ends with an outcome, and when it does, certain calls have been made. -/
def Does {α : Type} (part : LeaseM σ α) (lease : Lease σ) (outcome : Except BridgeError α)
    (calls : List (GuestCall σ)) : Prop :=
  ∃ after, part lease = ended outcome after ∧ packedCalls after.actions = calls

namespace Does

variable {α β : Type} {part : LeaseM σ α} {next : α → LeaseM σ β} {lease after : Lease σ}
  {calls : List (GuestCall σ)}

theorem bind_ok {result : α} {outcome : Except BridgeError β}
    (hpart : part lease = .ok result after) (hnext : Does (next result) after outcome calls) :
    Does (part >>= next) lease outcome calls := by
  obtain ⟨last, hlast, hcalls⟩ := hnext
  exact ⟨last, (Lease.bind_of_ok hpart next).trans hlast, hcalls⟩

theorem bind_error {error : BridgeError} (hpart : part lease = .error (.failed error) after)
    (hcalls : packedCalls after.actions = calls) :
    Does (part >>= next) lease (.error error) calls :=
  ⟨after, Lease.bind_of_error hpart next, hcalls⟩

theorem bind_pure (f : α → β) {outcome : Except BridgeError α}
    (hdoes : Does part lease outcome calls) :
    Does (part >>= fun result => Pure.pure (f result)) lease
      (outcome >>= fun result => Pure.pure (f result)) calls := by
  obtain ⟨last, hlast, hcalls⟩ := hdoes
  refine ⟨last, ?_, hcalls⟩
  rw [Lease.bind_apply, hlast]
  cases outcome <;> rfl

/-- A check of an answer, and what comes after it. -/
theorem expectLength (entry : PackedExport) (expected : Nat) {region : Region} {bytes : Bytes}
    {next : Unit → LeaseM σ β} {outcome : Unit → Except BridgeError β}
    (hread : lease.guest.memory.read? region = some bytes)
    (hcalls : bytes.length ≠ expected → packedCalls lease.actions = calls)
    (hnext : bytes.length = expected → Does (next ()) lease (outcome ()) calls) :
    Does (Lease.expectLength entry expected region >>= next) lease
      (ofLength entry expected bytes >>= outcome) calls := by
  have hlen := Memory.len_of_read? hread
  by_cases hfits : bytes.length = expected
  · rw [ofLength, if_pos hfits]
    refine bind_ok ?_ (hnext hfits)
    rw [Lease.expectLength, if_pos (hlen.trans hfits)]
    rfl
  · rw [ofLength, if_neg hfits, ← hlen]
    refine bind_error ?_ (hcalls hfits)
    rw [Lease.expectLength, if_neg (hlen ▸ hfits)]
    rfl

end Does

/-- A reader makes of a region what the function makes of the bytes in it, and asks the guest for
nothing. -/
structure Reads {α : Type} (exports : Exports σ) (reader : Region → LeaseM σ α)
    (make : Bytes → Except BridgeError α) : Prop where
  walks : ∀ region, Lease.Walks exports [] (reader region)
  does : ∀ {region : Region} {bytes : Bytes} {lease : Lease σ},
    lease.guest.memory.read? region = some bytes →
      Does (reader region) lease (make bytes) (packedCalls lease.actions)

/-- An answer is copied out of the region that holds it. -/
theorem reads_read (exports : Exports σ) : Reads exports Lease.read .ok where
  walks := .read
  does {region bytes lease} hread := by
    refine ⟨lease.recorded (.read region), ?_, ?_⟩
    · rw [Lease.read_eq, hread]
      rfl
    · exact packedCalls_push lease.actions rfl

theorem reads_readText (exports : Exports σ) (entry : PackedExport) :
    Reads exports (Lease.readText entry) (asText entry) where
  walks := .readText entry
  does {region bytes lease} hread := by
    obtain ⟨after, hafter, hcalls⟩ := (reads_read exports).does hread
    refine Does.bind_ok hafter ?_
    unfold asText
    cases Utf8.decode? bytes with
    | some text => exact ⟨after, rfl, hcalls⟩
    | none => exact ⟨after, rfl, hcalls⟩

namespace Reads

variable {α β : Type} {reader : Region → LeaseM σ α} {make : Bytes → Except BridgeError α}

/-- What is read may have to have a certain length. -/
theorem checked (hreads : Reads exports reader make) (entry : PackedExport) (expected : Nat) :
    Reads exports
      (fun region => Lease.expectLength entry expected region >>= fun _ => reader region)
      fun bytes => ofLength entry expected bytes >>= fun _ => make bytes where
  walks region := (Lease.Walks.expectLength entry expected region).bind fun _ => hreads.walks region
  does hread := Does.expectLength entry expected hread (fun _ => rfl) fun _ => hreads.does hread

theorem map (hreads : Reads exports reader make) (f : α → β) :
    Reads exports (fun region => reader region >>= fun result => pure (f result))
      fun bytes => make bytes >>= fun result => pure (f result) where
  walks region := (hreads.walks region).bind fun _ => .pure _
  does hread := (hreads.does hread).bind_pure f

end Reads

/-- A query is answered and the answer is read. -/
theorem Stage.does_callPacked {α : Type} {regions : List Region} {calls : List (GuestCall σ)}
    {lease : Lease σ} (hguest : ComputingGuest exports heapOf Sane HasRoom functions tripwire)
    (hstage : Stage heapOf Sane base tripwire regions calls lease) {query : Query}
    (hfits : query.Fits) {operands : List Region} (hmem : ∀ region ∈ operands, region ∈ regions)
    (hcarries : Carries lease.guest.memory operands query.operands)
    {reader : Region → LeaseM σ α} {make : Bytes → Except BridgeError α}
    (hreads : Reads exports reader make)
    (hroom : Roomy HasRoom (Lease.final (Lease.callPacked exports query.entry
      (argumentsOf operands query.words) >>= reader) lease).actions) :
    Does (Lease.callPacked exports query.entry (argumentsOf operands query.words) >>= reader) lease
      (answerOf query.entry (functions.answerIn lease.guest query) >>= make)
      (calls ++ [callOf query operands lease]) := by
  have hasked := hstage.callPacked hguest query hfits operands hmem hcarries
    (Lease.roomy_of_bind (fun region => (hreads.walks region).prefix_actions) hroom)
  cases hanswer : answerOf query.entry (functions.answerIn lease.guest query) with
  | error error =>
    rw [hanswer] at hasked
    obtain ⟨after, hcall, hcalls⟩ := hasked
    exact Does.bind_error hcall hcalls
  | ok bytes =>
    rw [hanswer] at hasked
    obtain ⟨region, after, hcall, hafter, hread⟩ := hasked
    have hlast := hreads.does hread
    rw [hafter.calls_eq] at hlast
    exact Does.bind_ok hcall hlast

end GuestBridge
