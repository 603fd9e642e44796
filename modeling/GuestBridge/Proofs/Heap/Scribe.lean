import GuestBridge.Proofs.Heap.Bump
import GuestBridge.Proofs.Heap.Transport

/-!
# A guest that computes

Whatever the functions of byte strings are, there is a guest that computes them. It manages its heap
like the guest that hands out its memory from the bottom to the top. Its packed exports take the
query apart from the words that they are given, read the operands from memory and write the answer
into a new block (`computingGuest_scribe`).
-/

namespace GuestBridge

/-! ## Arguments taken apart -/

/-- The regions that the words of a call refer to, and the plain word behind them if their number is
odd. -/
def regionsOf : List UInt32 → List Region × List UInt32
  | ptr :: len :: rest => (⟨ptr, len⟩ :: (regionsOf rest).1, (regionsOf rest).2)
  | words => ([], words)

theorem regionsOf_argumentsOf (regions : List Region) {words : List UInt32}
    (hfew : words.length < 2) : regionsOf (argumentsOf regions words) = (regions, words) := by
  induction regions with
  | nil =>
    match words, hfew with
    | [], _ => rfl
    | [_], _ => rfl
  | cons region rest ih =>
    show (_ :: (regionsOf (argumentsOf rest words)).1, (regionsOf (argumentsOf rest words)).2) = _
    rw [ih]

/-- What a call of an export asks for. -/
def Query.ofCall (entry : PackedExport) (args : List UInt32) (memory : Memory) : Query where
  entry := entry
  operands := (regionsOf args).1.map fun region =>
    memory.bytesAt region.ptr.toNat region.len.toNat
  words := (regionsOf args).2

theorem Carries.operands_eq {memory : Memory} {regions : List Region} {operands : List Bytes}
    (hcarries : Carries memory regions operands) :
    (regions.map fun region => memory.bytesAt region.ptr.toNat region.len.toNat) = operands := by
  induction hcarries with
  | nil => rfl
  | cons hread _ ih =>
    obtain ⟨-, hsome⟩ := Option.ite_none_right_eq_some.1 hread
    rw [List.map_cons, ih, Option.some.inj hsome]

/-- A query is understood from the arguments that carry it. -/
theorem Query.ofCall_argumentsOf {query : Query} (hfits : query.Fits) {memory : Memory}
    {regions : List Region} (hcarries : Carries memory regions query.operands) :
    Query.ofCall query.entry (argumentsOf regions query.words) memory = query := by
  unfold Query.ofCall
  rw [regionsOf_argumentsOf regions hfits.2, hcarries.operands_eq]

/-! ## The guest -/

namespace Bump

variable {guest : Instance Bump}

/-- There is room for a block at the top. -/
def Fits (size : Nat) (guest : Instance Bump) : Prop :=
  size < UInt32.size ∧ guest.state.top + size ≤ guest.memory.size ∧ guest.state.top < UInt32.size

instance (size : Nat) (guest : Instance Bump) : Decidable (Fits size guest) :=
  inferInstanceAs (Decidable (_ ∧ _))

/-- Hands out a block at the top with these bytes, or null if there is no room. -/
def put (bytes : Bytes) (guest : Instance Bump) : UInt32 × Instance Bump :=
  if Fits bytes.length guest then
    (UInt32.ofNat guest.state.top,
      { lend (UInt32.ofNat bytes.length) guest with
        memory := guest.memory.store guest.state.top bytes })
  else (0, guest)

end Bump

/-- The functions of a guest that computes. A function that has no answer returns a null pointer and
a length that means nothing. -/
def scribeExports (functions : ByteFunctions Bump) : Exports Bump :=
  { bumpExports with
    functions := PackedExport.all.map fun entry args _ guest =>
      match functions.answerIn guest (Query.ofCall entry args guest.memory) with
      | none => ⟨guest, [], .returned [.i64 (PackedResult.encode (.failure 1))]⟩
      | some bytes =>
        let (ptr, after) := Bump.put bytes guest
        ⟨after, [], .returned [.i64 (PackedResult.encode
          (.success ptr (UInt32.ofNat bytes.length)))]⟩ }

/-- The guest has room for what a call hands over: the block asked for, or the answer. -/
def Scribe.HasRoom (functions : ByteFunctions Bump) (callee : Callee) (args : List UInt32)
    (guest : Instance Bump) : Prop :=
  match callee with
  | .alloc => Bump.Fits (args.headD 0).toNat guest
  | .dealloc => True
  | .packed entry =>
    ∀ bytes ∈ functions.answerIn guest (Query.ofCall entry args guest.memory),
      Bump.Fits bytes.length guest

instance (functions : ByteFunctions Bump) (callee : Callee) (args : List UInt32)
    (guest : Instance Bump) : Decidable (Scribe.HasRoom functions callee args guest) :=
  match callee with
  | .alloc => inferInstanceAs (Decidable (Bump.Fits _ guest))
  | .dealloc => instDecidableTrue
  | .packed _ => inferInstanceAs (Decidable (∀ bytes ∈ functions.answerIn guest _, _))

/-! ## It manages its heap well -/

namespace Bump

variable {guest : Instance Bump}

theorem Sane.withMemory (hsane : Sane guest) {memory : Memory}
    (hsize : memory.size = guest.memory.size) : Sane { guest with memory := memory } where
  positive := hsane.positive
  top_le := hsane.top_le.trans_eq (congrArg Nat.succ hsize.symm)
  below := hsane.below
  apart := hsane.apart

/-- Nothing that is lent lies above the top. -/
theorem Sane.lt_top_of_lends (hsane : Sane guest) {address : Nat}
    (hlends : (heap guest).Lends address) : address < guest.state.top := by
  obtain ⟨ptr, capacity, hlent, -, hlt⟩ := hlends
  rw [lentAt_heap] at hlent
  exact hlt.trans (hsane.below ptr capacity hlent).2

theorem Fits.toNat_top {size : Nat} (hfits : Fits size guest) :
    (UInt32.ofNat guest.state.top).toNat = guest.state.top :=
  UInt32.toNat_ofNat_of_lt' hfits.2.2

theorem Fits.toNat_size {size : Nat} (hfits : Fits size guest) :
    (UInt32.ofNat size).toNat = size :=
  UInt32.toNat_ofNat_of_lt' hfits.1

theorem Fits.top_ne_zero {size : Nat} (hfits : Fits size guest) (hsane : Sane guest) :
    UInt32.ofNat guest.state.top ≠ 0 := by
  intro hnull
  have hzero : guest.state.top = 0 := hfits.toNat_top.symm.trans (congrArg UInt32.toNat hnull)
  exact absurd hsane.positive (hzero ▸ Nat.lt_irrefl 0)

/-- A block that fits is handed out by the allocator. -/
theorem Fits.take_eq {size : UInt32} (hfits : Fits size.toNat guest) :
    take size guest = (UInt32.ofNat guest.state.top, lend size guest) :=
  if_pos hfits.2

/-- The guest lends nothing or a block at the top, which has the bytes. -/
theorem Sane.lending_put (hsane : Sane guest) (bytes : Bytes) :
    Lending heap Sane
      (if (put bytes guest).1 = 0 then none
        else some ⟨(put bytes guest).1, UInt32.ofNat bytes.length⟩)
      guest (put bytes guest).2 := by
  unfold put
  split
  · next hfits =>
    have hlending := hsane.lending_take (UInt32.ofNat bytes.length)
    have hsize : Fits (UInt32.ofNat bytes.length).toNat guest := by rwa [hfits.toNat_size]
    rw [hsize.take_eq] at hlending
    refine ⟨hlending.sane.withMemory (Memory.size_store _ _ _), hlending.fresh, hlending.large,
      hlending.others, fun address hlends => ?_⟩
    have hlt := hsane.lt_top_of_lends hlends
    exact (Memory.byte_store _ _ _ _ hfits.2.1).trans (if_neg (by omega))
  · rw [if_pos rfl]
    exact .refl hsane

end Bump

section
variable {functions : ByteFunctions Bump} {entry : PackedExport} {args : List UInt32}
  {guest : Instance Bump}

theorem packed_scribe_of_none (tripwire : Option Tripwire)
    (hnone : functions.answerIn guest (Query.ofCall entry args guest.memory) = none) :
    (scribeExports functions).packed entry args tripwire guest =
      ⟨guest, [], .returned [.i64 (PackedResult.encode (.failure 1))]⟩ := by
  simp only [scribeExports, Exports.packed_map_all, hnone]

theorem packed_scribe_of_some (tripwire : Option Tripwire) {bytes : Bytes}
    (hsome : functions.answerIn guest (Query.ofCall entry args guest.memory) = some bytes) :
    (scribeExports functions).packed entry args tripwire guest =
      ⟨(Bump.put bytes guest).2, [], .returned [.i64 (PackedResult.encode
        (.success (Bump.put bytes guest).1 (UInt32.ofNat bytes.length)))]⟩ := by
  simp only [scribeExports, Exports.packed_map_all, hsome]

end

theorem soundGuest_scribe (functions : ByteFunctions Bump) :
    SoundGuest (scribeExports functions) Bump.heap Bump.Sane where
  wellFormed := soundGuest_bump.wellFormed
  stores := soundGuest_bump.stores
  alloc := soundGuest_bump.alloc
  dealloc := soundGuest_bump.dealloc
  packed entry args guest tripwire hsane := by
    cases hanswer : functions.answerIn guest (Query.ofCall entry args guest.memory) with
    | none =>
      rw [packed_scribe_of_none tripwire hanswer]
      exact .refl hsane
    | some bytes =>
      rw [packed_scribe_of_some tripwire hanswer]
      have hlending := hsane.lending_put bytes
      rw [← PackedResult.regionOf?_encode_success] at hlending
      exact hlending

/-- The guest computes the functions. -/
theorem computingGuest_scribe (functions : ByteFunctions Bump) (tripwire : Option Tripwire) :
    ComputingGuest (scribeExports functions) Bump.heap Bump.Sane (Scribe.HasRoom functions)
      functions tripwire where
  toSoundGuest := soundGuest_scribe functions
  allocates guest size hsane hfits := by
    refine ⟨UInt32.ofNat guest.state.top, hfits.top_ne_zero hsane, ?_⟩
    exact congrArg (fun taken => Ending.returned taken.1) (Bump.Fits.take_eq hfits)
  computes guest query regions hsane hshape _ hcarries hroom := by
    have hquery := Query.ofCall_argumentsOf hshape hcarries
    cases hanswer : functions.answerIn guest query with
    | none =>
      rw [← hquery] at hanswer
      exact ⟨_, [], 1, congrArg Reply.ending (packed_scribe_of_none tripwire hanswer), by decide⟩
    | some bytes =>
      rw [← hquery] at hanswer
      have hfits : Bump.Fits bytes.length guest := hroom bytes hanswer
      have hput : Bump.put bytes guest = _ := if_pos hfits
      have hreply := packed_scribe_of_some tripwire hanswer
      rw [hput] at hreply
      rw [hreply]
      let region : Region := ⟨UInt32.ofNat guest.state.top, UInt32.ofNat bytes.length⟩
      have hin : guest.memory.Holds region := by
        rw [Memory.Holds, Region.stop, hfits.toNat_top, hfits.toNat_size]
        exact hfits.2.1
      have hread := guest.memory.read?_store hfits.toNat_size hin
      rw [hfits.toNat_top] at hread
      exact ⟨region, (PackedResult.regionOf?_encode_success _ _).trans
        (if_neg (hfits.top_ne_zero hsane)), hread⟩

/-! ## A message of two lines -/

/-- Functions that give their operands back, one behind the other. A new key is a row of zeros. -/
def echo : ByteFunctions Bump where
  newKey _ := some (List.replicate Operation.privateKeySize 0)
  answer query := some query.operands.flatten

/-- What happens when a message of two lines is formatted. -/
def echoReport : SessionReport Bump Product :=
  (Session.fresh 1 (scribeExports echo) bumpGuest).serve none (.formatMessage [0x61, 0x0A, 0x62] 1)

/-- The guest is given both lines, and the message comes back in one. -/
theorem transports_serve_echo :
    ComputingGuest (scribeExports echo) Bump.heap Bump.Sane (Scribe.HasRoom echo) echo none ∧
    Roomy (Scribe.HasRoom echo) echoReport.actions ∧
    List.Forall₂ GuestCall.Asks (packedCalls echoReport.actions)
      [⟨.formatMessage, [[0x61, 0x0A, 0x62]], [1]⟩] ∧
    echoReport.outcome = .ok (.bytes [0x61, 0x62]) := by
  have hlive : (Session.fresh 1 (scribeExports echo) bumpGuest).live =
      some ⟨scribeExports echo, bumpGuest, .zero⟩ := rfl
  have hcheck : (Request.formatMessage [0x61, 0x0A, 0x62] 1).check = .ok () := rfl
  have hroom : Roomy (Scribe.HasRoom echo) echoReport.actions := by decide
  have hcalm : ∀ dealloc ∈ deallocs echoReport.actions, dealloc.ending.isPanic = false := by decide
  obtain ⟨hasks, houtcome⟩ :=
    transports_serve hlive (computingGuest_scribe echo none) sane_bumpGuest hcheck hroom
  exact ⟨computingGuest_scribe echo none, hroom, hasks, houtcome hcalm⟩

end GuestBridge
