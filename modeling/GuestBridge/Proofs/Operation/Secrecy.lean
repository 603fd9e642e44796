import GuestBridge.Proofs.Operation.Twins

/-!
# Signing leaves nothing of the key behind

To sign, the host puts the private key into guest memory, and overwrites it before it gives the
region back. A guest is `KeyBlind` in a run if in between it pays no attention to the contents of
that region, and if the region lies inside memory and apart from the signature. Then a run with
another key goes the same way: as long as the key lies in memory, the two leases are twins up to its
region (`alike_signTail`), and once it is overwritten the guests are equal
(`exists_twin_of_exposed`). So nobody can tell from the answer, the events, the calls of the guest
or the session that is left behind which key was used (`secret_serve`).
-/

namespace GuestBridge

variable {σ : Type}

/-! ## Guests that do not look at the key -/

/-- The region that was acquired second. In signing it is the one for the key. -/
def keyRegion? (actions : List (Action σ)) : Option Region :=
  ((acquisitions actions)[1]?).map Acquisition.region

/-- In a run of signing, the guest pays no attention to the contents of the region for the key. -/
structure KeyBlind (exports : Exports σ) (tripwire : Option Tripwire) (actions : List (Action σ)) :
    Prop where
  /-- A function that is called after the region was acquired and before it is overwritten does the
  same whatever the region holds. -/
  respects : ∀ (before : List (Action σ)) (found : Instance σ) (callee : Callee)
    (args : List UInt32) (ending : Ending callee.Result) (region : Region),
    before ++ [⟨found, .call callee args ending⟩] <+: actions →
      keyRegion? before = some region → wipes before = [] →
        exports.Respects (Instance.AgreeOutside region) callee args tripwire found
  /-- The region lies inside memory. -/
  inside : ∀ wipe ∈ wipes actions, wipe.found.memory.Holds wipe.region
  /-- The signature does not overlap it. -/
  apart : ∀ key signature, (acquisitions actions)[1]? = some key →
    (acquisitions actions)[2]? = some signature → key.region.Apart signature.region

namespace Lease

variable {exports : Exports σ} {tripwire : Option Tripwire} {actions : List (Action σ)}
  {region : Region} {first second : Lease σ}

/-- The key may lie in guest memory: its region was acquired and not overwritten since. -/
structure Exposed (region : Region) (tripwire : Option Tripwire) (lease : Lease σ) : Prop where
  key_eq : keyRegion? lease.actions = some region
  wipes_nil : wipes lease.actions = []
  tripwire_eq : lease.tripwire = tripwire

/-- What is called while the key is exposed does not look at it. -/
theorem Exposed.respects {lease : Lease σ} (hexposed : lease.Exposed region tripwire)
    (hblind : KeyBlind exports tripwire actions) {callee : Callee} {args : List UInt32}
    {ending : Ending callee.Result}
    (hcalled : lease.actions ++ [⟨lease.guest, .call callee args ending⟩] <+: actions) :
    exports.Respects (Instance.AgreeOutside region) callee args lease.tripwire lease.guest := by
  rw [hexposed.tripwire_eq]
  exact hblind.respects lease.actions lease.guest callee args ending region hcalled
    hexposed.key_eq hexposed.wipes_nil

/-- Whatever is acquired later, the key stays exposed until something is overwritten. -/
theorem Exposed.push {lease after : Lease σ} (hexposed : lease.Exposed region tripwire)
    {more : List (Action σ)} (hactions : after.actions = lease.actions ++ more)
    (hwipes : wipes more = []) (htripwire : after.tripwire = lease.tripwire) :
    after.Exposed region tripwire where
  key_eq := by
    have hkey := hexposed.key_eq
    rw [keyRegion?, Option.map_eq_some_iff] at hkey ⊢
    obtain ⟨acquisition, hsecond, hregion⟩ := hkey
    refine ⟨acquisition, ?_, hregion⟩
    rw [hactions, acquisitions_append,
      List.getElem?_append_left (List.getElem?_eq_some_iff.1 hsecond).1]
    exact hsecond
  wipes_nil := by rw [hactions, wipes_append, hexposed.wipes_nil, hwipes]; rfl
  tripwire_eq := htripwire.trans hexposed.tripwire_eq

/-! ## Giving the key back -/

theorem Releasing.of_cons {held : Held} {rest : List Held} {releases : List (Release σ)}
    {lease last : Lease σ} (hloop : Releasing exports lease (held :: rest) releases last)
    (hcalm : ∀ release ∈ releases, release.isPanic = false) :
    (Release.of exports held lease).isPanic = false ∧ ∃ others,
      (∀ release ∈ others, release.isPanic = false) ∧
        Releasing exports ((Release.of exports held lease).apply lease) rest others last := by
  cases hloop with
  | stopped _ _ _ hpanic =>
    rw [hcalm _ List.mem_cons_self] at hpanic
    cases hpanic
  | next _ _ hfirst hrest =>
    exact ⟨hfirst, _, fun release hmem => hcalm release (List.mem_cons_of_mem _ hmem), hrest⟩

/-- A region without a secret is given back by one call. -/
theorem actions_apply_plain {held : Held} (hplain : held.sensitivity = .plain) (lease : Lease σ) :
    ((Release.of exports held lease).apply lease).actions =
      lease.actions ++ [⟨lease.guest, .call .dealloc [held.region.ptr, held.sizeHint]
        (Release.of exports held lease).reply.ending⟩] := by
  show lease.actions ++ (held.wipeActions lease.guest ++
    [⟨held.prepare lease.guest, .call .dealloc _ _⟩]) = _
  rw [Held.wipeActions_of_plain hplain, Held.prepare_of_plain hplain]
  rfl

/-- A secret is overwritten before it is given back. -/
theorem mem_wipes_apply (region : Region) (sizeHint : UInt32) (lease : Lease σ) :
    ⟨region, lease.guest⟩ ∈
      wipes ((Release.of exports ⟨region, sizeHint, .secret⟩ lease).apply lease).actions := by
  show _ ∈ wipes (lease.actions ++ ([⟨lease.guest, .wipe region⟩] ++ [_]))
  rw [wipes_append]
  exact List.mem_append_right _ List.mem_cons_self

theorem Exposed.apply {lease : Lease σ} (hexposed : lease.Exposed region tripwire) {held : Held}
    (hplain : held.sensitivity = .plain) (hcalm : (Release.of exports held lease).isPanic = false) :
    ((Release.of exports held lease).apply lease).Exposed region tripwire := by
  refine hexposed.push (actions_apply_plain hplain lease) rfl ?_
  show Ending.rearm lease.tripwire (Release.of exports held lease).reply.ending = _
  unfold Release.isPanic at hcalm
  cases hending : (Release.of exports held lease).reply.ending with
  | returned | trapped => rfl
  | panicked payload =>
    rw [hending] at hcalm
    cases hcalm

/-- Twins up to the region of the key become twins with the same guest when the key is given back,
and stay so. -/
theorem exists_twin_of_exposed (hblind : KeyBlind exports tripwire actions) {sizeHint : UInt32}
    {early later : List Held} {releases : List (Release σ)} {last : Lease σ}
    (hloop : Releasing exports first (early ++ ⟨region, sizeHint, .secret⟩ :: later) releases last)
    (hcalm : ∀ release ∈ releases, release.isPanic = false)
    (hplain : ∀ held ∈ early, held.sensitivity = .plain)
    (hlast : last.actions <+: actions)
    (hexposed : early ≠ [] → first.Exposed region tripwire)
    (htwins : Twins (Instance.AgreeOutside region) first second) :
    ∃ last', releaseAll exports (early ++ ⟨region, sizeHint, .secret⟩ :: later) second =
      .ok () last' ∧ Twins Eq last last' := by
  induction early generalizing first second releases with
  | nil =>
    obtain ⟨hfirst, others, hothers, hrest⟩ := hloop.of_cons hcalm
    have hgrows := (List.prefix_append _ _).trans (hrest.actions ▸ hlast)
    have hwiped : ⟨region, first.guest⟩ ∈ wipes actions :=
      (hgrows.filterMap Action.wipe?).subset (mem_wipes_apply region sizeHint first)
    obtain ⟨hpanic, hafter⟩ := htwins.apply_secret (hblind.inside _ hwiped)
    rw [List.nil_append, releaseAll_cons (hpanic ▸ hfirst)]
    exact hrest.exists_twin hothers hafter
  | cons held early ih =>
    obtain ⟨hfirst, others, hothers, hrest⟩ := hloop.of_cons hcalm
    obtain ⟨hheld, hearly⟩ := List.forall_mem_cons.1 hplain
    have hexposed := hexposed (List.cons_ne_nil held early)
    have hcalled := (List.prefix_append _ _).trans (hrest.actions ▸ hlast)
    rw [actions_apply_plain hheld] at hcalled
    obtain ⟨hpanic, hafter⟩ := htwins.apply_plain hheld (hexposed.respects hblind hcalled)
    rw [List.cons_append, releaseAll_cons (hpanic ▸ hfirst)]
    exact ih hrest hothers hearly (fun _ => hexposed.apply hheld hfirst) hafter

end Lease

/-! ## Signing with the key in memory -/

namespace Operation

open Lease

variable {exports : Exports σ} {tripwire : Option Tripwire} {actions : List (Action σ)}
  {operand key : Region} {first second : Lease σ}

/-- A signature is read once its length was checked. -/
def checkedText (signature : Region) : LeaseM σ String := do
  expectLength .sign signatureSize signature
  readText .sign signature

/-- What comes after both operands of a signature were placed. -/
def signTail (exports : Exports σ) (operand key : Region) : LeaseM σ String := do
  let signature ← callPacked exports .sign [key.ptr, key.len, operand.ptr, operand.len]
  checkedText signature

/-- Reading a signature changes nothing. At most it is recorded. -/
theorem final_checkedText (signature : Region) (lease : Lease σ) :
    final (checkedText signature) lease = lease ∨
      final (checkedText signature) lease = lease.recorded (.read signature) := by
  unfold checkedText expectLength
  by_cases hfits : signature.len.toNat = signatureSize
  · right
    rw [if_pos hfits]
    show final (read signature >>= _) lease = _
    rw [final, bind_apply, read_eq]
    cases lease.guest.memory.read? signature with
    | none => rfl
    | some bytes =>
      dsimp only
      cases Utf8.decode? bytes <;> rfl
  · left
    rw [if_neg hfits]
    rfl

/-- In what comes after both operands were placed, at most the signature is acquired. If it is, the
key is as exposed as before. -/
theorem held_signTail (hexposed : first.Exposed key tripwire) (operand : Region) :
    ∃ more : List Held, (∀ held ∈ more, held.sensitivity = .plain) ∧
      (final (signTail exports operand key) first).held = first.held ++ more ∧
      (more ≠ [] → (final (signTail exports operand key) first).Exposed key tripwire) := by
  let args := [key.ptr, key.len, operand.ptr, operand.len]
  have hnone {after : Lease σ} (hheld : after.held = first.held) :
      ∃ more : List Held, (∀ held ∈ more, held.sensitivity = .plain) ∧
        after.held = first.held ++ more ∧ (more ≠ [] → after.Exposed key tripwire) :=
    ⟨[], nofun, hheld.trans (List.append_nil _).symm, fun hne => absurd rfl hne⟩
  have hcall := callPacked_eq exports .sign args first
  unfold signTail
  rw [final, bind_apply, hcall]
  cases hending : (exports.packed .sign args first.tripwire first.guest).ending with
  | trapped trap => exact hnone rfl
  | panicked payload => exact hnone rfl
  | returned values =>
    dsimp only
    cases hregion : regionOf? values with
    | none => exact hnone rfl
    | some signature =>
      let adopted := first.adopted exports .sign args signature
      have hcalled : (first.called exports (.packed .sign) args).tripwire = first.tripwire :=
        tripwire_called hending
      have hadopted : adopted.Exposed key tripwire := hexposed.push rfl rfl hcalled
      refine ⟨[⟨signature, 0, .plain⟩], fun held hmem => ?_, ?_, fun _ => ?_⟩
      · rw [List.mem_singleton.1 hmem]
      · show (final (checkedText signature) adopted).held = _
        rcases final_checkedText signature adopted with heq | heq
        · rw [heq]
          rfl
        · rw [heq]
          rfl
      · show (final (checkedText signature) adopted).Exposed key tripwire
        rcases final_checkedText signature adopted with heq | heq
        · rw [heq]
          exact hadopted
        · rw [heq]
          exact hadopted.push rfl rfl rfl

/-- As long as the key is in memory, nothing but its region tells which one it is. -/
theorem alike_signTail (hblind : KeyBlind exports tripwire actions)
    (hacquired : acquisitions first.actions = [⟨.alloc, operand⟩, ⟨.alloc, key⟩])
    (hexposed : first.Exposed key tripwire)
    (hactions : (final (signTail exports operand key) first).actions <+: actions)
    (htwins : Twins (Instance.AgreeOutside key) first second) :
    Alike (Instance.AgreeOutside key) (signTail exports operand key first)
      (signTail exports operand key second) := by
  have hgrows (signature : Region) (lease : Lease σ) : lease.actions <+:
      (final (checkedText signature) lease).actions := by
    rcases final_checkedText signature lease with heq | heq
    · rw [heq]
    · rw [heq]
      exact List.prefix_append _ _
  let args := [key.ptr, key.len, operand.ptr, operand.len]
  have hcalled := (prefix_actions_bind hgrows first).trans hactions
  have hrespects : exports.Respects (Instance.AgreeOutside key) (.packed .sign) args first.tripwire
      first.guest :=
    hexposed.respects hblind ((prefix_actions_callPacked .sign args first).trans hcalled)
  refine (htwins.callPacked hrespects).bind fun signature middle middle' hcall hmiddle => ?_
  refine (hmiddle.expectLength .sign signatureSize signature).bind fun _ last last' _ hlast => ?_
  refine hlast.readText .sign hlast.guest.size_eq (hlast.guest.read?_eq ?_)
  have hsigned : acquisitions middle.actions =
      [⟨.alloc, operand⟩, ⟨.alloc, key⟩, ⟨.packed .sign, signature⟩] := by
    rcases callPacked_cases exports .sign args first with
      ⟨region, heq, hstep⟩ | ⟨abort, after, heq, hstep⟩
    · obtain ⟨rfl, rfl⟩ := EStateM.Result.ok.inj (heq.symm.trans hcall)
      rw [hstep.took.acquired, hacquired]
      rfl
    · cases heq.symm.trans hcall
  have hmiddle : middle.actions <+: actions := by
    rw [final, hcall] at hcalled
    exact hcalled
  obtain ⟨more, hmore⟩ := hmiddle.filterMap Action.acquisition?
  have hall : acquisitions actions =
      [⟨.alloc, operand⟩, ⟨.alloc, key⟩, ⟨.packed .sign, signature⟩] ++ more := by
    rw [← hsigned]
    exact hmore.symm
  exact hblind.apart ⟨.alloc, key⟩ ⟨.packed .sign, signature⟩ (by rw [hall]; rfl)
    (by rw [hall]; rfl)

/-! ## Two runs of signing -/

/-- The check of a key looks at its length only. -/
theorem check_sign {privateKey : Bytes} (hsize : privateKey.length = privateKeySize)
    (message : Bytes) :
    (Request.sign privateKey message).check =
      (guestLength message.length).map fun _ => () := by
  rw [Request.check, if_pos hsize]
  cases guestLength message.length <;> rfl

theorem exists_len_of_check_sign {privateKey message : Bytes}
    (hsize : privateKey.length = privateKeySize)
    (hcheck : (Request.sign privateKey message).check = .ok ()) :
    ∃ len : UInt32, len.toNat = message.length := by
  rw [check_sign hsize] at hcheck
  cases hlength : guestLength message.length with
  | error error =>
    rw [hlength] at hcheck
    cases hcheck
  | ok len => exact ⟨len, guestLength_eq_ok_iff.1 hlength⟩

/-- Whether an operand is placed, and where, depends on its length only. -/
theorem placed_or_alike {len : UInt32} {bytes bytes' : Bytes} (hlen : len.toNat = bytes.length)
    (hlen' : len.toNat = bytes'.length) (sensitivity : Sensitivity) (lease : Lease σ) :
    (∃ ptr, (exports.alloc [len] lease.tripwire lease.guest).ending = .returned ptr ∧ ptr ≠ 0 ∧
        (lease.allocated exports ⟨ptr, len⟩ sensitivity).guest.memory.Holds ⟨ptr, len⟩) ∨
      ∃ abort after after', allocBytes exports bytes sensitivity lease = .error abort after ∧
        allocBytes exports bytes' sensitivity lease = .error abort after' ∧
          Twins Eq after after' := by
  have hbytes := allocBytes_eq hlen exports sensitivity lease
  have hbytes' := allocBytes_eq hlen' exports sensitivity lease
  cases hending : (exports.alloc [len] lease.tripwire lease.guest).ending with
  | trapped trap =>
    rw [hending] at hbytes hbytes'
    exact .inr ⟨_, _, _, hbytes, hbytes', .refl _⟩
  | panicked payload =>
    rw [hending] at hbytes hbytes'
    exact .inr ⟨_, _, _, hbytes, hbytes', .refl _⟩
  | returned ptr =>
    by_cases hnull : ptr = 0
    · rw [hending] at hbytes hbytes'
      dsimp only at hbytes hbytes'
      rw [if_pos hnull] at hbytes hbytes'
      exact .inr ⟨_, _, _, hbytes, hbytes', .refl _⟩
    · let held := lease.allocated exports ⟨ptr, len⟩ sensitivity
      by_cases hin : held.guest.memory.Holds ⟨ptr, len⟩
      · exact .inl ⟨ptr, rfl, hnull, hin⟩
      · have hrecorded {bytes : Bytes} (hlen : len.toNat = bytes.length) :
            held.written ⟨ptr, len⟩ bytes = held.recorded (.write ⟨ptr, len⟩ bytes) := by
          have hout : held.guest.memory.write? ptr bytes = none := if_neg (hlen ▸ hin)
          rw [written, hout]
        refine .inr ⟨_, _, _, allocBytes_of_not_holds hlen hending hnull hin,
          allocBytes_of_not_holds hlen' hending hnull hin, ?_⟩
        show Twins Eq (held.written ⟨ptr, len⟩ bytes) (held.written ⟨ptr, len⟩ bytes')
        rw [hrecorded hlen, hrecorded hlen']
        exact (Twins.refl held).recorded rfl rfl

/-- Different bytes of one length make twins up to the region that they are placed in. -/
theorem twins_written (lease : Lease σ) {region : Region} {bytes bytes' : Bytes}
    (hlen : region.len.toNat = bytes.length) (hlen' : region.len.toNat = bytes'.length)
    (hin : lease.guest.memory.Holds region) :
    Twins (Instance.AgreeOutside region) (lease.written region bytes)
      (lease.written region bytes') := by
  have hrecorded : Twins Eq (lease.recorded (.write region bytes))
      (lease.recorded (.write region bytes')) := (Twins.refl lease).recorded rfl rfl
  rw [written_of_holds lease hlen hin, written_of_holds lease hlen' hin]
  exact hrecorded.withMemory (agreeOutside_stored lease.guest hlen hlen' hin)

/-- Once both operands were placed the key is exposed. It is held after the message. -/
theorem exposed_of_placed {start placed lease : Lease σ} {message privateKey : Bytes}
    (hblank : start.Blank)
    (hmessage : Advance exports start [.operand operand .plain message] placed)
    (hkey : Advance exports placed [.operand key .secret privateKey] lease)
    (htripwire : lease.tripwire = start.tripwire) :
    acquisitions lease.actions = [⟨.alloc, operand⟩, ⟨.alloc, key⟩] ∧
      lease.held = [⟨operand, operand.len, .plain⟩, ⟨key, key.len, .secret⟩] ∧
      lease.Exposed key start.tripwire := by
  have htook := hmessage.took.trans hkey.took
  have hacquired : acquisitions lease.actions = [⟨.alloc, operand⟩, ⟨.alloc, key⟩] := by
    rw [htook.acquired, hblank.actions_nil]
    rfl
  have hheld : lease.held = [⟨operand, operand.len, .plain⟩, ⟨key, key.len, .secret⟩] := by
    rw [htook.held, hblank.held_nil]
    rfl
  have hintact : lease.Intact := hkey.intact (hmessage.intact hblank.intact)
  have hkeyRegion : keyRegion? lease.actions = some key := by
    rw [keyRegion?, hacquired]
    rfl
  exact ⟨hacquired, hheld, hkeyRegion, hintact.wipes_nil, htripwire⟩

/-- Two runs of the body of signing with different keys end alike. If the key was placed, the guests
may differ in its region, which is held as a secret between the message and the signature. -/
theorem alike_signBody {message privateKey other : Bytes} {messageLen keyLen : UInt32}
    (hmessage : messageLen.toNat = message.length) (hkey : keyLen.toNat = privateKey.length)
    (hother : keyLen.toNat = other.length) {start : Lease σ} (hblank : start.Blank)
    (hblind : KeyBlind exports start.tripwire actions)
    (hactions : (final (signBody exports privateKey message) start).actions <+: actions) :
    Alike Eq (signBody exports privateKey message start) (signBody exports other message start) ∨
      ∃ (region : Region) (sizeHint : UInt32) (early later : List Held),
        Alike (Instance.AgreeOutside region) (signBody exports privateKey message start)
          (signBody exports other message start) ∧
        (final (signBody exports privateKey message) start).held.reverse =
          early ++ ⟨region, sizeHint, .secret⟩ :: later ∧
        (∀ held ∈ early, held.sensitivity = .plain) ∧
        (early ≠ [] →
          (final (signBody exports privateKey message) start).Exposed region start.tripwire) := by
  have hbody (privateKey : Bytes) : signBody exports privateKey message =
      (allocBytes exports message .plain >>= fun operand =>
        allocBytes exports privateKey .secret >>= fun key =>
          signTail exports operand key : LeaseM σ String) := rfl
  rw [hbody] at hactions
  rw [hbody, hbody]
  rcases placed_or_alike hmessage hmessage .plain start with
    ⟨ptr, hret, hne, hin⟩ | ⟨abort, after, after', hplace, hplace', htwins⟩
  · let operand : Region := ⟨ptr, messageLen⟩
    let placed := (start.allocated exports operand .plain).written operand message
    have hplace : allocBytes exports message .plain start = .ok operand placed :=
      allocBytes_of_holds hmessage hret hne hin
    have hfirst : Advance exports start [.operand operand .plain message] placed :=
      .placed operand .plain message hret hne hmessage
    rw [bind_of_ok hplace, bind_of_ok hplace]
    rw [final_bind_of_ok hplace] at hactions ⊢
    rcases placed_or_alike hkey hother .secret placed with
      ⟨keyPtr, hkeyRet, hkeyNe, hkeyIn⟩ | ⟨abort, after, after', hkeyPlace, hkeyPlace', htwins⟩
    · right
      let key : Region := ⟨keyPtr, keyLen⟩
      let lease := (placed.allocated exports key .secret).written key privateKey
      have hmine : allocBytes exports privateKey .secret placed = .ok key lease :=
        allocBytes_of_holds hkey hkeyRet hkeyNe hkeyIn
      have htheirs : allocBytes exports other .secret placed = .ok key
          ((placed.allocated exports key .secret).written key other) :=
        allocBytes_of_holds hother hkeyRet hkeyNe hkeyIn
      have hsecond : Advance exports placed [.operand key .secret privateKey] lease :=
        .placed key .secret privateKey hkeyRet hkeyNe hkey
      have htripwire : lease.tripwire = start.tripwire :=
        (tripwire_placed hkeyRet key .secret privateKey rfl).trans
          (tripwire_placed hret operand .plain message rfl)
      obtain ⟨hacquired, hheld, hexposed⟩ := exposed_of_placed hblank hfirst hsecond htripwire
      obtain ⟨more, hplain, hmore, hsigned⟩ := held_signTail hexposed operand
      rw [bind_of_ok hmine, bind_of_ok htheirs]
      rw [final_bind_of_ok hmine] at hactions ⊢
      refine ⟨key, keyLen, more.reverse, [⟨operand, messageLen, .plain⟩],
        alike_signTail hblind hacquired hexposed hactions (twins_written _ hkey hother hkeyIn),
        ?_, ?_, ?_⟩
      · rw [hmore, hheld, List.reverse_append]
        rfl
      · intro held hmem
        exact hplain held (List.mem_reverse.1 hmem)
      · intro hne
        exact hsigned fun hnil => hne (by rw [hnil]; rfl)
    · left
      rw [bind_of_error hkeyPlace, bind_of_error hkeyPlace']
      exact .error abort htwins
  · left
    rw [bind_of_error hplace, bind_of_error hplace']
    exact .error abort htwins

/-- Two runs of signing with different keys come to the same, and leave twins with the same guest
behind. -/
theorem twins_shielded_sign {name : String} {message privateKey other : Bytes}
    {messageLen keyLen : UInt32} (hmessage : messageLen.toNat = message.length)
    (hkey : keyLen.toNat = privateKey.length) (hother : keyLen.toNat = other.length)
    {start : Lease σ} (hblank : start.Blank)
    (hcalm : Calm (shielded name exports (signBody exports privateKey message) start).lease.actions)
    (hblind : KeyBlind exports start.tripwire
      (shielded name exports (signBody exports privateKey message) start).lease.actions) :
    (shielded name exports (signBody exports privateKey message) start).outcome =
        (shielded name exports (signBody exports other message) start).outcome ∧
      Twins Eq (shielded name exports (signBody exports privateKey message) start).lease
        (shielded name exports (signBody exports other message) start).lease := by
  obtain ⟨releases, settled, hloop, hreleases, hreport⟩ := exists_settled hcalm
  rw [hreport] at hblind
  have hactions : (final (signBody exports privateKey message) start).actions <+:
      settled.actions := ⟨_, hloop.actions.symm⟩
  have hsettle {related : Instance σ → Instance σ → Prop} {last' : Lease σ}
      (halike : Alike related (signBody exports privateKey message start)
        (signBody exports other message start))
      (hreleased : releaseAll exports
        (final (signBody exports privateKey message) start).held.reverse
        (final (signBody exports other message) start) = .ok () last')
      (htwins : Twins Eq settled last') :
      (shielded name exports (signBody exports privateKey message) start).outcome =
          (shielded name exports (signBody exports other message) start).outcome ∧
        Twins Eq (shielded name exports (signBody exports privateKey message) start).lease
          (shielded name exports (signBody exports other message) start).lease := by
    rw [halike.final.held_eq] at hreleased
    rw [hreport, shielded_of_releaseAll hreleased, halike.notes_eq]
    exact ⟨halike.outcome_eq, htwins.guest, htwins.tripwire_eq, htwins.stats_eq, htwins.held_eq,
      congrArg (· ++ _) htwins.events_eq, htwins.calls_eq⟩
  rcases alike_signBody hmessage hkey hother hblank hblind hactions with
    halike | ⟨region, sizeHint, early, later, halike, hheld, hplain, hexposed⟩
  · obtain ⟨last', hreleased, htwins⟩ := hloop.exists_twin hreleases halike.final
    exact hsettle halike hreleased htwins
  · rw [hheld] at hloop
    obtain ⟨last', hreleased, htwins⟩ := exists_twin_of_exposed hblind hloop hreleases hplain
      (List.prefix_refl _) hexposed halike.final
    rw [← hheld] at hreleased
    exact hsettle halike hreleased htwins

end Operation

/-- Signing with a key and a message that pass the check. -/
theorem Session.serve_sign {session : Session σ} {live : LiveGuest σ}
    (hlive : session.live = some live) (tripwire : Option Tripwire) {privateKey message : Bytes}
    (hcheck : (Request.sign privateKey message).check = .ok ()) :
    session.serve tripwire (.sign privateKey message) =
      let report := Operation.shielded PackedExport.sign.name live.exports
        (Operation.signBody live.exports privateKey message)
        (.start live.guest tripwire live.stats)
      ⟨report.outcome.map .text,
        { session with live := some ⟨live.exports, report.lease.guest, report.lease.stats⟩ },
        report.lease.tripwire, report.lease.events, report.lease.actions⟩ := by
  rw [session.serve_eq hlive tripwire hcheck, Request.body, ← Operation.shielded_map]
  rfl

/-- If the guest pays no attention to the key and no call of the release function panics, a message
is signed in the same way with any other key: with the same outcome, events and calls of the guest,
and leaving the session, its memory and its counters in the same state. -/
theorem secret_serve {session : Session σ} {tripwire : Option Tripwire}
    {message privateKey other : Bytes} (hkey : privateKey.length = Operation.privateKeySize)
    (hother : other.length = Operation.privateKeySize)
    (hcalm : Calm (session.serve tripwire (.sign privateKey message)).actions)
    (hblind : ∀ live, session.live = some live → KeyBlind live.exports tripwire
      (session.serve tripwire (.sign privateKey message)).actions) :
    let mine := session.serve tripwire (.sign privateKey message)
    let theirs := session.serve tripwire (.sign other message)
    mine.outcome = theirs.outcome ∧ mine.events = theirs.events ∧
      guestCalls mine.actions = guestCalls theirs.actions ∧
      mine.session = theirs.session ∧ mine.tripwire = theirs.tripwire := by
  intro mine theirs
  have hsame (hreport : mine = theirs) : mine.outcome = theirs.outcome ∧
      mine.events = theirs.events ∧ guestCalls mine.actions = guestCalls theirs.actions ∧
      mine.session = theirs.session ∧ mine.tripwire = theirs.tripwire := by
    rw [hreport]
    exact ⟨rfl, rfl, rfl, rfl, rfl⟩
  cases hlive : session.live with
  | none =>
    exact hsame ((session.serve_of_closed hlive tripwire _).trans
      (session.serve_of_closed hlive tripwire _).symm)
  | some live =>
    have hcheck : (Request.sign other message).check = (Request.sign privateKey message).check := by
      rw [Operation.check_sign hother, Operation.check_sign hkey]
    cases hpassed : (Request.sign privateKey message).check with
    | error error =>
      exact hsame ((session.serve_of_refused hlive tripwire hpassed).trans
        (session.serve_of_refused hlive tripwire (hcheck.trans hpassed)).symm)
    | ok _ =>
      obtain ⟨messageLen, hmessage⟩ := Operation.exists_len_of_check_sign hkey hpassed
      have hmine : mine = _ := session.serve_sign hlive tripwire hpassed
      have htheirs : theirs = _ := session.serve_sign hlive tripwire (hcheck.trans hpassed)
      have hkeyLen : (59 : UInt32).toNat = privateKey.length := hkey.symm
      have hblind := hblind live hlive
      rw [session.serve_sign hlive tripwire hpassed] at hcalm hblind
      obtain ⟨houtcome, htwins⟩ := Operation.twins_shielded_sign hmessage hkeyLen hother.symm
        (Lease.blank_start _ _ _) hcalm hblind
      rw [hmine, htheirs]
      dsimp only
      rw [houtcome, htwins.guest, htwins.stats_eq]
      exact ⟨rfl, htwins.events_eq, htwins.calls_eq, rfl, htwins.tripwire_eq⟩

/-! ## A guest that never looks -/

/-- A guest that hands out regions by counting, makes signatures that are too short, and tells of
every region that it gets back. It never looks at its memory. -/
def countingExports : Exports Nat where
  alloc _ _ guest :=
    ⟨{ guest with state := guest.state + 1 }, [], .returned (.ofNat (4096 * guest.state))⟩
  dealloc args _ guest := ⟨guest, [.logOutOfBounds (args.headD 0) 0], .returned ()⟩
  functions := PackedExport.all.map fun _ _ _ guest =>
    ⟨guest, [], .returned [.i64 (PackedResult.encode (.success 1024 200))]⟩

theorem respects_countingExports (region : Region) (callee : Callee) (args : List UInt32)
    (tripwire : Option Tripwire) (guest : Instance Nat) :
    countingExports.Respects (Instance.AgreeOutside region) callee args tripwire guest := by
  intro other hagree
  have hstate := hagree.state_eq
  cases callee with
  | alloc =>
    refine ⟨?_, rfl, ?_⟩
    · show Ending.returned _ = Ending.returned _
      rw [hstate]
    · exact ⟨congrArg (· + 1) hstate, hagree.entropy_eq, hagree.size_eq, hagree.limit_eq,
        hagree.byte_eq⟩
  | dealloc => exact ⟨rfl, rfl, hagree⟩
  | packed entry => cases entry <;> exact ⟨rfl, rfl, hagree⟩

/-- A session on that guest, with one page of memory. -/
def countingSession : Session Nat where
  id := 1
  live := some ⟨countingExports, ⟨.zeroed 1 1, 1, .ofStream fun _ => 0⟩, .zero⟩

/-- What happens when that guest signs a short message with a key of equal bytes. -/
def countingReport (byte : UInt8) : SessionReport Nat Product :=
  countingSession.serve none (.sign (List.replicate Operation.privateKeySize byte) [0x68, 0x69])

/-- Which of two keys that guest signed with cannot be told. -/
theorem secret_serve_counting :
    Calm (countingReport 0x61).actions ∧
      KeyBlind countingExports none (countingReport 0x61).actions ∧
      copies (countingReport 0x61).actions ≠ copies (countingReport 0x62).actions ∧
      (countingReport 0x61).outcome = (countingReport 0x62).outcome ∧
      (countingReport 0x61).session = (countingReport 0x62).session := by
  have hcalm : Calm (countingReport 0x61).actions := by decide +kernel
  have hacquired : acquisitions (countingReport 0x61).actions = [⟨.alloc, ⟨4096, 2⟩⟩,
      ⟨.alloc, ⟨8192, 59⟩⟩, ⟨.packed .sign, ⟨1024, 200⟩⟩] := by decide +kernel
  have hinside : ∀ wipe ∈ wipes (countingReport 0x61).actions,
      wipe.found.memory.Holds wipe.region := by decide +kernel
  have hdiffer : copies (countingReport 0x61).actions ≠ copies (countingReport 0x62).actions := by
    decide +kernel
  have hblind : KeyBlind countingExports none (countingReport 0x61).actions := by
    refine ⟨fun _ found callee args _ region _ _ _ =>
      respects_countingExports region callee args none found, hinside, ?_⟩
    intro key signature hkey hsignature
    rw [hacquired] at hkey hsignature
    obtain rfl := Option.some.inj hkey
    obtain rfl := Option.some.inj hsignature
    rintro address ⟨hge, -⟩ ⟨-, hlt⟩
    have hstop : Region.stop ⟨1024, 200⟩ ≤ (8192 : UInt32).toNat := by decide
    exact absurd (Nat.lt_of_lt_of_le hlt hstop) (Nat.not_lt.2 hge)
  have hlive : ∀ live, countingSession.live = some live →
      KeyBlind live.exports none (countingReport 0x61).actions := by
    intro live hlive
    obtain rfl := Option.some.inj hlive
    exact hblind
  have hlength (byte : UInt8) :
      (List.replicate Operation.privateKeySize byte).length = Operation.privateKeySize :=
    List.length_replicate
  obtain ⟨houtcome, -, -, hsession, -⟩ :=
    secret_serve (hlength 0x61) (hlength 0x62) hcalm hlive
  exact ⟨hcalm, hblind, hdiffer, houtcome, hsession⟩

end GuestBridge
