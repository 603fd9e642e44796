import GuestBridge.Proofs.Lease.Trace

/-!
# Every operation is a check and a body

All six operations go the same way. The arguments are checked (`Request.check`); if that succeeds, a
body runs under a lease (`Request.body`) and whatever it acquired is given back. `perform_eq` says
that this is all an operation does.
-/

namespace GuestBridge

namespace Request

variable {σ : Type}

/-- The check of the arguments, which comes before anything else. -/
def check : Request → Except BridgeError Unit
  | .newPrivateKey => .ok ()
  | .formatMessage message chunks => do
    (Operation.checkFormat message.length chunks).mapError .invalidInput
    let _ ← Lease.guestLength chunks
    let _ ← Lease.guestLength message.length
  | .recoverMessage operand | .hashText operand | .hashBytes operand => do
    let _ ← Lease.guestLength operand.length
  | .sign privateKey message =>
    if privateKey.length = Operation.privateKeySize then do
      let _ ← Lease.guestLength message.length
    else .error (.invalidInput (.keyLength Operation.privateKeySize privateKey.length))

/-- The function of the guest that does the work. -/
def entry : Request → PackedExport
  | .newPrivateKey => .newPrivateKey
  | .formatMessage _ _ => .formatMessage
  | .recoverMessage _ => .recoverMessage
  | .hashText _ => .hashMessage
  | .hashBytes _ => .hashMessageBytes
  | .sign _ _ => .sign

/-- What runs under the lease. -/
def body (exports : Exports σ) : Request → LeaseM σ Product
  | .newPrivateKey => Product.keyPair <$> Operation.newPrivateKeyBody exports
  | .formatMessage message chunks =>
    (Product.bytes ∘ Operation.withoutLineFeeds) <$>
      Operation.transformBody exports .formatMessage message [UInt32.ofNat chunks] Lease.read
  | .recoverMessage formatted =>
    Product.bytes <$> Operation.transformBody exports .recoverMessage formatted [] Lease.read
  | .hashText message =>
    Product.text <$>
      Operation.transformBody exports .hashMessage message [] (Lease.readText .hashMessage)
  | .hashBytes message =>
    Product.bytes <$> Operation.transformBody exports .hashMessageBytes message [] Lease.read
  | .sign privateKey message =>
    Product.text <$> Operation.signBody exports privateKey message

end Request

namespace Operation

variable {σ α β : Type}

/-! ## A check and a body -/

theorem report_map_map {γ : Type} (f : α → β) (g : β → γ) (report : Report σ α) :
    (report.map f).map g = report.map (g ∘ f) := by
  obtain ⟨outcome, lease⟩ := report
  cases outcome <;> rfl

/-- A function applied to the result of a shielded body may be applied inside. -/
theorem shielded_map (f : α → β) (name : String) (exports : Exports σ) (body : LeaseM σ α)
    (start : Lease σ) :
    (shielded name exports body start).map f = shielded name exports (f <$> body) start := by
  unfold shielded Lease.run Lease.settle
  cases hbody : body start with
  | ok result after =>
    have hmap : (f <$> body) start = .ok (f result) after := by
      rw [← bind_pure_comp, Lease.bind_apply, hbody]
      rfl
    rw [hmap]
    dsimp only
    cases Lease.releaseAll exports after.held.reverse after with
    | ok _ last => rfl
    | error abort last => cases abort <;> rfl
  | error abort after =>
    have hmap : (f <$> body) start = .error abort after := by
      rw [← bind_pure_comp, Lease.bind_apply, hbody]
    rw [hmap]
    dsimp only
    cases Lease.releaseAll exports after.held.reverse after with
    | ok _ last => cases abort <;> rfl
    | error abort last => cases abort <;> rfl

theorem transform_eq (exports : Exports σ) (entry : PackedExport) (input : Bytes)
    (extra : List UInt32) (read : Region → LeaseM σ α) (f : α → β) (start : Lease σ) :
    (transform exports entry input extra read start).map f =
      match Lease.guestLength input.length with
      | .error error => refused error start
      | .ok _ =>
        shielded entry.name exports (f <$> transformBody exports entry input extra read) start := by
  unfold transform
  cases Lease.guestLength input.length with
  | error error => rfl
  | ok len => exact shielded_map f entry.name exports _ start

/-- An operation is refused by the check of its arguments, or its body runs under a lease. -/
theorem perform_eq (exports : Exports σ) (start : Lease σ) (request : Request) :
    perform exports start request =
      match request.check with
      | .error error => refused error start
      | .ok _ => shielded request.entry.name exports (request.body exports) start := by
  cases request with
  | newPrivateKey => exact shielded_map _ _ exports _ start
  | recoverMessage operand | hashText operand | hashBytes operand =>
    refine (transform_eq exports _ operand _ _ _ start).trans ?_
    cases h : Lease.guestLength operand.length <;> simp only [Request.check, h] <;> rfl
  | sign privateKey message =>
    by_cases hsize : privateKey.length = privateKeySize
    · simp only [perform, sign, Request.check, if_pos hsize]
      cases Lease.guestLength message.length with
      | error error => rfl
      | ok len => exact shielded_map _ _ exports _ start
    · simp only [perform, sign, Request.check, if_neg hsize]
      rfl
  | formatMessage message chunks =>
    simp only [perform, formatMessage, Request.check]
    cases checkFormat message.length chunks with
    | error error => rfl
    | ok _ =>
      dsimp only
      cases hword : Lease.guestLength chunks with
      | error error => rfl
      | ok word =>
        have hchunks : UInt32.ofNat chunks = word := by
          rw [← Lease.guestLength_eq_ok_iff.1 hword, UInt32.ofNat_toNat]
        rw [report_map_map, transform_eq]
        cases h : Lease.guestLength message.length with
        | error error => rfl
        | ok len => rw [Request.body, hchunks]; rfl

end Operation

end GuestBridge
