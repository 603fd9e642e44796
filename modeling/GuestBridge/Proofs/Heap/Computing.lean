import GuestBridge.Proofs.Heap.Client

/-!
# Guests that compute

A `ComputingGuest` manages its heap well, and its packed exports compute functions of byte strings
(`ByteFunctions`): called with regions that hold the operands, an export puts the answer into a
block of its own and hands it over, or returns a null pointer if there is no answer. A finite memory
does not have room for everything, so this is promised for calls that the guest has room for.
`Request.expected` says what an operation makes of the answers, and `Request.queries` what it asks
for, both without any memory.
-/

namespace GuestBridge

variable {σ : Type}

/-! ## What is asked -/

/-- What a packed export is asked for: operands, which are byte strings, and plain words behind
them. -/
structure Query where
  entry : PackedExport
  operands : List Bytes
  words : List UInt32

/-- The query has the shape that the export takes: two words for each operand and at most one plain
word. -/
def Query.Fits (query : Query) : Prop :=
  2 * query.operands.length + query.words.length = query.entry.arity ∧ query.words.length < 2

/-- The arguments of a call: each operand as a pointer and a length, then the plain words. -/
def argumentsOf (regions : List Region) (words : List UInt32) : List UInt32 :=
  regions.flatMap (fun region => [region.ptr, region.len]) ++ words

/-- A call of a packed export, with the guest as it was when it was entered. -/
structure GuestCall (σ : Type) where
  found : Instance σ
  entry : PackedExport
  args : List UInt32

/-- The regions hold the operands, byte for byte. -/
def Carries (memory : Memory) (regions : List Region) (operands : List Bytes) : Prop :=
  List.Forall₂ (fun region bytes => memory.read? region = some bytes) regions operands

/-- A call asks for what the query says: the regions that it refers to hold the operands when the
export is entered. -/
def GuestCall.Asks (call : GuestCall σ) (query : Query) : Prop :=
  call.entry = query.entry ∧
    ∃ regions, call.args = argumentsOf regions query.words ∧
      Carries call.found.memory regions query.operands

/-- The call of a packed export, if the action is one. -/
def Action.packed? : Action σ → Option (GuestCall σ)
  | ⟨found, .call (.packed entry) args _⟩ => some ⟨found, entry, args⟩
  | _ => none

/-- The calls of packed exports, in order. -/
def packedCalls (actions : List (Action σ)) : List (GuestCall σ) :=
  actions.filterMap Action.packed?

/-! ## What is answered -/

/-- What packed exports compute. A new key may be a different one in each state of the guest. -/
structure ByteFunctions (σ : Type) where
  newKey : Instance σ → Option Bytes
  answer : Query → Option Bytes

/-- The answer to a query in a state of the guest. -/
def ByteFunctions.answerIn (functions : ByteFunctions σ) (guest : Instance σ) (query : Query) :
    Option Bytes :=
  match query.entry with
  | .newPrivateKey => functions.newKey guest
  | _ => functions.answer query

/-- A call was answered: the answer is in the region handed over, or the word returned has a null
pointer if there is no answer. -/
def Answered (reply : Reply σ (List Value)) : Option Bytes → Prop
  | some bytes => ∃ region, reply.ending.result? = some region ∧
      reply.guest.memory.read? region = some bytes
  | none => ∃ word more len, reply.ending = .returned (.i64 word :: more) ∧
      PackedResult.decode word = .failure len

/-- A guest that manages its heap well and whose packed exports compute functions of byte strings,
as far as it has room for what a call hands over. -/
structure ComputingGuest (exports : Exports σ) (heapOf : Instance σ → Heap)
    (Sane : Instance σ → Prop) (HasRoom : Callee → List UInt32 → Instance σ → Prop)
    (functions : ByteFunctions σ) (tripwire : Option Tripwire) : Prop
    extends SoundGuest exports heapOf Sane where
  allocates : ∀ guest size, Sane guest → HasRoom .alloc [size] guest →
    ∃ ptr, ptr ≠ 0 ∧ (exports.alloc [size] tripwire guest).ending = .returned ptr
  computes : ∀ guest query regions, Sane guest → query.Fits →
    (∀ region ∈ regions, ∃ capacity, (heapOf guest).lentAt region.ptr = some capacity ∧
      region.len.toNat ≤ capacity) →
    Carries guest.memory regions query.operands →
    HasRoom (.packed query.entry) (argumentsOf regions query.words) guest →
    Answered (exports.packed query.entry (argumentsOf regions query.words) tripwire guest)
      (functions.answerIn guest query)

/-- The function that was to hand over something, with its arguments, if the action is the call of
one. -/
def Action.demand? : Action σ → Option (Callee × List UInt32)
  | ⟨_, .call .dealloc _ _⟩ => none
  | ⟨_, .call callee args _⟩ => some (callee, args)
  | _ => none

/-- The guest had room for all that its calls were to hand over. -/
def Roomy (HasRoom : Callee → List UInt32 → Instance σ → Prop) (actions : List (Action σ)) : Prop :=
  ∀ action ∈ actions, ∀ demand ∈ action.demand?, HasRoom demand.1 demand.2 action.found

instance (HasRoom : Callee → List UInt32 → Instance σ → Prop)
    [∀ callee args guest, Decidable (HasRoom callee args guest)] (actions : List (Action σ)) :
    Decidable (Roomy HasRoom actions) :=
  inferInstanceAs (Decidable (∀ action ∈ actions, ∀ demand ∈ action.demand?, _))

/-! ## What an operation makes of it -/

/-- The answer of an export. It is an invalid result that there is none. -/
def answerOf (entry : PackedExport) : Option Bytes → Except BridgeError Bytes
  | some bytes => .ok bytes
  | none => .error (.invalidResult entry.name .invalidInput)

/-- An answer that has to have a certain length. -/
def ofLength (entry : PackedExport) (expected : Nat) (bytes : Bytes) : Except BridgeError Unit :=
  if bytes.length = expected then .ok ()
  else .error (.invalidResult entry.name (.unexpectedLength expected bytes.length))

/-- An answer that has to be text. -/
def asText (entry : PackedExport) (bytes : Bytes) : Except BridgeError String :=
  match Utf8.decode? bytes with
  | some text => .ok text
  | none => .error (.invalidResult entry.name .notUtf8)

namespace Request

/-- The query for the function of the guest that does the work. -/
def query : Request → Query
  | .newPrivateKey => ⟨.newPrivateKey, [], []⟩
  | .formatMessage message chunks => ⟨.formatMessage, [message], [UInt32.ofNat chunks]⟩
  | .recoverMessage formatted => ⟨.recoverMessage, [formatted], []⟩
  | .hashText message => ⟨.hashMessage, [message], []⟩
  | .hashBytes message => ⟨.hashMessageBytes, [message], []⟩
  | .sign privateKey message => ⟨.sign, [privateKey, message], []⟩

/-- The query for the address of a key. -/
def addressQuery (key : Bytes) : Query :=
  ⟨.getAddress, [key], []⟩

theorem fits_query (request : Request) : request.query.Fits := by
  cases request with
  | formatMessage => exact ⟨rfl, Nat.one_lt_two⟩
  | newPrivateKey | recoverMessage | hashText | hashBytes | sign => exact ⟨rfl, Nat.zero_lt_two⟩

theorem fits_addressQuery (key : Bytes) : (addressQuery key).Fits :=
  ⟨rfl, Nat.zero_lt_two⟩

/-- All that an operation asks the guest for, in order. The address of a new key is asked for if the
key has the right length. -/
def queries (functions : ByteFunctions σ) (guest : Instance σ) : Request → List Query
  | .newPrivateKey =>
    Request.newPrivateKey.query ::
      ((functions.newKey guest).filter (·.length = Operation.privateKeySize)).toList.map
        addressQuery
  | request => [request.query]

/-- The outcome of an operation on a guest that computes these functions. -/
def expected (functions : ByteFunctions σ) (guest : Instance σ) (request : Request) :
    Except BridgeError Product := do
  let answer ← answerOf request.entry (functions.answerIn guest request.query)
  match request with
  | .newPrivateKey =>
    ofLength .newPrivateKey Operation.privateKeySize answer
    let address ← answerOf .getAddress (functions.answer (addressQuery answer))
    ofLength .getAddress Operation.addressSize address
    let text ← asText .getAddress address
    return .keyPair ⟨answer, text⟩
  | .formatMessage _ _ => return .bytes (answer.filter (· ≠ 0x0A))
  | .recoverMessage _ | .hashBytes _ => return .bytes answer
  | .hashText _ => Product.text <$> asText .hashMessage answer
  | .sign _ _ =>
    ofLength .sign Operation.signatureSize answer
    Product.text <$> asText .sign answer

end Request

/-! ## Operands have guest lengths -/

namespace Operation

open Lease

theorem exists_of_bind_eq_ok {ε β γ : Type} {first : Except ε β} {next : β → Except ε γ}
    {result : γ} (hok : (first >>= next) = .ok result) :
    ∃ middle, first = .ok middle ∧ next middle = .ok result := by
  cases first with
  | error error => cases hok
  | ok middle => exact ⟨middle, rfl, hok⟩

/-- The operands of a request that passes its check have guest lengths. -/
theorem exists_len_of_check {request : Request} (hcheck : request.check = .ok ()) :
    ∀ operand ∈ request.query.operands, ∃ len : UInt32, len.toNat = operand.length := by
  have hlen {operand : Bytes} {len : UInt32} (hfits : guestLength operand.length = .ok len) :
      ∃ len : UInt32, len.toNat = operand.length := ⟨len, guestLength_eq_ok_iff.1 hfits⟩
  cases request with
  | newPrivateKey => nofun
  | recoverMessage operand | hashText operand | hashBytes operand =>
    obtain ⟨len, hfits, -⟩ := exists_of_bind_eq_ok hcheck
    exact List.forall_mem_singleton.2 (hlen hfits)
  | formatMessage message chunks =>
    obtain ⟨_, -, hchecked⟩ := exists_of_bind_eq_ok hcheck
    obtain ⟨_, -, hchecked⟩ := exists_of_bind_eq_ok hchecked
    obtain ⟨len, hfits, -⟩ := exists_of_bind_eq_ok hchecked
    exact List.forall_mem_singleton.2 (hlen hfits)
  | sign privateKey message =>
    rw [Request.check] at hcheck
    split at hcheck
    · next hsize =>
      obtain ⟨len, hfits, -⟩ := exists_of_bind_eq_ok hcheck
      exact List.forall_mem_cons.2 ⟨⟨59, hsize.symm⟩, List.forall_mem_singleton.2 (hlen hfits)⟩
    · cases hcheck

end Operation

end GuestBridge
