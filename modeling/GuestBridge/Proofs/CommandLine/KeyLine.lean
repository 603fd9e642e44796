import GuestBridge.Proofs.CommandLine.Expressible
import GuestBridge.Proofs.Operation.Validation
import GuestBridge.Proofs.Text.Lossy

/-!
# Keys as lines of text

A new key is printed as the first line of the output, and a key to sign with is an argument, which
is text. On the way into text, ill-formed bytes are replaced, and a line feed in the key ends the
line early. So the line that was printed signs with the key that was generated exactly if the bytes
of the key are well-formed and no line feed is among them (`signsWith_firstLine_iff`). Any other key
is printed as the line of a different one, and nothing says so. The line of `tornKey` even has the
length of a key.
-/

namespace GuestBridge

/-! ## Keys that sessions return -/

namespace Lease

variable {σ : Type}

theorem len_of_expectLength {entry : PackedExport} {expected : Nat} {region : Region}
    {lease last : Lease σ} (hok : expectLength entry expected region lease = .ok () last) :
    region.len.toNat = expected := by
  by_cases hexpected : region.len.toNat = expected
  · exact hexpected
  · rw [expectLength, if_neg hexpected] at hok
    cases hok

theorem length_of_read {region : Region} {bytes : Bytes} {lease last : Lease σ}
    (hok : read region lease = .ok bytes last) : bytes.length = region.len.toNat := by
  rw [read_eq] at hok
  cases hread : lease.guest.memory.read? region with
  | some found =>
    rw [hread] at hok
    cases hok
    exact (Memory.len_of_read? hread).symm
  | none => rw [hread] at hok; cases hok

end Lease

namespace Operation

open Lease

/-- A key comes out of a region of the length that was checked. -/
theorem length_of_newPrivateKeyBody {σ : Type} {exports : Exports σ} {start last : Lease σ}
    {pair : KeyPair} (hok : newPrivateKeyBody exports start = .ok pair last) :
    pair.privateKey.length = privateKeySize := by
  obtain ⟨key, _, -, hok⟩ := exists_of_bind_ok hok
  obtain ⟨_, _, -, hok⟩ := exists_of_bind_ok hok
  obtain ⟨_, _, hexpected, hok⟩ := exists_of_bind_ok hok
  obtain ⟨privateKey, _, hread, hok⟩ := exists_of_bind_ok hok
  obtain ⟨address, _, -, hok⟩ := exists_of_bind_ok hok
  obtain ⟨_, _, -, hok⟩ := exists_of_bind_ok hok
  obtain ⟨text, _, -, hok⟩ := exists_of_bind_ok hok
  cases hok
  exact (length_of_read hread).trans (len_of_expectLength hexpected)

end Operation

/-- The key of a pair that a session returns has the length of a key. -/
theorem Session.length_privateKey {σ : Type} {session : Session σ} {tripwire : Option Tripwire}
    {pair : KeyPair} (hok : (session.serve tripwire .newPrivateKey).outcome = .ok (.keyPair pair)) :
    pair.privateKey.length = Operation.privateKeySize := by
  cases hlive : session.live with
  | none => rw [serve_of_closed hlive] at hok; cases hok
  | some live =>
    have hcheck : Request.newPrivateKey.check = .ok () := rfl
    rw [serve_eq hlive tripwire hcheck] at hok
    obtain ⟨last, hbody⟩ := Operation.exists_of_shielded_ok hok
    rw [Request.body, ← bind_pure_comp] at hbody
    obtain ⟨found, _, hfound, hpure⟩ := Lease.exists_of_bind_ok hbody
    cases hpure
    exact Operation.length_of_newPrivateKeyBody hfound

namespace CommandLine

variable {σ : Type}

/-! ## What commands ask for -/

/-- What a command asks a session for. -/
def Command.request (stdin : Bytes) : Command → Request
  | .keygen => .newPrivateKey
  | .sign key message => .sign (Bytes.ofText key) (operand stdin message)
  | .hash false message => .hashText (operand stdin message)
  | .hash true message => .hashBytes (operand stdin message)
  | .format chunks message => .formatMessage (operand stdin message) chunks
  | .recover formatted => .recoverMessage (operand stdin formatted)

/-- The outcome of a request is that of the operation requested. -/
theorem outcome_serve_eq_map {α : Type} {request : Request}
    {operation : Exports σ → Lease σ → Report σ α} {f : α → Product}
    (hperform : ∀ exports start,
      Operation.perform exports start request = (operation exports start).map f)
    (session : Session σ) (tripwire : Option Tripwire) :
    (session.serve tripwire request).outcome =
      (session.perform tripwire operation).outcome.map f := by
  unfold Session.serve Session.perform
  cases session.live with
  | none => rfl
  | some live =>
    dsimp only
    rw [hperform]
    rfl

theorem outcome_serve_newPrivateKey (session : Session σ) (tripwire : Option Tripwire) :
    (session.serve tripwire .newPrivateKey).outcome =
      (session.perform tripwire Operation.newPrivateKey).outcome.map .keyPair :=
  outcome_serve_eq_map (fun _ _ => rfl) session tripwire

/-- A key is printed only if the session returned it. -/
theorem execute_keygen_eq_ok {session : Session σ} {stdin : Bytes} {output : String}
    (hok : execute session stdin .keygen = .ok output) :
    ∃ pair, (session.serve none .newPrivateKey).outcome = .ok (.keyPair pair) ∧
      output = showKeyPair pair := by
  rw [outcome_serve_newPrivateKey]
  rw [execute, attempt] at hok
  cases houtcome : (session.perform none Operation.newPrivateKey).outcome with
  | ok pair =>
    rw [houtcome] at hok
    cases hok
    exact ⟨pair, rfl, rfl⟩
  | error error => rw [houtcome] at hok; cases hok

/-! ## Lines -/

/-- What stands before the first line feed of a text. -/
def firstLine (text : String) : String :=
  String.ofList (text.toList.takeWhile (· ≠ '\n'))

theorem firstLine_append (line rest : String) :
    firstLine (line ++ "\n" ++ rest) = firstLine line := by
  have hfeed : "\n".toList = ['\n'] := rfl
  have hstop : ('\n' :: rest.toList).takeWhile (· ≠ '\n') = [] := rfl
  unfold firstLine
  rw [String.toList_append, String.toList_append, hfeed, List.append_assoc, List.singleton_append,
    List.takeWhile_append, hstop, List.append_nil]
  split
  · next hwhole => rw [(List.takeWhile_prefix _).eq_of_length hwhole]
  · rfl

theorem lineFeed_notMem_firstLine (text : String) : '\n' ∉ (firstLine text).toList := by
  unfold firstLine
  rw [String.toList_ofList]
  intro hmem
  have hne := List.mem_takeWhile_imp hmem
  exact of_decide_eq_true hne rfl

theorem firstLine_eq_self {text : String} (hline : '\n' ∉ text.toList) : firstLine text = text := by
  unfold firstLine
  rw [List.takeWhile_eq_self_iff.2, String.ofList_toList]
  exact fun char hchar => decide_eq_true fun heq => hline (heq ▸ hchar)

/-- A byte of a line feed is among the bytes of a text only if there is a line feed in the text. -/
theorem lineFeed_mem_ofText {text : String} : 0x0A ∈ Bytes.ofText text ↔ '\n' ∈ text.toList := by
  rw [Bytes.ofText_eq, List.mem_flatMap]
  constructor
  · rintro ⟨char, hchar, hmem⟩
    exact lineFeed_mem_utf8EncodeChar hmem ▸ hchar
  · exact fun hmem => ⟨'\n', hmem, by decide⟩

theorem firstLine_showKeyPair (pair : KeyPair) :
    firstLine (showKeyPair pair ++ "\n") = firstLine (Utf8.decodeLossy pair.privateKey) := by
  rw [showKeyPair, String.append_assoc]
  exact firstLine_append _ _

/-- The bytes of the first line of what is printed are those of the key exactly if the key is text
without a line feed. -/
theorem ofText_firstLine_eq_iff (pair : KeyPair) :
    Bytes.ofText (firstLine (showKeyPair pair ++ "\n")) = pair.privateKey ↔
      (Utf8.decode? pair.privateKey).isSome ∧ 0x0A ∉ pair.privateKey := by
  rw [firstLine_showKeyPair]
  constructor
  · intro heq
    rw [← heq, Utf8.decode?_ofText, lineFeed_mem_ofText]
    exact ⟨rfl, lineFeed_notMem_firstLine _⟩
  · rintro ⟨hsome, hfeed⟩
    obtain ⟨text, htext⟩ := Option.isSome_iff_exists.1 hsome
    have hkey := Utf8.decode?_eq_some_iff.1 htext
    rw [← hkey, lineFeed_mem_ofText] at hfeed
    rw [← hkey, Utf8.decodeLossy_ofText, firstLine_eq_self hfeed]

/-! ## Keys to sign with -/

/-- Given as the key to sign with, a line makes the command line sign with certain bytes. The
arguments are read as a command that asks for a signature of the standard input with that key,
whatever the environment is; and of all sessions that may be asked, none copies anything into guest
memory but the message and then that key. -/
def SignsWith (reader : Reader) (line : String) (key : Bytes) : Prop :=
  ∀ env module stdin, module ≠ "" → ∃ invocation,
    reader.read env [attached moduleOption module, "sign", attached keyOption line] =
        .ok invocation ∧
      invocation.command.request stdin = .sign key stdin ∧
      ∀ {σ : Type} (signer : Session σ), (copies (signer.serve none
        (invocation.command.request stdin)).actions).map Prod.snd <+: [stdin, key]

section
variable {reader : Reader} (hdelivers : reader.Delivers)
include hdelivers

/-- The arguments for a signature with a key are read as a command that signs with that key what is
on the standard input. -/
theorem read_sign (env : String → Option String) {module : String} (hmodule : module ≠ "")
    (key : String) :
    reader.read env [attached moduleOption module, "sign", attached keyOption key] =
      .ok ⟨module, none, .sign key none⟩ := by
  have hwell : Invocation.WellFormed ⟨module, none, .sign key none⟩ := ⟨hmodule, nofun, nofun⟩
  exact hdelivers.read_arguments env hwell

theorem signsWith_iff {line : String} {key : Bytes} :
    SignsWith reader line key ↔ Bytes.ofText line = key := by
  constructor
  · intro hsigns
    have hmodule : "guest.wasm" ≠ "" := by decide
    obtain ⟨invocation, hread, hrequest, -⟩ := hsigns (fun _ => none) _ [] hmodule
    rw [read_sign hdelivers _ hmodule] at hread
    cases hread
    exact (Request.sign.inj hrequest).1
  · rintro rfl env module stdin hmodule
    exact ⟨_, read_sign hdelivers env hmodule line, rfl, fun signer =>
      signer.copies_prefix_placements none (.sign (Bytes.ofText line) stdin)⟩

/-- Whenever the command line has printed a new key, the line that it printed signs with that key
exactly if the bytes of the key are well-formed and no line feed is among them. -/
theorem signsWith_firstLine_iff {session : Session σ} {stdin : Bytes} {stdout : String}
    (hprinted : finish (execute session stdin .keygen) = .success stdout) :
    ∃ pair, (session.serve none .newPrivateKey).outcome = .ok (.keyPair pair) ∧
      pair.privateKey.length = 59 ∧
      (SignsWith reader (firstLine stdout) pair.privateKey ↔
        (Utf8.decode? pair.privateKey).isSome ∧ 0x0A ∉ pair.privateKey) := by
  cases houtput : execute session stdin .keygen with
  | error failure => rw [houtput] at hprinted; cases hprinted
  | ok output =>
    rw [houtput] at hprinted
    cases hprinted
    obtain ⟨pair, hpair, rfl⟩ := execute_keygen_eq_ok houtput
    refine ⟨pair, hpair, Session.length_privateKey hpair, ?_⟩
    rw [signsWith_iff hdelivers, ofText_firstLine_eq_iff]

end

/-! ## Two keys -/

/-- The functions of a guest that returns a key and an address from fixed places in its memory. -/
def shelfExports : Exports Unit where
  alloc _ _ guest := ⟨guest, [], .returned 4096⟩
  dealloc _ _ guest := ⟨guest, [], .returned ()⟩
  functions := PackedExport.all.map fun entry _ _ guest =>
    let region := if entry = .newPrivateKey then PackedResult.success 16 59 else .success 80 63
    ⟨guest, [], .returned [.i64 region.encode]⟩

/-- A session of that guest with a key and an address of the letter `a`. -/
def shelfSession (key : Bytes) : Session Unit :=
  let memory := ((Memory.zeroed 1 1).store 16 key).store 80 (List.replicate 63 0x61)
  ⟨1, some ⟨shelfExports, ⟨memory, (), .ofStream fun _ => 0⟩, .zero⟩⟩

/-- The address of that guest. -/
def shelfAddress : String :=
  String.ofList (List.replicate 63 'a')

theorem finish_keygen_shelf {key : Bytes}
    (hpair : ((shelfSession key).perform none Operation.newPrivateKey).outcome =
      .ok ⟨key, shelfAddress⟩) :
    finish (execute (shelfSession key) [] .keygen) =
      .success (showKeyPair ⟨key, shelfAddress⟩ ++ "\n") := by
  rw [execute, attempt, hpair]
  rfl

/-- A key of 59 letters is printed as a line that signs with it. -/
theorem signsWith_firstLine_letters :
    let key := List.replicate 59 0x6B
    let stdout := showKeyPair ⟨key, shelfAddress⟩ ++ "\n"
    finish (execute (shelfSession key) [] .keygen) = .success stdout ∧
      curtReader.Delivers ∧ SignsWith curtReader (firstLine stdout) key := by
  intro key stdout
  have hpair : ((shelfSession key).perform none Operation.newPrivateKey).outcome =
      .ok ⟨key, shelfAddress⟩ := by decide +kernel
  have hprinted : finish (execute (shelfSession key) [] .keygen) = .success stdout :=
    finish_keygen_shelf hpair
  have htext : (Utf8.decode? key).isSome ∧ 0x0A ∉ key := by decide +kernel
  obtain ⟨pair, hreturned, -, hsigns⟩ := signsWith_firstLine_iff delivers_curtReader hprinted
  rw [outcome_serve_newPrivateKey, hpair] at hreturned
  cases hreturned
  exact ⟨hprinted, delivers_curtReader, hsigns.2 htext⟩

/-- A key that begins with the first three bytes of a character of four bytes. -/
def tornKey : Bytes :=
  [0xF0, 0x9F, 0x98] ++ List.replicate 56 0x61

/-- The key that is printed in its place: it begins with the three bytes of the replacement
character. -/
def mendedKey : Bytes :=
  [0xEF, 0xBF, 0xBD] ++ List.replicate 56 0x61

theorem decodeLossy_tornKey :
    Utf8.decodeLossy tornKey = String.ofList ('\uFFFD' :: List.replicate 56 'a') := by
  have hletters : List.replicate 56 0x61 =
      (List.replicate 56 'a').flatMap String.utf8EncodeChar := by decide +kernel
  have hfirst : Utf8.segmentAt 0xF0 (0x9F :: 0x98 :: List.replicate 56 0x61) =
      .illFormed 3 false := rfl
  have hkey : tornKey = 0xF0 :: 0x9F :: 0x98 :: List.replicate 56 0x61 := rfl
  rw [Utf8.decodeLossy, hkey, Utf8.segments_cons, hfirst]
  show String.ofList ('\uFFFD' :: (Utf8.segments (List.replicate 56 0x61)).map _) = _
  rw [hletters, Utf8.map_shown_segments]

/-- That key is printed without a complaint, and the line that was printed signs with another key of
the right length. -/
theorem signsWith_firstLine_tornKey :
    let stdout := showKeyPair ⟨tornKey, shelfAddress⟩ ++ "\n"
    ((shelfSession tornKey).serve none .newPrivateKey).outcome =
        .ok (.keyPair ⟨tornKey, shelfAddress⟩) ∧
      finish (execute (shelfSession tornKey) [] .keygen) = .success stdout ∧
      ¬SignsWith curtReader (firstLine stdout) tornKey ∧
      SignsWith curtReader (firstLine stdout) mendedKey ∧ mendedKey.length = 59 := by
  intro stdout
  have hpair : ((shelfSession tornKey).perform none Operation.newPrivateKey).outcome =
      .ok ⟨tornKey, shelfAddress⟩ := by decide +kernel
  have hline : Bytes.ofText (firstLine stdout) = mendedKey := by
    rw [firstLine_showKeyPair, decodeLossy_tornKey, firstLine_eq_self, Bytes.ofText_eq,
      String.toList_ofList]
    · decide +kernel
    · rw [String.toList_ofList]
      decide
  have hsigns {key : Bytes} :
      SignsWith curtReader (firstLine stdout) key ↔ Bytes.ofText (firstLine stdout) = key :=
    signsWith_iff delivers_curtReader
  refine ⟨?_, finish_keygen_shelf hpair, ?_, hsigns.2 hline, by decide⟩
  · rw [outcome_serve_newPrivateKey, hpair]
    rfl
  · rw [hsigns, hline]
    decide

end CommandLine

end GuestBridge
