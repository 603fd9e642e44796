import GuestBridge.Script.Program

/-! # A sample guest

A small guest with a working allocator, random keys and simple answers, written as a script. Its
allocator puts a header of eight bytes in front of every block and starts over once every block was
given back. When a block of the size of a private key is given back, the guest logs whether it was
overwritten before. `Sample.program` is the whole script.
-/

namespace GuestBridge.Script.Sample

/-! ## Writing scripts -/

/-- A number as an expression. -/
def num (word : UInt32) : Expr := .const word

/-- A parameter of the running function. -/
def param (index : Nat) : Expr := .param index

/-- A local of the running function. -/
def var (index : Nat) : Expr := .localVar index

/-- A sum. -/
def add (left right : Expr) : Expr := .binary .add left right

/-- A difference. -/
def sub (left right : Expr) : Expr := .binary .sub left right

/-- Whether two expressions are equal. -/
def equal (left right : Expr) : Expr := .binary .eq left right

/-- Whether one expression is less than another. -/
def less (left right : Expr) : Expr := .binary .lt left right

/-- Adds to a local. -/
def advance (index : Nat) (amount : Expr) : Stmt := .setLocal index (add (var index) amount)

/-- Returns from a packed function that failed. -/
def failure : Stmt := .ret [.word 0]

/-- Runs statements if an expression is not zero. -/
def ifTrue (test : Expr) (body : List Stmt) : Stmt := .cond test body []

/-! ## Allocation -/

/-- The address of the first block header. -/
def heapStart : UInt32 := 1024

/-- The global with the address behind the last block. -/
def heapEnd : Nat := 0

/-- The global with the number of blocks that were not given back. -/
def blockCount : Nat := 1

/-- Puts a block with its header at the end of the heap, if the memory is large enough. -/
def alloc : Body :=
  [.setLocal 0 (.globalVar heapEnd),
    .setLocal 1 (.binary .and (add (add (add (var 0) (num 8)) (param 0)) (num 7)) (num 0xFFFFFFF8)),
    ifTrue (.binary .gt (var 1) (.binary .mul .pages (num 65536))) [.ret [.expr (num 0)]],
    .store32 (var 0) (param 0),
    .setGlobal heapEnd (var 1),
    .setGlobal blockCount (add (.globalVar blockCount) (num 1)),
    .ret [.expr (add (var 0) (num 8))]]

/-- Combines all bytes of a private key by inclusive or, and logs whether the outcome is zero. -/
def inspectKey : List Stmt :=
  [.setLocal 0 (num 0),
    .setLocal 1 (num 0),
    .loop (less (var 0) (num 59))
      [.setLocal 1 (.binary .or (var 1) (.load8 (add (param 0) (var 0)))), advance 0 (num 1)],
    .cond (equal (var 1) (num 0)) [.log (num 40) (num 12)] [.log (num 56) (num 21)]]

/-- Takes a block back; anything else is ignored. The heap is empty after the last block. -/
def dealloc : Body :=
  [ifTrue (.binary .or (less (param 0) (num (heapStart + 8)))
      (.binary .ge (param 0) (.globalVar heapEnd))) [.ret []],
    ifTrue (equal (.load32 (sub (param 0) (num 8))) (num 59)) inspectKey,
    .setGlobal blockCount (sub (.globalVar blockCount) (num 1)),
    ifTrue (equal (.globalVar blockCount) (num 0)) [.setGlobal heapEnd (num heapStart)]]

/-! ## Keys and signatures -/

/-- A random key of lowercase letters. -/
def newPrivateKey : Body :=
  [.setLocal 0 (.alloc (num 59)),
    ifTrue (equal (var 0) (num 0)) [failure],
    ifTrue (.random (var 0) (num 59)) [failure],
    .loop (less (var 1) (num 59))
      [.store8 (add (var 0) (var 1))
          (add (num 97) (.binary .rem (.load8 (add (var 0) (var 1))) (num 26))),
        advance 1 (num 1)],
    .log (num 16) (num 21),
    .retPacked (var 0) (num 59)]

/-- Four letters followed by the key. -/
def getAddress : Body :=
  [ifTrue (.binary .ne (param 1) (num 59)) [failure],
    .setLocal 0 (.alloc (num 63)),
    .fill (var 0) (num 97) (num 4),
    .copy (add (var 0) (num 4)) (param 0) (num 59),
    .retPacked (var 0) (num 63)]

/-- The key followed by a filling; fails for an empty message and stops at one that is a single byte
of ones. -/
def sign : Body :=
  [ifTrue (.binary .ne (param 1) (num 59)) [failure],
    ifTrue (equal (param 3) (num 0)) [.retPacked (num 0) (num 216)],
    ifTrue (.binary .and (equal (param 3) (num 1)) (equal (.load8 (param 2)) (num 255)))
      [.trap .unreachableCodeReached],
    .setLocal 0 (.alloc (num 216)),
    .copy (var 0) (param 0) (num 59),
    .fill (add (var 0) (num 59)) (num 115) (num 157),
    .retPacked (var 0) (num 216)]

/-! ## Hashes -/

/-- Sums the bytes of the message in local 1. -/
def sumBytes : Stmt :=
  .loop (less (var 0) (param 1))
    [advance 1 (.load8 (add (param 0) (var 0))), advance 0 (num 1)]

/-- The sum of all bytes in decimal with a type suffix. The digits are written from the last to the
first, ending at address 160. -/
def hashMessage : Body :=
  [ifTrue (equal (param 1) (num 0)) [.retPacked (num 0) (num 7)],
    sumBytes,
    .setLocal 2 (num 160),
    .setLocal 4 (num 1),
    .loop (var 4)
      [.setLocal 2 (sub (var 2) (num 1)),
        .store8 (var 2) (add (num 48) (.binary .rem (var 1) (num 10))),
        .setLocal 1 (.binary .div (var 1) (num 10)),
        .setLocal 4 (.binary .ne (var 1) (num 0))],
    .setLocal 3 (sub (num 160) (var 2)),
    .setLocal 5 (.alloc (add (var 3) (num 4))),
    .copy (var 5) (var 2) (var 3),
    .store32 (add (var 5) (var 3)) (num 942813557),
    .retPacked (var 5) (add (var 3) (num 4))]

/-- The sum of all bytes as a word, followed by zeros; a message that starts with an exclamation
mark has its hash outside the memory. -/
def hashMessageBytes : Body :=
  [ifTrue (equal (param 1) (num 0)) [.retPacked (num 0) (num 16)],
    ifTrue (equal (.load8 (param 0)) (num 33)) [.retPacked (num 0xFFFFFFF0) (num 16)],
    .setLocal 2 (.alloc (num 16)),
    sumBytes,
    .store32 (var 2) (var 1),
    .fill (add (var 2) (num 4)) (num 0) (num 12),
    .retPacked (var 2) (num 16)]

/-! ## Messages -/

/-- The message between brackets, each on a line of its own. -/
def formatMessage : Body :=
  [ifTrue (.binary .gt (param 1) (.binary .mul (param 2) (num 512))) [failure],
    .setLocal 0 (.alloc (add (param 1) (num 4))),
    .store8 (var 0) (num 91),
    .store8 (add (var 0) (num 1)) (num 10),
    .copy (add (var 0) (num 2)) (param 0) (param 1),
    .store8 (add (add (var 0) (num 2)) (param 1)) (num 10),
    .store8 (add (add (var 0) (num 3)) (param 1)) (num 93),
    .retPacked (var 0) (add (param 1) (num 4))]

/-- What stands between brackets. -/
def recoverMessage : Body :=
  [ifTrue (less (param 1) (num 2)) [failure],
    ifTrue (.binary .or (.binary .ne (.load8 (param 0)) (num 91))
      (.binary .ne (.load8 (sub (add (param 0) (param 1)) (num 1))) (num 93))) [failure],
    .setLocal 0 (.alloc (sub (param 1) (num 2))),
    .copy (var 0) (add (param 0) (num 1)) (sub (param 1) (num 2)),
    .retPacked (var 0) (sub (param 1) (num 2))]

/-! ## The whole script -/

/-- The body of a packed function. -/
def packedBody : PackedExport → Body
  | .newPrivateKey => newPrivateKey
  | .getAddress => getAddress
  | .sign => sign
  | .hashMessage => hashMessage
  | .hashMessageBytes => hashMessageBytes
  | .formatMessage => formatMessage
  | .recoverMessage => recoverMessage

/-- The sample guest. -/
def program : Program where
  memory := some ⟨2, maxPages⟩
  globals := [heapStart, 0]
  data := [(16, Bytes.ofText "generated private key"), (40, Bytes.ofText "secret wiped"),
    (56, Bytes.ofText "secret left in memory")]
  start := []
  imports := []
  logImport := Linkage.standard.logSink
  exports :=
    [(memoryName, .memory), (Callee.alloc.name, .func allocSignature alloc),
      (Callee.dealloc.name, .func deallocSignature dealloc)] ++
      PackedExport.all.map fun entry => (entry.name, .func entry.signature (packedBody entry))

end GuestBridge.Script.Sample
