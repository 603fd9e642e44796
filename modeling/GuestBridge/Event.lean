import GuestBridge.AllocationStats
import GuestBridge.Guest.Exports

/-! # Events

What the bridge does is shown to a log subscriber as a sequence of events. Events of a session carry
its number; the events of an operation (`SessionEvent`) are listed without it, so that two sessions
can be compared. An event is shown as a level, a fixed text and named fields (`Event.level`,
`Event.text`, `Event.fields`).

Only events with a text are listed. Whatever fails, be it an operation, an attempt to open a session
or the setup of a runtime, also shows its cause of failure in an event of level `ERROR` that has no
text, as the last thing before it returns. That event says no more than the result does and is left
out, so where no event is listed something may still have been shown. The log subscriber is taken to
panic at the log lines of guests only, never at an event of the host itself.
-/

namespace GuestBridge

/-- An event in the life of a session, with a text. The events without one that come with every
failure are not among them. -/
inductive SessionEvent
  /-- The session was opened. -/
  | created
  /-- An instance was made, but lacks what the host requires. -/
  | discarded (error : BridgeError)
  /-- The session was closed with these counters. -/
  | closed (stats : AllocationStats)
  /-- The guest allocated a region for the host. -/
  | allocated (ptr size : UInt32)
  /-- The host took over a result. -/
  | adopted (ptr len : UInt32)
  /-- A region was released. -/
  | released (ptr sizeHint : UInt32)
  /-- A function returned a word with a null pointer. -/
  | nullResult (entry : PackedExport) (len : UInt32)
  /-- A region with a secret could not be overwritten. -/
  | wipeFailed (region : Region) (error : BridgeError)
  /-- A region could not be released. -/
  | releaseFailed (region : Region) (error : BridgeError)
  /-- A panic unwound through an operation. -/
  | caughtPanic (operation : String) (error : BridgeError)
  /-- A host capability noticed something. -/
  | noticed (notice : Notice)
deriving DecidableEq

/-- An event of a process. -/
inductive Event
  /-- A guest module was compiled. The numbers of its bytes, imports and exports are left out. -/
  | compiledGuest
  /-- A runtime was closed. -/
  | closedRuntime
  /-- Something happened in the session with this number. -/
  | session (id : UInt64) (event : SessionEvent)
deriving DecidableEq

/-- The severity of an event, least severe first. -/
inductive Level
  | trace | debug | info | warn | error
deriving DecidableEq

/-- The name of a level. -/
def Level.name : Level → String
  | .trace => "TRACE"
  | .debug => "DEBUG"
  | .info => "INFO"
  | .warn => "WARN"
  | .error => "ERROR"

/-- The value of a field of an event. -/
inductive Field
  | number (value : Nat)
  | text (value : String)

/-- The stream of events that the log lines of guests go to. -/
def guestLogTarget : String := "schnorr_host::guest"

namespace SessionEvent

/-- The severity of an event in the life of a session. -/
def level : SessionEvent → Level
  | .allocated _ _ | .adopted _ _ | .released _ _ => .trace
  | .created | .closed _ | .nullResult _ _ => .debug
  | .noticed (.logged _) => .info
  | .discarded _ | .wipeFailed _ _ | .releaseFailed _ _ | .noticed _ => .warn
  | .caughtPanic _ _ => .error

/-- The fixed text of an event in the life of a session. -/
def text : SessionEvent → String
  | .created => "created session"
  | .discarded _ => "discarding unusable guest instance"
  | .closed _ => "closed session"
  | .allocated _ _ => "allocated guest memory"
  | .adopted _ _ => "adopted guest buffer"
  | .released _ _ => "released guest memory"
  | .nullResult _ _ => "guest returned null pointer"
  | .wipeFailed _ _ => "failed wiping secret from guest memory"
  | .releaseFailed _ _ => "failed releasing guest memory"
  | .caughtPanic _ _ => "caught panic in guest operation"
  | .noticed (.logged _) => "guest log"
  | .noticed (.logOutOfBounds _ _) => "guest log message is out of bounds"
  | .noticed .logWithoutMemory => "guest logged a message without exporting memory"
  | .noticed (.randomOutOfBounds _ _) => "guest requested randomness out of bounds"

/-- A field with a 32-bit word. -/
def wordField (name : String) (word : UInt32) : String × Field :=
  (name, .number word.toNat)

/-- A field with the wording of a cause of failure. -/
def errorField (error : BridgeError) : String × Field :=
  ("err", .text error.message)

/-- The named fields of an event in the life of the session with this number. -/
def fields (id : UInt64) (event : SessionEvent) : List (String × Field) :=
  let session : String × Field := ("session", .number id.toNat)
  match event with
  | .created | .noticed .logWithoutMemory => [session]
  | .discarded error => [session, errorField error]
  | .closed stats => [session, ("stats", .text stats.describe)]
  | .allocated ptr size => [wordField "ptr" ptr, wordField "size" size]
  | .adopted ptr len => [wordField "ptr" ptr, wordField "len" len]
  | .released ptr sizeHint => [wordField "ptr" ptr, wordField "size_hint" sizeHint]
  | .nullResult entry len => [("export", .text entry.name), wordField "len" len]
  | .wipeFailed region error | .releaseFailed region error =>
    [wordField "ptr" region.ptr, wordField "len" region.len, errorField error]
  | .caughtPanic operation error => [("operation", .text operation), errorField error]
  | .noticed (.logged message) =>
    [session, ("guest_message", .text message), ("target", .text guestLogTarget)]
  | .noticed (.logOutOfBounds ptr len) | .noticed (.randomOutOfBounds ptr len) =>
    [session, wordField "ptr" ptr, wordField "len" len]

end SessionEvent

namespace Event

/-- The severity of an event. -/
def level : Event → Level
  | .compiledGuest | .closedRuntime => .info
  | .session _ event => event.level

/-- The fixed text of an event. -/
def text : Event → String
  | .compiledGuest => "compiled guest module"
  | .closedRuntime => "closed runtime"
  | .session _ event => event.text

/-- The named fields of an event. -/
def fields : Event → List (String × Field)
  | .compiledGuest | .closedRuntime => []
  | .session id event => event.fields id

end Event

end GuestBridge
