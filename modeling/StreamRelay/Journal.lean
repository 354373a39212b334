import StreamRelay.Run.Exit

/-!
# The journal

What a relay tells about its work while it goes on: entries with a level, a message and a few
fields.
-/

namespace StreamRelay

/-- How grave an entry is. -/
inductive Level where
  | error
  | warn
  | info
  | debug
deriving DecidableEq, Repr

/-- The name that a level is written with. -/
def Level.name : Level → String
  | error => "ERROR"
  | warn => "WARN"
  | info => "INFO"
  | debug => "DEBUG"

/-- One thing that happened. -/
inductive Event where
  /-- A run is about to send its request. -/
  | connecting
  /-- The name of a host has an address. -/
  | resolved
  /-- The answer has status 200, and its body is relayed. -/
  | connected
  /-- So many pieces have been relayed. -/
  | streamed (pieces : UInt64)
  /-- A write to the conduit failed while the run was going on. -/
  | readerWentAway (error : String)
  /-- A run came to its end without a failure. -/
  | ended (exit : Exit) (pieces bytes : UInt64)
  /-- The host of a request has no address. -/
  | unresolved (error : String)
  /-- There is no connection to the host of a request. -/
  | unconnected (error : String)
  /-- The answer has another status than 200. -/
  | badStatus (status : UInt16)
  /-- A request could not be made, or its answer broke off. -/
  | requestFailed (error : String)
  /-- A run could not be set up. -/
  | setupFailed (error : String)
  /-- A run was cut short by a panic. -/
  | panicked
  /-- The thread that a caller joined had ended with a panic. -/
  | joinedPanicked (panic : String)
  /-- The write end of the conduit has been closed. -/
  | conduitClosed
  /-- The write end stays open until the write that is going on is over. -/
  | closeLeftToWorker
  /-- A run has been started. -/
  | started
  /-- A run is told to stop. -/
  | stopping
  /-- There is no run to stop. -/
  | nothingToStop
  /-- A run was told to stop and went on for longer than the stop waits. -/
  | detached (waitMillis : Nat)
  /-- The spinner was cut short. -/
  | spinnerFailed (error : String)
deriving DecidableEq, Repr

namespace Event

/-- How grave an event is. -/
def level : Event → Level
  | unresolved _ | unconnected _ | badStatus _ | setupFailed _ | panicked
  | joinedPanicked _ => .error
  | readerWentAway _ | requestFailed _ | detached _ | spinnerFailed _ => .warn
  | connecting | connected | ended _ _ _ | started | stopping => .info
  | resolved | streamed _ | conduitClosed | closeLeftToWorker | nothingToStop => .debug

/-- What an event says. -/
def message : Event → String
  | connecting => "HTTP reader connecting"
  | resolved => "resolved host"
  | connected => "HTTP reader connected, streaming data"
  | streamed _ => "HTTP reader streamed chunks"
  | readerWentAway _ => "conduit write failed, reader went away"
  | ended _ _ _ => "HTTP stream ended"
  | unresolved _ => "HTTP reader DNS resolution failed"
  | unconnected _ => "HTTP reader connection error"
  | badStatus _ => "HTTP reader got non-success status"
  | requestFailed _ => "HTTP reader request error"
  | setupFailed _ => "HTTP reader unexpected error"
  | panicked => "HTTP reader panicked"
  | joinedPanicked _ => "HTTP reader thread panicked"
  | conduitClosed => "closed conduit write end"
  | closeLeftToWorker => "conduit write in progress, worker will close it"
  | started => "started HTTP stream reader thread"
  | stopping => "stopping HTTP stream reader"
  | nothingToStop => "stream pump not running, nothing to stop"
  | detached _ => "HTTP reader did not exit in time, detaching"
  | spinnerFailed _ => "progress spinner task failed"

/-- The exit that an event tells of. -/
def exit? : Event → Option Exit
  | ended exit _ _ => some exit
  | _ => none

/-- The status that an event tells of. -/
def status? : Event → Option UInt16
  | badStatus status => some status
  | _ => none

/-- The number of pieces that an event tells of. -/
def pieces? : Event → Option UInt64
  | streamed pieces | ended _ pieces _ => some pieces
  | _ => none

/-- The number of bytes that an event tells of. -/
def bytes? : Event → Option UInt64
  | ended _ _ bytes => some bytes
  | _ => none

/-- The error that an event tells of. -/
def error? : Event → Option String
  | readerWentAway e | unresolved e | unconnected e | requestFailed e | setupFailed e
  | spinnerFailed e => some e
  | _ => none

/-- What a panic said that an event tells of. -/
def panic? : Event → Option String
  | joinedPanicked panic => some panic
  | _ => none

/-- The fields of an event, by name, in the order in which they are written. -/
def fields (e : Event) : List (String × String) :=
  (e.status?.map (fun s => ("status", toString s))).toList ++
    (e.exit?.map (fun x => ("exit", x.name))).toList ++
    (e.pieces?.map (fun n => ("chunks", toString n))).toList ++
    (e.bytes?.map (fun n => ("bytes", toString n))).toList ++
    (e.error?.map (fun t => ("error", t))).toList ++
    (e.panic?.map (fun t => ("panic", t))).toList

/-- A line with a level, a message and fields. -/
def lineWith (e : Event) (fields : List (String × String)) : String :=
  String.join (s!"{e.level.name} {e.message}" ::
    fields.map (fun (name, value) => s!" {name}={value}"))

/-- The line that is written for an event. -/
def line (e : Event) : String := e.lineWith e.fields

/-- Whether an event tells who closed the write end of a conduit. -/
def isAboutClosing : Event → Bool
  | conduitClosed | closeLeftToWorker => true
  | _ => false

end Event

/-- The events that happened, in order. -/
abbrev Journal := List Event

end StreamRelay
