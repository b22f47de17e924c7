/-!
# Log events

What the program tells about its progress: a level, the part of the program it comes from, a message
and named values.
-/

namespace PlanarPipe

/-- How grave an event is, the gravest first. -/
inductive Level where
  | error
  | warn
  | info
  | debug
  | trace
  deriving DecidableEq, Repr

namespace Level

def all : List Level := [error, warn, info, debug, trace]

def name : Level → String
  | error => "ERROR"
  | warn => "WARN"
  | info => "INFO"
  | debug => "DEBUG"
  | trace => "TRACE"

def rank : Level → Nat
  | error => 0
  | warn => 1
  | info => 2
  | debug => 3
  | trace => 4

/-- The lower-case name of a level, as it is given on the command line. -/
def word : Level → String
  | error => "error"
  | warn => "warn"
  | info => "info"
  | debug => "debug"
  | trace => "trace"

def ofWord? (word : String) : Option Level := all.find? (·.word == word)

/-- An event of level `l` is shown when everything up to `max` is asked for. -/
def shownAt (l max : Level) : Bool := l.rank ≤ max.rank

end Level

/-- A value that goes with an event. -/
inductive EventValue where
  | number (n : Nat)
  | words (text : String)
  deriving DecidableEq, Repr

def EventValue.text : EventValue → String
  | number n => toString n
  | words text => text

/-- The part of the program that an event comes from. -/
inductive Component where
  | readCommand
  | streamCommand
  /-- The sending end of a pipe. -/
  | pipe
  /-- The bytes that are read from a pipe. -/
  | stream
  | encoder
  | sink
  deriving DecidableEq, Repr

/-- The full name of a part. The commands belong to the program itself, which has the name `program`. -/
def Component.path (program : String) : Component → String
  | readCommand => s!"{program}::cmd::read"
  | streamCommand => s!"{program}::cmd::stream"
  | pipe => "yuvpipe_transport::fifo"
  | stream => "yuvpipe_transport::stream"
  | encoder => "yuvpipe_frame::encoder"
  | sink => "yuvpipe_frame::sink"

structure Event where
  level : Level
  origin : Component
  message : String
  fields : List (String × EventValue)
  deriving DecidableEq, Repr

end PlanarPipe
