import PlanarPipe.Stream.Outlet

/-!
# Pipes

The bytes on their way through a named pipe. Whoever writes is served as long as somebody reads; whoever
reads gets what is there, and learns of the end once nobody writes any more.
-/

namespace PlanarPipe

structure Pipe where
  /-- The bytes that were written and not read yet. -/
  content : Bytes := []
  /-- Somebody has it open for writing. -/
  written : Bool := true
  /-- Somebody has it open for reading. -/
  watched : Bool := true
  deriving DecidableEq, Repr

inductive ReadEnd where
  /-- As many bytes as were asked for are read. -/
  | count
  /-- There are no more bytes, and nobody who could write more. -/
  | eof
  | empty
  deriving DecidableEq, Repr

namespace Pipe

def feed (p : Pipe) (data : Bytes) : Pipe := { p with content := p.content ++ data }

/-- What the pipe answers to write calls. -/
def outlet (p : Pipe) : Outlet := if p.watched then .unlimited else .abandoned

/-- One write call. Without a reader it fails, unless there is nothing to write. -/
def write (p : Pipe) (data : Bytes) : Except IoError Nat × Pipe :=
  if data.isEmpty then (.ok 0, p)
  else if p.watched then (.ok data.length, p.feed data)
  else (.error (.system .brokenPipe), p)

/-- Reads as many bytes as are asked for, or all there are. -/
def take (p : Pipe) (count : Option Nat) : Bytes × ReadEnd × Pipe :=
  let drained : ReadEnd := if p.written then .empty else .eof
  match count with
  | none => (p.content, drained, { p with content := [] })
  | some n =>
    let out := p.content.take n
    (out, if out.length = n then .count else drained, { p with content := p.content.drop n })

end Pipe

end PlanarPipe
