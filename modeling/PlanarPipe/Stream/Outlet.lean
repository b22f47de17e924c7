import PlanarPipe.Bytes.Basic
import PlanarPipe.Posix.IoError

/-!
# Byte outlets

An outlet answers one write call after another: it takes what it is offered, or part of it, or fails.
What it will answer is written down as a list of replies; after the last of them it takes everything.
Every call is recorded with what was offered, what was answered and which bytes were taken.
-/

namespace PlanarPipe

/-- What is handed to one write call: one byte string, or several to be written in one go. -/
inductive Offer where
  | single (bytes : Bytes)
  | gather (slices : List Bytes)
  deriving DecidableEq, Repr

namespace Offer

/-- The bytes of an offer in order. -/
def bytes : Offer → Bytes
  | single bytes => bytes
  | gather slices => slices.flatten

/-- The lengths of the parts of an offer. -/
def lengths : Offer → List Nat
  | single bytes => [bytes.length]
  | gather slices => slices.map List.length

def length (o : Offer) : Nat := o.lengths.foldr (· + ·) 0

/-- What an outlet that takes one byte string at a time sees of an offer: its first part that is not
empty. -/
def firstPart : Offer → Offer
  | single bytes => single bytes
  | gather slices => single ((slices.find? (!·.isEmpty)).getD [])

end Offer

inductive Reply where
  | all
  /-- The outlet says that it took `n` bytes. -/
  | count (n : Nat)
  /-- The outlet takes `missing` bytes less than it was offered. -/
  | lacking (missing : Nat)
  | failure (cause : IoError)
  deriving DecidableEq, Repr

/-- How many bytes the outlet says it took of `offered` bytes. -/
def Reply.answer (offered : Nat) : Reply → Except IoError Nat
  | .all => .ok offered
  | .count n => .ok n
  | .lacking missing => .ok (offered - missing)
  | .failure cause => .error cause

structure WriteCall where
  offer : Offer
  answer : Except IoError Nat

/-- The bytes that went out with a call: as many as the outlet says, if there were so many. -/
def WriteCall.taken (c : WriteCall) : Bytes :=
  match c.answer with
  | .ok count => c.offer.bytes.take count
  | .error _ => []

/-- A byte outlet: whether it takes several byte strings in one call, and what it will answer. -/
structure Outlet where
  gathers : Bool
  replies : List Reply
  deriving DecidableEq, Repr

namespace Outlet

def unlimited : Outlet := ⟨true, []⟩

def abandoned : Outlet := ⟨true, [.failure (.system .brokenPipe)]⟩

/-- What the outlet sees of an offer. -/
def see (o : Outlet) (offer : Offer) : Offer := if o.gathers then offer else offer.firstPart

/-- The calls made to hand over one offer, repeated while the outlet is interrupted; the last of them
is the one that counts. -/
def callsFor (seen : Offer) : List Reply → List WriteCall × WriteCall × List Reply
  | [] => ([], ⟨seen, .ok seen.length⟩, [])
  | reply :: later =>
    let call : WriteCall := ⟨seen, reply.answer seen.length⟩
    match reply with
    | .failure cause =>
      if cause.isInterrupted then
        let (before, last, rest) := callsFor seen later
        (call :: before, last, rest)
      else ([], call, later)
    | _ => ([], call, later)

end Outlet

end PlanarPipe
