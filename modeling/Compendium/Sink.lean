import Compendium.Action
import Compendium.Disk
import Compendium.Document

/-!
# Sinks

A `Sink` takes the document block by block and hands its bytes to an outlet.  An outlet in
memory takes them at once, up to a limit; in front of a file and of the console stands a buffer,
so that some of the bytes may be pending.
-/

namespace Compendium

/-- Where the bytes of a document go. -/
inductive Outlet where
  /-- Memory that takes no more than `limit` bytes, and may fail when it is flushed. -/
  | memory (limit : Option Nat) (flushFails : Bool)
  | file (location : Location)
  | console
deriving DecidableEq

/-- A document on its way out. -/
structure Sink where
  outlet : Outlet
  /-- What failures call the outlet. -/
  target : Path
  /-- What the header of the document names as its maker. -/
  generator : String
  /-- The bytes that the outlet has taken. -/
  accepted : List UInt8
  /-- The bytes that wait in the buffer. -/
  pending : List UInt8

namespace Sink

/-- A sink that nothing has been written to. -/
def empty (outlet : Outlet) (target : Path) (generator : String) : Sink :=
  ⟨outlet, target, generator, [], []⟩

/-- How many bytes the buffer holds. -/
def bufferSize : Nat := 8192

/-- The sink after bytes have gone to memory with room for `room` more. -/
def fill (s : Sink) (room : Nat) (bytes : List UInt8) : Sink :=
  { s with accepted := s.accepted ++ bytes.take room }

/-- The sink with an empty buffer, its bytes having gone to the outlet. -/
def drained (s : Sink) : Sink := { s with accepted := s.accepted ++ s.pending, pending := [] }

/-- The sink after bytes have gone to the buffer.  A buffer that they do not fit in is drained
first, and bytes that would fill it go straight to the outlet. -/
def buffer (s : Sink) (bytes : List UInt8) : Sink :=
  let spare := bufferSize - s.pending.length
  if bytes.length < spare then { s with pending := s.pending ++ bytes }
  else
    let s := if spare < bytes.length then s.drained else s
    if bufferSize ≤ bytes.length then { s with accepted := s.accepted ++ bytes }
    else { s with pending := s.pending ++ bytes }

/-- Write bytes.  What fits in the memory is kept when the rest does not. -/
def writeBytes (bytes : List UInt8) : Action Sink Unit := fun s =>
  match s.outlet with
  | .memory (some limit) _ =>
    let room := limit - s.accepted.length
    ⟨if room < bytes.length then .error (.writing s.target .full) else .ok (),
      s.fill room bytes, []⟩
  | .memory none _ => ⟨.ok (), s.fill bytes.length bytes, []⟩
  | .file _ | .console => ⟨.ok (), s.buffer bytes, []⟩

/-- Write text. -/
def write (text : String) : Action Sink Unit := writeBytes (Text.bytesOf text)

/-- Write the header of the document. -/
def begin : Action Sink Unit := do
  let s ← Action.state
  write (Document.header s.generator)

/-- Write the block of a text file. -/
def writeText (path : Path) (lines : List String) : Action Sink Unit :=
  write (Document.textBlock path lines)

/-- Write the block of a binary file. -/
def writeBinary (path : Path) (size : Nat) : Action Sink Unit :=
  write (Document.binaryBlock path size)

/-- Hand over what is pending. -/
def finish : Action Sink Unit := fun s =>
  match s.outlet with
  | .memory _ true => ⟨.error (.writing s.target .flushFailed), s, []⟩
  | .memory _ false => ⟨.ok (), s, []⟩
  | .file _ | .console => ⟨.ok (), s.drained, []⟩

/-- The disk as it is seen while the document is on its way: a file that the document goes to
holds what it has taken so far. -/
def seenDisk (s : Sink) (d : Disk) : Disk :=
  match s.outlet with
  | .file location => d.withBytes location s.accepted
  | .memory .. | .console => d

end Sink

end Compendium
