import Compendium.Proofs.Action
import Compendium.Proofs.Disk.Writing
import Compendium.Sink

/-!
# What goes through a sink

What has been written to a sink is what its outlet has taken and what waits in the buffer.
Writing adds to it at its end.  Only a memory of limited size can refuse bytes, and then it keeps
the beginning of what was to be written.
-/

namespace Compendium.Sink

/-- The bytes that have been written to a sink. -/
def written (k : Sink) : List UInt8 :=
  match k.outlet with
  | .memory .. => k.accepted
  | .file _ | .console => k.accepted ++ k.pending

/-- Whether a sink takes all bytes that are written to it. -/
def Boundless (k : Sink) : Prop := ∀ limit flushFails, k.outlet ≠ .memory (some limit) flushFails

/-- A sink is followed by another when bytes have been written to it. -/
structure Took (k : Sink) (bytes : List UInt8) (k' : Sink) : Prop where
  outlet : k'.outlet = k.outlet
  target : k'.target = k.target
  generator : k'.generator = k.generator
  written : k'.written = k.written ++ bytes

theorem Took.refl (k : Sink) :
  Took k [] k
  := ⟨rfl, rfl, rfl, by simp⟩

theorem Took.trans {k k' k'' : Sink} {bytes bytes' : List UInt8} (h : Took k bytes k')
    (h' : Took k' bytes' k'') :
  Took k (bytes ++ bytes') k''
  := by
  constructor
  · apply h'.outlet.trans h.outlet
  · apply h'.target.trans h.target
  · apply h'.generator.trans h.generator
  · rw [h'.written, h.written, List.append_assoc]

theorem written_of_memory {k : Sink} {limit : Option Nat} {flushFails : Bool}
    (h : k.outlet = .memory limit flushFails) :
  k.written = k.accepted
  := by rw [Sink.written, h]

/-- In front of the outlet, the buffer keeps the order of what is written. -/
theorem buffer_append (k : Sink) (bytes : List UInt8) :
  (k.buffer bytes).accepted ++ (k.buffer bytes).pending = k.accepted ++ k.pending ++ bytes
  := by
  rw [buffer]
  split
  · simp
  · rename_i hspare
    split
    · simp only [drained]
      split <;> simp
    · rename_i hle
      split
      · rename_i hfull
        -- Bytes that fill a buffer without being more than fit in it find it empty.
        have hempty : k.pending = [] := by
          rw [← List.length_eq_zero_iff]
          have : 0 < bufferSize := by decide
          omega
        simp [hempty]
      · simp

theorem took_buffer {k : Sink} (h : ∀ limit flushFails, k.outlet ≠ .memory limit flushFails)
    (bytes : List UInt8) :
  Took k bytes (k.buffer bytes)
  := by
  have hframe : (k.buffer bytes).outlet = k.outlet ∧ (k.buffer bytes).target = k.target
      ∧ (k.buffer bytes).generator = k.generator := by
    rw [buffer]
    simp only [drained]
    split
    · simp
    · split <;> split <;> simp
  obtain ⟨houtlet, htarget, hgenerator⟩ := hframe
  use houtlet, htarget, hgenerator
  rw [written, written, houtlet]
  cases ho : k.outlet with
  | memory limit flushFails => apply absurd ho (h limit flushFails)
  | file location => apply buffer_append
  | console => apply buffer_append

/-- Bytes are written as a whole, but for a memory that is full: this keeps their beginning. -/
theorem meets_writeBytes (k : Sink) (bytes : List UInt8) :
  (writeBytes bytes).Meets k (fun _ k' => Took k bytes k')
    (fun failure k' => ¬ k.Boundless ∧ failure = .writing k.target .full
      ∧ ∃ torn, torn <+: bytes ∧ torn ≠ bytes ∧ Took k torn k')
  := by
  rw [Action.Meets, writeBytes]
  cases ho : k.outlet with
  | memory limit flushFails =>
    cases limit with
    | none =>
      use rfl, rfl, rfl
      simp [written, fill, ho]
    | some limit =>
      by_cases hroom : limit - k.accepted.length < bytes.length
      · simp only [if_pos hroom]
        constructor
        · intro hk
          apply hk limit flushFails ho
        · use trivial, bytes.take (limit - k.accepted.length), List.take_prefix _ _
          constructor
          · intro htake
            have hlen := congrArg List.length htake
            rw [List.length_take] at hlen
            omega
          · use rfl, rfl, rfl
            simp [written, fill, ho]
      · simp only [if_neg hroom]
        have htake : bytes.take (limit - k.accepted.length) = bytes :=
          List.take_of_length_le (Nat.not_lt.mp hroom)
        use rfl, rfl, rfl
        simp [written, fill, ho, htake]
  | file location => apply took_buffer (by simp [ho]) bytes
  | console => apply took_buffer (by simp [ho]) bytes

/-- At the end nothing is written that has not been written before. -/
theorem meets_finish (k : Sink) :
  finish.Meets k (fun _ k' => Took k [] k') (fun _ k' => Took k [] k')
  := by
  rw [Action.Meets, finish]
  cases ho : k.outlet with
  | memory limit flushFails => cases flushFails <;> exact Took.refl k
  | file location =>
    use rfl, rfl, rfl
    simp [written, drained, ho]
  | console =>
    use rfl, rfl, rfl
    simp [written, drained, ho]

/-! ### The disk while it is written to -/

/-- Whether the file that a sink writes to, if it does, is there. -/
def OpenOn (k : Sink) (d : Disk) : Prop :=
  ∀ location, k.outlet = .file location → d.root.kindAt location = some .file

/-- Whether a sink writes to no file. -/
def OffDisk (k : Sink) : Prop := ∀ location, k.outlet ≠ .file location

/-- Whether a sink takes every document, to its end, and leaves the disk as it is. -/
structure Unlimited (k : Sink) : Prop where
  offDisk : k.OffDisk
  boundless : k.Boundless
  flushes : ∀ limit, k.outlet ≠ .memory limit true

theorem OpenOn.of_outlet {k k' : Sink} {d : Disk} (h : k.OpenOn d)
    (hk : k'.outlet = k.outlet) :
  k'.OpenOn d
  := by
  intro location
  rw [hk]
  apply h

theorem Took.openOn {k k' : Sink} {bytes : List UInt8} {d : Disk} (h : Took k bytes k')
    (hk : k.OpenOn d) :
  k'.OpenOn d
  := hk.of_outlet h.outlet

theorem OffDisk.openOn {k : Sink} (h : k.OffDisk) (d : Disk) :
  k.OpenOn d
  := fun location ho => absurd ho (h location)

theorem OffDisk.of_outlet {k k' : Sink} (h : k.OffDisk) (hk : k'.outlet = k.outlet) :
  k'.OffDisk
  := by
  intro location
  rw [hk]
  apply h

theorem offDisk_of_memory {k : Sink} {limit : Option Nat} {flushFails : Bool}
    (h : k.outlet = .memory limit flushFails) :
  k.OffDisk
  := by
  intro location
  simp [h]

theorem unlimited_empty_memory (target : Path) (generator : String) :
  (empty (.memory none false) target generator).Unlimited
  := ⟨offDisk_of_memory rfl, by simp [Boundless, empty], by simp [empty]⟩

/-- A sink that writes to no file leaves the disk as it is. -/
theorem OffDisk.seenDisk_eq {k : Sink} (h : k.OffDisk) (d : Disk) :
  k.seenDisk d = d
  := by
  rw [seenDisk]
  cases ho : k.outlet with
  | file location => apply absurd ho (h location)
  | memory => rfl
  | console => rfl

theorem OpenOn.sameShape {k : Sink} {d : Disk} (h : k.OpenOn d) (hd : d.WellFormed) :
  Disk.SameShape (k.seenDisk d) d
  := by
  rw [seenDisk]
  cases ho : k.outlet with
  | file location => apply Disk.sameShape_withBytes hd (h location ho)
  | memory => apply Disk.SameShape.refl
  | console => apply Disk.SameShape.refl

/-- A file that the sink does not write to is seen as it is. -/
theorem OpenOn.read_seenDisk {k : Sink} {d : Disk} (h : k.OpenOn d) (hd : d.WellFormed)
    {path : Path} (hpath : ∀ location, k.outlet = .file location →
      d.locate .content path ≠ .ok location) :
  (k.seenDisk d).read path = d.read path
  := by
  rw [seenDisk]
  cases ho : k.outlet with
  | file location => apply Disk.read_withBytes hd (h location ho) _ (hpath location ho)
  | memory => rfl
  | console => rfl

end Compendium.Sink
