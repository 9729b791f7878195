import Mathlib.Data.List.Forall2
import Mathlib.Data.List.Infix
import Compendium.Glob

/-!
# What rows say

A glob is laid over a text from its end: each token turns the row for what is behind it into the
row for itself and what is behind it.  A row `Says` for which ends of the text something holds, and
there is one lemma for each way to make rows that tells what the new row says.
-/

namespace Compendium.Glob.Row

variable {k : Row} {text : List UInt8} {P Q : List UInt8 → Prop}

/-- The row says for which ends of the text `P` holds. -/
def Says (k : Row) (text : List UInt8) (P : List UInt8 → Prop) : Prop :=
  List.Forall₂ (fun accepted rest => accepted = true ↔ P rest) k text.tails

/-! ### Reading rows -/

theorem says_nil_iff :
  Says k [] P ↔ ∃ accepted, k = [accepted] ∧ (accepted = true ↔ P [])
  := by
  simp [Says, List.forall₂_cons_right_iff, and_comm]

theorem says_cons_iff {b : UInt8} :
  Says k (b :: text) P
    ↔ ∃ accepted rest, k = accepted :: rest ∧ (accepted = true ↔ P (b :: text))
      ∧ Says rest text P
  := by
  simp only [Says, List.tails_cons, List.forall₂_cons_right_iff]
  constructor
  · rintro ⟨accepted, rest, haccepted, hrest, rfl⟩
    use accepted, rest, rfl, haccepted, hrest
  · rintro ⟨accepted, rest, rfl, haccepted, hrest⟩
    exact ⟨accepted, rest, haccepted, hrest, rfl⟩

/-- The first entry is for the whole text. -/
theorem Says.first_iff (h : Says k text P) :
  k.first = true ↔ P text
  := by
  cases text with
  | nil =>
    obtain ⟨accepted, rfl, haccepted⟩ := says_nil_iff.mp h
    apply haccepted
  | cons b text =>
    obtain ⟨accepted, rest, rfl, haccepted, -⟩ := says_cons_iff.mp h
    apply haccepted

/-- What is behind the first entry is for the text behind the first byte. -/
theorem Says.tail {b : UInt8} (h : Says k (b :: text) P) :
  Says k.tail text P
  := by
  obtain ⟨accepted, rest, rfl, -, hrest⟩ := says_cons_iff.mp h
  apply hrest

theorem Says.congr (h : Says k text P) (hPQ : ∀ rest, P rest ↔ Q rest) :
  Says k text Q
  := List.Forall₂.imp (fun _ rest haccepted => haccepted.trans (hPQ rest)) h

/-! ### Making rows -/

/-- At the end of a glob only the empty text is left to accept. -/
theorem says_done (text : List UInt8) :
  Says (done text) text (· = [])
  := by
  induction text with
  | nil => apply says_nil_iff.mpr ⟨true, rfl, by simp⟩
  | cons b text ih => apply says_cons_iff.mpr ⟨false, done text, rfl, by simp, ih⟩

/-- Before one byte. -/
theorem Says.byte (h : Says k text P) (p : UInt8 → Bool) :
  Says (Row.byte p text k) text fun rest => ∃ b behind, rest = b :: behind ∧ p b = true ∧ P behind
  := by
  induction text generalizing k with
  | nil => apply says_nil_iff.mpr ⟨false, rfl, by simp⟩
  | cons b text ih =>
    refine says_cons_iff.mpr ⟨_, _, rfl, ?_, ih h.tail⟩
    rw [Bool.and_eq_true, h.tail.first_iff]
    constructor
    · rintro ⟨hb, hrest⟩
      use b, text, rfl, hb, hrest
    · rintro ⟨_, _, heq, hb, hrest⟩
      obtain ⟨rfl, rfl⟩ := List.cons.inj heq
      use hb, hrest

/-- Before any run of bytes. -/
theorem Says.run (h : Says k text P) (p : UInt8 → Bool) :
  Says (Row.run p text k) text fun rest =>
    ∃ taken behind, rest = taken ++ behind ∧ (∀ b ∈ taken, p b = true) ∧ P behind
  := by
  induction text generalizing k with
  | nil =>
    refine says_nil_iff.mpr ⟨_, rfl, ?_⟩
    rw [h.first_iff]
    constructor
    · intro hrest
      use [], [], rfl, by simp, hrest
    · rintro ⟨taken, behind, heq, -, hrest⟩
      obtain ⟨-, rfl⟩ := List.append_eq_nil_iff.mp heq.symm
      apply hrest
  | cons b text ih =>
    have htail := ih h.tail
    refine says_cons_iff.mpr ⟨_, _, rfl, ?_, htail⟩
    rw [Bool.or_eq_true, Bool.and_eq_true, h.first_iff, htail.first_iff]
    constructor
    · rintro (hrest | ⟨hb, taken, behind, rfl, htaken, hrest⟩)
      · use [], b :: text, rfl, by simp, hrest
      · use b :: taken, behind, rfl, List.forall_mem_cons.mpr ⟨hb, htaken⟩, hrest
    · rintro ⟨taken, behind, heq, htaken, hrest⟩
      cases taken with
      | nil =>
        obtain rfl : b :: text = behind := heq
        left
        apply hrest
      | cons c taken =>
        obtain ⟨rfl, rfl⟩ := List.cons.inj heq
        obtain ⟨hb, htaken⟩ := List.forall_mem_cons.mp htaken
        right
        use hb, taken, behind, rfl, htaken, hrest

/-- Before the given bytes. -/
theorem Says.bytes (h : Says k text P) (bs : List UInt8) :
  Says (Row.bytes bs text k) text fun rest => ∃ behind, rest = bs ++ behind ∧ P behind
  := by
  induction bs with
  | nil => apply h.congr (by simp)
  | cons b bs ih =>
    apply (ih.byte (· == b)).congr
    intro rest
    constructor
    · rintro ⟨_, _, rfl, hb, behind, rfl, hrest⟩
      obtain rfl := eq_of_beq hb
      use behind, rfl, hrest
    · rintro ⟨behind, rfl, hrest⟩
      use b, bs ++ behind, rfl, beq_self_eq_true b, behind, rfl, hrest

end Compendium.Glob.Row
