import Mathlib.Tactic.SplitIfs
import Compendium.Text

/-!
# The order of texts

Texts are ordered like the bytes that encode them: the encoding of a greater character begins
with greater bytes, and no encoding begins with that of another character.
-/

namespace Compendium.Text

theorem ofNat_lt_ofNat {m n : Nat} (hm : m < 256) (hn : n < 256) :
  UInt8.ofNat m < UInt8.ofNat n ↔ m < n
  := by
  rw [UInt8.lt_iff_toNat_lt, UInt8.toNat_ofNat', UInt8.toNat_ofNat', Nat.mod_eq_of_lt hm,
    Nat.mod_eq_of_lt hn]

theorem ofNat_eq_ofNat {m n : Nat} (hm : m < 256) (hn : n < 256) :
  UInt8.ofNat m = UInt8.ofNat n ↔ m = n
  := by
  rw [← UInt8.toNat_inj, UInt8.toNat_ofNat', UInt8.toNat_ofNat', Nat.mod_eq_of_lt hm,
    Nat.mod_eq_of_lt hn]

/-- Bytes that are numbers are compared as these, the first ones first. -/
theorem cons_lt_cons {m n : Nat} (hm : m < 256) (hn : n < 256) {s t : List UInt8} :
  UInt8.ofNat m :: s < UInt8.ofNat n :: t ↔ m < n ∨ m = n ∧ s < t
  := by
  rw [List.cons_lt_cons_iff, ofNat_lt_ofNat hm hn, ofNat_eq_ofNat hm hn]

/-- The encoding of a greater character is greater, whatever follows. -/
theorem utf8EncodeChar_lt {a b : Char} (h : a < b) (s t : List UInt8) :
  String.utf8EncodeChar a ++ s < String.utf8EncodeChar b ++ t
  := by
  have hlt : a.val.toNat < b.val.toNat := h
  have hmax : b.val.toNat < 0x110000 := by
    rcases b.valid with hb | hb <;> omega
  -- Each digit is what is left of the number when it has been divided by 64 some times.
  have htwice (k : Nat) : k / 4096 = k / 64 / 64 := by rw [Nat.div_div_eq_div_mul]
  have hthrice (k : Nat) : k / 262144 = k / 64 / 64 / 64 := by
    rw [Nat.div_div_eq_div_mul, Nat.div_div_eq_div_mul]
  simp only [String.utf8EncodeChar, htwice, hthrice]
  -- The lengths of the encodings give the first bytes, and these the following ones.
  split_ifs
  all_goals simp (disch := omega) only [List.cons_append, List.nil_append, cons_lt_cons]
  all_goals omega

end Compendium.Text
