import Compendium.Proofs.Text.Order

/-!
# How characters are encoded

A character of ASCII is encoded as one byte, which is its number, and that byte is part of the
encoding of no other character: the bytes of those are greater than all numbers of ASCII.

The first byte of an encoding tells it from all others, and the bytes behind it continue it, which a
first byte does not.  So a text that is cut before no such byte is cut between characters.
-/

namespace Compendium.Text

variable {c d : Char}

theorem toNat_lt (c : Char) :
  c.toNat < 0x110000
  := by
  rcases c.valid with hc | hc <;> simp only [Char.toNat_val] at hc <;> omega

theorem toNat_toUInt8 (h : c.toNat < 128) :
  c.toUInt8.toNat = c.toNat
  := by
  rw [Char.toUInt8, UInt32.toNat_toUInt8, Char.toNat_val, Nat.mod_eq_of_lt (by omega)]

/-- An ASCII character is encoded by one byte. -/
theorem utf8EncodeChar_ascii (h : c.toNat < 128) :
  String.utf8EncodeChar c = [c.toUInt8]
  := by
  rw [String.utf8EncodeChar, Char.toNat_val, if_pos (Nat.le_of_lt_succ h)]
  rfl

theorem bytes_ascii {name : List Char} (h : ∀ c ∈ name, c.toNat < 128) :
  bytes name = name.map Char.toUInt8
  := by
  induction name with
  | nil => rfl
  | cons c name ih =>
    obtain ⟨hc, hname⟩ := List.forall_mem_cons.mp h
    rw [bytes, List.flatMap_cons, ← bytes, ih hname, utf8EncodeChar_ascii hc]
    rfl

theorem le_of_mem_utf8EncodeChar (h : 128 ≤ c.toNat) {b : UInt8}
    (hb : b ∈ String.utf8EncodeChar c) :
  128 ≤ b.toNat
  := by
  have hmax := toNat_lt c
  have hdigit : ∀ n : Nat, 128 ≤ n → n < 256 → 128 ≤ (UInt8.ofNat n).toNat := by
    intro n hn hlt
    rwa [UInt8.toNat_ofNat', Nat.mod_eq_of_lt hlt]
  rw [String.utf8EncodeChar, Char.toNat_val, if_neg (by omega)] at hb
  split_ifs at hb
  all_goals simp only [List.mem_cons, List.not_mem_nil, or_false] at hb
  · rcases hb with rfl | rfl <;> apply hdigit <;> omega
  · rcases hb with rfl | rfl | rfl <;> apply hdigit <;> omega
  · rcases hb with rfl | rfl | rfl | rfl <;> apply hdigit <;> omega

/-- The byte of an ASCII character is in no other encoding. -/
theorem toUInt8_mem_utf8EncodeChar_iff (h : c.toNat < 128) :
  c.toUInt8 ∈ String.utf8EncodeChar d ↔ d = c
  := by
  constructor
  · intro hmem
    by_cases hd : d.toNat < 128
    · rw [utf8EncodeChar_ascii hd, List.mem_singleton] at hmem
      rw [← Char.toNat_inj, ← toNat_toUInt8 h, ← toNat_toUInt8 hd, hmem]
    · have hle := le_of_mem_utf8EncodeChar (Nat.le_of_not_lt hd) hmem
      rw [toNat_toUInt8 h] at hle
      omega
  · rintro rfl
    simp [utf8EncodeChar_ascii h]

/-- Bytes of ASCII encode a character only if they are the byte of it. -/
theorem map_toUInt8_eq_iff {name : List Char} (h : ∀ c ∈ name, c.toNat < 128) :
  name.map Char.toUInt8 = String.utf8EncodeChar d ↔ name = [d]
  := by
  cases name with
  | nil => simp [eq_comm (a := [])]
  | cons c name =>
    have hc := h c List.mem_cons_self
    constructor
    · intro heq
      obtain rfl : d = c := by
        apply (toUInt8_mem_utf8EncodeChar_iff hc).mp
        simp [← heq]
      simpa [utf8EncodeChar_ascii hc] using heq
    · intro heq
      obtain ⟨rfl, rfl⟩ := List.cons.inj heq
      simp [utf8EncodeChar_ascii hc]

/-! ### Comparing with a byte of ASCII -/

theorem toUInt8_le_iff (hc : c.toNat < 128) (hd : d.toNat < 128) :
  c.toUInt8 ≤ d.toUInt8 ↔ c ≤ d
  := by
  rw [UInt8.le_iff_toNat_le, toNat_toUInt8 hc, toNat_toUInt8 hd, Char.le_def,
    UInt32.le_iff_toNat_le]
  rfl

/-- The last byte of a character is compared with a byte of ASCII as the character is. -/
theorem getLast_le_toUInt8_iff (h : c.toNat < 128) :
  (String.utf8EncodeChar d).getLast?.getD 0 ≤ c.toUInt8 ↔ d ≤ c
  := by
  by_cases hd : d.toNat < 128
  · simp only [utf8EncodeChar_ascii hd, List.getLast?_singleton, Option.getD_some]
    exact toUInt8_le_iff hd h
  · have hne : String.utf8EncodeChar d ≠ [] := String.utf8EncodeChar_ne_nil
    have hle := le_of_mem_utf8EncodeChar (Nat.le_of_not_lt hd) (List.getLast_mem hne)
    rw [List.getLast?_eq_some_getLast hne, Option.getD_some, UInt8.le_iff_toNat_le,
      toNat_toUInt8 h, Char.le_def, UInt32.le_iff_toNat_le, Char.toNat_val, Char.toNat_val]
    omega

theorem toUInt8_le_head_iff (h : c.toNat < 128) :
  c.toUInt8 ≤ (String.utf8EncodeChar d).headD 0 ↔ c ≤ d
  := by
  by_cases hd : d.toNat < 128
  · simp only [utf8EncodeChar_ascii hd, List.headD_cons]
    exact toUInt8_le_iff h hd
  · obtain ⟨b, bs, heq⟩ := List.exists_cons_of_ne_nil (String.utf8EncodeChar_ne_nil (c := d))
    have hle := le_of_mem_utf8EncodeChar (Nat.le_of_not_lt hd) (heq ▸ List.mem_cons_self)
    rw [heq, List.headD_cons, UInt8.le_iff_toNat_le, toNat_toUInt8 h, Char.le_def,
      UInt32.le_iff_toNat_le, Char.toNat_val, Char.toNat_val]
    omega

theorem toUInt8_not_mem_dropLast (h : c.toNat < 128) :
  c.toUInt8 ∉ (String.utf8EncodeChar d).dropLast
  := by
  intro hmem
  obtain rfl := (toUInt8_mem_utf8EncodeChar_iff h).mp ((List.dropLast_sublist _).subset hmem)
  simp [utf8EncodeChar_ascii h] at hmem

theorem toUInt8_not_mem_tail (h : c.toNat < 128) :
  c.toUInt8 ∉ (String.utf8EncodeChar d).tail
  := by
  intro hmem
  obtain rfl := (toUInt8_mem_utf8EncodeChar_iff h).mp (List.mem_of_mem_tail hmem)
  simp [utf8EncodeChar_ascii h] at hmem

/-! ### Cutting between characters -/

/-- Whether the byte continues an encoding. -/
def Continues (b : UInt8) : Prop := 128 ≤ b.toNat ∧ b.toNat < 192

theorem continues_tail {b : UInt8} (h : b ∈ (String.utf8EncodeChar c).tail) :
  Continues b
  := by
  have hdigit : ∀ n : Nat, Continues (UInt8.ofNat (n % 64 + 128)) := by
    intro n
    rw [Continues, UInt8.toNat_ofNat', Nat.mod_eq_of_lt (by omega)]
    omega
  rw [String.utf8EncodeChar] at h
  split_ifs at h
  all_goals simp only [List.tail_cons, List.mem_cons, List.not_mem_nil, or_false] at h
  · rw [h]
    apply hdigit
  · rcases h with rfl | rfl <;> apply hdigit
  · rcases h with rfl | rfl | rfl <;> apply hdigit

theorem not_continues_head {b : UInt8} (h : (String.utf8EncodeChar c).head? = some b) :
  ¬Continues b
  := by
  have hmax := toNat_lt c
  rw [String.utf8EncodeChar, Char.toNat_val] at h
  split_ifs at h
  all_goals
    obtain rfl := Option.some.inj h
    rw [Continues, UInt8.toNat_ofNat', Nat.mod_eq_of_lt (by omega)]
    omega

/-- No encoding begins with that of another character. -/
theorem utf8EncodeChar_append_inj {s t : List UInt8}
    (h : String.utf8EncodeChar c ++ s = String.utf8EncodeChar d ++ t) :
  c = d ∧ s = t
  := by
  rcases Nat.lt_trichotomy c.toNat d.toNat with hlt | heq | hlt
  · apply absurd (h ▸ utf8EncodeChar_lt hlt s t) (List.lt_irrefl _)
  · obtain rfl := Char.toNat_inj.mp heq
    exact ⟨rfl, List.append_cancel_left h⟩
  · exact absurd (h ▸ utf8EncodeChar_lt hlt t s) (List.lt_irrefl _)

/-- What is cut before a byte that continues nothing is cut between characters. -/
theorem bytes_eq_append {name : List Char} {part behind : List UInt8}
    (h : bytes name = part ++ behind) (hbehind : ∀ b ∈ behind.head?, ¬Continues b) :
  ∃ part' behind', name = part' ++ behind' ∧ bytes part' = part ∧ bytes behind' = behind
  := by
  induction name generalizing part with
  | nil =>
    obtain ⟨rfl, rfl⟩ := List.append_eq_nil_iff.mp h.symm
    exact ⟨[], [], rfl, rfl, rfl⟩
  | cons c name ih =>
    cases part with
    | nil => exact ⟨[], c :: name, rfl, rfl, h⟩
    | cons b part =>
      have hcons : bytes (c :: name) = String.utf8EncodeChar c ++ bytes name := rfl
      rw [hcons, List.append_eq_append_iff] at h
      rcases h with ⟨more, heq, hmore⟩ | ⟨more, heq, hmore⟩
      · obtain ⟨part', behind', rfl, rfl, rfl⟩ := ih hmore
        exact ⟨c :: part', behind', rfl, heq.symm, rfl⟩
      · cases more with
        | nil => exact ⟨[c], name, rfl, by simpa [bytes] using heq, hmore.symm⟩
        | cons d more =>
          have hd : Continues d := by
            apply continues_tail (c := c)
            simp [heq]
          apply absurd hd (hbehind d (by simp [hmore]))

/-! ### Reading a text -/

/-- Bytes are read as the text that they encode, and as no other. -/
theorem ofBytes?_eq_some_iff {b : List UInt8} {text : String} :
  ofBytes? b = some text ↔ b = bytesOf text
  := by
  have hread : ofBytes? b = some text ↔ b.toByteArray = text.toByteArray := by
    have harray : (⟨b.toArray⟩ : ByteArray) = b.toByteArray := by
      apply ByteArray.ext
      rw [List.data_toByteArray]
    rw [ofBytes?, harray, String.fromUTF8?]
    split
    · rw [Option.some.injEq, ← String.toByteArray_inj]
      rfl
    · rename_i hinvalid
      constructor
      · simp
      · intro heq
        apply absurd (heq ▸ text.isValidUTF8) hinvalid
  rw [hread, ← String.utf8Encode_toList]
  constructor
  · intro heq
    have hdata := congrArg (fun bytes : ByteArray => bytes.data.toList) heq
    simpa only [bytesOf, bytes, List.utf8Encode, List.toList_data_toByteArray] using hdata
  · rintro rfl
    rfl

/-- A byte is zero only where it encodes the null character. -/
theorem zero_mem_bytesOf_iff {text : String} :
  0 ∈ bytesOf text ↔ '\x00' ∈ text.toList
  := by
  have hzero : (0 : UInt8) = '\x00'.toUInt8 := rfl
  simp only [bytesOf, bytes, List.mem_flatMap, hzero,
    toUInt8_mem_utf8EncodeChar_iff (c := '\x00') (by decide), exists_eq_right]

/-- A text with characters has bytes. -/
theorem bytesOf_ne_nil {text : String} (h : text.toList ≠ []) :
  bytesOf text ≠ []
  := by
  obtain ⟨c, cs, heq⟩ := List.exists_cons_of_ne_nil h
  rw [bytesOf, bytes, heq, List.flatMap_cons]
  simp [String.utf8EncodeChar_ne_nil]

end Compendium.Text
