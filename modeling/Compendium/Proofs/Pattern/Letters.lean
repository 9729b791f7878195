import Compendium.Proofs.Pattern.Piece
import Compendium.Proofs.Text.Encoding

/-!
# Pieces over characters and over bytes

A glob lays the pieces of a segment over the bytes of a name.  That comes to the same as laying
them over its characters if the name is in ASCII, and for any name if no piece takes exactly one
character of it, whichever that is, which over bytes would be one byte.
-/

namespace Compendium.Segment

variable {pieces : List Piece} {c : Char}

/-! ### Names in ASCII -/

/-- A range of characters lists of ASCII what it is read as. -/
theorem byteRanges_toUInt8_iff {c : Char} (h : c.toNat < 128) (low high : Char) :
  (∃ range ∈ Glob.byteRanges [(low, high)], range.1 ≤ c.toUInt8 ∧ c.toUInt8 ≤ range.2)
    ↔ low ≤ c ∧ c ≤ high
  := by
  have hself : ∀ bs : List UInt8, (∃ range ∈ bs.map fun b => (b, b),
      range.1 ≤ c.toUInt8 ∧ c.toUInt8 ≤ range.2) ↔ c.toUInt8 ∈ bs := by
    intro bs
    constructor
    · rintro ⟨_, hrange, hle, hge⟩
      obtain ⟨b, hb, rfl⟩ := List.mem_map.mp hrange
      rwa [← UInt8.le_antisymm hle hge]
    · intro hmem
      exact ⟨_, List.mem_map.mpr ⟨_, hmem, rfl⟩, UInt8.le_refl _, UInt8.le_refl _⟩
  simp only [Glob.byteRanges, List.flatMap_cons, List.flatMap_nil, List.append_nil]
  split_ifs with heq
  · subst heq
    rw [hself, Text.toUInt8_mem_utf8EncodeChar_iff h]
    constructor
    · rintro rfl
      constructor
      · apply Char.le_refl _
      · apply Char.le_refl _
    · rintro ⟨hle, hge⟩
      apply Char.le_antisymm hle hge
  · simp only [List.mem_append, or_and_right, exists_or, hself, List.mem_singleton,
      exists_eq_left, Text.toUInt8_not_mem_dropLast h, Text.toUInt8_not_mem_tail h,
      Text.getLast_le_toUInt8_iff h, Text.toUInt8_le_head_iff h, or_false, false_or]

theorem listed_toUInt8 {c : Char} (h : c.toNat < 128) (ranges : List (Char × Char)) :
  Letters.bytes.listed ranges c.toUInt8 = Letters.chars.listed ranges c
  := by
  have hflat : Glob.byteRanges ranges = ranges.flatMap fun range => Glob.byteRanges [range] := by
    simp [Glob.byteRanges]
  simp only [Letters.bytes, Letters.chars, Glob.classHolds, Bool.bne_false, hflat, List.any_flatMap]
  congr
  funext range
  rw [Bool.eq_iff_iff]
  simpa using byteRanges_toUInt8_iff h range.1 range.2

theorem free_toUInt8 {c : Char} (h : c.toNat < 128) :
  Letters.bytes.free c.toUInt8 = Letters.chars.free c
  := by
  have hslash : String.utf8EncodeChar '/' = [Glob.slash] := rfl
  have hfree : c.toUInt8 = Glob.slash ↔ c = '/' := by
    rw [← List.mem_singleton, ← hslash, Text.toUInt8_mem_utf8EncodeChar_iff h, eq_comm]
  rw [Bool.eq_iff_iff]
  simp [Letters.bytes, Letters.chars, wild, hfree]

theorem takes_toUInt8_iff (piece : Piece) {part : List Char} (h : ∀ c ∈ part, c.toNat < 128) :
  piece.Takes .bytes (part.map Char.toUInt8) ↔ piece.Takes .chars part
  := by
  cases piece with
  | char c => apply Text.map_toUInt8_eq_iff h
  | one =>
    constructor
    · rintro ⟨_, heq, hfree⟩
      obtain ⟨c, rfl, rfl⟩ := List.map_eq_singleton_iff.mp heq
      use c, rfl
      apply (free_toUInt8 (h c List.mem_cons_self)).symm.trans hfree
    · rintro ⟨c, rfl, hfree⟩
      use c.toUInt8, rfl
      apply (free_toUInt8 (h c List.mem_cons_self)).trans hfree
  | run =>
    apply List.forall_mem_map.trans
    apply forall₂_congr
    intro c hc
    rw [free_toUInt8 (h c hc)]
  | oneOf negated members =>
    constructor
    · rintro ⟨_, ranges, heq, hranges, hlisted⟩
      obtain ⟨c, rfl, rfl⟩ := List.map_eq_singleton_iff.mp heq
      rw [listed_toUInt8 (h c List.mem_cons_self)] at hlisted
      use c, ranges, rfl, hranges, hlisted
    · rintro ⟨c, ranges, rfl, hranges, hlisted⟩
      rw [← listed_toUInt8 (h c List.mem_cons_self)] at hlisted
      use c.toUInt8, ranges, rfl, hranges, hlisted

/-- For a name in ASCII it makes no difference whether it is made of characters or of bytes. -/
theorem fits_bytes_iff {name : List Char} (h : ∀ c ∈ name, c.toNat < 128) :
  Fits .bytes pieces (Text.bytes name) ↔ Fits .chars pieces name
  := by
  rw [Text.bytes_ascii h]
  induction pieces generalizing name with
  | nil => apply List.map_eq_nil_iff
  | cons piece rest ih =>
    constructor
    · rintro ⟨_, _, heq, htakes, hfits⟩
      obtain ⟨part, behind, rfl, rfl, rfl⟩ := List.map_eq_append_iff.mp heq
      obtain ⟨hpart, hbehind⟩ := List.forall_mem_append.mp h
      use part, behind, rfl, (takes_toUInt8_iff piece hpart).mp htakes
      apply (ih hbehind).mp hfits
    · rintro ⟨part, behind, rfl, htakes, hfits⟩
      obtain ⟨hpart, hbehind⟩ := List.forall_mem_append.mp h
      exact ⟨_, _, List.map_append, (takes_toUInt8_iff piece hpart).mpr htakes,
        (ih hbehind).mpr hfits⟩

/-! ### Any name -/

/-- Whether the piece takes one character, whichever it finds. -/
def Piece.isSingle : Piece → Bool
  | .one => true
  | .oneOf _ _ => true
  | _ => false

theorem takes_run_bytes_iff (part : List Char) :
  Piece.run.Takes .bytes (Text.bytes part) ↔ Piece.run.Takes .chars part
  := by
  have hslash : ∀ c, Glob.slash ∈ String.utf8EncodeChar c ↔ c = '/' := by
    intro c
    apply Text.toUInt8_mem_utf8EncodeChar_iff (c := '/') (by decide)
  constructor
  · intro h c hc
    apply bne_iff_ne.mpr
    rintro rfl
    have hfree : wild Glob.slash = true :=
      h Glob.slash (List.mem_flatMap.mpr ⟨'/', hc, (hslash '/').mpr rfl⟩)
    apply bne_iff_ne.mp hfree rfl
  · intro h b hb
    obtain ⟨c, hc, hbc⟩ := List.mem_flatMap.mp hb
    apply bne_iff_ne.mpr
    rintro rfl
    apply bne_iff_ne.mp (h c hc) ((hslash c).mp hbc)

/-- Behind a run that no other run follows, a text is cut between characters. -/
theorem not_continues_of_fits {piece : Piece} (hpiece : piece.isSingle = false)
    (hrun : piece ≠ .run) {text : List UInt8} (h : Fits .bytes (piece :: pieces) text) :
  ∀ b ∈ text.head?, ¬Text.Continues b
  := by
  obtain ⟨_, behind, rfl, htakes, -⟩ := h
  cases piece with
  | one => contradiction
  | oneOf => contradiction
  | run => contradiction
  | char c =>
    obtain rfl := htakes
    intro b hb
    obtain ⟨first, more, heq⟩ := List.exists_cons_of_ne_nil (String.utf8EncodeChar_ne_nil (c := c))
    apply Text.not_continues_head (c := c)
    simpa [Letters.bytes, heq] using hb

/-- Pieces of which none takes just one character are laid over the characters of any name. -/
theorem fits_bytes_iff_of_not_single (h : ∀ piece ∈ pieces, piece.isSingle = false)
    (name : List Char) :
  Fits .bytes pieces (Text.bytes name) ↔ Fits .chars pieces name
  := by
  induction pieces generalizing name with
  | nil => cases name <;> simp [Fits, Text.bytes]
  | cons piece rest ih =>
    obtain ⟨hpiece, hrest⟩ := List.forall_mem_cons.mp h
    cases piece with
    | one => contradiction
    | oneOf => contradiction
    | char c =>
      constructor
      · rintro ⟨_, behind, heq, rfl, hfits⟩
        cases name with
        | nil => simp [Text.bytes, Letters.bytes] at heq
        | cons d name =>
          obtain ⟨rfl, rfl⟩ := Text.utf8EncodeChar_append_inj heq
          use [d], name, rfl, rfl
          apply (ih hrest name).mp hfits
      · rintro ⟨_, behind, rfl, rfl, hfits⟩
        exact ⟨_, _, rfl, rfl, (ih hrest behind).mpr hfits⟩
    | run =>
      constructor
      · intro hfits
        by_cases hruns : ∃ pieces, rest = .run :: pieces
        · obtain ⟨pieces, rfl⟩ := hruns
          rw [fits_run_run] at hfits ⊢
          apply (ih hrest name).mp hfits
        · obtain ⟨part, behind, heq, hpart, hfits⟩ := hfits
          have hcut : ∀ b ∈ behind.head?, ¬Text.Continues b := by
            cases rest with
            | nil => simp [show behind = [] from hfits]
            | cons piece pieces =>
              apply not_continues_of_fits (hrest piece List.mem_cons_self) _ hfits
              rintro rfl
              apply hruns ⟨pieces, rfl⟩
          obtain ⟨part, behind, rfl, rfl, rfl⟩ := Text.bytes_eq_append heq hcut
          use part, behind, rfl, (takes_run_bytes_iff part).mp hpart
          apply (ih hrest behind).mp hfits
      · rintro ⟨part, behind, rfl, hpart, hfits⟩
        exact ⟨_, _, List.flatMap_append, (takes_run_bytes_iff part).mpr hpart,
          (ih hrest behind).mpr hfits⟩

end Compendium.Segment
