import Compendium.Proofs.Pattern.Spelling

/-!
# Segments without wildcards

A segment without wildcards is compared with a name as it is, and not by the glob that is built for
every other segment.  That glob would accept the same names, so what a segment other than `**`
accepts can always be said by the glob of its text.  In particular a backslash makes no difference
before a character that stands for itself anyway.
-/

namespace Compendium.Segment

variable {raw : List Char}

/-! ### Plain text as a glob -/

theorem isWild_eq_false_iff {c : Char} :
  isWild c = false ↔ c ∉ ['?', '*', '[', '\\']
  := by
  simp only [isWild, Bool.or_eq_false_iff, decide_eq_false_iff_not, List.mem_cons, not_or,
    List.not_mem_nil, not_false_eq_true, and_true]
  tauto

/-- A text without wildcards is made of characters that stand for themselves. -/
theorem pieces?_of_plain (h : raw.any isWild = false) :
  pieces? none raw = some (raw.map .char)
  := by
  induction raw with
  | nil => rfl
  | cons c rest ih =>
    obtain ⟨hc, hrest⟩ := Bool.or_eq_false_iff.mp h
    rw [pieces?_plain (isWild_eq_false_iff.mp hc), ih hrest]
    rfl

theorem fits_map_char_iff {α : Type} {letters : Letters α} {text : List α} :
  Fits letters (raw.map .char) text ↔ text = raw.flatMap letters.spell
  := by
  induction raw generalizing text with
  | nil => rfl
  | cons c rest ih =>
    constructor
    · rintro ⟨_, behind, rfl, rfl, hrest⟩
      rw [ih.mp hrest]
      rfl
    · rintro rfl
      exact ⟨letters.spell c, _, rfl, rfl, ih.mpr rfl⟩

/-- The segment with a glob in place of a literal: each of its characters as a token. -/
def byGlob : Segment → Segment
  | .literal name => .glob (name.map .literal)
  | segment => segment

theorem merged_map_char (afterRun : Bool) (raw : List Char) :
  merged afterRun (raw.map .char) = raw.map .char
  := by
  induction raw generalizing afterRun with
  | nil => rfl
  | cons c rest ih => apply congrArg (Piece.char c :: ·) (ih false)

theorem mapM_token?_map_char (raw : List Char) :
  (raw.map .char).mapM Piece.token? = some (raw.map .literal)
  := by
  induction raw with
  | nil => rfl
  | cons c rest ih =>
    rw [List.map_cons, mapM_token?_cons, ih]
    rfl

/-- The glob of a text without wildcards compiles, whatever else is in the text. -/
theorem ofGlobText_of_plain (h : raw.any isWild = false) :
  ofGlobText (globText false raw) = .ok (byGlob (.literal raw))
  := by
  have hspelled : (raw.map .char).map Piece.respelled = raw.map .char := by
    rw [List.map_map]
    rfl
  apply ofGlobText_iff.mpr
  use raw.map .char, raw.map .literal, pieces?_of_plain h
  rw [hspelled, merged_map_char, mapM_token?_map_char]
  use rfl
  rfl

/-- The glob for a literal accepts the text of the literal and nothing else. -/
theorem accepts_byGlob_literal_iff (raw name : List Char) :
  (byGlob (.literal raw)).accepts name = true ↔ name = raw
  := by
  have hsingle : ∀ piece ∈ raw.map Piece.char, piece.isSingle = false := by
    rw [List.forall_mem_map]
    intro _ _
    rfl
  have hself : raw.flatMap Letters.chars.spell = raw := List.flatMap_singleton' raw
  have htokens : (byGlob (.literal raw)).accepts name = true
      ↔ Fits .bytes (raw.map .char) (Text.bytes name) :=
    accepts_tokens_iff (mapM_token?_map_char raw) _
  rw [htokens, fits_bytes_iff_of_not_single hsingle, fits_map_char_iff, hself]

theorem compiles_of_plain (h : raw.any isWild = false) :
  Compiles raw
  := by
  use byGlob (.literal raw)
  apply ofGlobText_of_plain h

/-- The glob of a text without wildcards accepts the text and nothing else. -/
theorem admits_iff_of_plain (h : raw.any isWild = false) (name : List Char) :
  Admits raw name ↔ raw = name
  := by
  rw [Admits, ofGlobText_of_plain h, @eq_comm _ raw]
  simp only [Except.ok.injEq, exists_eq_left', accepts_byGlob_literal_iff]

/-! ### Segments by their globs -/

/-- A segment other than `**` can be read if the glob of its text compiles. -/
theorem exists_read_iff (h : raw ≠ ['*', '*']) :
  (∃ segment, read raw = .ok segment) ↔ Compiles raw
  := by
  rw [read, if_neg h]
  split
  · rename_i hplain
    apply iff_of_true
    · use .literal raw
    · apply compiles_of_plain
      simpa using hplain
  · rfl

/-- A segment other than `**` accepts what the glob of its text accepts. -/
theorem exists_accepts_iff (h : raw ≠ ['*', '*']) (name : List Char) :
  (∃ segment, read raw = .ok segment ∧ segment.accepts name = true) ↔ Admits raw name
  := by
  rw [read, if_neg h]
  split
  · rename_i hplain
    rw [admits_iff_of_plain (by simpa using hplain)]
    simp [accepts]
  · rfl

/-! ### Escapes -/

section

variable {c : Char} (h : isWild c = false) (rest : List Char)

include h

/-- A backslash makes no difference before a character that stands for itself. -/
theorem pieces?_escaped :
  pieces? none ('\\' :: c :: rest) = pieces? none (c :: rest)
  := by
  rw [pieces?_plain (isWild_eq_false_iff.mp h), pieces?]

theorem compiles_escaped_iff :
  Compiles ('\\' :: c :: rest) ↔ Compiles (c :: rest)
  := by
  rw [compiles_iff, compiles_iff, pieces?_escaped h]

theorem admits_escaped_iff (name : List Char) :
  Admits ('\\' :: c :: rest) name ↔ Admits (c :: rest) name
  := by
  rw [admits_iff, admits_iff, pieces?_escaped h]

end

end Compendium.Segment
