import Mathlib.Data.List.Basic
import Compendium.Pattern.Segment
import Compendium.Proofs.Glob.Reading
import Compendium.Proofs.Glob.Row

/-!
# The pieces of a segment

Read as it is written, a segment is made of pieces: a character stands for itself, and so does one
behind a backslash, `?` is any one character, `*` any run of them, and a class one character that it
lists.  Nothing else has a meaning of its own, braces in particular have none.  `Segment.Means` says
which names the pieces fit.

A name is made of characters, but globs are laid over its bytes.  So what the letters of a text are
is left open here, and the tokens of pieces are shown to accept what the pieces fit over bytes.
-/

namespace Compendium.Segment

/-- A piece of a segment as it is written. -/
inductive Piece where
  /-- A character, for itself. -/
  | char (c : Char)
  /-- `?`, for one character. -/
  | one
  /-- `*`, for any run of characters. -/
  | run
  /-- A class, for one character, with its members as they are written. -/
  | oneOf (negated : Bool) (members : List Char)
deriving DecidableEq

/-- Read the pieces of a segment, from outside a class on or from inside one, of which the members
that have been read are given, the last one first.  A class holds at least one member, which may be
a closing bracket. -/
def pieces? : Option (Bool × List Char) → List Char → Option (List Piece)
  | none, [] => some []
  | some _, [] => none
  | none, '\\' :: [] => none
  | none, '\\' :: c :: rest => (pieces? none rest).map (.char c :: ·)
  | none, '[' :: '!' :: rest => pieces? (some (true, [])) rest
  | none, '[' :: '^' :: rest => pieces? (some (true, [])) rest
  | none, c :: rest =>
    if c = '[' then pieces? (some (false, [])) rest
    else if c = '?' then (pieces? none rest).map (.one :: ·)
    else if c = '*' then (pieces? none rest).map (.run :: ·)
    else (pieces? none rest).map (.char c :: ·)
  | some (negated, members), c :: rest =>
    if c = ']' ∧ members ≠ [] then
      (pieces? none rest).map (.oneOf negated members.reverse :: ·)
    else pieces? (some (negated, c :: members)) rest

/-- Whether the piece is a class only if its ranges are right. -/
def Piece.isProper : Piece → Bool
  | .oneOf _ members => (Glob.ranges? members).isSome
  | _ => true

/-! ### Reading pieces -/

section

variable {rest : List Char}

theorem pieces?_negated {sign : Char} (h : sign = '!' ∨ sign = '^') :
  pieces? none ('[' :: sign :: rest) = pieces? (some (true, [])) rest
  := by
  rcases h with rfl | rfl <;> rfl

theorem pieces?_listed (h : ¬(rest.head? = some '!' ∨ rest.head? = some '^')) :
  pieces? none ('[' :: rest) = pieces? (some (false, [])) rest
  := by
  rw [pieces?]
  · rfl
  all_goals simp
  · rintro rest rfl
    simp at h
  · rintro rest rfl
    simp at h

theorem pieces?_plain {c : Char} (h : c ∉ ['?', '*', '[', '\\']) :
  pieces? none (c :: rest) = (pieces? none rest).map (.char c :: ·)
  := by
  simp only [List.mem_cons, not_or, List.not_mem_nil] at h
  rw [pieces?]
  · simp [h]
  all_goals simp_all

/-- The first member of a class is a member whatever it is. -/
theorem pieces?_first (negated : Bool) (c : Char) :
  pieces? (some (negated, [])) (c :: rest) = pieces? (some (negated, [c])) rest
  := by
  simp [pieces?]

/-- A class ends with the first closing bracket behind its first member. -/
theorem pieces?_closed (negated : Bool) {first : List Char} (hfirst : first ≠ [])
    {members : List Char} (h : ']' ∉ members) :
  pieces? (some (negated, first)) (members ++ ']' :: rest)
    = (pieces? none rest).map (.oneOf negated (first.reverse ++ members) :: ·)
  := by
  induction members generalizing first with
  | nil => simp [pieces?, hfirst]
  | cons c members ih =>
    obtain ⟨hc, hmembers⟩ := not_or.mp (mt List.mem_cons.mpr h)
    rw [List.cons_append, pieces?, if_neg (by simp [Ne.symm hc]),
      ih (List.cons_ne_nil c first) hmembers]
    simp

/-- A class with no closing bracket is none. -/
theorem pieces?_unclosed (negated : Bool) {first members : List Char} (h : ']' ∉ members) :
  pieces? (some (negated, first)) members = none
  := by
  induction members generalizing first with
  | nil => rfl
  | cons c members ih =>
    obtain ⟨hc, hmembers⟩ := not_or.mp (mt List.mem_cons.mpr h)
    rw [pieces?, if_neg (by simp [Ne.symm hc]), ih hmembers]

end

/-! ### Names that pieces fit -/

/-- What a text is made of when pieces are laid over it. -/
structure Letters (α : Type) where
  /-- The letters that a character is written with. -/
  spell : Char → List α
  /-- Whether `?` and `*` take a letter. -/
  free : α → Bool
  /-- Whether a letter is in one of the ranges. -/
  listed : List (Char × Char) → α → Bool

/-- A text made of characters. -/
def Letters.chars : Letters Char where
  spell c := [c]
  free c := c != '/'
  listed ranges c := ranges.any fun (low, high) => low ≤ c && c ≤ high

/-- A text made of bytes. -/
def Letters.bytes : Letters UInt8 where
  spell := String.utf8EncodeChar
  free := wild
  listed := Glob.classHolds false

variable {α : Type} {letters : Letters α} {pieces : List Piece}

/-- Which parts of a text the piece takes. -/
def Piece.Takes (letters : Letters α) : Piece → List α → Prop
  | .char c, part => part = letters.spell c
  | .one, part => ∃ a, part = [a] ∧ letters.free a = true
  | .run, part => ∀ a ∈ part, letters.free a = true
  | .oneOf negated members, part =>
    ∃ a ranges, part = [a] ∧ Glob.ranges? members = some ranges
      ∧ letters.listed ranges a ≠ negated

/-- Whether a text falls into parts that the pieces take one after the other. -/
def Fits (letters : Letters α) : List Piece → List α → Prop
  | [], text => text = []
  | piece :: rest, text =>
    ∃ part behind, text = part ++ behind ∧ piece.Takes letters part ∧ Fits letters rest behind

/-- Whether a segment, read as it is written, has no fault. -/
def WellFormed (raw : List Char) : Prop :=
  ∃ pieces, pieces? none raw = some pieces ∧ ∀ piece ∈ pieces, piece.isProper = true

/-- Whether a segment, read as it is written, accepts a name. -/
def Means (raw name : List Char) : Prop :=
  ∃ pieces, pieces? none raw = some pieces ∧ Fits .chars pieces name

/-- A text fits no class with ranges that are wrong. -/
theorem isProper_of_fits {text : List α} (h : Fits letters pieces text) :
  ∀ piece ∈ pieces, piece.isProper = true
  := by
  induction pieces generalizing text with
  | nil => nofun
  | cons piece rest ih =>
    obtain ⟨part, behind, -, htakes, hrest⟩ := h
    apply List.forall_mem_cons.mpr ⟨_, ih hrest⟩
    cases piece with
    | oneOf negated members =>
      obtain ⟨_, ranges, -, hranges, -⟩ := htakes
      simp [Piece.isProper, hranges]
    | _ => rfl

/-! ### Runs behind runs -/

/-- The pieces with one run in place of several behind each other; `afterRun` says whether there is
one before them. -/
def merged (afterRun : Bool) : List Piece → List Piece
  | [] => []
  | .run :: rest => if afterRun then merged true rest else .run :: merged true rest
  | piece :: rest => piece :: merged false rest

theorem fits_run_run {text : List α} :
  Fits letters (.run :: .run :: pieces) text ↔ Fits letters (.run :: pieces) text
  := by
  constructor
  · rintro ⟨part, _, rfl, hpart, more, behind, rfl, hmore, hrest⟩
    refine ⟨part ++ more, behind, by simp, ?_, hrest⟩
    intro a ha
    rcases List.mem_append.mp ha with ha | ha
    · apply hpart a ha
    · apply hmore a ha
  · rintro ⟨part, behind, rfl, hpart, hrest⟩
    use part, behind, rfl, hpart, [], behind, rfl, nofun, hrest

theorem fits_cons_congr {piece : Piece} {rest rest' : List Piece}
    (h : ∀ text, Fits letters rest text ↔ Fits letters rest' text) (text : List α) :
  Fits letters (piece :: rest) text ↔ Fits letters (piece :: rest') text
  := by
  simp only [Fits, h]

/-- A run behind a run has nothing left to take. -/
theorem fits_merged (pieces : List Piece) (text : List α) :
  (Fits letters (merged false pieces) text ↔ Fits letters pieces text)
    ∧ (Fits letters (.run :: merged true pieces) text ↔ Fits letters (.run :: pieces) text)
  := by
  induction pieces generalizing text with
  | nil => exact ⟨.rfl, .rfl⟩
  | cons piece rest ih =>
    by_cases hrun : piece = .run
    · subst hrun
      use (ih text).2
      apply (ih text).2.trans fits_run_run.symm
    · have hmerged : ∀ afterRun, merged afterRun (piece :: rest) = piece :: merged false rest := by
        intro afterRun
        cases piece <;> first | contradiction | rfl
      have hrest : ∀ text, Fits letters (piece :: merged false rest) text
          ↔ Fits letters (piece :: rest) text := fits_cons_congr fun text => (ih text).1
      rw [hmerged, hmerged]
      use hrest text
      apply fits_cons_congr hrest text

/-! ### The tokens of pieces -/

/-- The token of a glob that stands for the piece. -/
def Piece.token? : Piece → Option Glob.Token
  | .char c => some (.literal c)
  | .one => some .any
  | .run => some .star
  | .oneOf negated members => (Glob.ranges? members).map (.charClass negated)

theorem isSome_token? (piece : Piece) :
  piece.token?.isSome = piece.isProper
  := by
  cases piece <;> simp [Piece.token?, Piece.isProper]

theorem mapM_token?_cons {piece : Piece} :
  (piece :: pieces).mapM Piece.token?
    = piece.token?.bind fun token => (pieces.mapM Piece.token?).map (token :: ·)
  := by
  rw [List.mapM_cons]
  simp only [Option.map_eq_bind]
  rfl

theorem mapM_token?_cons_iff {piece : Piece} {tokens : List Glob.Token} :
  (piece :: pieces).mapM Piece.token? = some tokens
    ↔ ∃ token rest, piece.token? = some token ∧ pieces.mapM Piece.token? = some rest
      ∧ token :: rest = tokens
  := by
  rw [mapM_token?_cons]
  simp [Option.bind_eq_some_iff]

/-- The row before a token says that the piece takes a part. -/
theorem says_token {piece : Piece} {token : Glob.Token} (h : piece.token? = some token)
    {text : List UInt8} {k : Glob.Row} {P : List UInt8 → Prop} (hk : k.Says text P) :
  (token.row wild text k).Says text fun rest =>
    ∃ part behind, rest = part ++ behind ∧ piece.Takes .bytes part ∧ P behind
  := by
  cases piece with
  | char c =>
    obtain rfl := Option.some.inj h
    rw [Glob.Token.row]
    apply (hk.bytes (String.utf8EncodeChar c)).congr
    simp [Piece.Takes, Letters.bytes]
  | one =>
    obtain rfl := Option.some.inj h
    rw [Glob.Token.row]
    apply (hk.byte wild).congr
    intro rest
    constructor
    · rintro ⟨b, behind, rfl, hb, hrest⟩
      use [b], behind, rfl, ⟨b, rfl, hb⟩, hrest
    · rintro ⟨_, behind, rfl, ⟨b, rfl, hb⟩, hrest⟩
      use b, behind, rfl, hb, hrest
  | run =>
    obtain rfl := Option.some.inj h
    rw [Glob.Token.row]
    apply hk.run wild
  | oneOf negated members =>
    obtain ⟨ranges, hranges, rfl⟩ := Option.map_eq_some_iff.mp h
    rw [Glob.Token.row]
    apply (hk.byte (Glob.classHolds negated ranges)).congr
    have hlisted : ∀ b, Glob.classHolds negated ranges b = true
        ↔ Letters.bytes.listed ranges b ≠ negated := by
      intro b
      simp [Glob.classHolds, Letters.bytes]
    intro rest
    constructor
    · rintro ⟨b, behind, rfl, hb, hrest⟩
      use [b], behind, rfl, ⟨b, ranges, rfl, hranges, (hlisted b).mp hb⟩, hrest
    · rintro ⟨_, behind, rfl, ⟨b, _, rfl, hranges', hb⟩, hrest⟩
      obtain rfl := Option.some.inj (hranges.symm.trans hranges')
      use b, behind, rfl, (hlisted b).mpr hb, hrest

/-- The row before the tokens of pieces says what the pieces fit. -/
theorem says_tokens {tokens : List Glob.Token} (h : pieces.mapM Piece.token? = some tokens)
    (text : List UInt8) :
  (Glob.tokenRow wild text tokens (Glob.Row.done text)).Says text (Fits .bytes pieces)
  := by
  induction pieces generalizing tokens with
  | nil =>
    obtain rfl : [] = tokens := by simpa using h
    apply Glob.Row.says_done text
  | cons piece rest ih =>
    obtain ⟨token, tokens, htoken, htokens, rfl⟩ := mapM_token?_cons_iff.mp h
    rw [Glob.tokenRow]
    apply says_token htoken (ih htokens)

/-- A glob of the tokens of pieces accepts what the pieces fit. -/
theorem accepts_tokens_iff {tokens : List Glob.Token} (h : pieces.mapM Piece.token? = some tokens)
    (text : List UInt8) :
  Glob.accepts wild tokens text = true ↔ Fits .bytes pieces text
  := by
  have hdepth : tokens ≠ [.depthFirst] := by
    rintro rfl
    cases pieces with
    | nil => simp at h
    | cons piece rest =>
      obtain ⟨token, _, htoken, -, heq⟩ := mapM_token?_cons_iff.mp h
      obtain ⟨rfl, -⟩ := List.cons.inj heq
      cases piece <;> simp [Piece.token?] at htoken
  rw [Glob.accepts]
  · apply (says_tokens h text).first_iff
  · apply hdepth

end Compendium.Segment
