import Compendium.Pattern
import Compendium.Proofs.Pattern.Cut
import Compendium.Proofs.Text.Pieces

/-!
# What a pattern means

A pattern is read into a normal form: of adjacent `**` one is kept, an unanchored pattern begins
with `**`, and a segment for one name stands before a `**` at the end.  `Outline.Covers` says
without a normal form which names a pattern matches, by cutting them into pieces for the parts of
the pattern as they are written, and `Pattern.matchesNames` decides it.
-/

namespace Compendium.Pattern

/-! ### The meaning of the parts -/

/-- The part `**`. -/
def depthPart : List Char := ['*', '*']

/-- Which pieces of the names a part takes: any piece for `**`, and one name that the part
accepts for any other part. -/
def PartTakes (part : List Char) (piece : List (List Char)) : Prop :=
  part = depthPart ∨ ∃ name segment,
    piece = [name] ∧ Segment.read part = .ok segment ∧ segment.accepts name = true

/-- Whether names can be cut into pieces, one for each part.  A `**` at the end takes at least
one name, unless it is the only part. -/
def Fits (parts : List (List Char)) (names : List (List Char)) : Prop :=
  Cut PartTakes (fun last => parts.getLast? = some depthPart → parts.length ≠ 1 → last ≠ [])
    parts names

/-- The parts of a body. -/
def Outline.parts (o : Outline) : List (List Char) := Text.pieces '/' o.body

/-- Whether the parts fit names, of which an unanchored pattern may skip the first ones. -/
def Outline.Fits (o : Outline) (names : List (List Char)) : Prop :=
  if o.anchored then Pattern.Fits o.parts names
  else ∃ skipped rest, names = skipped ++ rest ∧ Pattern.Fits o.parts rest

/-- Whether a pattern covers the names that lead to an entry.  For a directory pattern that is
not negated, the names up to the entry or up to a directory above it have to fit. -/
def Outline.Covers (o : Outline) (names : List (List Char)) (isDir : Bool) : Prop :=
  if o.dirOnly ∧ ¬ o.negated then
    ∃ before after, names = before ++ after ∧ before ≠ [] ∧ (after ≠ [] ∨ isDir)
      ∧ o.Fits before
  else if o.dirOnly then isDir ∧ o.Fits names
  else o.Fits names

/-! ### Reading parts -/

/-- A segment is what a part is read as. -/
def Reads (part : List Char) (segment : Segment) : Prop :=
  part ≠ [] ∧ Segment.read part = .ok segment

/-- Only `**` is read as `**`. -/
theorem read_eq_anyDepth_iff {part : List Char} :
  Segment.read part = .ok .anyDepth ↔ part = depthPart
  := by
  constructor
  · intro h
    by_contra hne
    have hne : part ≠ ['*', '*'] := hne
    rw [Segment.read, if_neg hne] at h
    split at h
    · simp at h
    · rw [Segment.ofGlobText] at h
      split at h <;> simp at h
  · rintro rfl
    simp [Segment.read, depthPart]

theorem isAnyDepth_iff {segment : Segment} :
  segment.isAnyDepth = true ↔ segment = .anyDepth
  := by
  cases segment <;> simp [Segment.isAnyDepth]

/-- A part takes the same pieces as the segment it is read as. -/
theorem partTakes_iff {part : List Char} {segment : Segment} (h : Reads part segment)
    (piece : List (List Char)) :
  PartTakes part piece ↔ segment.Takes piece
  := by
  by_cases hd : part = depthPart
  · obtain rfl : segment = .anyDepth := by
      have := read_eq_anyDepth_iff.mpr hd
      rw [h.2] at this
      apply Except.ok.inj this
    simp [PartTakes, hd, Segment.takes_anyDepth]
  · have hs : segment ≠ .anyDepth := by
      rintro rfl
      apply hd (read_eq_anyDepth_iff.mp h.2)
    simp [PartTakes, hd, h.2, Segment.takes_iff hs]

/-- The last part is `**` if the last segment is. -/
theorem getLast?_eq_anyDepth_iff {parts : List (List Char)} {segments : List Segment}
    (h : List.Forall₂ Reads parts segments) :
  segments.getLast? = some .anyDepth ↔ parts.getLast? = some depthPart
  := by
  induction h with
  | nil => simp
  | @cons part segment parts segments hp hrest ih =>
    cases hrest with
    | nil =>
      simp only [List.getLast?_singleton, Option.some.injEq]
      rw [← read_eq_anyDepth_iff, hp.2, Except.ok.injEq]
    | cons => simpa only [List.getLast?_cons_cons] using ih

/-- Behind a segment, reading parts gives segments that accept the same names as those the parts
are read as one by one. -/
theorem exists_of_readParts {parts : List (List Char)} {last : Segment}
    {segments : List Segment} (h : readParts (some last) parts = .ok segments) :
  ∃ full, List.Forall₂ Reads parts full
    ∧ (last :: segments).getLast? = (last :: full).getLast?
    ∧ ∀ (final : List (List Char) → Prop), (∀ piece q, final q → final (piece ++ q)) →
      ∀ names, Cut Segment.Takes final (last :: segments) names
        ↔ Cut Segment.Takes final (last :: full) names
  := by
  induction parts generalizing last segments with
  | nil =>
    obtain rfl : segments = [] := by simpa [readParts] using h.symm
    use []
    simp
  | cons part rest ih =>
    rw [readParts] at h
    split at h
    · simp at h
    rename_i hempty
    split at h
    · simp at h
    rename_i segment hread
    have hpart : Reads part segment := ⟨by simpa using hempty, hread⟩
    split at h
    · -- The part is a `**` right behind another one and is left out.
      rename_i hdepth
      simp only [Option.any_some, Bool.and_eq_true, isAnyDepth_iff] at hdepth
      obtain ⟨rfl, rfl⟩ := hdepth
      obtain ⟨full, hfull, hlast, hcut⟩ := ih h
      use .anyDepth :: full, .cons hpart hfull
      constructor
      · simpa using hlast
      · intro final hfinal names
        rw [hcut final hfinal, Segment.cut_anyDepth_anyDepth hfinal]
    · split at h
      · simp at h
      rename_i tail htail
      obtain rfl : segment :: tail = segments := Except.ok.inj h
      obtain ⟨full, hfull, hlast, hcut⟩ := ih htail
      use segment :: full, .cons hpart hfull
      constructor
      · simpa using hlast
      · intro final hfinal names
        apply Segment.cut_cons_congr (by simp) (by simp) (hcut final hfinal)

/-- A segment for one name before a `**` at the end makes the `**` take at least one name. -/
theorem cut_insertAnyOne {segments : List Segment} (h : segments.getLast? = some .anyDepth)
    (names : List (List Char)) :
  Cut Segment.Takes (fun _ => True) (insertAnyOne segments) names
    ↔ Cut Segment.Takes (· ≠ []) segments names
  := by
  induction segments generalizing names with
  | nil => simp at h
  | cons segment rest ih =>
    cases rest with
    | nil =>
      obtain rfl : segment = .anyDepth := by simpa using h
      simp only [insertAnyOne, Cut.cons_iff (List.cons_ne_nil _ _), Cut.singleton_iff,
        Segment.takes_anyDepth, Segment.takes_iff (show Segment.anyOne ≠ .anyDepth by simp),
        Segment.accepts, true_and, and_true]
      cases names <;> simp
    | cons next rest =>
      rw [List.getLast?_cons_cons] at h
      have hne : insertAnyOne (next :: rest) ≠ [] := by cases rest <;> simp [insertAnyOne]
      rw [insertAnyOne, Cut.cons_iff hne, Cut.cons_iff (by simp)]
      · simp only [ih h]
      · simp

/-! ### Reading bodies -/

/-- A body ends in `/**` if its last part is `**` and is not the only one. -/
theorem endsInDepth_iff {body : List Char} :
  endsInDepth body = true ↔ (Text.pieces '/' body).getLast? = some depthPart
    ∧ (Text.pieces '/' body).length ≠ 1
  := by
  have key : endsInDepth body = true ↔ ∃ cs, body = cs ++ '/' :: depthPart := by
    rw [endsInDepth, Text.after?_isSome_iff]
    constructor
    · rintro ⟨cs, h⟩
      use cs.reverse
      rw [← List.reverse_inj, h]
      simp [depthPart]
    · rintro ⟨cs, rfl⟩
      use cs.reverse
      simp [depthPart]
  rw [key]
  constructor
  · rintro ⟨cs, rfl⟩
    have hd : Text.pieces '/' depthPart = [depthPart] := Text.pieces_of_notMem (by decide)
    have hcs := List.length_pos_of_ne_nil (Text.pieces_ne_nil '/' cs)
    rw [Text.pieces_append, hd]
    constructor
    · simp
    · simp only [List.length_append, List.length_singleton]
      omega
  · rintro ⟨hlast, hlen⟩
    obtain ⟨before, hb⟩ := List.getLast?_eq_some_iff.mp hlast
    apply Text.eq_append_of_pieces hb
    rintro rfl
    simp [hb] at hlen

/-- The condition on the last piece asks for the last part. -/
theorem cut_parts_iff {parts : List (List Char)} {full : List Segment}
    (h : List.Forall₂ Reads parts full) {final : List (List Char) → Prop}
    (names : List (List Char)) :
  Cut PartTakes final parts names ↔ Cut Segment.Takes final full names
  := by
  apply Cut.congr
  apply h.imp fun _ _ hp => partTakes_iff hp

/-- The segments of a body before a segment for one name is put before the last of them. -/
def normalSegments (anchored : Bool) (parts : List (List Char)) : Except Fault (List Segment) :=
  if anchored then readParts none parts
  else (readParts (some .anyDepth) parts).map (.anyDepth :: ·)

theorem readBody_eq (anchored : Bool) (body : List Char) :
  readBody anchored body =
    if endsInDepth body then
      (normalSegments anchored (Text.pieces '/' body)).map insertAnyOne
    else normalSegments anchored (Text.pieces '/' body)
  := rfl

/-- The segments of a body accept the names that those its parts are read as one by one accept,
after any number of names if the pattern is not anchored. -/
theorem exists_of_normalSegments {anchored : Bool} {parts : List (List Char)}
    {segments : List Segment} (hp : parts ≠ [])
    (h : normalSegments anchored parts = .ok segments) :
  ∃ full, List.Forall₂ Reads parts full ∧ segments.getLast? = full.getLast?
    ∧ ∀ (final : List (List Char) → Prop), (∀ piece q, final q → final (piece ++ q)) →
      ∀ names, Cut Segment.Takes final segments names
        ↔ if anchored then Cut Segment.Takes final full names
          else ∃ skipped rest, names = skipped ++ rest ∧ Cut Segment.Takes final full rest
  := by
  rw [normalSegments] at h
  cases anchored with
  | false =>
    simp only [Bool.false_eq_true, if_false] at h
    cases hread : readParts (some .anyDepth) parts with
    | error fault => simp [hread, Except.map] at h
    | ok tail =>
      obtain rfl : .anyDepth :: tail = segments := by simpa [hread, Except.map] using h
      obtain ⟨full, hfull, hlast, hcut⟩ := exists_of_readParts hread
      have hne : full ≠ [] := by
        rintro rfl
        apply hp
        apply List.forall₂_nil_right_iff.mp hfull
      use full, hfull
      constructor
      · rw [hlast, List.getLast?_cons_of_ne_nil hne]
      · intro final hfinal names
        rw [hcut final hfinal, Cut.cons_iff hne]
        simp [Segment.takes_anyDepth]
  | true =>
    simp only [if_true] at h
    obtain ⟨part, rest, rfl⟩ := List.exists_cons_of_ne_nil hp
    rw [readParts] at h
    split at h
    · simp at h
    rename_i hempty
    split at h
    · simp at h
    rename_i segment hread
    simp only [Option.any_none, Bool.and_false, Bool.false_eq_true, if_false] at h
    split at h
    · simp at h
    rename_i tail htail
    obtain rfl : segment :: tail = segments := Except.ok.inj h
    obtain ⟨full, hfull, hlast, hcut⟩ := exists_of_readParts htail
    use segment :: full, .cons ⟨by simpa using hempty, hread⟩ hfull, hlast
    intro final hfinal names
    simpa using hcut final hfinal names

/-- The segments of a body accept the names that its parts fit. -/
theorem acceptAll_readBody_iff {anchored : Bool} {body : List Char} {segments : List Segment}
    (h : readBody anchored body = .ok segments) (names : List (List Char)) :
  Segment.acceptAll segments names = true
    ↔ if anchored then Fits (Text.pieces '/' body) names
      else ∃ skipped rest, names = skipped ++ rest ∧ Fits (Text.pieces '/' body) rest
  := by
  have hp := Text.pieces_ne_nil '/' body
  rw [readBody_eq] at h
  by_cases hd : endsInDepth body = true
  · rw [if_pos hd] at h
    cases hn : normalSegments anchored (Text.pieces '/' body) with
    | error fault => simp [hn, Except.map] at h
    | ok normal =>
      obtain rfl : insertAnyOne normal = segments := by simpa [hn, Except.map] using h
      obtain ⟨full, hfull, hlast, hcut⟩ := exists_of_normalSegments hp hn
      obtain ⟨hdepth, hlen⟩ := endsInDepth_iff.mp hd
      have hnormal : normal.getLast? = some .anyDepth :=
        hlast.trans ((getLast?_eq_anyDepth_iff hfull).mpr hdepth)
      rw [Segment.acceptAll_iff_cut, cut_insertAnyOne hnormal, hcut _ (by simp_all)]
      simp only [Fits, ← cut_parts_iff hfull, hdepth, hlen, true_implies, ne_eq,
        not_false_eq_true]
  · rw [if_neg hd] at h
    obtain ⟨full, hfull, hlast, hcut⟩ := exists_of_normalSegments hp h
    rw [endsInDepth_iff, not_and] at hd
    have hfinal : ∀ last : List (List Char),
        ((Text.pieces '/' body).getLast? = some depthPart → (Text.pieces '/' body).length ≠ 1 →
          last ≠ []) ↔ True := by
      intro last
      simp only [iff_true]
      intro hdepth hlen
      apply absurd hlen (hd hdepth)
    rw [Segment.acceptAll_iff_cut, hcut _ (by simp)]
    simp only [Fits, ← cut_parts_iff hfull, hfinal]

/-! ### The whole pattern -/

/-- What reading a line gives: its marks, and the segments of its body. -/
theorem exists_of_read {raw : String} {p : Pattern} (h : read raw = .ok (some p)) :
  p.negated = (outline (Text.trim raw.toList)).negated
    ∧ p.dirOnly = (outline (Text.trim raw.toList)).dirOnly
    ∧ readBody (outline (Text.trim raw.toList)).anchored (outline (Text.trim raw.toList)).body
      = .ok p.segments
  := by
  rw [read, readText] at h
  split at h
  · simp at h
  dsimp only at h
  split at h
  · simp at h
  cases hbody : readBody (outline (Text.trim raw.toList)).anchored
      (outline (Text.trim raw.toList)).body with
  | error fault => simp [hbody, Except.map] at h
  | ok segments =>
    simp only [hbody, Except.map, Except.ok.injEq, Option.some.injEq] at h
    subst h
    simp

theorem beginnings_cons {α : Type} (name : α) {names : List α} (h : names ≠ []) :
  beginnings (name :: names)
    = ([name], false) :: (beginnings names).map fun (before, whole) => (name :: before, whole)
  := by
  cases names with
  | nil => contradiction
  | cons => rfl

/-- The beginnings of a list are what comes before any of its ends. -/
theorem mem_beginnings_iff {α : Type} {names before : List α} {whole : Bool} :
  (before, whole) ∈ beginnings names
    ↔ before ≠ [] ∧ ∃ after, names = before ++ after ∧ (whole = true ↔ after = [])
  := by
  induction names generalizing before with
  | nil => simp +contextual [beginnings]
  | cons name names ih =>
    cases names with
    | nil =>
      simp only [beginnings, List.mem_singleton, Prod.mk.injEq]
      constructor
      · rintro ⟨rfl, rfl⟩
        simp
      · rintro ⟨hb, after, h, hw⟩
        cases before with
        | nil => contradiction
        | cons _ before =>
          simp only [List.cons_append, List.cons.injEq, List.nil_eq, List.append_eq_nil_iff] at h
          obtain ⟨rfl, rfl, rfl⟩ := h
          simpa using hw
    | cons next names =>
      rw [beginnings_cons name (by simp), List.mem_cons, List.mem_map]
      constructor
      · rintro (h | ⟨⟨b, w⟩, hmem, h⟩)
        · obtain ⟨rfl, rfl⟩ := Prod.mk.inj h
          simp
        · obtain ⟨rfl, rfl⟩ := Prod.mk.inj h
          obtain ⟨-, after, hafter, hw⟩ := ih.mp hmem
          exact ⟨by simp, after, by rw [hafter]; rfl, hw⟩
      · rintro ⟨hb, after, h, hw⟩
        cases before with
        | nil => contradiction
        | cons _ before =>
          simp only [List.cons_append, List.cons.injEq] at h
          obtain ⟨rfl, h⟩ := h
          by_cases hbefore : before = []
          · subst hbefore
            left
            have : after ≠ [] := by
              rintro rfl
              simp at h
            simpa [this] using hw
          · right
            exact ⟨(before, whole), ih.mpr ⟨hbefore, after, h, hw⟩, rfl⟩

/-- A pattern matches the names that lead to an entry exactly if its parts, as they are written,
cover them. -/
theorem matchesNames_iff_covers {raw : String} {p : Pattern} (h : read raw = .ok (some p))
    {names : List (List Char)} (hn : names ≠ []) (isDir : Bool) :
  p.matchesNames names isDir = true ↔ (outline (Text.trim raw.toList)).Covers names isDir
  := by
  obtain ⟨hneg, hdir, hbody⟩ := exists_of_read h
  have haccept : ∀ names, Segment.acceptAll p.segments names = true
      ↔ (outline (Text.trim raw.toList)).Fits names := acceptAll_readBody_iff hbody
  rw [matchesNames, if_neg (by simpa using hn), Outline.Covers, ← hneg, ← hdir]
  by_cases hd : p.dirOnly = true
  · by_cases hg : p.negated = true
    · simp [hd, hg, haccept]
    · simp only [hd, hg, Bool.not_false, Bool.and_true, if_true, List.any_eq_true,
        Bool.and_eq_true, Bool.or_eq_true, haccept, true_and]
      constructor
      · rintro ⟨⟨before, whole⟩, hmem, hw, hfits⟩
        obtain ⟨hb, after, hafter, hwhole⟩ := mem_beginnings_iff.mp hmem
        use before, after, hafter, hb
        cases whole <;> simp_all
      · rintro ⟨before, after, hafter, hb, hw, hfits⟩
        use (before, decide (after = []))
        constructor
        · apply mem_beginnings_iff.mpr
          use hb, after, hafter
          simp
        · simp_all
  · simp [hd, haccept]

/-- The pattern `a/**/**/` covers what is two levels below `a`, and of what is right in `a` only
the directories. -/
theorem covers_below_depth :
  read "a/**/**/" = .ok (some ⟨"a/**/**/", false, true, true,
      [.literal ['a'], .anyOne, .anyDepth]⟩)
    ∧ (outline (Text.trim "a/**/**/".toList)).Covers [['a'], ['b'], ['c']] false
    ∧ ¬ (outline (Text.trim "a/**/**/".toList)).Covers [['a'], ['b']] false
  := by
  have h : read "a/**/**/" = .ok (some ⟨"a/**/**/", false, true, true,
      [.literal ['a'], .anyOne, .anyDepth]⟩) := by
    cbv
  use h
  constructor
  · apply (matchesNames_iff_covers h (by simp) false).mp
    decide
  · rw [← matchesNames_iff_covers h (by simp) false]
    decide

end Compendium.Pattern
