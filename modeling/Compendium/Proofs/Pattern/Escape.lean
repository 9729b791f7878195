import Compendium.Proofs.Pattern.Plain
import Compendium.Proofs.Pattern.Reading
import Compendium.Proofs.Text.Trim

/-!
# Escapes and negation

A backslash at the start of a pattern says that the `!` or the `#` behind it is no mark.  It is
taken off where it can only be that.  Behind a mark of negation it stays, and makes the character
behind it stand for itself, which that character does anyway.  So a pattern and its negation match
the same.
-/

namespace Compendium.Pattern

/-! ### Escaped parts -/

/-- Apart from `**`, a part takes a name that the glob of its text accepts. -/
theorem partTakes_iff_admits {part : List Char} (h : part ≠ depthPart)
    (piece : List (List Char)) :
  PartTakes part piece ↔ ∃ name, piece = [name] ∧ Segment.Admits part name
  := by
  rw [PartTakes, or_iff_right h]
  simp only [exists_and_left, Segment.exists_accepts_iff h]

theorem readable_iff_compiles {part : List Char} (hne : part ≠ []) (h : part ≠ depthPart) :
  Readable part ↔ Segment.Compiles part
  := by
  rw [← Segment.exists_read_iff h]
  simp [Readable, Reads, hne]

/-- A backslash makes no difference before a character that stands for itself. -/
theorem PartAlike.escaped {c : Char} (h : Segment.isWild c = false) (rest : List Char) :
  PartAlike ('\\' :: c :: rest) (c :: rest)
  := by
  have hescaped : '\\' :: c :: rest ≠ depthPart := by simp [depthPart]
  have hplain : c :: rest ≠ depthPart := by
    rintro ⟨⟩
    contradiction
  constructor
  · rw [readable_iff_compiles (by simp) hescaped, readable_iff_compiles (by simp) hplain,
      Segment.compiles_escaped_iff h]
  · intro piece
    rw [partTakes_iff_admits hescaped, partTakes_iff_admits hplain]
    simp only [Segment.admits_escaped_iff h]

/-- The parts of a text are read alike with and without a backslash before a first character that
stands for itself. -/
theorem forall₂_partAlike_escaped {c : Char} (h : Segment.isWild c = false) (hslash : c ≠ '/')
    (rest : List Char) :
  List.Forall₂ PartAlike (Text.pieces '/' ('\\' :: c :: rest)) (Text.pieces '/' (c :: rest))
  := by
  obtain ⟨first, more, hrest⟩ := List.exists_cons_of_ne_nil (Text.pieces_ne_nil '/' rest)
  have hplain := Text.pieces_cons_of_ne hslash hrest
  rw [Text.pieces_cons_of_ne (by decide) hplain, hplain]
  apply List.Forall₂.cons
  · apply PartAlike.escaped h
  · apply forall₂_partAlike_refl

/-! ### Marks -/

/-- How the beginning of a text is taken: as a mark of negation, as an escape of a character that
would be a mark, or as what it is. -/
theorem splitNegation_cases (text : List Char) :
  (∃ rest, text = '!' :: rest ∧ splitNegation text = (true, rest))
    ∨ (∃ c rest, (c = '!' ∨ c = '#') ∧ text = '\\' :: c :: rest
      ∧ splitNegation text = (false, c :: rest))
    ∨ splitNegation text = (false, text)
  := by
  unfold splitNegation
  split
  · exact .inl ⟨_, rfl, rfl⟩
  · exact .inr (.inl ⟨_, _, .inl rfl, rfl, rfl⟩)
  · exact .inr (.inl ⟨_, _, .inr rfl, rfl, rfl⟩)
  · right
    right
    rfl

theorem splitTrailingSlash_of_ne {text : List Char} (h : text.getLast? ≠ some '/') :
  splitTrailingSlash text = (false, text)
  := if_neg h

theorem splitTrailingSlash_concat (text : List Char) :
  splitTrailingSlash (text ++ ['/']) = (true, text)
  := by
  simp [splitTrailingSlash]

theorem splitRoot_cons_of_ne {c : Char} {rest : List Char} (hdot : c ≠ '.') (hslash : c ≠ '/') :
  splitRoot (c :: rest) = (false, c :: rest)
  := by
  unfold splitRoot
  split <;> simp_all

/-- With a mark of negation before it, a text that has none and is not only for directories has an
outline like its own. -/
theorem outline_negated {text : List Char} (hneg : (outline text).negated = false)
    (hlast : text.getLast? ≠ some '/') :
  (outline text).dirOnly = false ∧ (outline ('!' :: text)).negated = true
    ∧ (outline ('!' :: text)).dirOnly = false
    ∧ (outline ('!' :: text)).Alike (outline text)
  := by
  have hmarked : outline ('!' :: text)
      = ⟨true, false, (splitRoot text).1, (splitRoot text).2⟩ := by
    simp only [outline, splitNegation, splitTrailingSlash_of_ne hlast]
  rcases splitNegation_cases text with ⟨rest, rfl, hsplit⟩ | ⟨c, rest, hc, rfl, hsplit⟩ | hsplit
  · simp [outline, hsplit] at hneg
  · have hplain : Segment.isWild c = false ∧ c ≠ '.' ∧ c ≠ '/' := by
      rcases hc with rfl | rfl <;> decide
    have hrest : (c :: rest).getLast? ≠ some '/' := by
      rwa [List.getLast?_cons_cons] at hlast
    have htext : outline ('\\' :: c :: rest) = ⟨false, false, false, c :: rest⟩ := by
      simp only [outline, hsplit, splitTrailingSlash_of_ne hrest,
        splitRoot_cons_of_ne hplain.2.1 hplain.2.2]
    rw [splitRoot_cons_of_ne (by decide) (by decide)] at hmarked
    rw [hmarked, htext]
    refine ⟨rfl, rfl, rfl, ?_, ?_⟩
    · simp [Outline.anchored]
    · apply forall₂_partAlike_escaped hplain.1 hplain.2.2
  · have htext : outline text = ⟨false, false, (splitRoot text).1, (splitRoot text).2⟩ := by
      simp only [outline, hsplit, splitTrailingSlash_of_ne hlast]
    rw [hmarked, htext]
    use rfl, rfl, rfl, rfl
    apply forall₂_partAlike_refl

/-- A line that is read as a pattern that is not negated and does not end in a slash is read with a
mark of negation before it too, as a negated pattern that is tied to its directory alike and matches
the same names. -/
theorem read_negated {raw : String} {p : Pattern} (h : read raw = .ok (some p))
    (hneg : p.negated = false) (hlast : (Text.trim raw.toList).getLast? ≠ some '/') :
  ∃ q, read (String.ofList ('!' :: Text.trim raw.toList)) = .ok (some q) ∧ q.negated = true
    ∧ q.anchored = p.anchored
    ∧ ∀ names isDir, q.matchesNames names isDir = p.matchesNames names isDir
  := by
  obtain ⟨-, hparts, hp⟩ := of_readText h
  obtain ⟨hdir, hneg', hdir', halike⟩ := outline_negated (hp.negated.symm.trans hneg) hlast
  have hmark : Text.trim ['!'] = ['!'] := by decide
  have htrim : Text.trim ('!' :: Text.trim raw.toList) = '!' :: Text.trim raw.toList :=
    Text.trim_append hmark (Text.trim_trim raw.toList)
  have hcomment : isComment ('!' :: Text.trim raw.toList) = false := rfl
  rw [read_ofList htrim]
  rcases readText_cases hcomment with ⟨-, q, hq, hfrom⟩ | ⟨hfaulty, -⟩
  · use q, hq, hfrom.negated.trans hneg'
    constructor
    · rw [hfrom.anchored, hp.anchored, halike.anchored]
    · intro names isDir
      apply matchesNames_congr
      · rw [hfrom.dirOnly, hp.dirOnly, hdir', hdir]
      · -- Here the negation makes no difference, as neither is for directories only.
        rw [hfrom.dirOnly, hdir']
        intro hfalse
        contradiction
      · intro names _
        apply hfrom.acceptAll_eq hp halike
  · apply absurd ((forall_readable_iff halike.parts).mpr hparts) hfaulty

/-- The pattern `\!a?` matches the name `!ab` in any directory, and so does `!\!a?`, which is
negated. -/
theorem read_negated_escaped :
  ∃ p, read " \\!a?" = .ok (some p) ∧ p.negated = false
    ∧ (Text.trim " \\!a?".toList).getLast? ≠ some '/'
    ∧ p.matchesNames [['x'], ['!', 'a', 'b']] false = true
    ∧ ∃ q, read "!\\!a?" = .ok (some q) ∧ q.negated = true ∧ q.anchored = p.anchored
      ∧ q.matchesNames [['x'], ['!', 'a', 'b']] false = true
  := by
  have h : read " \\!a?" = .ok (some ⟨"\\!a?", false, false, false,
      [.anyDepth, .glob [.literal '!', .literal 'a', .any]]⟩) := by
    cbv
  have hlast : (Text.trim " \\!a?".toList).getLast? ≠ some '/' := by decide
  obtain ⟨q, hq, hneg, hanchored, hmatches⟩ := read_negated h rfl hlast
  refine ⟨_, h, rfl, hlast, ?_, q, hq, hneg, hanchored, ?_⟩
  · decide
  · rw [hmatches]
    decide

end Compendium.Pattern
