import Compendium.Proofs.Pattern.Escape

/-!
# Slashes at the start

A slash at the start of a pattern ties it to its directory, with or without a dot before it.  The
dot makes no difference as long as something that is not blank stands behind the slash.  Where
nothing does, the slash is at the end of the pattern too, and is taken off there: then only the dot
is left, as a name anywhere, or nothing at all.
-/

namespace Compendium.Pattern

/-- The text of a pattern that begins with a slash, or with a dot and a slash, behind the mark of
negation. -/
def rootedText (negated dotted : Bool) (rest : List Char) : List Char :=
  (if negated then ['!'] else []) ++ ((if dotted then ['.'] else []) ++ '/' :: rest)

section

variable (negated dotted : Bool) (rest : List Char)

theorem trim_rootedText :
  Text.trim (rootedText negated dotted rest) = rootedText negated dotted (Text.trimEnd rest)
  := by
  have hstart : Text.trim (rootedText negated dotted []) = rootedText negated dotted [] := by
    cases negated <;> cases dotted <;> decide
  have hsplit (more : List Char) :
      rootedText negated dotted more = rootedText negated dotted [] ++ more := by
    simp [rootedText]
  have hne : rootedText negated dotted [] ≠ [] := by simp [rootedText]
  rw [hsplit, Text.trim_append_of_ne_nil hstart hne, ← hsplit]

theorem isComment_rootedText :
  isComment (rootedText negated dotted rest) = false
  := by cases negated <;> cases dotted <;> rfl

variable {rest}

theorem splitTrailingSlash_append (h : rest ≠ []) (before : List Char) :
  splitTrailingSlash (before ++ rest)
    = ((splitTrailingSlash rest).1, before ++ (splitTrailingSlash rest).2)
  := by
  rw [splitTrailingSlash, splitTrailingSlash, List.getLast?_append_of_ne_nil before h]
  split
  · rw [List.dropLast_append_of_ne_nil h]
  · rfl

/-- With something behind the slash, the outline does not show the dot. -/
theorem outline_rootedText (h : rest ≠ []) :
  outline (rootedText negated dotted rest)
    = ⟨negated, (splitTrailingSlash rest).1, true, (splitTrailingSlash rest).2⟩
  := by
  have hnegation : splitNegation (rootedText negated dotted rest)
      = (negated, rootedText false dotted [] ++ rest) := by
    cases negated <;> cases dotted <;> rfl
  have hroot : splitRoot (rootedText false dotted [] ++ (splitTrailingSlash rest).2)
      = (true, (splitTrailingSlash rest).2) := by
    cases dotted <;> rfl
  simp only [outline, hnegation, splitTrailingSlash_append h, hroot]

end

/-- Texts with one outline are read alike but for the texts themselves. -/
theorem readText_of_outline_eq {text text' : List Char} (hcomment : isComment text = false)
    (hcomment' : isComment text' = false) (h : outline text = outline text') :
  (∃ p, readText text = .ok (some p)
      ∧ readText text' = .ok (some { p with text := String.ofList text' }))
    ∨ ∃ fault, readText text = .error fault ∧ readText text' = .error fault
  := by
  rw [readText_of_not_isComment hcomment, readText_of_not_isComment hcomment', ← h]
  split
  · exact .inr ⟨_, rfl, rfl⟩
  · cases readBody (outline text).anchored (outline text).body with
    | error fault => exact .inr ⟨fault, rfl, rfl⟩
    | ok segments => exact .inl ⟨_, rfl, rfl⟩

/-- With a dot before the slash and without, a text with something behind the slash that is not
blank is either faulty, with the same fault, or read as a pattern that is tied to its directory;
both patterns are then negated or neither is, and they match the same.  With only blanks behind the
slash, the text without the dot has no segments, and the one with it is read as a pattern for
directories anywhere whose name is a dot. -/
theorem read_rooted (negated : Bool) (rest : List Char) :
  if rest.all Text.isBlank = true then
    read (String.ofList (rootedText negated true rest))
        = .ok (some ⟨String.ofList (rootedText negated true []), negated, false, true,
          [.anyDepth, .literal ['.']]⟩)
      ∧ read (String.ofList (rootedText negated false rest)) = .error .noSegments
  else
    (∃ p q, read (String.ofList (rootedText negated true rest)) = .ok (some p)
        ∧ read (String.ofList (rootedText negated false rest)) = .ok (some q)
        ∧ p.negated = negated ∧ q.negated = negated ∧ p.anchored = true ∧ q.anchored = true
        ∧ ∀ names isDir, p.matchesNames names isDir = q.matchesNames names isDir)
      ∨ ∃ fault, read (String.ofList (rootedText negated true rest)) = .error fault
        ∧ read (String.ofList (rootedText negated false rest)) = .error fault
  := by
  have hread (dotted : Bool) : read (String.ofList (rootedText negated dotted rest))
      = readText (rootedText negated dotted (Text.trimEnd rest)) := by
    rw [read, String.toList_ofList, trim_rootedText]
  rw [hread, hread]
  split
  · rename_i hblank
    rw [Text.trimEnd_eq_nil_iff.mpr hblank]
    cases negated <;> exact ⟨rfl, rfl⟩
  · rename_i hblank
    have hne : Text.trimEnd rest ≠ [] := mt Text.trimEnd_eq_nil_iff.mp hblank
    have houtline : outline (rootedText negated true (Text.trimEnd rest))
        = outline (rootedText negated false (Text.trimEnd rest)) := by
      rw [outline_rootedText negated true hne, outline_rootedText negated false hne]
    rcases readText_of_outline_eq (isComment_rootedText negated true _)
        (isComment_rootedText negated false _) houtline with ⟨p, hp, hq⟩ | hfault
    · obtain ⟨-, -, hfrom⟩ := of_readText hp
      rw [outline_rootedText negated true hne] at hfrom
      left
      refine ⟨p, _, hp, hq, hfrom.negated, hfrom.negated, hfrom.anchored, hfrom.anchored, ?_⟩
      intro names isDir
      rfl
    · right
      apply hfault

/-- The pattern `./` is for directories named with a dot, while `/` is none. -/
theorem read_rooted_nothing :
  read "./" = .ok (some ⟨"./", false, false, true, [.anyDepth, .literal ['.']]⟩)
    ∧ read "/" = .error .noSegments
  := read_rooted false []

end Compendium.Pattern
