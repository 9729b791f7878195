import Compendium.Proofs.Pattern.Escape

/-!
# Directories and what they contain

A pattern with a slash at its end is for directories, and matches a file if it matches a directory
above the file.  A pattern with `/**` at its end is for what directories contain, and takes at least
one name below the directory.  With the same text before these ends the two match the same files.
-/

namespace Compendium.Pattern

/-- Whether a text begins with none of the characters that say something about the whole pattern. -/
def Unmarked (text : List Char) : Prop := ∀ c ∈ text.head?, c ∉ ['!', '#', '\\']

instance (text : List Char) : Decidable (Unmarked text) :=
  match text with
  | [] => isTrue (by simp [Unmarked])
  | c :: _ => decidable_of_iff (c ∉ ['!', '#', '\\']) (by simp [Unmarked])

/-- The text with a slash in it.  One without is for entries anywhere, which has to be said by `**`
before it once there are slashes. -/
def slashedText (text : List Char) : List Char :=
  if '/' ∈ text then text else depthPart ++ '/' :: text

/-- The text of the pattern for what is in the directories that a text is for. -/
def contentsText (text : List Char) : List Char := slashedText text ++ '/' :: depthPart

/-! ### Beginnings of texts -/

section

variable {text : List Char}

theorem Unmarked.append {more : List Char} (h : Unmarked text) (hmore : Unmarked more) :
  Unmarked (text ++ more)
  := by
  cases text with
  | nil => apply hmore
  | cons => apply h

theorem Unmarked.splitNegation_eq (h : Unmarked text) :
  splitNegation text = (false, text)
  := by
  rcases splitNegation_cases text with ⟨_, rfl, -⟩ | ⟨_, _, -, rfl, -⟩ | hsplit
  · simp [Unmarked] at h
  · simp [Unmarked] at h
  · apply hsplit

theorem Unmarked.isComment_eq (h : Unmarked text) (hne : text ≠ []) :
  isComment text = false
  := by
  cases text with
  | nil => contradiction
  | cons c text =>
    have hc : c ∉ ['!', '#', '\\'] := h c rfl
    simp_all [isComment]

/-- A slash at the start is taken off with or without a dot before it, and any other text stays as
it is. -/
theorem splitRoot_cases (text : List Char) :
  (∃ before rest, text = before ++ '/' :: rest ∧ splitRoot text = (true, rest))
    ∨ splitRoot text = (false, text)
  := by
  fun_cases splitRoot text with
  | case1 rest => exact .inl ⟨['.'], rest, rfl, rfl⟩
  | case2 rest => exact .inl ⟨[], rest, rfl, rfl⟩
  | case3 =>
    right
    rfl

theorem splitRoot_of_notMem (h : '/' ∉ text) :
  splitRoot text = (false, text)
  := by
  rcases splitRoot_cases text with ⟨before, rest, rfl, -⟩ | hsplit
  · simp at h
  · apply hsplit

/-- What stands behind a text with a slash in it has no part in the root. -/
theorem splitRoot_append (h : '/' ∈ text) (more : List Char) :
  splitRoot (text ++ more) = ((splitRoot text).1, (splitRoot text).2 ++ more)
  := by
  fun_cases splitRoot text with
  | case1 => rfl
  | case2 => rfl
  | case3 text hdot hslash =>
    cases text with
    | nil => simp at h
    | cons c rest =>
      have hc : c ≠ '/' := by
        rintro rfl
        apply hslash rest rfl
      cases rest with
      | nil => apply absurd (List.mem_singleton.mp h).symm hc
      | cons d rest =>
        unfold splitRoot
        split <;> simp_all

/-- Behind the root, the last part of a text is the last part of all. -/
theorem getLast?_pieces_splitRoot (text : List Char) :
  (Text.pieces '/' (splitRoot text).2).getLast? = (Text.pieces '/' text).getLast?
  := by
  rcases splitRoot_cases text with ⟨before, rest, rfl, hsplit⟩ | hsplit
  · rw [hsplit, Text.pieces_append, List.getLast?_append_of_ne_nil _ (Text.pieces_ne_nil '/' rest)]
  · rw [hsplit]

end

/-! ### Outlines of directories and of contents -/

theorem Outline.parts_ne_nil (o : Outline) :
  o.parts ≠ []
  := Text.pieces_ne_nil '/' o.body

/-- Whether the outline `inside` is for what is in the directories that the outline `o` is for. -/
structure Outline.Contains (o inside : Outline) : Prop where
  readable : (∀ part ∈ inside.parts, Readable part) ↔ ∀ part ∈ o.parts, Readable part
  fits : ∀ names, inside.Fits names
    ↔ ∃ before after, names = before ++ after ∧ after ≠ [] ∧ o.Fits before

/-- The parts of a text that are followed by `**`, tied to the directory of the pattern. -/
theorem Outline.Contains.concat {o inside : Outline} (ho : o.anchored = true)
    (hinside : inside.anchored = true) (hlast : o.parts.getLast? ≠ some depthPart)
    (hparts : inside.parts = o.parts ++ [depthPart]) :
  o.Contains inside
  := by
  constructor
  · rw [hparts, List.forall_mem_append, List.forall_mem_singleton,
      and_iff_left readable_depthPart]
  · intro names
    rw [Outline.Fits, if_pos hinside, hparts, fits_concat_depthPart_iff o.parts_ne_nil hlast]
    simp only [Outline.Fits, ho, if_true]

/-- One part anywhere, which is said by `**` before it when `**` is behind it. -/
theorem Outline.Contains.anywhere {o inside : Outline} (ho : o.anchored = false)
    (hinside : inside.anchored = true) {part : List Char} (hpart : part ≠ depthPart)
    (hself : o.parts = [part]) (hparts : inside.parts = [depthPart, part] ++ [depthPart]) :
  o.Contains inside
  := by
  have hlast : [part].getLast? ≠ some depthPart := by simpa using hpart
  constructor
  · rw [hparts, hself]
    simp [readable_depthPart]
  · intro names
    rw [Outline.Fits, if_pos hinside, hparts,
      fits_concat_depthPart_iff (by simp) (by simpa using hpart)]
    simp only [fits_depthPart_cons_iff (List.cons_ne_nil part []) hlast, Outline.Fits, ho, hself,
      Bool.false_eq_true, if_false]

/-- Parts that do not end in `**` fit at least one name. -/
theorem not_fits_nil {parts : List (List Char)} (hp : parts ≠ [])
    (hlast : parts.getLast? ≠ some depthPart) :
  ¬Pattern.Fits parts []
  := by
  obtain ⟨before, last, rfl⟩ := (List.eq_nil_or_concat' parts).resolve_left hp
  rw [List.getLast?_concat, ne_eq, Option.some.injEq] at hlast
  rw [fits_iff_cut (by simpa using hlast), Cut.concat_iff]
  rintro ⟨names, piece, hnil, -, htakes, -⟩
  obtain ⟨-, rfl⟩ := List.append_eq_nil_iff.mp hnil.symm
  apply hlast (partTakes_nil_iff.mp htakes)

theorem Outline.Fits.ne_nil {o : Outline} {names : List (List Char)}
    (hlast : o.parts.getLast? ≠ some depthPart) (h : o.Fits names) :
  names ≠ []
  := by
  have hnil := not_fits_nil o.parts_ne_nil hlast
  rw [Outline.Fits] at h
  split at h
  · rintro rfl
    contradiction
  · obtain ⟨skipped, rest, rfl, hfits⟩ := h
    rintro heq
    obtain ⟨-, rfl⟩ := List.append_eq_nil_iff.mp heq
    contradiction

/-! ### The two patterns -/

theorem pieces_depthPart :
  Text.pieces '/' depthPart = [depthPart]
  := Text.pieces_of_notMem (by decide)

theorem mem_slashedText (text : List Char) :
  '/' ∈ slashedText text
  := by
  rw [slashedText]
  split_ifs with hslash
  · apply hslash
  · simp

section

variable {text : List Char} (h : Unmarked text)

include h

theorem unmarked_directory :
  Unmarked (text ++ ['/'])
  := h.append (by simp [Unmarked])

theorem unmarked_contentsText :
  Unmarked (contentsText text)
  := by
  apply Unmarked.append
  · rw [slashedText]
    split_ifs
    · apply h
    · simp [Unmarked, depthPart]
  · simp [Unmarked]

theorem outline_directory :
  outline (text ++ ['/']) = ⟨false, true, (splitRoot text).1, (splitRoot text).2⟩
  := by
  simp only [outline, (unmarked_directory h).splitNegation_eq, splitTrailingSlash_concat]

theorem outline_contentsText :
  outline (contentsText text)
    = ⟨false, false, (splitRoot (slashedText text)).1,
      (splitRoot (slashedText text)).2 ++ '/' :: depthPart⟩
  := by
  have hlast : (contentsText text).getLast? ≠ some '/' := by
    rw [contentsText, List.getLast?_append_of_ne_nil _ (by simp)]
    decide
  simp only [outline, (unmarked_contentsText h).splitNegation_eq, splitTrailingSlash_of_ne hlast]
  rw [contentsText, splitRoot_append (mem_slashedText text)]

/-- The outline for the contents is for what is in the directories. -/
theorem contains_outline_contentsText
    (hdepth : (Text.pieces '/' text).getLast? ≠ some depthPart) :
  (outline (text ++ ['/'])).Contains (outline (contentsText text))
  := by
  rw [outline_directory h, outline_contentsText h]
  by_cases hslash : '/' ∈ text
  · have hsame : slashedText text = text := if_pos hslash
    apply Outline.Contains.concat
    · rcases splitRoot_cases text with ⟨_, _, -, hsplit⟩ | hsplit <;>
        simp [Outline.anchored, hsplit, hslash]
    · simp [Outline.anchored]
    · rwa [Outline.parts, getLast?_pieces_splitRoot]
    · rw [hsame, Outline.parts, Text.pieces_append, pieces_depthPart]
      rfl
  · have hspread : slashedText text = depthPart ++ '/' :: text := if_neg hslash
    have hroot : splitRoot (depthPart ++ '/' :: text) = (false, depthPart ++ '/' :: text) :=
      splitRoot_cons_of_ne (by decide) (by decide)
    have hself : Text.pieces '/' text = [text] := Text.pieces_of_notMem hslash
    rw [hspread, hroot, splitRoot_of_notMem hslash]
    apply Outline.Contains.anywhere
    · simpa [Outline.anchored] using hslash
    · simp [Outline.anchored]
    · simpa [hself] using hdepth
    · apply hself
    · rw [Outline.parts, Text.pieces_append, Text.pieces_append, hself, pieces_depthPart]
      rfl

end

theorem trim_contentsText {text : List Char} (h : Text.trim text = text) :
  Text.trim (contentsText text) = contentsText text
  := by
  have hstart : Text.trim (depthPart ++ ['/']) = depthPart ++ ['/'] := by decide
  have hend : Text.trim ('/' :: depthPart) = '/' :: depthPart := by decide
  apply Text.trim_append _ hend
  rw [slashedText]
  split_ifs
  · apply h
  · rw [List.append_cons]
    apply Text.trim_append hstart h

/-- A pattern for directories matches a file if a pattern for what they contain does. -/
theorem ReadFrom.matchesNames_eq {p q : Pattern} {o inside : Outline} (hp : p.ReadFrom o)
    (hq : q.ReadFrom inside) (hneg : o.negated = false) (hdir : o.dirOnly = true)
    (hinside : inside.dirOnly = false) (hcontains : o.Contains inside)
    (hlast : o.parts.getLast? ≠ some depthPart) (names : List (List Char)) :
  p.matchesNames names false = q.matchesNames names false
  := by
  by_cases hn : names = []
  · rw [hn, matchesNames_nil, matchesNames_nil]
  rw [Bool.eq_iff_iff, matchesNames_dirOnly_iff (hp.dirOnly.trans hdir) (hp.negated.trans hneg),
    matchesNames_of_not_dirOnly (hq.dirOnly.trans hinside) hn, hq.accepts, hcontains.fits]
  simp only [hp.accepts, Bool.false_eq_true, or_false]
  apply exists₂_congr
  intro before after
  constructor
  · rintro ⟨heq, -, hafter, hfits⟩
    use heq, hafter, hfits
  · rintro ⟨heq, hafter, hfits⟩
    use heq, hfits.ne_nil hlast, hafter, hfits

/-- The pattern for directories and the one for what they contain are both read or both faulty, and
match the same files. -/
theorem read_contents {text : List Char} (htrim : Text.trim text = text) (hmark : Unmarked text)
    (hdepth : (Text.pieces '/' text).getLast? ≠ some depthPart) :
  (∃ p q, read (String.ofList (text ++ ['/'])) = .ok (some p)
      ∧ read (String.ofList (contentsText text)) = .ok (some q)
      ∧ ∀ names, p.matchesNames names false = q.matchesNames names false)
    ∨ ∃ fault fault', read (String.ofList (text ++ ['/'])) = .error fault
      ∧ read (String.ofList (contentsText text)) = .error fault'
  := by
  have hslash : Text.trim ['/'] = ['/'] := by decide
  rw [read_ofList (Text.trim_append htrim hslash), read_ofList (trim_contentsText htrim)]
  have hcontains := contains_outline_contentsText hmark hdepth
  have hdirectory : isComment (text ++ ['/']) = false :=
    (unmarked_directory hmark).isComment_eq (by simp)
  have hcontents : isComment (contentsText text) = false :=
    (unmarked_contentsText hmark).isComment_eq (by simp [contentsText])
  rcases readText_cases hdirectory with ⟨hparts, p, hp, hfrom⟩ | ⟨hfaulty, fault, hfault⟩
  · rcases readText_cases hcontents with ⟨-, q, hq, hinside⟩ | ⟨hfaulty, -⟩
    · left
      use p, q, hp, hq
      intro names
      rw [outline_directory hmark] at hfrom hcontains
      rw [outline_contentsText hmark] at hinside hcontains
      apply hfrom.matchesNames_eq hinside rfl rfl rfl hcontains
      rwa [Outline.parts, getLast?_pieces_splitRoot]
    · apply absurd (hcontains.readable.mpr hparts) hfaulty
  · rcases readText_cases hcontents with ⟨hparts, -⟩ | ⟨-, fault', hfault'⟩
    · apply absurd (hcontains.readable.mp hparts) hfaulty
    · right
      use fault, fault', hfault, hfault'

/-- The pattern `a?/**/b/` matches the file `c` in `ab/x/b`, and so does `a?/**/b/**`. -/
theorem read_contents_inner :
  Text.trim "a?/**/b".toList = "a?/**/b".toList ∧ Unmarked "a?/**/b".toList
    ∧ (Text.pieces '/' "a?/**/b".toList).getLast? ≠ some depthPart
    ∧ ∃ p q, read "a?/**/b/" = .ok (some p) ∧ read "a?/**/b/**" = .ok (some q)
      ∧ p.matchesNames [['a', 'b'], ['x'], ['b'], ['c']] false = true
      ∧ q.matchesNames [['a', 'b'], ['x'], ['b'], ['c']] false = true
  := by
  have htrim : Text.trim "a?/**/b".toList = "a?/**/b".toList := by decide
  have hmark : Unmarked "a?/**/b".toList := by decide
  have hdepth : (Text.pieces '/' "a?/**/b".toList).getLast? ≠ some depthPart := by decide
  have h : read "a?/**/b/" = .ok (some ⟨"a?/**/b/", false, true, true,
      [.glob [.literal 'a', .any], .anyDepth, .literal ['b']]⟩) := by
    cbv
  use htrim, hmark, hdepth
  rcases read_contents htrim hmark hdepth with ⟨p, q, hp, hq, hmatches⟩ | ⟨fault, -, hfault, -⟩
  · obtain rfl := Option.some.inj (Except.ok.inj (hp.symm.trans h))
    refine ⟨_, q, hp, hq, ?_, ?_⟩
    · decide
    · rw [← hmatches]
      decide
  · have hne : Except.error fault = _ := hfault.symm.trans h
    contradiction

end Compendium.Pattern
