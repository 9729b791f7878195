import Compendium.Proofs.Path.Inside
import Compendium.Proofs.Pattern.Contents
import Compendium.Proofs.Pattern.Declared

/-!
# Patterns for names anywhere

A pattern without a slash in it is for a name in any directory, which `**/` before it says too.
Both look at nothing but the last name that leads to an entry, or to a directory above it if they
are for directories only.
-/

namespace Compendium.Pattern

/-- The slash behind a pattern that is for directories only. -/
def directoryMark (dirOnly : Bool) : List Char := if dirOnly then ['/'] else []

/-- The text of a pattern: what it is for, between the mark of negation and the slash that says that
it is for directories only. -/
def markedText (negated dirOnly : Bool) (body : List Char) : List Char :=
  (if negated then ['!'] else []) ++ (body ++ directoryMark dirOnly)

/-! ### Parts at the end of names -/

section

variable {part : List Char} {before : List (List Char)} {name : List Char}

theorem partTakes_singleton_iff {segment : Segment} (h : Segment.read part = .ok segment) :
  PartTakes part [name] ↔ segment.accepts name = true
  := by
  by_cases hd : part = depthPart
  · obtain rfl : Segment.anyDepth = segment := by
      apply Except.ok.inj
      rw [← h, read_eq_anyDepth_iff.mpr hd]
    simp [PartTakes, hd, Segment.accepts]
  · simp [PartTakes, hd, h]

/-- After any names, a part takes what is left if it takes the last name. -/
theorem exists_partTakes_iff :
  (∃ skipped rest, before ++ [name] = skipped ++ rest ∧ PartTakes part rest)
    ↔ PartTakes part [name]
  := by
  constructor
  · rintro ⟨skipped, rest, heq, htakes⟩
    by_cases hd : part = depthPart
    · left
      apply hd
    · rw [partTakes_iff_admits hd] at htakes
      obtain ⟨last, rfl, hlast⟩ := htakes
      obtain ⟨-, hname⟩ := List.append_inj' heq rfl
      apply (partTakes_iff_admits hd _).mpr ⟨last, hname, hlast⟩
  · intro htakes
    use before, [name], rfl, htakes

/-- After `**`, a part takes the last name.  If it is `**` itself, it takes at least that. -/
theorem fits_depthPart_part_iff :
  Fits [depthPart, part] (before ++ [name]) ↔ PartTakes part [name]
  := by
  by_cases hd : part = depthPart
  · subst hd
    have htakes : ∀ piece, PartTakes depthPart piece := fun _ => .inl rfl
    apply iff_of_true _ (htakes _)
    rw [Fits, Cut.cons_iff (List.cons_ne_nil _ _)]
    simp only [Cut.singleton_iff]
    use before, [name], rfl, htakes _, htakes _
    intro _ _
    apply List.cons_ne_nil _ _
  · have hlast : [part].getLast? ≠ some depthPart := by simpa using hd
    rw [fits_depthPart_cons_iff (List.cons_ne_nil _ _) hlast]
    simp only [fits_singleton_iff]
    apply exists_partTakes_iff

end

/-! ### The outlines -/

section

variable {negated dirOnly : Bool} {body : List Char}

theorem trim_markedText (h : Text.trim body = body) :
  Text.trim (markedText negated dirOnly body) = markedText negated dirOnly body
  := by
  apply Text.trim_append
  · cases negated <;> decide
  · apply Text.trim_append h
    cases dirOnly <;> decide

variable (dirOnly) in
/-- The mark of negation is taken off, or else a backslash that says that there is none. -/
theorem splitNegation_markedText (hmark : negated = false → body.head? ≠ some '!') :
  splitNegation (markedText negated dirOnly body) = (negated, body ++ directoryMark dirOnly)
    ∨ ∃ c rest, (c = '!' ∨ c = '#') ∧ body = '\\' :: c :: rest
      ∧ splitNegation (markedText negated dirOnly body)
        = (negated, c :: rest ++ directoryMark dirOnly)
  := by
  have hdirectory : ∀ c ∈ (directoryMark dirOnly).head?, c = '/' := by
    cases dirOnly <;> simp [directoryMark]
  cases negated with
  | true =>
    left
    rfl
  | false =>
    have htext : markedText false dirOnly body = body ++ directoryMark dirOnly := rfl
    rw [htext]
    rcases splitNegation_cases (body ++ directoryMark dirOnly) with
      ⟨rest, heq, -⟩ | ⟨c, rest, hc, heq, hsplit⟩ | hsplit
    · cases body with
      | nil => apply absurd (hdirectory '!' (by simp_all)) (by decide)
      | cons a body =>
        obtain ⟨rfl, -⟩ := List.cons.inj heq
        apply absurd rfl (hmark rfl)
    · match body with
      | [] => apply absurd (hdirectory '\\' (by simp_all)) (by decide)
      | [a] =>
        obtain ⟨-, htail⟩ := List.cons.inj heq
        obtain rfl := hdirectory c (by simp_all)
        simp at hc
      | a :: d :: body =>
        obtain ⟨rfl, htail⟩ := List.cons.inj heq
        obtain ⟨rfl, rfl⟩ := List.cons.inj htail
        right
        use d, body, hc, rfl, hsplit
    · left
      apply hsplit

theorem outline_of_splitNegation {text part : List Char}
    (h : splitNegation text = (negated, part ++ directoryMark dirOnly))
    (hlast : part.getLast? ≠ some '/') :
  outline text = ⟨negated, dirOnly, (splitRoot part).1, (splitRoot part).2⟩
  := by
  have htrailing : splitTrailingSlash (part ++ directoryMark dirOnly) = (dirOnly, part) := by
    cases dirOnly with
    | false => simpa [directoryMark] using splitTrailingSlash_of_ne hlast
    | true => apply splitTrailingSlash_concat part
  simp only [outline, h, htrailing]

variable (dirOnly) in
/-- The outline of a body without slashes has one part, which is read like the body. -/
theorem outline_markedText (hslash : '/' ∉ body) (hmark : negated = false → body.head? ≠ some '!') :
  ∃ part, outline (markedText negated dirOnly body) = ⟨negated, dirOnly, false, part⟩
    ∧ '/' ∉ part ∧ PartAlike body part
  := by
  have hlast : ∀ part : List Char, '/' ∉ part → part.getLast? ≠ some '/' :=
    fun part hpart hlast => hpart (List.mem_of_getLast? hlast)
  rcases splitNegation_markedText dirOnly hmark with hsplit | ⟨c, rest, hc, rfl, hsplit⟩
  · use body
    rw [outline_of_splitNegation hsplit (hlast body hslash), splitRoot_of_notMem hslash]
    use rfl, hslash
    apply PartAlike.refl body
  · have hrest : '/' ∉ c :: rest := fun hmem => hslash (List.mem_cons_of_mem _ hmem)
    have hplain : Segment.isWild c = false := by
      rcases hc with rfl | rfl <;> decide
    use c :: rest
    rw [outline_of_splitNegation hsplit (hlast _ hrest), splitRoot_of_notMem hrest]
    use rfl, hrest
    apply PartAlike.escaped hplain rest

/-- The outline of a body with `**/` before it. -/
theorem outline_markedText_depthPart (hne : body ≠ []) (hslash : '/' ∉ body) :
  outline (markedText negated dirOnly (depthPart ++ '/' :: body))
    = ⟨negated, dirOnly, false, depthPart ++ '/' :: body⟩
  := by
  have hlast : (depthPart ++ '/' :: body).getLast? ≠ some '/' := by
    rw [List.getLast?_append_of_ne_nil _ (by simp), List.getLast?_cons_of_ne_nil hne]
    intro hlast
    exact hslash (List.mem_of_getLast? hlast)
  have hmark : (depthPart ++ '/' :: body).head? ≠ some '!' := by simp [depthPart]
  rcases splitNegation_markedText dirOnly fun _ => hmark with hsplit | ⟨c, rest, -, heq, -⟩
  · rw [outline_of_splitNegation hsplit hlast]
    rfl
  · simp [depthPart] at heq

end

/-! ### Both patterns -/

/-- Whether the segments of a pattern look at nothing but the last name, and accept there what one
segment does. -/
def LooksAtLast (p : Pattern) (segment : Segment) : Prop :=
  ∀ before name, Segment.acceptAll p.segments (before ++ [name]) = segment.accepts name

section

variable {p q : Pattern} {segment : Segment} {negated dirOnly : Bool} {part : List Char}

/-- A pattern of one part that is not tied to its directory looks only at the last name. -/
theorem ReadFrom.looksAtLast (hp : p.ReadFrom ⟨negated, dirOnly, false, part⟩)
    (hslash : '/' ∉ part) (h : ∀ name, PartTakes part [name] ↔ segment.accepts name = true) :
  p.LooksAtLast segment
  := by
  intro before name
  have hanchored : (Outline.mk negated dirOnly false part).anchored = false := by
    simpa [Outline.anchored] using hslash
  have hself : (Outline.mk negated dirOnly false part).parts = [part] :=
    Text.pieces_of_notMem hslash
  rw [Bool.eq_iff_iff, ← h, hp.accepts, Outline.Fits, hanchored, if_neg Bool.false_ne_true, hself]
  simp only [fits_singleton_iff]
  apply exists_partTakes_iff

/-- With `**/` before it the part is tied to its directory, and looks only at the last name just the
same. -/
theorem ReadFrom.looksAtLast_depthPart
    (hp : p.ReadFrom ⟨negated, dirOnly, false, depthPart ++ '/' :: part⟩) (hslash : '/' ∉ part)
    (h : ∀ name, PartTakes part [name] ↔ segment.accepts name = true) :
  p.LooksAtLast segment
  := by
  intro before name
  have hanchored : (Outline.mk negated dirOnly false (depthPart ++ '/' :: part)).anchored
      = true := by
    simp [Outline.anchored]
  have hparts : (Outline.mk negated dirOnly false (depthPart ++ '/' :: part)).parts
      = [depthPart, part] := by
    rw [Outline.parts, Text.pieces_append, pieces_depthPart, Text.pieces_of_notMem hslash]
    rfl
  rw [Bool.eq_iff_iff, ← h, hp.accepts, Outline.Fits, if_pos hanchored, hparts,
    fits_depthPart_part_iff]

/-- What looks at the same last name with the same marks matches the same. -/
theorem LooksAtLast.matchesNames_eq (hp : p.LooksAtLast segment) (hq : q.LooksAtLast segment)
    (hdir : p.dirOnly = q.dirOnly) (hneg : p.negated = q.negated) (names : List (List Char))
    (isDir : Bool) :
  p.matchesNames names isDir = q.matchesNames names isDir
  := by
  apply matchesNames_congr hdir fun _ => hneg
  intro names hn
  obtain ⟨before, name, rfl⟩ := (List.eq_nil_or_concat' names).resolve_left hn
  rw [hp, hq]

/-- If it is not for directories only, what looks at the last name matches by that name alone. -/
theorem LooksAtLast.matchesNames_concat (hp : p.LooksAtLast segment) (hdir : p.dirOnly = false)
    (before : List (List Char)) (name : List Char) (isDir : Bool) :
  p.matchesNames (before ++ [name]) isDir = segment.accepts name
  := by
  rw [matchesNames_of_not_dirOnly hdir (by simp), hp]

end

/-- A pattern without a slash in it matches what it matches with `**/` before it, in whichever
directory the two are declared.  If it is not for directories only, it matches an entry exactly if
it accepts the name of it.  The body is what stands behind the mark of negation, so where there is
no mark it does not begin with `!`. -/
theorem covers_anywhere (negated dirOnly : Bool) {body : List Char} (hne : body ≠ [])
    (hslash : '/' ∉ body) (htrim : Text.trim body = body)
    (hmark : negated = false → body.head? ≠ some '!') {p q : Pattern}
    (hp : read (String.ofList (markedText negated dirOnly body)) = .ok (some p))
    (hq : read (String.ofList (markedText negated dirOnly (depthPart ++ '/' :: body)))
      = .ok (some q)) :
  p.negated = negated ∧ q.negated = negated
    ∧ ∃ segment, Segment.read body = .ok segment
      ∧ ∀ path base isDir, path.IsInside base →
        (ScopedPattern.mk p base).covers path isDir = (ScopedPattern.mk q base).covers path isDir
        ∧ (dirOnly = false → ∃ name, path.fileName? = some name
          ∧ (ScopedPattern.mk p base).covers path isDir = segment.accepts name)
  := by
  have htrim' : Text.trim (depthPart ++ '/' :: body) = depthPart ++ '/' :: body := by
    have hstart : Text.trim (depthPart ++ ['/']) = depthPart ++ ['/'] := by decide
    rw [List.append_cons]
    apply Text.trim_append hstart htrim
  rw [read_ofList (trim_markedText htrim)] at hp
  rw [read_ofList (trim_markedText htrim')] at hq
  obtain ⟨-, hparts, hfrom⟩ := of_readText hp
  obtain ⟨-, -, hfrom'⟩ := of_readText hq
  obtain ⟨part, houtline, hpart, halike⟩ := outline_markedText dirOnly hslash hmark
  rw [houtline] at hparts hfrom
  rw [outline_markedText_depthPart hne hslash] at hfrom'
  obtain ⟨segment, -, hsegment⟩ : Readable body := by
    apply halike.readable.mpr
    apply hparts
    simp [Outline.parts, Text.pieces_of_notMem hpart]
  have htakes : ∀ name, PartTakes body [name] ↔ segment.accepts name = true := by
    intro name
    apply partTakes_singleton_iff hsegment
  have hlast : p.LooksAtLast segment := by
    apply hfrom.looksAtLast hpart
    simpa only [halike.takes] using htakes
  have hlast' : q.LooksAtLast segment := by
    apply hfrom'.looksAtLast_depthPart hslash htakes
  use hfrom.negated, hfrom'.negated, segment, hsegment
  intro path base isDir hinside
  obtain ⟨rest, before, name, hrest, hnames, hname⟩ := hinside.exists_fileName
  rw [ScopedPattern.covers_of_partsBelow? hrest, ScopedPattern.covers_of_partsBelow? hrest,
    hnames]
  constructor
  · apply hlast.matchesNames_eq hlast'
    · rw [hfrom.dirOnly, hfrom'.dirOnly]
    · rw [hfrom.negated, hfrom'.negated]
  · intro hdir
    use name, hname
    apply hlast.matchesNames_concat (hfrom.dirOnly.trans hdir)

/-- Declared in `p`, the patterns `\!a?` and `**/\!a?` both match the file `p/x/!ab`. -/
theorem covers_anywhere_escaped :
  ∃ p q, read "\\!a?" = .ok (some p) ∧ read "**/\\!a?" = .ok (some q)
    ∧ Path.IsInside ⟨"p/x/!ab"⟩ ⟨"p"⟩
    ∧ (ScopedPattern.mk p ⟨"p"⟩).covers ⟨"p/x/!ab"⟩ false = true
    ∧ (ScopedPattern.mk q ⟨"p"⟩).covers ⟨"p/x/!ab"⟩ false = true
  := by
  have hp : read (String.ofList (markedText false false ['\\', '!', 'a', '?'])) = .ok (some
      ⟨"\\!a?", false, false, false, [.anyDepth, .glob [.literal '!', .literal 'a', .any]]⟩) := by
    cbv
  have hq : read (String.ofList (markedText false false
      (depthPart ++ '/' :: ['\\', '!', 'a', '?']))) = .ok (some
      ⟨"**/\\!a?", false, true, false, [.anyDepth, .glob [.literal '!', .literal 'a', .any]]⟩) := by
    cbv
  have hinside : Path.IsInside ⟨"p/x/!ab"⟩ ⟨"p"⟩ :=
    ⟨[.name ['x'], .name ['!', 'a', 'b']], by decide, by decide, by decide⟩
  obtain ⟨-, -, segment, hsegment, hcovers⟩ :=
    covers_anywhere false false (by decide) (by decide) (by decide) (by decide) hp hq
  obtain ⟨hsame, hlast⟩ := hcovers _ _ false hinside
  obtain ⟨name, hname, haccepts⟩ := hlast rfl
  have hread : Segment.read ['\\', '!', 'a', '?']
      = .ok (.glob [.literal '!', .literal 'a', .any]) := by
    cbv
  have hfile : Path.fileName? ⟨"p/x/!ab"⟩ = some ['!', 'a', 'b'] := by decide
  obtain rfl := Except.ok.inj (hsegment.symm.trans hread)
  obtain rfl := Option.some.inj (hname.symm.trans hfile)
  have haccept : (Segment.glob [.literal '!', .literal 'a', .any]).accepts ['!', 'a', 'b']
      = true := by
    decide
  have hcovered := haccepts.trans haccept
  exact ⟨_, _, hp, hq, hinside, hcovered, hsame.symm.trans hcovered⟩

end Compendium.Pattern
