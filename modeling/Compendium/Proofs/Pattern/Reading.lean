import Compendium.Proofs.Except
import Compendium.Proofs.Pattern.Meaning

/-!
# When a line is read as a pattern

A line is read as a pattern exactly if each part of its body can be read, whatever the other parts
are, and what the pattern matches depends only on its marks and on the names that the parts fit.
So patterns are compared by their outlines: `Outline.Alike` says that two outlines are tied to
their directories alike and have parts that are read alike.
-/

namespace Compendium.Pattern

/-! ### Lines that are read -/

/-- Whether a part can be read as a segment. -/
def Readable (part : List Char) : Prop := ∃ segment, Reads part segment

theorem readable_depthPart :
  Readable depthPart
  := by
  use .anyDepth, List.cons_ne_nil _ _
  apply read_eq_anyDepth_iff.mpr rfl

theorem exists_readParts_iff (last : Option Segment) (parts : List (List Char)) :
  (∃ segments, readParts last parts = .ok segments) ↔ ∀ part ∈ parts, Readable part
  := by
  induction parts generalizing last with
  | nil => simp [readParts]
  | cons part rest ih =>
    rw [List.forall_mem_cons, Readable, readParts]
    by_cases hempty : part = []
    · simp [hempty, Reads]
    rw [if_neg (by simpa using hempty)]
    cases hread : Segment.read part with
    | error fault => simp [Reads, hread]
    | ok segment =>
      have hpart : ∃ segment, Reads part segment := ⟨segment, hempty, hread⟩
      rw [and_iff_right hpart]
      dsimp only
      split
      · apply ih
      · rw [← ih (some segment)]
        cases readParts (some segment) rest <;> simp

/-- A body can be read if all its parts can. -/
theorem exists_readBody_iff (anchored : Bool) (body : List Char) :
  (∃ segments, readBody anchored body = .ok segments)
    ↔ ∀ part ∈ Text.pieces '/' body, Readable part
  := by
  have hnormal : (∃ segments, normalSegments anchored (Text.pieces '/' body) = .ok segments)
      ↔ ∀ part ∈ Text.pieces '/' body, Readable part := by
    rw [normalSegments]
    cases anchored with
    | false => apply exists_map_eq_ok_iff.trans (exists_readParts_iff _ _)
    | true => apply exists_readParts_iff
  rw [readBody_eq, ← hnormal]
  split
  · apply exists_map_eq_ok_iff
  · rfl

/-- What a pattern takes from the outline that it is read from. -/
structure ReadFrom (p : Pattern) (o : Outline) : Prop where
  negated : p.negated = o.negated
  dirOnly : p.dirOnly = o.dirOnly
  anchored : p.anchored = o.anchored
  accepts : ∀ names, Segment.acceptAll p.segments names = true ↔ o.Fits names

/-- A line that is no comment is read by its outline. -/
theorem readText_of_not_isComment {text : List Char} (h : isComment text = false) :
  readText text =
    if (outline text).body.isEmpty then .error .noSegments
    else (readBody (outline text).anchored (outline text).body).map fun segments =>
      some ⟨String.ofList text, (outline text).negated, (outline text).anchored,
        (outline text).dirOnly, segments⟩
  := by
  rw [readText, h]
  rfl

/-- Nothing is read from a comment, and from nothing else. -/
theorem readText_eq_none_iff {text : List Char} :
  readText text = .ok none ↔ isComment text = true
  := by
  cases h : isComment text with
  | true => simp [readText, h]
  | false =>
    rw [readText_of_not_isComment h]
    split
    · simp
    · simp [map_eq_ok_iff]

/-- A line that is no comment is read as a pattern if all parts of it can be read, and is faulty
otherwise. -/
theorem readText_cases {text : List Char} (h : isComment text = false) :
  ((∀ part ∈ (outline text).parts, Readable part)
      ∧ ∃ p, readText text = .ok (some p) ∧ p.ReadFrom (outline text))
    ∨ ((¬∀ part ∈ (outline text).parts, Readable part)
      ∧ ∃ fault, readText text = .error fault)
  := by
  rw [readText_of_not_isComment h]
  by_cases hempty : (outline text).body = []
  · right
    constructor
    · rw [Outline.parts, hempty, Text.pieces_nil, List.forall_mem_singleton]
      rintro ⟨segment, hne, -⟩
      contradiction
    · simp [hempty]
  rw [if_neg (by simpa using hempty)]
  cases hbody : readBody (outline text).anchored (outline text).body with
  | error fault =>
    right
    constructor
    · rw [Outline.parts, ← exists_readBody_iff (outline text).anchored, hbody]
      simp
    · use fault
      rfl
  | ok segments =>
    left
    constructor
    · apply (exists_readBody_iff _ _).mp ⟨segments, hbody⟩
    · exact ⟨_, rfl, rfl, rfl, rfl, acceptAll_readBody_iff hbody⟩

/-- A line that is read as a pattern is no comment, and the pattern is read from its outline. -/
theorem of_readText {text : List Char} {p : Pattern} (h : readText text = .ok (some p)) :
  isComment text = false ∧ (∀ part ∈ (outline text).parts, Readable part)
    ∧ p.ReadFrom (outline text)
  := by
  have hcomment : isComment text = false := by
    by_contra hcomment
    rw [readText, if_pos (by simpa using hcomment)] at h
    simp at h
  use hcomment
  rcases readText_cases hcomment with ⟨hparts, q, hq, hfrom⟩ | ⟨-, fault, hfault⟩
  · obtain rfl : q = p := by simpa [hq] using h
    constructor
    · apply hparts
    · apply hfrom
  · simp [hfault] at h

/-- A pattern is kept with its text. -/
theorem text_of_readText {text : List Char} {p : Pattern} (h : readText text = .ok (some p)) :
  p.text = String.ofList text
  := by
  obtain ⟨hcomment, -, -⟩ := of_readText h
  rw [readText_of_not_isComment hcomment] at h
  split at h
  · contradiction
  · obtain ⟨segments, -, hp⟩ := map_eq_ok_iff.mp h
    obtain rfl := Option.some.inj hp
    rfl

theorem read_ofList {text : List Char} (h : Text.trim text = text) :
  read (String.ofList text) = readText text
  := by
  rw [read, String.toList_ofList, h]

/-! ### What patterns match -/

section

variable {p q : Pattern} {names : List (List Char)} {isDir : Bool}

theorem matchesNames_nil :
  p.matchesNames [] isDir = false
  := rfl

/-- A pattern that is not only for directories is tested on all the names. -/
theorem matchesNames_of_not_dirOnly (h : p.dirOnly = false) (hn : names ≠ []) :
  p.matchesNames names isDir = Segment.acceptAll p.segments names
  := by
  rw [matchesNames, if_neg (by simpa using hn)]
  simp [h]

/-- A pattern that is only for directories and not negated is tested on the names of the entry, if
that is a directory, and on the names of each directory above it. -/
theorem matchesNames_dirOnly_iff (h : p.dirOnly = true) (hneg : p.negated = false) :
  p.matchesNames names isDir = true
    ↔ ∃ before after, names = before ++ after ∧ before ≠ [] ∧ (after ≠ [] ∨ isDir = true)
      ∧ Segment.acceptAll p.segments before = true
  := by
  by_cases hn : names = []
  · simp +contextual [hn, matchesNames_nil]
  rw [matchesNames, if_neg (by simpa using hn), if_pos (by simp [h, hneg])]
  simp only [List.any_eq_true, Bool.and_eq_true, Bool.or_eq_true, Bool.not_eq_true']
  constructor
  · rintro ⟨⟨before, whole⟩, hmem, hwhole, haccept⟩
    obtain ⟨hbefore, after, heq, hafter⟩ := mem_beginnings_iff.mp hmem
    refine ⟨before, after, heq, hbefore, ?_, haccept⟩
    rw [ne_eq, ← hafter]
    simpa using hwhole
  · rintro ⟨before, after, heq, hbefore, hafter, haccept⟩
    refine ⟨(before, decide (after = [])), ?_, ?_, haccept⟩
    · apply mem_beginnings_iff.mpr
      use hbefore, after, heq
      simp
    · simpa using hafter

/-- Patterns match the same if their segments accept the same names and both are for directories
only or neither is.  Negation makes a difference for directories alone. -/
theorem matchesNames_congr (hdir : p.dirOnly = q.dirOnly)
    (hneg : p.dirOnly = true → p.negated = q.negated)
    (h : ∀ names, names ≠ [] →
      Segment.acceptAll p.segments names = Segment.acceptAll q.segments names) :
  p.matchesNames names isDir = q.matchesNames names isDir
  := by
  by_cases hn : names = []
  · rw [hn, matchesNames_nil, matchesNames_nil]
  cases hp : p.dirOnly with
  | false =>
    rw [matchesNames_of_not_dirOnly hp hn, matchesNames_of_not_dirOnly (hdir.symm.trans hp) hn,
      h names hn]
  | true =>
    have hq : q.dirOnly = true := hdir.symm.trans hp
    cases hpneg : p.negated with
    | false =>
      have hqneg : q.negated = false := (hneg hp).symm.trans hpneg
      rw [Bool.eq_iff_iff, matchesNames_dirOnly_iff hp hpneg, matchesNames_dirOnly_iff hq hqneg]
      apply exists₂_congr
      intro before after
      simp only [and_congr_right_iff]
      intro _ hbefore _
      rw [h before hbefore]
    | true =>
      have hqneg : q.negated = true := (hneg hp).symm.trans hpneg
      simp [matchesNames, hn, hp, hpneg, hq, hqneg, h names hn]

end

/-! ### Names that parts fit -/

section

variable {parts : List (List Char)} {names : List (List Char)}

/-- Where `**` is not the last part, the last part has no condition of its own. -/
theorem fits_iff_cut (h : parts.getLast? ≠ some depthPart) :
  Fits parts names ↔ Cut PartTakes (fun _ => True) parts names
  := by
  simp [Fits, h]

theorem fits_singleton_iff {part : List Char} :
  Fits [part] names ↔ PartTakes part names
  := by
  simp [Fits, Cut.singleton_iff]

/-- Before other parts, `**` skips any number of names. -/
theorem fits_depthPart_cons_iff (hp : parts ≠ []) (h : parts.getLast? ≠ some depthPart) :
  Fits (depthPart :: parts) names ↔ ∃ skipped rest, names = skipped ++ rest ∧ Fits parts rest
  := by
  have hcons : (depthPart :: parts).getLast? ≠ some depthPart := by
    rwa [List.getLast?_cons_of_ne_nil hp]
  rw [fits_iff_cut hcons, Cut.cons_iff hp]
  simp [fits_iff_cut h, PartTakes]

/-- Behind other parts, `**` takes one name at least. -/
theorem fits_concat_depthPart_iff (hp : parts ≠ []) (h : parts.getLast? ≠ some depthPart) :
  Fits (parts ++ [depthPart]) names
    ↔ ∃ before after, names = before ++ after ∧ after ≠ [] ∧ Fits parts before
  := by
  have hlength : (parts ++ [depthPart]).length ≠ 1 := by
    simpa using hp
  rw [Fits, Cut.concat_iff]
  simp only [List.getLast?_concat, hlength, true_implies, ne_eq, not_false_eq_true,
    fits_iff_cut h]
  apply exists₂_congr
  intro before after
  have htakes : PartTakes depthPart after := .inl rfl
  tauto

end

/-! ### Outlines that are read alike -/

/-- Whether two parts are read alike: both can be read or neither can, and they take the same
pieces. -/
structure PartAlike (part part' : List Char) : Prop where
  readable : Readable part ↔ Readable part'
  takes : ∀ piece, PartTakes part piece ↔ PartTakes part' piece

theorem PartAlike.refl (part : List Char) :
  PartAlike part part
  := ⟨.rfl, fun _ => .rfl⟩

theorem forall₂_partAlike_refl (parts : List (List Char)) :
  List.Forall₂ PartAlike parts parts
  := List.forall₂_same.mpr fun part _ => PartAlike.refl part

/-- Only `**` takes no name at all. -/
theorem partTakes_nil_iff {part : List Char} :
  PartTakes part [] ↔ part = depthPart
  := by
  simp [PartTakes]

theorem PartAlike.eq_depthPart_iff {part part' : List Char} (h : PartAlike part part') :
  part = depthPart ↔ part' = depthPart
  := by
  rw [← partTakes_nil_iff, h.takes, partTakes_nil_iff]

section

variable {parts parts' : List (List Char)} (h : List.Forall₂ PartAlike parts parts')

include h

theorem forall_readable_iff :
  (∀ part ∈ parts, Readable part) ↔ ∀ part ∈ parts', Readable part
  := by
  induction h with
  | nil => rfl
  | cons hpart _ ih => rw [List.forall_mem_cons, List.forall_mem_cons, hpart.readable, ih]

theorem getLast?_eq_depthPart_iff :
  parts.getLast? = some depthPart ↔ parts'.getLast? = some depthPart
  := by
  induction h with
  | nil => rfl
  | cons hpart hrest ih =>
    cases hrest with
    | nil => simpa using hpart.eq_depthPart_iff
    | cons => simpa only [List.getLast?_cons_cons] using ih

/-- Parts that are read alike fit the same names. -/
theorem fits_congr {names : List (List Char)} :
  Fits parts names ↔ Fits parts' names
  := by
  rw [Fits, Fits, h.length_eq, getLast?_eq_depthPart_iff h]
  apply Cut.congr
  apply h.imp fun _ _ hpart => hpart.takes

end

/-- Whether two outlines are tied to their directories alike and have parts that are read alike.
Their marks may differ. -/
structure Outline.Alike (o o' : Outline) : Prop where
  anchored : o.anchored = o'.anchored
  parts : List.Forall₂ PartAlike o.parts o'.parts

theorem Outline.Alike.fits_iff {o o' : Outline} (h : o.Alike o') {names : List (List Char)} :
  o.Fits names ↔ o'.Fits names
  := by
  rw [Outline.Fits, Outline.Fits, h.anchored]
  simp only [fits_congr h.parts]

/-- Patterns that are read from outlines alike accept the same names. -/
theorem ReadFrom.acceptAll_eq {p q : Pattern} {o o' : Outline} (hp : p.ReadFrom o)
    (hq : q.ReadFrom o') (h : o.Alike o') (names : List (List Char)) :
  Segment.acceptAll p.segments names = Segment.acceptAll q.segments names
  := by
  rw [Bool.eq_iff_iff, hp.accepts, hq.accepts, h.fits_iff]

end Compendium.Pattern
