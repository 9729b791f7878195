import Mathlib.Data.List.Forall2
import Compendium.Pattern.Segment

/-!
# Cutting names into pieces

What a list of segments accepts is said by cuts: the names fall into consecutive pieces, one
for each segment.  `Segment.acceptAll` finds a cut whenever there is one, and two adjacent `**`
take no other names than one of them.
-/

namespace Compendium

/-- Names fall into consecutive pieces, one for each of `parts`: each part takes its piece, and
`final` holds of the last piece. -/
def Cut {α : Type} (takes : α → List (List Char) → Prop) (final : List (List Char) → Prop)
    (parts : List α) (names : List (List Char)) : Prop :=
  ∃ pieces, List.Forall₂ takes parts pieces ∧ names = pieces.flatten
    ∧ ∀ last ∈ pieces.getLast?, final last

namespace Cut

variable {α : Type} {takes : α → List (List Char) → Prop} {final : List (List Char) → Prop}
  {names : List (List Char)}

theorem nil_iff :
  Cut takes final [] names ↔ names = []
  := by
  constructor
  · rintro ⟨pieces, h, rfl, -⟩
    cases h
    rfl
  · rintro rfl
    use []
    simp

theorem singleton_iff {part : α} :
  Cut takes final [part] names ↔ takes part names ∧ final names
  := by
  constructor
  · rintro ⟨pieces, h, rfl, hlast⟩
    obtain - | ⟨hp, hnil⟩ := h
    cases hnil
    simpa using ⟨hp, hlast _ (by simp)⟩
  · rintro ⟨h, hlast⟩
    use [names]
    simp [h, hlast]

/-- The first part takes the first piece, and the rest of the names is cut for the rest of the
parts. -/
theorem cons_iff {part : α} {parts : List α} (hp : parts ≠ []) :
  Cut takes final (part :: parts) names
    ↔ ∃ piece rest, names = piece ++ rest ∧ takes part piece ∧ Cut takes final parts rest
  := by
  constructor
  · rintro ⟨pieces, h, rfl, hlast⟩
    obtain - | ⟨hpiece, hrest⟩ := h
    rename_i piece pieces
    use piece, pieces.flatten, rfl, hpiece, pieces, hrest, rfl
    have hne : pieces ≠ [] := by
      rintro rfl
      apply hp (List.forall₂_nil_right_iff.mp hrest)
    simpa [List.getLast?_cons_of_ne_nil hne] using hlast
  · rintro ⟨piece, _, rfl, hpiece, pieces, hrest, rfl, hlast⟩
    use piece :: pieces, .cons hpiece hrest, rfl
    have hne : pieces ≠ [] := by
      rintro rfl
      apply hp (List.forall₂_nil_right_iff.mp hrest)
    simpa [List.getLast?_cons_of_ne_nil hne] using hlast

/-- The last part takes the last piece, and what is before it is cut for the other parts. -/
theorem concat_iff {parts : List α} {part : α} :
  Cut takes final (parts ++ [part]) names
    ↔ ∃ before last, names = before ++ last ∧ Cut takes (fun _ => True) parts before
      ∧ takes part last ∧ final last
  := by
  constructor
  · rintro ⟨pieces, h, rfl, hlast⟩
    rw [← List.forall₂_reverse_iff, List.reverse_concat] at h
    obtain ⟨last, before, hpart, hbefore, heq⟩ := List.forall₂_cons_left_iff.mp h
    obtain rfl : pieces = before.reverse ++ [last] := by
      rw [← List.reverse_inj, heq]
      simp
    refine ⟨before.reverse.flatten, last, by simp, ⟨before.reverse, ?_, rfl, ?_⟩, hpart, ?_⟩
    · rwa [← List.forall₂_reverse_iff, List.reverse_reverse]
    · intro _ _
      trivial
    · apply hlast
      simp
  · rintro ⟨_, last, rfl, ⟨before, hbefore, rfl, -⟩, hpart, hlast⟩
    use before ++ [last], List.rel_append hbefore (.cons hpart .nil)
    simpa using hlast

/-- Parts may be exchanged for parts that take the same pieces. -/
theorem congr {β : Type} {takes' : β → List (List Char) → Prop} {parts : List α}
    {parts' : List β}
    (h : List.Forall₂ (fun p p' => ∀ piece, takes p piece ↔ takes' p' piece) parts parts') :
  Cut takes final parts names ↔ Cut takes' final parts' names
  := by
  suffices ∀ pieces, List.Forall₂ takes parts pieces ↔ List.Forall₂ takes' parts' pieces by
    simp only [Cut, this]
  induction h with
  | nil => simp
  | cons hp _ ih =>
    intro pieces
    cases pieces with
    | nil => simp
    | cons piece pieces => simp only [List.forall₂_cons, hp piece, ih pieces]

end Cut

namespace Segment

/-- Which pieces a segment takes: any for `**`, and one accepted name for another segment. -/
def Takes : Segment → List (List Char) → Prop
  | .anyDepth, _ => True
  | segment, piece => ∃ name, piece = [name] ∧ segment.accepts name = true

theorem takes_anyDepth (piece : List (List Char)) :
  anyDepth.Takes piece
  := trivial

theorem takes_iff {segment : Segment} (h : segment ≠ .anyDepth) (piece : List (List Char)) :
  segment.Takes piece ↔ ∃ name, piece = [name] ∧ segment.accepts name = true
  := by
  cases segment <;> first | contradiction | rfl

theorem mem_ends_iff {β : Type} {names rest : List β} :
  rest ∈ ends names ↔ ∃ piece, names = piece ++ rest
  := by
  induction names with
  | nil => simp [ends]
  | cons name names ih =>
    rw [ends, List.mem_cons, ih]
    constructor
    · rintro (rfl | ⟨piece, rfl⟩)
      · use []
        rfl
      · use name :: piece
        rfl
    · rintro ⟨piece, h⟩
      cases piece with
      | nil =>
        left
        apply h.symm
      | cons _ piece =>
        right
        use piece
        apply (List.cons.inj h).2

theorem acceptAll_cons_nil {segment : Segment} (h : segment ≠ .anyDepth) (rest : List Segment) :
  acceptAll (segment :: rest) [] = false
  := by
  cases segment <;> first | contradiction | rfl

theorem acceptAll_cons_cons {segment : Segment} (h : segment ≠ .anyDepth) (rest : List Segment)
    (name : List Char) (below : List (List Char)) :
  acceptAll (segment :: rest) (name :: below) = (segment.accepts name && acceptAll rest below)
  := by
  cases segment <;> first | contradiction | rfl

/-- A segment other than `**` takes the first name. -/
theorem acceptAll_cons {segment : Segment} (h : segment ≠ .anyDepth) (rest : List Segment)
    (names : List (List Char)) :
  acceptAll (segment :: rest) names = true
    ↔ ∃ name below, names = name :: below ∧ segment.accepts name = true
      ∧ acceptAll rest below = true
  := by
  cases names with
  | nil => simp [acceptAll_cons_nil h]
  | cons name below => simp [acceptAll_cons_cons h, and_assoc]

/-- The first segment takes a piece of the names, and the other segments accept what is below. -/
theorem acceptAll_cons_iff {segment : Segment} {rest : List Segment} {names : List (List Char)} :
  acceptAll (segment :: rest) names = true
    ↔ ∃ piece below, names = piece ++ below ∧ segment.Takes piece ∧ acceptAll rest below = true
  := by
  by_cases h : segment = .anyDepth
  · subst h
    simp only [acceptAll, List.any_eq_true, mem_ends_iff]
    constructor
    · rintro ⟨below, ⟨piece, rfl⟩, hb⟩
      use piece, below, rfl, trivial, hb
    · rintro ⟨piece, below, rfl, -, hb⟩
      use below, ⟨piece, rfl⟩, hb
  · rw [acceptAll_cons h]
    constructor
    · rintro ⟨name, below, rfl, ha, hb⟩
      use [name], below, rfl, (takes_iff h _).mpr ⟨name, rfl, ha⟩, hb
    · rintro ⟨piece, below, rfl, ht, hb⟩
      obtain ⟨name, rfl, ha⟩ := (takes_iff h _).mp ht
      use name, below, rfl, ha, hb

/-- Segments accept the names that can be cut into pieces which they take. -/
theorem acceptAll_iff_cut {segments : List Segment} {names : List (List Char)} :
  acceptAll segments names = true ↔ Cut Takes (fun _ => True) segments names
  := by
  induction segments generalizing names with
  | nil => simp [acceptAll, Cut.nil_iff]
  | cons segment rest ih =>
    rw [acceptAll_cons_iff]
    by_cases hr : rest = []
    · subst hr
      rw [Cut.singleton_iff]
      simp [ih, Cut.nil_iff]
    · rw [Cut.cons_iff hr]
      simp only [ih]

/-! ### Adjacent `**` -/

/-- After `**`, another `**` takes no names that the first could not take.  The last piece only
grows when the two are made one. -/
theorem cut_anyDepth_anyDepth {final : List (List Char) → Prop}
    (hfinal : ∀ piece last, final last → final (piece ++ last)) {rest : List Segment}
    {names : List (List Char)} :
  Cut Takes final (.anyDepth :: .anyDepth :: rest) names
    ↔ Cut Takes final (.anyDepth :: rest) names
  := by
  rw [Cut.cons_iff (by simp)]
  by_cases hr : rest = []
  · subst hr
    simp only [Cut.singleton_iff, takes_anyDepth, true_and]
    constructor
    · rintro ⟨piece, last, rfl, hlast⟩
      apply hfinal piece last hlast
    · intro h
      use [], names, rfl, h
  · simp only [Cut.cons_iff hr, takes_anyDepth, true_and]
    constructor
    · rintro ⟨p, _, rfl, q, below, rfl, hb⟩
      exact ⟨p ++ q, below, by simp, hb⟩
    · rintro ⟨piece, below, rfl, hb⟩
      exact ⟨[], piece ++ below, rfl, piece, below, rfl, hb⟩

/-- After a segment, the rest may be exchanged for a rest that accepts the same names. -/
theorem cut_cons_congr {final : List (List Char) → Prop} {segment : Segment}
    {rest rest' : List Segment} (hr : rest ≠ []) (hr' : rest' ≠ [])
    (h : ∀ names, Cut Takes final rest names ↔ Cut Takes final rest' names)
    (names : List (List Char)) :
  Cut Takes final (segment :: rest) names ↔ Cut Takes final (segment :: rest') names
  := by
  rw [Cut.cons_iff hr, Cut.cons_iff hr']
  simp only [h]

end Segment

end Compendium
