import Mathlib.Data.List.Basic
import Compendium.Proofs.Path.Entry

/-!
# Paths inside a base

A path is inside a base if it has names behind the parts of the base, and no step up.  Then the last
of these names is what the path ends with.
-/

namespace Compendium.Path

/-- Whether a path leads to something below a base: behind the parts of the base it has at least one
name, and no step up. -/
def IsInside (path base : Path) : Prop :=
  ∃ rest, path.partsBelow? base = some rest ∧ .up ∉ rest ∧ namesOf rest ≠ []

/-- Where no root can be, a piece of a text is a step up or a name, if it is a part at all. -/
theorem of_part?_eq_some {piece : List Char} {part : PathPart} (h : part? piece = some part) :
  part = .up ∨ part = .name piece
  := by
  rw [part?] at h
  split at h
  · contradiction
  · split at h
    · left
      apply (Option.some.inj h).symm
    · right
      apply (Option.some.inj h).symm

/-- Behind its first part, a path has only names and steps up. -/
theorem mem_tail_parts {path : Path} {part : PathPart} (h : part ∈ path.parts.tail) :
  part = .up ∨ ∃ name, part = .name name
  := by
  have hpiece : ∀ pieces : List (List Char), part ∈ pieces.filterMap part? →
      part = .up ∨ ∃ name, part = .name name := by
    intro pieces hmem
    obtain ⟨piece, -, hpart⟩ := List.mem_filterMap.mp hmem
    apply (of_part?_eq_some hpart).imp_right fun hname => ⟨piece, hname⟩
  rw [parts] at h
  split at h
  · contradiction
  · rename_i first rest _
    apply hpiece rest
    cases hfirst : if path.isAbsolute = true then some PathPart.root else firstPart? first with
    | none => apply List.mem_of_mem_tail (by simpa [hfirst] using h)
    | some _ => simpa [hfirst] using h

/-- What is inside a base ends with the last name that is behind the base. -/
theorem IsInside.exists_fileName {path base : Path} (h : path.IsInside base) :
  ∃ rest before name, path.partsBelow? base = some rest ∧ namesOf rest = before ++ [name]
    ∧ path.fileName? = some name
  := by
  obtain ⟨rest, hrest, hup, hnames⟩ := h
  have hparts : path.parts = base.parts ++ rest := partsAfter_eq_some_iff.mp hrest
  obtain rfl | ⟨front, last, rfl⟩ := List.eq_nil_or_concat' rest
  · contradiction
  have hlast : ∃ name, last = .name name := by
    by_cases hfront : front = []
    · subst hfront
      cases last with
      | name name => use name
      | _ => contradiction
    · have hmem : last ∈ path.parts.tail := by
        rw [hparts, ← List.append_assoc, List.tail_append_of_ne_nil (by simp [hfront])]
        simp
      rcases mem_tail_parts hmem with rfl | hname
      · simp at hup
      · apply hname
  obtain ⟨name, rfl⟩ := hlast
  use front ++ [.name name], namesOf front, name, hrest
  constructor
  · simp [namesOf]
  · rw [fileName?, hparts, ← List.append_assoc, List.getLast?_concat]

end Compendium.Path
