import Mathlib.Data.List.Basic
import Compendium.Proofs.Path.Entry

/-!
# Paths resolved by their texts

A path is resolved by its text alone when every step up takes back the name before it, whatever is
on a disk.  What lies within a base once both are resolved is where the path leads if there are no
links.  A path that begins with the parts of a base lies within it as long as the steps up behind
the base take back nothing but names that are behind it too.
-/

namespace Compendium.Path

/-- One part more behind parts that are resolved.  A step up takes back a name, and does not lead
above the root. -/
def resolveStep (done : List PathPart) : PathPart → List PathPart
  | .here => done
  | .up =>
    match done.getLast? with
    | some (.name _) => done.dropLast
    | some .root => done
    | _ => done ++ [.up]
  | part => done ++ [part]

/-- The parts of a path once it is resolved. -/
def resolved (p : Path) : List PathPart := p.parts.foldl resolveStep []

/-- Whether a path lies strictly within a base, both being resolved. -/
def LiesWithin (path base : Path) : Prop :=
  ∃ names : List Name, names ≠ [] ∧ path.resolved = base.resolved ++ names.map .name

theorem LiesWithin.isPrefix {path base : Path} (h : path.LiesWithin base) :
  base.resolved <+: path.resolved
  := by
  obtain ⟨names, -, hnames⟩ := h
  rw [hnames]
  apply List.prefix_append

/-! ### Steps -/

section

variable {done : List PathPart} {part : PathPart}

theorem resolveStep_name (done : List PathPart) (name : List Char) :
  resolveStep done (.name name) = done ++ [.name name]
  := rfl

theorem resolveStep_up_concat (done : List PathPart) (name : List Char) :
  resolveStep (done ++ [.name name]) .up = done
  := by
  rw [resolveStep, List.getLast?_concat]
  apply List.dropLast_concat

/-- Only names are taken back. -/
theorem mem_resolveStep (h : part ∈ done) (hpart : ∀ name, part ≠ .name name) (next : PathPart) :
  part ∈ resolveStep done next
  := by
  cases next with
  | here => apply h
  | root => apply List.mem_append_left _ h
  | name name => apply List.mem_append_left _ h
  | up =>
    obtain rfl | ⟨before, last, rfl⟩ := List.eq_nil_or_concat' done
    · contradiction
    cases last with
    | name name =>
      rw [resolveStep_up_concat]
      rcases List.mem_append.mp h with h | h
      · apply h
      · apply absurd (List.mem_singleton.mp h) (hpart name)
    | root => simpa [resolveStep] using h
    | here =>
      rw [resolveStep, List.getLast?_concat]
      apply List.mem_append_left _ h
    | up =>
      rw [resolveStep, List.getLast?_concat]
      apply List.mem_append_left _ h

theorem mem_foldl_resolveStep (h : part ∈ done) (hpart : ∀ name, part ≠ .name name)
    (rest : List PathPart) :
  part ∈ rest.foldl resolveStep done
  := by
  induction rest generalizing done with
  | nil => apply h
  | cons next rest ih =>
    apply ih
    apply mem_resolveStep h hpart

/-- What is resolved to names has been names all along. -/
theorem mem_map_name_of_foldl {names : List Name} {rest : List PathPart}
    (h : rest.foldl resolveStep done = names.map .name) (hpart : part ∈ done) :
  ∃ name, part = .name name
  := by
  by_contra hne
  have hmem := mem_foldl_resolveStep hpart (fun name hname => hne ⟨name, hname⟩) rest
  rw [h] at hmem
  obtain ⟨name, -, rfl⟩ := List.mem_map.mp hmem
  apply hne ⟨name, rfl⟩

end

/-! ### Behind a base -/

/-- Names behind resolved parts stay behind them. -/
theorem foldl_resolveStep_map_name (done : List PathPart) (names : List Name) :
  (names.map PathPart.name).foldl resolveStep done = done ++ names.map .name
  := by
  induction names generalizing done with
  | nil => simp
  | cons name names ih =>
    rw [List.map_cons, List.foldl_cons, ih, resolveStep_name, List.append_assoc,
      List.singleton_append]

/-- Where parts resolve to names on their own, they resolve to the same names behind any others: no
step up takes back what is before them. -/
theorem foldl_resolveStep_append (base : List PathPart) {done names : List Name}
    {rest : List PathPart}
    (h : rest.foldl resolveStep (done.map .name) = names.map .name) :
  rest.foldl resolveStep (base ++ done.map .name) = base ++ names.map .name
  := by
  induction rest generalizing done with
  | nil =>
    rw [List.foldl_nil] at h ⊢
    rw [h]
  | cons part rest ih =>
    rw [List.foldl_cons] at h ⊢
    cases part with
    | here => apply ih h
    | root =>
      have hroot : .root ∈ resolveStep (done.map .name) .root := by simp [resolveStep]
      obtain ⟨name, hname⟩ := mem_map_name_of_foldl h hroot
      contradiction
    | name name =>
      have hmore : done.map PathPart.name ++ [.name name] = (done ++ [name]).map .name := by simp
      rw [resolveStep_name, hmore] at h
      rw [resolveStep_name, List.append_assoc, hmore]
      apply ih h
    | up =>
      obtain rfl | ⟨before, last, rfl⟩ := List.eq_nil_or_concat' done
      · have hup : .up ∈ resolveStep (([] : List Name).map .name) .up := by simp [resolveStep]
        obtain ⟨name, hname⟩ := mem_map_name_of_foldl h hup
        contradiction
      · rw [List.map_append, List.map_singleton, resolveStep_up_concat] at h
        rw [List.map_append, List.map_singleton, ← List.append_assoc, resolveStep_up_concat]
        apply ih h

/-- A path that begins with the parts of a base lies within it if what is behind the base resolves
to names on its own. -/
theorem liesWithin_of_parts {path base : Path} {rest : List PathPart}
    (hparts : path.parts = base.parts ++ rest) {names : List Name} (hne : names ≠ [])
    (hrest : rest.foldl resolveStep [] = names.map .name) :
  path.LiesWithin base
  := by
  use names, hne
  have hbehind : rest.foldl resolveStep (base.resolved ++ ([] : List Name).map .name)
      = base.resolved ++ names.map .name := foldl_resolveStep_append base.resolved hrest
  rw [List.map_nil, List.append_nil] at hbehind
  rw [resolved, hparts, List.foldl_append]
  apply hbehind

end Compendium.Path
