import Mathlib.Data.List.Basic
import Compendium.Disk

/-!
# Kinds of nodes

Which way a path leads depends on the kinds of the nodes on the way only, not on what is in the
files.  `Node.kindAt` is the kind of the node at a location and `Node.bytesAt` what is in the
file there.  Where two trees have the same kinds, `Disk.follow` ends in the same way.
-/

namespace Compendium

namespace Entries

/-! ### Induction over entries -/

/-- What holds of no entries, and of entries when it holds of those after the first, holds of
all entries. -/
@[elab_as_elim]
theorem induction_along {motive : Entries → Prop} (nil : motive .nil)
    (cons : ∀ name node rest, motive rest → motive (.cons name node rest)) (entries : Entries) :
  motive entries
  := @Entries.rec (fun _ => True) motive (fun _ => trivial) (fun _ => trivial)
    (fun _ _ => trivial) nil (fun name node rest _ ih => cons name node rest ih) entries

/-- If the first entry is a directory, what is to be shown may be known of its entries too. -/
@[elab_as_elim]
theorem induction_below {motive : Entries → Prop} (nil : motive .nil)
    (other : ∀ name node rest, node.isDir = false → motive rest → motive (.cons name node rest))
    (dir : ∀ name inner rest, motive inner → motive rest → motive (.cons name (.dir inner) rest))
    (entries : Entries) :
  motive entries
  := @Entries.rec (fun node => ∀ inner, node = .dir inner → motive inner) motive
    (fun _ _ h => Node.noConfusion h) (fun _ _ h => Node.noConfusion h)
    (fun _ ih _ h => Node.dir.inj h ▸ ih) nil
    (fun name node rest hnode ih =>
      match node, hnode with
      | .file _, _ => other name _ rest rfl ih
      | .link _, _ => other name _ rest rfl ih
      | .dir inner, hinner => dir name inner rest (hinner inner rfl) ih) entries

end Entries

/-- The kinds of nodes.  Of a link it is known where it leads. -/
inductive Node.Kind where
  | file
  | link (target : List Char)
  | dir
deriving DecidableEq

namespace Node

/-- The kind of a node. -/
def kind : Node → Kind
  | .file _ => .file
  | .link target => .link target
  | .dir _ => .dir

/-- What is in a file. -/
def bytes? : Node → Option (List UInt8)
  | .file bytes => some bytes
  | _ => none

/-- The kind of the node at a location. -/
def kindAt (root : Node) (l : Location) : Option Kind := (root.at? l).map kind

/-- What is in the file at a location. -/
def bytesAt (root : Node) (l : Location) : Option (List UInt8) := (root.at? l).bind bytes?

/-! ### Locations -/

@[simp]
theorem at?_nil (root : Node) :
  root.at? [] = some root
  := rfl

@[simp]
theorem at?_dir_cons (entries : Entries) (name : Name) (l : Location) :
  (dir entries).at? (name :: l) = (entries.find? name).bind fun below => below.at? l
  := rfl

@[simp]
theorem at?_file_cons (bytes : List UInt8) (name : Name) (l : Location) :
  (file bytes).at? (name :: l) = none
  := rfl

@[simp]
theorem at?_link_cons (target : List Char) (name : Name) (l : Location) :
  (link target).at? (name :: l) = none
  := rfl

/-- A location leads on from where its beginning leads. -/
theorem at?_append (root : Node) (l m : Location) :
  root.at? (l ++ m) = (root.at? l).bind fun node => node.at? m
  := by
  induction l generalizing root with
  | nil => rfl
  | cons name l ih =>
    cases root with
    | file => rfl
    | link => rfl
    | dir entries =>
      rw [List.cons_append, at?_dir_cons, at?_dir_cons]
      cases entries.find? name with
      | none => rfl
      | some below => apply ih

/-- The entries of a directory are at its location followed by their names. -/
theorem at?_concat {root : Node} {l : Location} {entries : Entries}
    (h : root.at? l = some (.dir entries)) (name : Name) :
  root.at? (l ++ [name]) = entries.find? name
  := by
  rw [at?_append, h]
  simp

theorem kind_eq_dir_iff {node : Node} :
  node.kind = .dir ↔ ∃ entries, node = .dir entries
  := by
  cases node <;> simp [kind]

theorem kind_eq_file_iff {node : Node} :
  node.kind = .file ↔ ∃ bytes, node = .file bytes
  := by
  cases node <;> simp [kind]

theorem kindAt_eq_dir_iff {root : Node} {l : Location} :
  root.kindAt l = some .dir ↔ ∃ entries, root.at? l = some (.dir entries)
  := by
  simp only [kindAt, Option.map_eq_some_iff, kind_eq_dir_iff]
  constructor
  · rintro ⟨_, h, entries, rfl⟩
    use entries
  · rintro ⟨entries, h⟩
    use .dir entries, h, entries

theorem kindAt_eq_file_iff {root : Node} {l : Location} :
  root.kindAt l = some .file ↔ ∃ bytes, root.at? l = some (.file bytes)
  := by
  simp only [kindAt, Option.map_eq_some_iff, kind_eq_file_iff]
  constructor
  · rintro ⟨_, h, bytes, rfl⟩
    use bytes
  · rintro ⟨bytes, h⟩
    use .file bytes, h, bytes

theorem bytesAt_eq_some_iff {root : Node} {l : Location} {bytes : List UInt8} :
  root.bytesAt l = some bytes ↔ root.at? l = some (.file bytes)
  := by
  rw [bytesAt]
  cases root.at? l with
  | none => simp
  | some node => cases node <;> simp [bytes?]

theorem kindAt_nil (root : Node) :
  root.kindAt [] = some root.kind
  := rfl

theorem kindAt_cons (entries : Entries) (name : Name) (l : Location) :
  (dir entries).kindAt (name :: l) = (entries.find? name).bind fun below => below.kindAt l
  := by
  rw [kindAt, at?_dir_cons]
  cases entries.find? name <;> rfl

/-- What is further down is below an entry of a directory. -/
theorem exists_of_kindAt_cons {root : Node} {name : Name} {l : Location} {kind : Node.Kind}
    (h : root.kindAt (name :: l) = some kind) :
  ∃ entries below, root = dir entries ∧ entries.find? name = some below
    ∧ below.kindAt l = some kind
  := by
  cases root with
  | file => simp [kindAt] at h
  | link => simp [kindAt] at h
  | dir entries =>
    rw [kindAt_cons] at h
    obtain ⟨below, hfind, hbelow⟩ := Option.bind_eq_some_iff.mp h
    use entries, below

/-- Above a location where there is something there are directories. -/
theorem kindAt_of_append {root : Node} {l m : Location} (hm : m ≠ [])
    (h : (root.at? (l ++ m)).isSome = true) :
  root.kindAt l = some .dir
  := by
  rw [at?_append] at h
  obtain ⟨name, rest, rfl⟩ := List.exists_cons_of_ne_nil hm
  cases hl : root.at? l with
  | none => simp [hl] at h
  | some node => cases node <;> simp_all [kindAt, kind]

/-- Above a directory there are directories. -/
theorem kindAt_of_prefix {root : Node} {l m : Location} (hl : l <+: m)
    (h : root.kindAt m = some .dir) :
  root.kindAt l = some .dir
  := by
  obtain ⟨rest, rfl⟩ := hl
  by_cases hrest : rest = []
  · rwa [hrest, List.append_nil] at h
  · obtain ⟨entries, hat⟩ := kindAt_eq_dir_iff.mp h
    apply kindAt_of_append hrest (by simp [hat])

end Node

namespace Disk

theorem follow_nil (root : Node) (purpose : Purpose) (links : Nat) (here : Location) :
  follow root purpose links here [] = .ok here
  := by
  rw [follow]

section

variable {root : Node} {here : Location} (purpose : Purpose) (links : Nat) (rest : List Step)

/-- A step is taken in a directory only. -/
theorem follow_of_kindAt_ne (h : root.kindAt here ≠ some .dir) (step : Step) :
  follow root purpose links here (step :: rest) = .error .notDirectory
  := by
  rw [follow]
  split
  · rename_i entries hhere
    apply absurd (Node.kindAt_eq_dir_iff.mpr ⟨entries, hhere⟩) h
  · rfl

theorem follow_stay (h : root.kindAt here = some .dir) :
  follow root purpose links here (.stay :: rest) = follow root purpose links here rest
  := by
  obtain ⟨entries, hhere⟩ := Node.kindAt_eq_dir_iff.mp h
  rw [follow, hhere]

theorem follow_slash (h : root.kindAt here = some .dir) :
  follow root purpose links here (.slash :: rest) = follow root purpose links here rest
  := by
  obtain ⟨entries, hhere⟩ := Node.kindAt_eq_dir_iff.mp h
  rw [follow, hhere]

theorem follow_up (h : root.kindAt here = some .dir) :
  follow root purpose links here (.up :: rest) = follow root purpose links here.dropLast rest
  := by
  obtain ⟨entries, hhere⟩ := Node.kindAt_eq_dir_iff.mp h
  rw [follow, hhere]

/-- A step to a name is taken by the kind of what has that name. -/
theorem follow_name (h : root.kindAt here = some .dir) (n : Name) :
  follow root purpose links here (.name n :: rest) =
    if purpose = .making ∧ rest = [.slash] then .error .isDirectory
    else if nameLimit < (Text.bytes n).length then .error .nameTooLong
    else match root.kindAt (here ++ [n]) with
    | none => if purpose = .making ∧ rest = [] then .ok (here ++ [n]) else .error .notFound
    | some (.link target) =>
      if purpose = .entry ∧ rest = [] then .ok (here ++ [n])
      else match links with
      | 0 => .error .linkLoop
      | links + 1 => follow root purpose links (start target here) (steps target ++ rest)
    | some _ => follow root purpose links (here ++ [n]) rest
  := by
  obtain ⟨entries, hhere⟩ := Node.kindAt_eq_dir_iff.mp h
  rw [follow, hhere]
  simp only [Node.kindAt, Node.at?_concat hhere]
  cases entries.find? n with
  | none => rfl
  | some below => cases below <;> rfl

end

/-- Two trees have the same kinds except at hidden locations, at which there is nothing or a
file. -/
structure AgreeBut (hidden : Location → Prop) (root root' : Node) : Prop where
  kindAt_eq : ∀ l, ¬ hidden l → root.kindAt l = root'.kindAt l
  left : ∀ l, hidden l → root.kindAt l = none ∨ root.kindAt l = some .file
  right : ∀ l, hidden l → root'.kindAt l = none ∨ root'.kindAt l = some .file

/-- What looking up ends with is a hidden location, or no location at all. -/
def Concealed (hidden : Location → Prop) (found : Except AccessFault Location) : Prop :=
  (∃ l, hidden l) ∧ ∀ l, found = .ok l → hidden l

/-- Behind a step to a hidden location there is nowhere to go. -/
theorem concealed_of_name {hidden : Location → Prop} {root : Node} {purpose : Purpose}
    {links : Nat} {here : Location} {n : Name} {rest : List Step} (h : hidden (here ++ [n]))
    (hk : root.kindAt (here ++ [n]) = none ∨ root.kindAt (here ++ [n]) = some .file) :
  Concealed hidden (follow root purpose links here (.name n :: rest))
  := by
  use ⟨_, h⟩
  intro l hl
  by_cases hdir : root.kindAt here = some .dir
  · rw [follow_name _ _ _ hdir] at hl
    split at hl
    · simp at hl
    split at hl
    · simp at hl
    rcases hk with hk | hk
    · simp only [hk] at hl
      split at hl
      · obtain rfl := Except.ok.inj hl
        apply h
      · simp at hl
    · simp only [hk] at hl
      cases rest with
      | nil =>
        rw [follow_nil] at hl
        obtain rfl := Except.ok.inj hl
        apply h
      | cons step rest =>
        rw [follow_of_kindAt_ne _ _ _ (by simp [hk])] at hl
        simp at hl
  · rw [follow_of_kindAt_ne _ _ _ hdir] at hl
    simp at hl

/-- Looking up ends in the same way in trees with the same kinds, unless it ends at what is
hidden or nowhere in both of them. -/
theorem follow_congr {hidden : Location → Prop} {root root' : Node}
    (h : AgreeBut hidden root root') (purpose : Purpose) :
  ∀ (links : Nat) (here : Location) (steps : List Step),
    follow root purpose links here steps = follow root' purpose links here steps
      ∨ (Concealed hidden (follow root purpose links here steps)
        ∧ Concealed hidden (follow root' purpose links here steps))
  | links, here, [] => by
    left
    rw [follow_nil, follow_nil]
  | links, here, step :: rest => by
    by_cases hhere : hidden here
    · -- Neither tree has a directory here.
      left
      rw [follow_of_kindAt_ne, follow_of_kindAt_ne]
      · rcases h.right here hhere with hk | hk <;> simp [hk]
      · rcases h.left here hhere with hk | hk <;> simp [hk]
    have hkind := h.kindAt_eq here hhere
    by_cases hdir : root.kindAt here = some .dir
    · have hdir' := hkind ▸ hdir
      cases step with
      | stay =>
        rw [follow_stay _ _ _ hdir, follow_stay _ _ _ hdir']
        apply follow_congr h purpose links here rest
      | slash =>
        rw [follow_slash _ _ _ hdir, follow_slash _ _ _ hdir']
        apply follow_congr h purpose links here rest
      | up =>
        rw [follow_up _ _ _ hdir, follow_up _ _ _ hdir']
        apply follow_congr h purpose links here.dropLast rest
      | name n =>
        by_cases hn : hidden (here ++ [n])
        · right
          constructor
          · apply concealed_of_name hn (h.left _ hn)
          · apply concealed_of_name hn (h.right _ hn)
        · rw [follow_name _ _ _ hdir, follow_name _ _ _ hdir', h.kindAt_eq _ hn]
          split
          · left
            rfl
          split
          · left
            rfl
          cases root'.kindAt (here ++ [n]) with
          | none =>
            left
            rfl
          | some kind =>
            cases kind with
            | file => apply follow_congr h purpose links (here ++ [n]) rest
            | dir => apply follow_congr h purpose links (here ++ [n]) rest
            | link target =>
              dsimp only
              split
              · left
                rfl
              cases links with
              | zero =>
                left
                rfl
              | succ links =>
                apply follow_congr h purpose links (start target here) (steps target ++ rest)
    · left
      rw [follow_of_kindAt_ne _ _ _ hdir, follow_of_kindAt_ne _ _ _ (hkind ▸ hdir)]
termination_by links _ steps => (links, steps.length)

/-- Trees with the same kinds everywhere agree on where a path leads. -/
theorem follow_eq_of_kindAt {root root' : Node} (h : ∀ l, root.kindAt l = root'.kindAt l)
    (purpose : Purpose) (links : Nat) (here : Location) (steps : List Step) :
  follow root purpose links here steps = follow root' purpose links here steps
  := by
  have hagree : AgreeBut (fun _ => False) root root' := ⟨fun l _ => h l, by simp, by simp⟩
  rcases follow_congr hagree purpose links here steps with heq | ⟨⟨⟨_, hfalse⟩, _⟩, _⟩
  · apply heq
  · contradiction

end Disk

end Compendium
