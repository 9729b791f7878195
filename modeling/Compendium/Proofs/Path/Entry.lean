import Mathlib.Data.List.Basic
import Compendium.Disk.Lookup
import Compendium.Proofs.Text.Pieces

/-!
# Paths of entries

The path of an entry has the parts of the path of its directory and then the name of the entry,
whether or not the path of the directory ends in a slash.  `Path.down` leads from a directory
along names, so that different names lead to different paths.
-/

namespace Compendium

/-- A name that an entry of a directory can have. -/
structure Name.Valid (name : Name) : Prop where
  ne_nil : name ≠ []
  ne_here : name ≠ ['.']
  ne_up : name ≠ ['.', '.']
  slash_notMem : '/' ∉ name
  null_notMem : '\x00' ∉ name
  length_le : (Text.bytes name).length ≤ Disk.nameLimit

namespace Path

/-- The path that leads along names from the directory `p`. -/
def down (p : Path) (names : List Name) : Path := names.foldl entry p

@[simp]
theorem down_nil (p : Path) :
  p.down [] = p
  := rfl

@[simp]
theorem down_cons (p : Path) (name : Name) (names : List Name) :
  p.down (name :: names) = (p.entry name).down names
  := rfl

theorem down_append (p : Path) (names below : List Name) :
  p.down (names ++ below) = (p.down names).down below
  := List.foldl_append

theorem down_concat (p : Path) (names : List Name) (name : Name) :
  p.down (names ++ [name]) = (p.down names).entry name
  := down_append p names [name]

/-! ### The text of an entry -/

section

variable {name : Name} (h : name.Valid)

include h

/-- The text of the path of an entry: a slash is put before its name where one is missing. -/
theorem toList_text_entry (p : Path) :
  (p.entry name).text.toList =
    if p.text.toList = [] then name
    else if p.text.toList.getLast? = some '/' then p.text.toList ++ name
    else p.text.toList ++ '/' :: name
  := by
  have habs : (ofChars name).isAbsolute = false := by
    rw [isAbsolute, ofChars, String.toList_ofList, decide_eq_false_iff_not]
    intro hhead
    apply h.slash_notMem
    apply List.mem_of_mem_head? hhead
  have hempty : p.text.isEmpty = true ↔ p.text.toList = [] := by simp
  rw [entry, join, habs, Bool.false_or]
  by_cases hp : p.text.toList = []
  · rw [if_pos (hempty.mpr hp), if_pos hp]
    simp [ofChars]
  · rw [if_neg (hempty.not.mpr hp), if_neg hp]
    split <;> simp [ofChars]

/-- The path of a directory is the beginning of the paths of its entries. -/
theorem isPrefix_text_entry (p : Path) :
  p.text.toList <+: (p.entry name).text.toList
  := by
  rw [toList_text_entry h]
  split
  · simp_all
  · split <;> simp

theorem head?_text_entry {p : Path} (hp : p.text.toList ≠ []) :
  (p.entry name).text.toList.head? = p.text.toList.head?
  := by
  obtain ⟨rest, hrest⟩ := isPrefix_text_entry h p
  rw [← hrest, List.head?_append_of_ne_nil _ hp]

theorem getLast?_text_entry (p : Path) :
  (p.entry name).text.toList.getLast? ≠ some '/'
  := by
  have hlast : name.getLast? ≠ some '/' := by
    intro hlast
    apply h.slash_notMem
    apply List.mem_of_getLast? hlast
  rw [toList_text_entry h]
  split
  · apply hlast
  · split
    · rwa [List.getLast?_append_of_ne_nil _ h.ne_nil]
    · rwa [List.getLast?_append_of_ne_nil _ (by simp), List.getLast?_cons_of_ne_nil h.ne_nil]

/-- Between slashes, the path of an entry has what the path of its directory has and then the
name of the entry. -/
theorem pieces_entry (p : Path) :
  ∃ before, Text.pieces '/' (p.entry name).text.toList = before ++ [name]
    ∧ (p.text.toList = [] ∧ before = []
      ∨ p.text.toList ≠ [] ∧ before ≠ []
        ∧ (Text.pieces '/' p.text.toList = before
          ∨ Text.pieces '/' p.text.toList = before ++ [[]]))
  := by
  have hname := Text.pieces_of_notMem h.slash_notMem
  rw [toList_text_entry h]
  by_cases hp : p.text.toList = []
  · use []
    simp [hp, hname]
  rw [if_neg hp]
  split
  · rename_i hlast
    obtain ⟨cs, hcs⟩ := List.getLast?_eq_some_iff.mp hlast
    use Text.pieces '/' cs
    rw [hcs, List.append_assoc, List.singleton_append, Text.pieces_append, hname,
      Text.pieces_append]
    simp [Text.pieces_ne_nil]
  · use Text.pieces '/' p.text.toList
    rw [Text.pieces_append, hname]
    simpa [Text.pieces_ne_nil] using hp

/-- What pieces stand for is kept by going down to an entry, if empty pieces stand for
nothing. -/
theorem filterMap_pieces_entry {α : Type} {f : List Char → Option α} (hf : f [] = none)
    (p : Path) :
  (Text.pieces '/' (p.entry name).text.toList).filterMap f
    = (Text.pieces '/' p.text.toList).filterMap f ++ (f name).toList
  := by
  obtain ⟨before, hentry, ⟨hp, rfl⟩ | ⟨-, -, hp | hp⟩⟩ := pieces_entry h p
  · rw [hentry, hp]
    cases hn : f name <;> simp [hf, hn]
  · rw [hentry, hp]
    cases hn : f name <;> simp [hn]
  · rw [hentry, hp]
    cases hn : f name <;> simp [hf, hn]

/-! ### The parts of an entry -/

omit h in
theorem part?_nil :
  part? [] = none
  := rfl

theorem part?_of_valid :
  part? name = some (.name name)
  := by
  simp [part?, isIdle, h.ne_nil, h.ne_here, h.ne_up]

theorem firstPart?_of_valid :
  firstPart? name = some (.name name)
  := by
  simp [firstPart?, h.ne_here, part?_of_valid h]

/-- The parts of the path of an entry are those of its directory, and its name. -/
theorem parts_entry (p : Path) :
  (p.entry name).parts = p.parts ++ [.name name]
  := by
  obtain ⟨before, hentry, ⟨hp, rfl⟩ | ⟨hne, hb, hp⟩⟩ := pieces_entry h p
  · have habs : (p.entry name).isAbsolute = false := by
      rw [isAbsolute, toList_text_entry h, if_pos hp, decide_eq_false_iff_not]
      intro hhead
      apply h.slash_notMem
      apply List.mem_of_mem_head? hhead
    have hparts : p.parts = [] := by simp [parts, hp, isAbsolute, firstPart?, part?_nil]
    rw [parts, hentry, hparts]
    simp only [List.nil_append, habs, firstPart?_of_valid h]
    rfl
  · have habs : (p.entry name).isAbsolute = p.isAbsolute := by
      rw [isAbsolute, isAbsolute, head?_text_entry h hne]
    obtain ⟨first, rest, rfl⟩ := List.exists_cons_of_ne_nil hb
    rw [parts, hentry, parts, List.cons_append]
    rcases hp with hp | hp
    · simp [hp, habs, part?_of_valid h]
    · simp [hp, habs, part?_of_valid h, part?_nil]

theorem fileName?_entry (p : Path) :
  (p.entry name).fileName? = some name
  := by
  rw [fileName?, parts_entry h]
  simp

end

/-! ### Going down -/

section

variable {names : List Name} (h : ∀ n ∈ names, Name.Valid n)

include h

theorem parts_down (p : Path) :
  (p.down names).parts = p.parts ++ names.map .name
  := by
  induction names generalizing p with
  | nil => simp
  | cons name names ih =>
    rw [down_cons, ih (fun n hn => h n (List.mem_cons_of_mem _ hn)),
      parts_entry (h name List.mem_cons_self)]
    simp

/-- Different names lead to different paths. -/
theorem down_injective {p : Path} {names' : List Name} (h' : ∀ n ∈ names', Name.Valid n)
    (heq : (p.down names).same (p.down names') = true) :
  names = names'
  := by
  rw [same, decide_eq_true_iff, parts_down h, parts_down h', List.append_cancel_left_eq] at heq
  apply List.map_injective_iff.mpr (fun _ _ hn => PathPart.name.inj hn) heq

/-- The path of a directory is the beginning of the paths that lead down from it. -/
theorem isPrefix_text_down (p : Path) :
  p.text.toList <+: (p.down names).text.toList
  := by
  induction names generalizing p with
  | nil => simp
  | cons name names ih =>
    apply (isPrefix_text_entry (h name List.mem_cons_self) p).trans
    apply ih (fun n hn => h n (List.mem_cons_of_mem _ hn))

theorem head?_text_down {p : Path} (hp : p.text.toList ≠ []) :
  (p.down names).text.toList.head? = p.text.toList.head?
  := by
  obtain ⟨rest, hrest⟩ := isPrefix_text_down h p
  rw [← hrest, List.head?_append_of_ne_nil _ hp]

/-- What pieces stand for is kept by going down, if empty pieces stand for nothing. -/
theorem filterMap_pieces_down {α : Type} {f : List Char → Option α} (hf : f [] = none)
    (p : Path) :
  (Text.pieces '/' (p.down names).text.toList).filterMap f
    = (Text.pieces '/' p.text.toList).filterMap f ++ names.filterMap f
  := by
  induction names generalizing p with
  | nil => simp
  | cons name names ih =>
    rw [down_cons, ih (fun n hn => h n (List.mem_cons_of_mem _ hn)),
      filterMap_pieces_entry (h name List.mem_cons_self) hf]
    cases hn : f name <;> simp [hn]

/-- The steps along a path that leads down. -/
theorem steps_down (p : Path) (hn : names ≠ []) :
  Disk.steps (p.down names).text.toList
    = (Text.pieces '/' p.text.toList).filterMap Disk.step? ++ names.map .name
  := by
  have hstep : names.filterMap Disk.step? = names.map .name := by
    rw [← List.filterMap_eq_map]
    apply List.filterMap_congr
    intro name hname
    have hv := h name hname
    simp [Disk.step?, hv.ne_nil, hv.ne_here, hv.ne_up]
  have hlast : (p.down names).text.toList.getLast? ≠ some '/' := by
    rw [← List.dropLast_concat_getLast hn, down_concat]
    apply getLast?_text_entry (h _ (List.getLast_mem hn))
  rw [Disk.steps, if_neg hlast, filterMap_pieces_down h (by simp [Disk.step?]), hstep]
  simp

/-- A path that leads down has no null character if the directory has none. -/
theorem null_notMem_down {p : Path} (hp : '\x00' ∉ p.text.toList) :
  '\x00' ∉ (p.down names).text.toList
  := by
  induction names generalizing p with
  | nil => apply hp
  | cons name names ih =>
    have hv := h name List.mem_cons_self
    apply ih (fun n hn => h n (List.mem_cons_of_mem _ hn))
    rw [toList_text_entry hv]
    split
    · apply hv.null_notMem
    · split
      · simp [hp, hv.null_notMem]
      · simp [hp, hv.null_notMem]

end

/-- What is left of parts after those of a base are the parts that follow them. -/
theorem partsAfter_eq_some_iff {base parts rest : List PathPart} :
  partsAfter base parts = some rest ↔ parts = base ++ rest
  := by
  induction base generalizing parts with
  | nil => simp [partsAfter, eq_comm]
  | cons b base ih =>
    cases parts with
    | nil => simp [partsAfter]
    | cons p parts =>
      rw [partsAfter]
      split
      · rename_i heq
        subst heq
        simp [ih]
      · rename_i hne
        simp [Ne.symm hne]

theorem fileName?_down_concat {names : List Name} {name : Name} (h : name.Valid) (p : Path) :
  (p.down (names ++ [name])).fileName? = some name
  := by
  rw [down_concat, fileName?_entry h]

end Path

end Compendium
