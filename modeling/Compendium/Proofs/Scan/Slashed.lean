import Mathlib.Data.List.Basic
import Compendium.Proofs.Disk.Below

/-!
# Paths that are too long

A path of more bytes than are looked up leads nowhere.  A directory can be spelled with slashes
behind its name, as many as fit; then it is found itself, but the paths of its entries are too
long.  So a file can be in a directory that is scanned without being found by its path.
-/

namespace Compendium

/-- Whether a path is longer than any that is looked up. -/
def Path.TooLong (p : Path) : Prop := Disk.pathLimit < (Text.bytes p.text.toList).length

namespace Disk

variable {d : Disk} {path : Path}

/-- A path that is too long leads nowhere. -/
theorem locate_of_tooLong (h : path.TooLong) (purpose : Purpose) (l : Location) :
  d.locate purpose path ≠ .ok l
  := by
  intro hl
  obtain ⟨-, -, hlen, -⟩ := locate_eq_ok_iff.mp hl
  apply Nat.not_le.mpr h hlen

/-- What is found to be a file has a path that is not too long. -/
theorem not_tooLong_of_isFile (h : d.isFile path = true) :
  ¬ path.TooLong
  := by
  obtain ⟨l, bytes, hl, -⟩ := exists_of_isFile h
  intro hlong
  apply locate_of_tooLong hlong .content l hl

/-- An entry that counts as a file is found by its path exactly if that is not too long. -/
theorem isFile_down_iff_of_isFileEntry {root : Path} {l : Location} {names : List Name}
    {node : Node} (hd : d.WellFormed) (hl : d.locate .content root = .ok l)
    (hdir : d.root.kindAt l = some .dir) (hat : d.root.at? (l ++ names) = some node)
    (hentry : d.isFileEntry (root.down names) node = true) :
  d.isFile (root.down names) = true ↔ ¬ (root.down names).TooLong
  := by
  constructor
  · apply not_tooLong_of_isFile
  · intro hroom
    cases node with
    | link target => simpa [isFileEntry, Node.isFile] using hentry
    | dir entries => simpa [isFileEntry, Node.isFile] using hentry
    | file bytes =>
      have hlocate := locate_down_of_at? hl hdir hd hat (by simp) (Nat.le_of_not_lt hroom)
      apply isFile_iff.mpr
      use bytes
      apply read_eq_ok_iff.mpr ⟨_, hlocate, hat⟩

end Disk

namespace Scan

/-- The path `b`, with slashes behind it. -/
def slashed (n : Nat) : Path := .ofChars ('b' :: List.replicate n '/')

theorem toList_text_slashed (n : Nat) :
  (slashed n).text.toList = 'b' :: List.replicate n '/'
  := String.toList_ofList

theorem length_bytes_slashed (n : Nat) :
  (Text.bytes (slashed n).text.toList).length = n + 1
  := by
  have hslash : (String.utf8EncodeChar '/').length = 1 := rfl
  have hb : (String.utf8EncodeChar 'b').length = 1 := rfl
  rw [toList_text_slashed, Text.bytes, List.flatMap_cons, List.length_append, hb,
    List.length_flatMap, List.map_replicate, hslash, List.sum_replicate_nat]
  simp [Nat.add_comm]

theorem pieces_replicate (sep : Char) (n : Nat) :
  Text.pieces sep (List.replicate n sep) = List.replicate (n + 1) []
  := by
  induction n with
  | zero => rfl
  | succ n ih => rw [List.replicate_succ, Text.pieces_cons_self, ih, ← List.replicate_succ]

section

variable {n : Nat} (hn : n ≠ 0)

include hn

theorem getLast?_text_slashed :
  (slashed n).text.toList.getLast? = some '/'
  := by
  obtain ⟨m, rfl⟩ := Nat.exists_eq_succ_of_ne_zero hn
  rw [toList_text_slashed]
  simp [List.getLast?_cons, List.getLast?_replicate]

theorem steps_slashed :
  Disk.steps (slashed n).text.toList = [.name ['b'], .slash]
  := by
  rw [Disk.steps, if_pos (getLast?_text_slashed hn), toList_text_slashed]
  obtain ⟨m, rfl⟩ := Nat.exists_eq_succ_of_ne_zero hn
  rw [List.replicate_succ, Text.pieces_cons_of_ne (by decide) (Text.pieces_cons_self _ _),
    pieces_replicate]
  simp [Disk.step?, List.filterMap_replicate_of_none]

theorem length_bytes_slashed_entry :
  (Text.bytes ((slashed n).entry ['x']).text.toList).length = n + 2
  := by
  have hx : Name.Valid ['x'] := by constructor <;> decide
  have hne : (slashed n).text.toList ≠ [] := by simp [toList_text_slashed]
  have hbytes : (['x'].flatMap String.utf8EncodeChar).length = 1 := rfl
  have hlen := length_bytes_slashed n
  rw [Text.bytes] at hlen
  rw [Path.toList_text_entry hx, if_neg hne, if_pos (getLast?_text_slashed hn), Text.bytes,
    List.flatMap_append, List.length_append, hlen, hbytes]

/-- However many slashes there are, the path leads to the directory, if it is not too long. -/
theorem locate_slashed {d : Disk} (hlen : n + 1 ≤ Disk.pathLimit)
    (hdir : d.root.kindAt (d.here ++ [['b']]) = some .dir) :
  d.locate .content (slashed n) = .ok (d.here ++ [['b']])
  := by
  have hb : ∀ name ∈ [['b']], Name.Valid name := by
    rw [List.forall_mem_singleton]
    constructor <;> decide
  have hnull : '\x00' ∉ (slashed n).text.toList := by
    rw [toList_text_slashed, List.mem_cons, List.mem_replicate]
    simp
  have hne : (slashed n).text.toList ≠ [] := by simp [toList_text_slashed]
  have hshort : (Text.bytes (slashed n).text.toList).length ≤ Disk.pathLimit := by
    rwa [length_bytes_slashed]
  have hstart : Disk.start (slashed n).text.toList d.here = d.here := by
    rw [Disk.start, if_neg]
    simp [toList_text_slashed]
  obtain ⟨entries, hat⟩ := Node.kindAt_eq_dir_iff.mp hdir
  obtain ⟨links, hfurther⟩ :=
    Disk.follow_further (Disk.follow_names Disk.linkLimit hat (by simp) hb)
  apply Disk.locate_eq_ok_iff.mpr
  use hnull, hne, hshort
  rw [hstart, steps_slashed hn]
  have hslash := hfurther [.slash]
  rw [Disk.follow_slash _ _ _ hdir, Disk.follow_nil] at hslash
  apply hslash

end

/-- The longest path that the directory `b` can have is too long with the name of an entry behind
it. -/
theorem tooLong_slashed_entry :
  ((slashed 4094).entry ['x']).TooLong
  := by
  rw [Path.TooLong, length_bytes_slashed_entry (by decide)]
  decide

/-- A path can lead to a directory, and be so long that none leads on to an entry of it. -/
theorem locate_slashed_entry {d : Disk} (hdir : d.root.kindAt (d.here ++ [['b']]) = some .dir) :
  d.locate .content ((slashed 4094).entry ['x']) = .error .nameTooLong
  := by
  have hx : ∀ name ∈ [['x']], Name.Valid name := by
    rw [List.forall_mem_singleton]
    constructor <;> decide
  have hroot := locate_slashed (n := 4094) (by decide) (by decide) hdir
  obtain ⟨links, hdown⟩ := Disk.locate_down hroot hdir
  have hlocate := hdown [['x']] (by simp) hx
  rw [Path.down_cons, Path.down_nil] at hlocate
  apply hlocate.trans (if_pos tooLong_slashed_entry)

end Scan

end Compendium
