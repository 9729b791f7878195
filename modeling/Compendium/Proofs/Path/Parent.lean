import Mathlib.Data.List.Induction
import Compendium.Proofs.Disk.Below

/-!
# The path above a file

A path that leads to a file ends with the name of an entry, so that its parts are those of the
path above it and then that name.  This holds however the path is written: with empty and `.`
pieces in the middle, and with steps up before the name.
-/

namespace Compendium

namespace Path

/-! ### The path above -/

theorem dropIdleEnd_concat (pieces : List (List Char)) (piece : List Char) :
  dropIdleEnd (pieces ++ [piece])
    = if isIdle piece then dropIdleEnd pieces else pieces ++ [piece]
  := by
  rw [dropIdleEnd, List.reverse_append, List.reverse_singleton, List.singleton_append,
    List.dropWhile_cons]
  split
  · rfl
  · simp

theorem dropIdleEnd_subset (pieces : List (List Char)) :
  dropIdleEnd pieces ⊆ pieces
  := by
  intro piece hpiece
  rw [dropIdleEnd, List.mem_reverse] at hpiece
  apply List.mem_reverse.mp (List.dropWhile_subset _ hpiece)

/-- The pieces that are dropped stand for no part. -/
theorem filterMap_dropIdleEnd (pieces : List (List Char)) :
  (dropIdleEnd pieces).filterMap part? = pieces.filterMap part?
  := by
  induction pieces using List.reverseRecOn with
  | nil => rfl
  | append_singleton pieces piece ih =>
    rw [dropIdleEnd_concat]
    split
    · rename_i hidle
      have hpart : part? piece = none := by rw [part?, if_pos hidle]
      rw [ih, List.filterMap_append, List.filterMap_cons_none hpart]
      simp
    · rfl

/-- Joining pieces without those at the end that stand for no part loses no part. -/
theorem filterMap_pieces_join_dropIdleEnd {pieces : List (List Char)}
    (h : ∀ piece ∈ pieces, '/' ∉ piece) :
  (Text.pieces '/' (Text.join ['/'] (dropIdleEnd pieces))).filterMap part?
    = pieces.filterMap part?
  := by
  have hsame := filterMap_dropIdleEnd pieces
  by_cases hnil : dropIdleEnd pieces = []
  · rw [hnil] at hsame ⊢
    rw [← hsame]
    rfl
  · rw [Text.pieces_join hnil fun piece hpiece => h piece (dropIdleEnd_subset pieces hpiece),
      hsame]

/-- A path with a slash in it is absolute if there is nothing before the first slash. -/
theorem isAbsolute_of_pieces {p : Path} {first : List Char} {rest : List (List Char)}
    (h : Text.pieces '/' p.text.toList = first :: rest) :
  p.isAbsolute = true ↔ first = [] ∧ rest ≠ []
  := by
  have htext := Text.join_pieces '/' p.text.toList
  have hslash : '/' ∉ first := Text.notMem_of_mem_pieces (h ▸ List.mem_cons_self)
  rw [h] at htext
  rw [isAbsolute, ← htext, decide_eq_true_eq]
  cases rest with
  | nil =>
    simp only [ne_eq, not_true_eq_false, and_false, iff_false]
    intro hhead
    apply hslash (List.mem_of_mem_head? hhead)
  | cons piece rest =>
    rw [Text.join_cons (by simp)]
    cases first with
    | nil => simp
    | cons c first =>
      have hc : c ≠ '/' := by
        rintro rfl
        simp at hslash
      simp [hc]

/-- The parts of a path, from its pieces. -/
theorem parts_of_pieces {p : Path} {first : List Char} {rest : List (List Char)}
    (h : Text.pieces '/' p.text.toList = first :: rest) :
  p.parts = (if first = [] ∧ rest ≠ [] then some .root else firstPart? first).toList
    ++ rest.filterMap part?
  := by
  rw [parts, h]
  simp only [isAbsolute_of_pieces h]

section

variable {p : Path} {name : List Char} (hidle : isIdle name = false)

include hidle

/-- The path above one whose last piece is a name, where there are pieces before it. -/
theorem parent?_of_pieces {first : List Char} {middle : List (List Char)}
    (h : Text.pieces '/' p.text.toList = first :: (middle ++ [name])) :
  p.parent? = some
    (if first ≠ [] ∧ Text.join ['/'] (dropIdleEnd middle) = [] then ofChars first
    else ofChars (first ++ '/' :: Text.join ['/'] (dropIdleEnd middle)))
  := by
  obtain ⟨piece, rest, hrest⟩ := List.exists_cons_of_ne_nil
    (List.append_ne_nil_of_right_ne_nil middle (List.cons_ne_nil name []))
  have hdrop : dropIdleEnd (middle ++ [name]) = piece :: rest := by
    rw [dropIdleEnd_concat, hidle, if_neg Bool.false_ne_true, hrest]
  have hlast : (piece :: rest).dropLast = middle := by
    rw [← hrest, List.dropLast_concat]
  rw [parent?, h]
  dsimp only
  rw [hdrop]
  dsimp only
  rw [hlast]
  simp only [isAbsolute_of_pieces h]
  by_cases hfirst : first = []
  · simp [hfirst]
  · by_cases habove : Text.join ['/'] (dropIdleEnd middle) = [] <;> simp [hfirst, habove]

/-- A path whose last piece is a name has the parts of the path above it and then the name. -/
theorem parts_parent?_of_pieces {before : List (List Char)}
    (h : Text.pieces '/' p.text.toList = before ++ [name]) (hup : name ≠ ['.', '.']) :
  p.parts = (p.parent?.getD ⟨""⟩).parts ++ [.name name]
  := by
  have hpart : part? name = some (.name name) := by simp [part?, hidle, hup]
  have hslash : ∀ piece ∈ before ++ [name], '/' ∉ piece := by
    rw [← h]
    intro piece
    apply Text.notMem_of_mem_pieces
  cases before with
  | nil =>
    obtain ⟨hnil, hhere⟩ : name ≠ [] ∧ name ≠ ['.'] := by simpa [isIdle] using hidle
    have hparent : p.parent? = some ⟨""⟩ := by
      rw [parent?, h]
      apply if_neg hnil
    rw [List.nil_append] at h
    rw [hparent, parts_of_pieces h, if_neg (by simp), firstPart?, if_neg hhere, hpart]
    rfl
  | cons first middle =>
    rw [List.cons_append] at h hslash
    have hfirst := Text.pieces_of_notMem (hslash first List.mem_cons_self)
    have hmiddle : (Text.pieces '/' (Text.join ['/'] (dropIdleEnd middle))).filterMap part?
        = middle.filterMap part? :=
      filterMap_pieces_join_dropIdleEnd fun piece hpiece => hslash piece (by simp [hpiece])
    rw [parent?_of_pieces hidle h, parts_of_pieces h, List.filterMap_append,
      List.filterMap_cons_some hpart, List.filterMap_nil, ← List.append_assoc, ← hmiddle,
      Option.getD_some]
    congr 1
    -- Where no piece is left between the first and the name, the first is the path above, unless
    -- it is empty and the path above is the root.
    by_cases habove : first ≠ [] ∧ Text.join ['/'] (dropIdleEnd middle) = []
    · have htext : Text.pieces '/' (ofChars first).text.toList = first :: [] := by
        rw [ofChars, String.toList_ofList, hfirst]
      rw [if_pos habove, parts_of_pieces htext, habove.2]
      simp [habove.1, part?_nil]
    · have htext : Text.pieces '/'
          (ofChars (first ++ '/' :: Text.join ['/'] (dropIdleEnd middle))).text.toList
          = first :: Text.pieces '/' (Text.join ['/'] (dropIdleEnd middle)) := by
        rw [ofChars, String.toList_ofList, Text.pieces_append, hfirst]
        rfl
      rw [if_neg habove, parts_of_pieces htext]
      simp [Text.pieces_ne_nil]

end

end Path

namespace Disk

/-- A way that takes a last step that is not to a name ends at a directory. -/
theorem kindAt_of_follow_concat {root : Node} {links : Nat} {here l : Location}
    {before : List Step} {step : Step}
    (h : follow root .content links here (before ++ [step]) = .ok l)
    (hstep : ∀ n, step ≠ .name n) :
  root.kindAt l = some .dir
  := by
  obtain ⟨there, links', -, hlast⟩ := follow_between h
  obtain ⟨hdir, ⟨-, hrest⟩ | ⟨-, hrest⟩ | ⟨n, -, hn, -⟩⟩ := follow_cons_cases hlast
  · rw [follow_nil] at hrest
    obtain rfl := Except.ok.inj hrest
    apply hdir
  · rw [follow_nil] at hrest
    obtain rfl := Except.ok.inj hrest
    apply Node.kindAt_of_prefix (List.dropLast_prefix there) hdir
  · apply absurd hn (hstep n)

/-- A path that leads to a file ends with a name. -/
theorem exists_pieces_of_isFile {d : Disk} {path : Path} (h : d.isFile path = true) :
  ∃ before name, Text.pieces '/' path.text.toList = before ++ [name]
    ∧ Path.isIdle name = false ∧ name ≠ ['.', '.']
  := by
  obtain ⟨l, bytes, hl, hat⟩ := exists_of_isFile h
  obtain ⟨-, hne, -, hfollow⟩ := locate_eq_ok_iff.mp hl
  have hends (before : List Step) (step : Step) (hsteps : steps path.text.toList = before ++ [step])
      (hstep : ∀ n, step ≠ .name n) : False := by
    rw [hsteps] at hfollow
    have hdir := kindAt_of_follow_concat hfollow hstep
    rw [Node.kindAt, hat] at hdir
    simp [Node.kind] at hdir
  have hslash : path.text.toList.getLast? ≠ some '/' := by
    intro hlast
    apply hends _ .slash (by rw [steps, if_pos hlast]) (by simp)
  obtain ⟨before, last, hpieces⟩ : ∃ before last,
      Text.pieces '/' path.text.toList = before ++ [last] :=
    ⟨_, _, (List.dropLast_concat_getLast (Text.pieces_ne_nil '/' path.text.toList)).symm⟩
  have hsteps : steps path.text.toList
      = before.filterMap step? ++ (step? last).toList := by
    rw [steps, if_neg hslash, hpieces, List.append_nil, List.filterMap_append]
    cases hlast : step? last <;> simp [hlast]
  have hnil : last ≠ [] := by
    rintro rfl
    by_cases hb : before = []
    · apply hne
      rw [← Text.join_pieces '/' path.text.toList, hpieces, hb]
      rfl
    · obtain ⟨text, htext⟩ := Text.eq_append_of_pieces hpieces hb
      apply hslash
      rw [htext, List.getLast?_concat]
  have hhere : last ≠ ['.'] := by
    rintro rfl
    apply hends _ .stay hsteps (by simp)
  have hup : last ≠ ['.', '.'] := by
    rintro rfl
    apply hends _ .up hsteps (by simp)
  use before, last, hpieces
  simp [Path.isIdle, hnil, hhere, hup]

end Disk

/-- The parts of a path that leads to a file are those of the path above it, and a name. -/
theorem Path.parts_of_isFile {d : Disk} {path : Path} (h : d.isFile path = true) :
  ∃ name, path.parts = (path.parent?.getD ⟨""⟩).parts ++ [.name name]
  := by
  obtain ⟨before, name, hpieces, hidle, hup⟩ := Disk.exists_pieces_of_isFile h
  use name
  apply parts_parent?_of_pieces hidle hpieces hup

end Compendium
