import Mathlib.Data.List.TakeWhile
import Compendium.Document
import Compendium.Proofs.Text.Pieces

/-!
# Where the block of a text file ends

A reader of the document takes the block of a text file to end at the first line that is a
closing fence.  The lines of a Markdown file are written without fences, so that its block ends
at the fence the writer puts there.  The lines of any other file are written as they are, and
its block ends there exactly when none of them is a closing fence.
-/

namespace Compendium.Text

/-! ### Turning a text into another -/

/-- Characters that belong to the last occurrence are passed over. -/
theorem replaceAll_skip (old new : List Char) (skip : Nat) (cs : List Char) :
  replaceAll old new skip cs = replaceAll old new 0 (cs.drop skip)
  := by
  induction cs generalizing skip with
  | nil => simp [replaceAll]
  | cons c cs ih =>
    cases skip with
    | zero => rfl
    | succ skip =>
      rw [replaceAll, ih, List.drop_succ_cons]

/-- An occurrence at the start is turned. -/
theorem replaceAll_append {old new : List Char} (h : old ≠ []) (rest : List Char) :
  replaceAll old new 0 (old ++ rest) = new ++ replaceAll old new 0 rest
  := by
  obtain ⟨c, cs, rfl⟩ := List.exists_cons_of_ne_nil h
  have found := after?_eq_some_iff.mpr (rfl : c :: cs ++ rest = c :: cs ++ rest)
  rw [List.cons_append] at found ⊢
  rw [replaceAll, found]
  simp [replaceAll_skip]

/-- A character where no occurrence starts stays. -/
theorem replaceAll_cons {old new : List Char} {c : Char} {cs : List Char}
    (h : ¬ old <+: c :: cs) :
  replaceAll old new 0 (c :: cs) = c :: replaceAll old new 0 cs
  := by
  have missing : after? old (c :: cs) = none := by
    rw [Option.eq_none_iff_forall_ne_some]
    intro rest found
    apply h ⟨rest, (after?_eq_some_iff.mp found).symm⟩
  rw [replaceAll, missing]

/-- A turned text has its characters from the text and from what occurrences turn into. -/
theorem mem_of_mem_replaceAll {old new : List Char} {skip : Nat} {cs : List Char} {c : Char}
    (h : c ∈ replaceAll old new skip cs) :
  c ∈ new ∨ c ∈ cs
  := by
  induction cs generalizing skip with
  | nil => simp [replaceAll] at h
  | cons d cs ih =>
    cases skip with
    | succ skip =>
      rw [replaceAll] at h
      apply (ih h).imp_right (List.mem_cons_of_mem d)
    | zero =>
      rw [replaceAll] at h
      split at h
      · rw [List.mem_append] at h
        apply h.elim .inl fun h => (ih h).imp_right (List.mem_cons_of_mem d)
      · rw [List.mem_cons] at h
        rcases h with rfl | h
        · simp
        · apply (ih h).imp_right (List.mem_cons_of_mem d)

end Compendium.Text

namespace Compendium.Document

/-! ### Neutral fences -/

theorem fence_ne_nil :
  fence ≠ []
  := by decide

/-- Backticks at the start of a line without fences are those of the line. -/
theorem backticks_of_neutral {count : Nat} {cs : List Char}
    (h : List.replicate count '\x60' <+: Text.replaceAll fence neutralFence 0 cs) :
  List.replicate count '\x60' <+: cs
  := by
  induction count generalizing cs with
  | zero => simp
  | succ count ih =>
    rw [List.replicate_succ] at h ⊢
    by_cases hf : fence <+: cs
    · obtain ⟨rest, rfl⟩ := hf
      rw [Text.replaceAll_append fence_ne_nil] at h
      simp [neutralFence, List.replicate_succ] at h
    · cases cs with
      | nil => simp [Text.replaceAll] at h
      | cons c cs =>
        rw [Text.replaceAll_cons hf, List.cons_prefix_cons] at h
        apply List.cons_prefix_cons.mpr ⟨h.1, ih h.2⟩

/-- There is no fence in a line whose fences have been made neutral. -/
theorem not_fence_infix_neutral (cs : List Char) :
  ¬ fence <:+: Text.replaceAll fence neutralFence 0 cs
  := by
  -- An occurrence is longer than one character, so the recursion is on the length of the line.
  induction n : cs.length using Nat.strong_induction_on generalizing cs with
  | h n ih =>
    subst n
    by_cases hf : fence <+: cs
    · obtain ⟨rest, rfl⟩ := hf
      have hrest := ih rest.length (by simp [fence]; omega) rest rfl
      rw [Text.replaceAll_append fence_ne_nil]
      simpa [neutralFence, fence, List.replicate_succ, List.infix_cons_iff] using hrest
    · cases cs with
      | nil => simp [Text.replaceAll, fence_ne_nil]
      | cons c cs =>
        rw [Text.replaceAll_cons hf, List.infix_cons_iff, not_or]
        constructor
        · intro h
          rw [← Text.replaceAll_cons hf] at h
          apply hf (backticks_of_neutral h)
        · apply ih cs.length (by simp) cs rfl

/-! ### The reader -/

/-- Whether a line closes a block that a fence has opened: at most three spaces, then three
backticks or more, then spaces and tabs only. -/
def isClosingFence (line : List Char) : Bool :=
  let marks := line.dropWhile (· = ' ')
  (line.takeWhile (· = ' ')).length ≤ 3
    && 3 ≤ (marks.takeWhile (· = '\x60')).length
    && (marks.dropWhile (· = '\x60')).all fun c => c = ' ' || c = '\t'

/-- The lines of a block, which end where a line closes it, out of the lines behind the fence
that opens it. -/
def linesInside (lines : List (List Char)) : List (List Char) :=
  lines.takeWhile fun line => !isClosingFence line

/-- The lines of the document up to the fence that opens the block of a file, which ends the
last of them. -/
def openingLines (path : Path) : List (List Char) :=
  Text.pieces '\n' (separator ++ ['\n', '\n'] ++ (title path).toList) ++
    [[], fence ++ (languageOf path).toList]

/-- The lines of the document that hold the lines of a file. -/
def writtenLines (path : Path) (lines : List String) : List (List Char) :=
  lines.map fun line => (bodyLine (languageOf path) line).toList

/-- A line that closes a block holds a fence. -/
theorem fence_infix_of_isClosingFence {line : List Char} (h : isClosingFence line = true) :
  fence <:+: line
  := by
  simp only [isClosingFence, Bool.and_eq_true, decide_eq_true_eq] at h
  obtain ⟨⟨-, hcount⟩, -⟩ := h
  have hmarks := (List.dropWhile_suffix (l := line) (· = ' ')).isInfix
  generalize line.dropWhile (· = ' ') = marks at hcount hmarks
  have hticks : marks.takeWhile (· = '\x60')
      = List.replicate (marks.takeWhile (· = '\x60')).length '\x60' := by
    rw [List.eq_replicate_length]
    intro c hc
    simpa using List.mem_takeWhile_imp hc
  have hfence : fence <+: marks.takeWhile (· = '\x60') := by
    rw [hticks, fence, List.prefix_replicate_iff]
    simpa using hcount
  apply (hfence.trans (List.takeWhile_prefix _)).isInfix.trans hmarks

/-- The fence the writer ends a block with closes it. -/
theorem isClosingFence_fence :
  isClosingFence fence = true
  := by decide

/-- A reader sees all the lines above a closing fence exactly when none of them is one. -/
theorem linesInside_append_fence {lines rest : List (List Char)} :
  linesInside (lines ++ fence :: rest) = lines ↔ ∀ line ∈ lines, isClosingFence line = false
  := by
  constructor
  · intro h line hline
    rw [← h] at hline
    simpa using List.mem_takeWhile_imp hline
  · intro h
    rw [linesInside, List.takeWhile_append_of_pos (by simpa using h),
      List.takeWhile_cons_of_neg (by simp [isClosingFence_fence]), List.append_nil]

/-! ### Blocks -/

/-- No name of a language has an end of a line in it. -/
theorem notMem_languageOf (path : Path) :
  '\n' ∉ (languageOf path).toList
  := by
  have hnames : ∀ entry ∈ languages, '\n' ∉ entry.2.toList := by decide
  rw [languageOf]
  cases found : (extension? path).bind fun ext => languages.lookup ext with
  | none => decide
  | some language =>
    obtain ⟨ext, -, found⟩ := Option.bind_eq_some_iff.mp found
    obtain ⟨before, behind, h, -⟩ := List.lookup_eq_some_iff.mp found
    apply hnames (ext, language) (by simp [h])

/-- A written line has no end of a line in it, as the line it is made from has none. -/
theorem notMem_bodyLine {language line : String} (h : '\n' ∉ line.toList) :
  '\n' ∉ (bodyLine language line).toList
  := by
  rw [bodyLine]
  split
  · rw [String.toList_ofList]
    intro hmem
    apply (Text.mem_of_mem_replaceAll hmem).elim (by decide) h
  · apply h

/-- Lines with their ends are pieces of the text they make. -/
theorem pieces_lines {lines : List String} (h : ∀ line ∈ lines, '\n' ∉ line.toList)
    (rest : List Char) :
  Text.pieces '\n' ((String.join (lines.map fun line => line ++ "\n")).toList ++ rest)
    = lines.map String.toList ++ Text.pieces '\n' rest
  := by
  induction lines with
  | nil => simp [String.join]
  | cons line lines ih =>
    have hline := Text.pieces_of_notMem (h line List.mem_cons_self)
    have hrest := ih fun line hline => h line (List.mem_cons_of_mem _ hline)
    have hend : "\n".toList = ['\n'] := rfl
    simp only [List.map_cons, String.join_cons, String.toList_append, List.append_assoc, hend,
      List.cons_append, List.nil_append, Text.pieces_append, hline, hrest]

/-- The document from the block of a file on, line by line. -/
theorem pieces_textBlock (path : Path) {lines : List String}
    (h : ∀ line ∈ lines, '\n' ∉ line.toList) (following : String) :
  Text.pieces '\n' (textBlock path lines ++ following).toList
    = openingLines path
        ++ (writtenLines path lines ++ fence :: [] :: Text.pieces '\n' following.toList)
  := by
  have hend : "\n".toList = ['\n'] := rfl
  have hends : "\n\n".toList = ['\n', '\n'] := rfl
  have hfence : '\n' ∉ fence := by decide
  have hlanguage : '\n' ∉ fence ++ (languageOf path).toList := by
    rw [List.mem_append, not_or]
    use hfence
    apply notMem_languageOf path
  have hwritten : ∀ line ∈ lines.map (bodyLine (languageOf path)), '\n' ∉ line.toList := by
    intro written hmem
    obtain ⟨line, hline, rfl⟩ := List.mem_map.mp hmem
    apply notMem_bodyLine (h line hline)
  have hinner := pieces_lines hwritten (fence ++ '\n' :: '\n' :: following.toList)
  rw [Text.pieces_append, Text.pieces_cons_self, Text.pieces_of_notMem hfence, List.map_map,
    List.map_map] at hinner
  calc Text.pieces '\n' (textBlock path lines ++ following).toList
      = Text.pieces '\n' ((separator ++ ['\n', '\n'] ++ (title path).toList) ++ '\n' :: '\n' ::
          ((fence ++ (languageOf path).toList) ++ '\n' ::
            ((String.join (lines.map fun line => bodyLine (languageOf path) line ++ "\n")).toList
              ++ (fence ++ '\n' :: '\n' :: following.toList)))) := by
        simp [textBlock, hend, hends]
    _ = openingLines path
          ++ (writtenLines path lines ++ fence :: [] :: Text.pieces '\n' following.toList) := by
        rw [Text.pieces_append, Text.pieces_cons_self, Text.pieces_append,
          Text.pieces_of_notMem hlanguage]
        simp only [Function.comp_def] at hinner
        rw [hinner]
        simp [openingLines, writtenLines]

/-- In a Markdown file no written line closes the block, and in any other file one does exactly
when it does so in the file. -/
theorem written_open_iff (path : Path) (lines : List String) :
  (∀ line ∈ writtenLines path lines, isClosingFence line = false)
    ↔ languageOf path = "markdown" ∨ ∀ line ∈ lines, isClosingFence line.toList = false
  := by
  by_cases hp : languageOf path = "markdown"
  · simp only [hp, true_or, iff_true]
    intro written hmem
    obtain ⟨line, -, rfl⟩ := List.mem_map.mp hmem
    rw [bodyLine, if_pos hp, String.toList_ofList, Bool.eq_false_iff]
    intro h
    apply not_fence_infix_neutral _ (fence_infix_of_isClosingFence h)
  · simp [writtenLines, bodyLine, hp]

/-- A reader sees in the block of a text file the lines the writer put there, up to the fence
the writer ended it with and with the rest of the document behind that, exactly when the file is
a Markdown file, whose fences are made neutral, or none of its lines, which are written as they
are, is a closing fence. -/
theorem textBlock_ends_at_its_fence (path : Path) (lines : List String)
    (h : ∀ line ∈ lines, '\n' ∉ line.toList) (following : String) :
  ∃ behind,
    Text.pieces '\n' (textBlock path lines ++ following).toList = openingLines path ++ behind
    ∧ behind = writtenLines path lines ++ fence :: [] :: Text.pieces '\n' following.toList
    ∧ (languageOf path ≠ "markdown" → writtenLines path lines = lines.map String.toList)
    ∧ ((∀ line ∈ writtenLines path lines, isClosingFence line = false)
        ↔ languageOf path = "markdown" ∨ ∀ line ∈ lines, isClosingFence line.toList = false)
    ∧ (linesInside behind = writtenLines path lines
        ↔ languageOf path = "markdown" ∨ ∀ line ∈ lines, isClosingFence line.toList = false)
  := by
  use writtenLines path lines ++ fence :: [] :: Text.pieces '\n' following.toList
  refine ⟨pieces_textBlock path h following, rfl, ?_, written_open_iff path lines, ?_⟩
  · intro hp
    simp [writtenLines, bodyLine, hp]
  · rw [linesInside_append_fence, written_open_iff]

/-- The block of a Markdown file with a fence in it is seen whole. -/
theorem textBlock_ends_at_its_fence_markdown :
  ∃ behind,
    Text.pieces '\n' (textBlock ⟨"a.md"⟩ ["\x60\x60\x60", "b"] ++ "").toList
      = openingLines ⟨"a.md"⟩ ++ behind
    ∧ linesInside behind = ["'''".toList, "b".toList]
  := by
  obtain ⟨behind, htext, -, -, -, hseen⟩ :=
    textBlock_ends_at_its_fence ⟨"a.md"⟩ ["\x60\x60\x60", "b"] (by decide) ""
  use behind, htext
  rw [hseen.mpr (.inl (by decide))]
  decide

/-- A fence in a file of another language closes its block early. -/
theorem textBlock_not_sealed :
  ¬ ∀ (path : Path) (lines : List String), (∀ line ∈ lines, '\n' ∉ line.toList) →
    ∀ behind, Text.pieces '\n' (textBlock path lines).toList = openingLines path ++ behind →
      linesInside behind = writtenLines path lines
  := by
  intro sealed
  have h := sealed ⟨"a.txt"⟩ ["\x60\x60\x60"] (by decide) [fence, fence, [], []] (by decide)
  revert h
  decide

end Compendium.Document
