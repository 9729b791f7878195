import Compendium.Proofs.Document.Body
import Compendium.Proofs.Scan.Lockstep
import Compendium.Proofs.Text.Encoding
import Compendium.Proofs.Text.Lines

/-!
# Files that are reproduced

A file whose bytes are a text without null characters is in the document line by line.  Where no
rule is for the file and its fences need not be made neutral, the body of its block is the text
itself, but for carriage returns before line feeds and a last line that nothing has ended.  All
other files are binary.
-/

namespace Compendium

namespace Content

/-- A text without null characters is read from the bytes that encode it. -/
theorem ofBytes_bytesOf {text : String} (h : '\x00' ∉ text.toList) :
  ofBytes (Text.bytesOf text) = .text text
  := by
  have hread := Text.ofBytes?_eq_some_iff.mpr (rfl : Text.bytesOf text = Text.bytesOf text)
  rw [ofBytes, if_neg (by rwa [List.contains_iff_mem, Text.zero_mem_bytesOf_iff]), hread]

/-- Bytes are binary if every text that they encode has a null character. -/
theorem ofBytes_eq_binary {bytes : List UInt8}
    (h : ∀ text, bytes = Text.bytesOf text → '\x00' ∈ text.toList) :
  ofBytes bytes = .binary bytes.length
  := by
  rw [ofBytes]
  split
  · rfl
  · rename_i hzero
    cases hread : Text.ofBytes? bytes with
    | none => rfl
    | some text =>
      have heq := Text.ofBytes?_eq_some_iff.mp hread
      have hmem := Text.zero_mem_bytesOf_iff.mpr (h text heq)
      rw [heq, List.contains_iff_mem] at hzero
      apply absurd hmem hzero

end Content

/-- The lines of a text make a body that is the text with plain ends. -/
theorem Document.bodyOf_linesOf (text : String) :
  (bodyOf (Text.linesOf text)).toList = Text.closed (Text.plainEnds text.toList)
  := by
  rw [toList_bodyOf, ← Text.flatMap_lines, Text.linesOf, List.map_map]
  simp [Function.comp_def]

theorem Text.notMem_of_mem_linesOf {text line : String} (h : line ∈ linesOf text) :
  '\n' ∉ line.toList
  := by
  obtain ⟨cs, hcs, rfl⟩ := List.mem_map.mp h
  rw [String.toList_ofList]
  apply notMem_of_mem_lines hcs

/-- Where no rule is for a file, its lines stay. -/
theorem RuleSet.filter_of_applicable_nil {rules : RuleSet} {path : Path}
    (h : rules.applicable path = []) (lines : List String) :
  rules.filter path lines = ⟨lines, 0, []⟩
  := by
  simp [filter, h, applyAll]

namespace Scan

/-- What comes of a file that goes into the document.  Its block is written, and then the report
says how it is there; nothing else changes. -/
structure Includes (s : Scan) (outcome : Outcome Scan Unit) (path : Path) (how : Inclusion)
    (block : String) : Prop where
  result : outcome.result = (Sink.write block s.sink).result
  state : outcome.state = { s with
    sink := (Sink.write block s.sink).state
    report := if outcome.result = .ok () then s.report.add path how else s.report }

theorem includes_of_read {d : Disk} {s : Scan} {path relative : Path} {context : Context}
    {bytes : List UInt8} (hfree : s.isExcluded (s.sink.seenDisk d) path = false)
    (hread : (s.sink.seenDisk d).read path = .ok bytes) :
  Includes s (includeFile d path relative context s) path
    (inclusionOf relative context (.ofBytes bytes))
    (blockOf path relative context (.ofBytes bytes))
  := by
  obtain ⟨events, -, hcontent⟩ :=
    includeContent_eq (s := s) path relative context (.ofBytes bytes)
  rw [← Sink.write] at hcontent
  rw [includeFile_of_read hfree hread]
  cases hwrite : (Sink.write (blockOf path relative context (.ofBytes bytes)) s.sink).result with
  | error failure =>
    have hresult : (includeContent path relative context (.ofBytes bytes) s).result
        = .error failure := by
      rw [hcontent, hwrite]
      rfl
    rw [Action.bind_of_error hresult, hcontent]
    constructor
    · apply hwrite.symm
    · rfl
  | ok =>
    have hresult : (includeContent path relative context (.ofBytes bytes) s).result
        = .ok (inclusionOf relative context (.ofBytes bytes)) := by
      rw [hcontent, hwrite]
      rfl
    rw [Action.bind_of_ok hresult, hcontent]
    constructor
    · apply hwrite.symm
    · rfl

/-- A file whose bytes encode a text without null characters, whose language is not Markdown and
that no rule is for, has the text with plain ends between the fences of its block.  The report
tells how many lines that is, and that none has been removed.  Any other bytes are told of as
binary, with their number. -/
theorem file_reproduced {d : Disk} {s : Scan} {path : Path} {bytes : List UInt8}
    (hfree : s.isExcluded (s.sink.seenDisk d) path = false)
    (hread : (s.sink.seenDisk d).read path = .ok bytes) (relative : Path) (context : Context) :
  (∀ text, bytes = Text.bytesOf text → '\x00' ∉ text.toList →
      Document.languageOf path ≠ "markdown" → context.rules.applicable relative = [] →
      ∃ body : String, body.toList = Text.closed (Text.plainEnds text.toList)
        ∧ (Text.linesOf body).length = body.toList.count '\n'
        ∧ Includes s (includeFile d path relative context s) path
          (.text (body.toList.count '\n') 0 [])
          (Document.opening path ++ body ++ Document.closing))
    ∧ ((∀ text, bytes = Text.bytesOf text → '\x00' ∈ text.toList) →
      Includes s (includeFile d path relative context s) path (.binary bytes.length)
        (Document.binaryBlock path bytes.length))
  := by
  have hincludes : Includes s (includeFile d path relative context s) path _ _ :=
    includes_of_read hfree hread
  constructor
  · rintro text rfl hnull hlanguage hrules
    have hlines : ∀ line ∈ Text.linesOf text, '\n' ∉ line.toList :=
      fun line => Text.notMem_of_mem_linesOf
    have hwritten : (Text.linesOf text).map (Document.bodyLine (Document.languageOf path))
        = Text.linesOf text :=
      List.map_id'' (fun line => if_neg hlanguage) (Text.linesOf text)
    rw [Content.ofBytes_bytesOf hnull, inclusionOf, blockOf,
      RuleSet.filter_of_applicable_nil hrules, Document.textBlock_eq, hwritten] at hincludes
    use Document.bodyOf (Text.linesOf text), Document.bodyOf_linesOf text
    rw [Document.count_bodyOf hlines, Document.length_linesOf_bodyOf hlines]
    constructor
    · rfl
    · apply hincludes
  · intro hbinary
    rw [Content.ofBytes_eq_binary hbinary] at hincludes
    apply hincludes

/-- A file with a carriage return before a line feed, one that is not, and a last line that
nothing ends. -/
def returnsDisk : Disk :=
  ⟨.dir (.cons ['a'] (.file [120, 13, 10, 13, 121]) .nil), []⟩

/-- The block of the file has two lines, and the second of them begins with a carriage return. -/
theorem file_reproduced_returns :
  Includes (start (.empty []) (.empty .console ⟨"out.md"⟩ "maid"))
    (includeFile returnsDisk ⟨"a"⟩ ⟨"a"⟩ .empty
      (start (.empty []) (.empty .console ⟨"out.md"⟩ "maid")))
    ⟨"a"⟩ (.text 2 0 []) (Document.opening ⟨"a"⟩ ++ "x\n\ry\n" ++ Document.closing)
  := by
  have hread : returnsDisk.read ⟨"a"⟩ = .ok [120, 13, 10, 13, 121] := by cbv
  obtain ⟨htext, -⟩ := file_reproduced (d := returnsDisk)
    (s := start (.empty []) (.empty .console ⟨"out.md"⟩ "maid")) rfl hread ⟨"a"⟩ .empty
  obtain ⟨body, hbody, -, hincludes⟩ :=
    htext "x\r\n\ry" (by decide) (by decide) (by decide) rfl
  obtain rfl : body = "x\n\ry\n" := String.toList_inj.mp (hbody.trans (by decide))
  apply hincludes

end Scan

end Compendium
