import Compendium.Proofs.Disk.Overwritten
import Compendium.Proofs.Path.Parent

/-!
# Files and directories that are made

To make directories adds directories and nothing else, and where they are there already nothing is
done.  A file is made in a directory that is there, to which the path above the path of the file
leads.
-/

namespace Compendium.Disk

variable {d : Disk}

/-! ### Making directories -/

/-- The moves of a path are the steps that its pieces stand for. -/
theorem filter_isMove_steps (text : List Char) :
  (steps text).filter isMove = (Text.pieces '/' text).filterMap step?
  := by
  have hmove : ∀ step ∈ (Text.pieces '/' text).filterMap step?, isMove step = true := by
    intro step hstep
    obtain ⟨piece, -, hpiece⟩ := List.mem_filterMap.mp hstep
    rw [step?] at hpiece
    split at hpiece
    · simp at hpiece
    split at hpiece
    · obtain rfl := Option.some.inj hpiece
      rfl
    split at hpiece
    · obtain rfl := Option.some.inj hpiece
      rfl
    · obtain rfl := Option.some.inj hpiece
      rfl
  rw [steps, List.filter_append, List.filter_eq_self.mpr hmove]
  split <;> simp [isMove]

/-- A directory that is made is a new entry of the directory to which the way before its name
leads. -/
theorem makeDir_eq_ok_iff {path : Path} {d' : Disk} :
  d.makeDir path = .ok d'
    ↔ '\x00' ∉ path.text.toList ∧ path.text.toList ≠ []
      ∧ (Text.bytes path.text.toList).length ≤ pathLimit
      ∧ ∃ before name above,
        (Text.pieces '/' path.text.toList).filterMap step? = before ++ [.name name]
          ∧ follow d.root .content linkLimit (start path.text.toList d.here) before = .ok above
          ∧ d.root.kindAt above = some .dir ∧ (Text.bytes name).length ≤ nameLimit
          ∧ d.root.kindAt (above ++ [name]) = none
          ∧ d' = { d with root := d.root.putAt .emptyDir (above ++ [name]) }
  := by
  rw [makeDir, filter_isMove_steps]
  simp only [bind, Except.bind, pure, Except.pure, throw, throwThe, MonadExceptOf.throw]
  constructor
  · intro h
    split at h
    · simp at h
    rename_i hnull
    split at h
    · simp at h
    rename_i hne
    split at h
    · simp at h
    rename_i hlen
    use by simpa using hnull, hne, Nat.le_of_not_lt hlen
    split at h
    · rename_i n above hreverse
      split at h
      · simp at h
      · rename_i parent hway
        split at h
        · rename_i entries hat
          split at h
          · simp at h
          rename_i hshort
          split at h
          · simp at h
          rename_i hnone
          use above.reverse, n, parent, by simpa using congrArg List.reverse hreverse, hway
          use Node.kindAt_eq_dir_iff.mpr ⟨entries, hat⟩, Nat.le_of_not_lt hshort
          use by simpa [Node.kindAt, Node.at?_concat hat] using hnone
          apply (Except.ok.inj h).symm
        · simp at h
    · split at h <;> simp at h
  · rintro ⟨hnull, hne, hlen, before, name, above, hpieces, hway, hdir, hshort, hnone, rfl⟩
    obtain ⟨entries, hat⟩ := Node.kindAt_eq_dir_iff.mp hdir
    have hfind : entries.find? name = none := by
      simpa [Node.kindAt, Node.at?_concat hat] using hnone
    simp [hnull, hne, Nat.not_lt.mpr hlen, hpieces, hway, hat, Nat.not_lt.mpr hshort, hfind]

/-- Every path starts at a directory. -/
theorem kindAt_start (hhere : d.root.kindAt d.here = some .dir) (text : List Char) :
  d.root.kindAt (start text d.here) = some .dir
  := by
  rw [start]
  split
  · apply Node.kindAt_of_prefix List.nil_prefix hhere
  · apply hhere

theorem isDir_iff {path : Path} :
  d.isDir path = true
    ↔ ∃ l, d.locate .content path = .ok l ∧ d.root.kindAt l = some .dir
  := by
  rw [isDir]
  cases hn : d.node? path with
  | error fault =>
    simp only [Except.toOption, Option.any_none, Bool.false_eq_true, false_iff]
    rintro ⟨l, hl, hdir⟩
    obtain ⟨entries, hat⟩ := Node.kindAt_eq_dir_iff.mp hdir
    cases hn.symm.trans (node?_eq_ok_iff.mpr ⟨l, hl, hat⟩)
  | ok node =>
    obtain ⟨l, hl, hat⟩ := node?_eq_ok_iff.mp hn
    simp only [Except.toOption, Option.any_some, hl, Except.ok.injEq, exists_eq_left', Node.kindAt,
      hat]
    cases node <;> simp [Node.isDir, Node.kind]

/-- The steps of the pieces of a path tell whether it leads to a directory. -/
theorem isDir_iff_pieces {path : Path} :
  d.isDir path = true
    ↔ '\x00' ∉ path.text.toList ∧ path.text.toList ≠ []
      ∧ (Text.bytes path.text.toList).length ≤ pathLimit
      ∧ ∃ l, follow d.root .content linkLimit (start path.text.toList d.here)
          ((Text.pieces '/' path.text.toList).filterMap step?) = .ok l
        ∧ d.root.kindAt l = some .dir
  := by
  rw [isDir_iff]
  constructor
  · rintro ⟨l, hl, hdir⟩
    obtain ⟨hnull, hne, hlen, hway⟩ := locate_eq_ok_iff.mp hl
    obtain ⟨links, hfurther⟩ := follow_pieces hway hdir
    have hpieces := hfurther []
    rw [List.append_nil, follow_nil] at hpieces
    use hnull, hne, hlen, l, hpieces, hdir
  · rintro ⟨hnull, hne, hlen, l, hway, hdir⟩
    use l, locate_eq_ok_iff.mpr ⟨hnull, hne, hlen, ?_⟩, hdir
    rw [steps]
    obtain ⟨links, hfurther⟩ := follow_further hway
    rw [hfurther]
    split
    · rw [follow_slash _ _ _ hdir, follow_nil]
    · rw [follow_nil]

/-- A directory that is there cannot be made. -/
theorem makeDir_of_isDir {path : Path} (h : d.isDir path = true) :
  d.makeDir path = .error .exists
  := by
  obtain ⟨l, hl, -⟩ := isDir_iff.mp h
  obtain ⟨hnull, hne, hlen, m, hway, hdir⟩ := isDir_iff_pieces.mp h
  rw [makeDir]
  simp only [bind, Except.bind, pure, Except.pure, throw, throwThe, MonadExceptOf.throw]
  rw [if_neg (by simpa using hnull), if_neg hne, if_neg (Nat.not_lt.mpr hlen),
    filter_isMove_steps, hl]
  split
  · rename_i n above hreverse
    rw [← List.reverse_reverse ((Text.pieces '/' _).filterMap step?), hreverse,
      List.reverse_cons] at hway
    obtain ⟨there, links, hthere, hlast⟩ := follow_between hway
    obtain ⟨hdir', ⟨hstep | hstep, -⟩ | ⟨hstep, -⟩ | ⟨_, kind, hstep, hshort, hk, -⟩⟩ :=
      follow_cons_cases hlast
    · simp at hstep
    · simp at hstep
    · simp at hstep
    · obtain rfl := Step.name.inj hstep
      obtain ⟨entries, hat⟩ := Node.kindAt_eq_dir_iff.mp hdir'
      have hsome : (entries.find? n).isSome = true := by
        simpa [Node.kindAt, Node.at?_concat hat] using congrArg Option.isSome hk
      simp [hthere, hat, hshort, hsome]
  · rfl

/-- Where a directory is there, nothing is done to make it. -/
theorem makeDirs_of_isDir {path : Path} {above : List Path} (h : d.isDir path = true) :
  d.makeDirs (path :: above) = (.ok (), d)
  := by
  rw [makeDirs]
  split
  · rfl
  · simp [makeDir_of_isDir h]

/-- A path comes before those above it. -/
theorem exists_ancestors_eq_cons (path : Path) :
  ∃ above, path.ancestors = path :: above
  := by
  rw [Path.ancestors, Path.chain]
  cases path.parent? with
  | none => exact ⟨_, rfl⟩
  | some parent => exact ⟨_, rfl⟩

theorem makeDirAll_of_isDir {path : Path} (h : d.isDir path = true) :
  d.makeDirAll path = (.ok (), d)
  := by
  obtain ⟨above, habove⟩ := exists_ancestors_eq_cons path
  rw [makeDirAll, habove, makeDirs_of_isDir h]

/-- Nothing else is made where one directory is missing only. -/
theorem makeDirAll_of_makeDir {path : Path} (hne : path.text.isEmpty = false)
    (h : d.makeDir path = .ok e) :
  d.makeDirAll path = (.ok (), e)
  := by
  obtain ⟨above, habove⟩ := exists_ancestors_eq_cons path
  rw [makeDirAll, habove, makeDirs, if_neg (by simp [hne]), h]

theorem Keeps.refl (d : Disk) :
  Keeps (fun _ => False) d d
  := by
  constructor
  · rfl
  · intro _ _ _ h
    apply h
  · intro _ _ _ h
    apply h
  · intro _ _ h
    left
    apply h
  · intro _ h
    apply h.elim
  · intro _ h
    apply h.elim

/-- A new directory changes nothing elsewhere. -/
theorem eq_elsewhere_emptyDir {above : Location} {name : Name}
    (hdir : d.root.kindAt above = some .dir) (hnone : d.root.kindAt (above ++ [name]) = none)
    {m : Location} (hm : m ≠ above ++ [name]) :
  (d.root.putAt .emptyDir (above ++ [name])).kindAt m = d.root.kindAt m
    ∧ (d.root.putAt .emptyDir (above ++ [name])).bytesAt m = d.root.bytesAt m
  := by
  apply eq_elsewhere_putAt hdir (.inl hnone) _ _ hm
  intro m hne
  cases m with
  | nil => contradiction
  | cons => rfl

theorem keeps_makeDir {path : Path} {d' : Disk} (h : d.makeDir path = .ok d') :
  Keeps (fun _ => False) d d'
  := by
  obtain ⟨-, -, -, -, name, above, -, -, hdir, -, hnone, rfl⟩ := makeDir_eq_ok_iff.mp h
  have hsame {m : Location} (hm : m ≠ above ++ [name]) := eq_elsewhere_emptyDir hdir hnone hm
  constructor
  · rfl
  · intro m kind _ hk
    rw [(hsame ?_).1, hk]
    rintro rfl
    simp [hnone] at hk
  · intro m bytes _ hbytes
    rw [(hsame ?_).2, hbytes]
    rintro rfl
    have hat := Node.bytesAt_eq_some_iff.mp hbytes
    simp [Node.kindAt, hat] at hnone
  · intro m _ hk
    by_cases hm : m = above ++ [name]
    · subst hm
      right
      apply Node.kindAt_putAt_self .emptyDir name hdir
    · left
      apply (hsame hm).1.trans hk
  · intro _ h
    apply h.elim
  · intro _ h
    apply h.elim

/-- To make directories adds directories and nothing else. -/
theorem keeps_makeDirs (d : Disk) (paths : List Path) :
  Keeps (fun _ => False) d (d.makeDirs paths).2
  := by
  induction paths with
  | nil => exact .refl d
  | cons path above ih =>
    rw [makeDirs]
    split
    · exact .refl d
    · split
      · rename_i hmade
        apply keeps_makeDir hmade
      · split
        · rename_i hmade
          rwa [hmade] at ih
        · rename_i hmade
          rw [hmade] at ih
          split
          · rename_i hlast
            apply ih.trans (keeps_makeDir hlast)
          · apply ih
      · exact .refl d

/-! ### Making files -/

theorem createFile_eq_ok_iff {path : Path} {l : Location} {d' : Disk} :
  d.createFile path = .ok (l, d')
    ↔ d.locate .making path = .ok l ∧ d.root.kindAt l ≠ some .dir ∧ d' = d.withBytes l []
  := by
  rw [createFile]
  cases hl : d.locate .making path with
  | error fault => simp [bind, Except.bind]
  | ok m =>
    have hdir : d.root.kindAt m = some .dir ↔ ∃ entries, d.root.at? m = some (.dir entries) :=
      Node.kindAt_eq_dir_iff
    simp only [bind, Except.bind, pure, Except.pure, throw, throwThe, MonadExceptOf.throw]
    split
    · rename_i entries hat
      simp only [reduceCtorEq, Except.ok.injEq, false_iff, not_and]
      rintro rfl hne
      apply absurd (hdir.mpr ⟨entries, hat⟩) hne
    · rename_i hat
      have hne : d.root.kindAt m ≠ some .dir := fun h => by
        obtain ⟨entries, hentries⟩ := hdir.mp h
        apply hat entries hentries
      simp only [Except.ok.injEq, Prod.mk.injEq, withBytes]
      constructor
      · rintro ⟨rfl, rfl⟩
        exact ⟨rfl, hne, rfl⟩
      · rintro ⟨rfl, -, rfl⟩
        constructor
        · rfl
        · rfl

/-- The steps of a text whose last piece is not empty are those of its pieces. -/
theorem steps_of_pieces {text last : List Char} {before : List (List Char)}
    (h : Text.pieces '/' text = before ++ [last]) (hlast : last ≠ []) :
  steps text = (before ++ [last]).filterMap step?
  := by
  have hslash : last.getLast? ≠ some '/' := by
    intro hmem
    apply Text.notMem_of_mem_pieces (h ▸ List.mem_append_right before List.mem_cons_self)
      (List.mem_of_getLast? hmem)
  have hend : text.getLast? ≠ some '/' := by
    by_cases hb : before = []
    · have htext := Text.join_pieces '/' text
      rw [h, hb] at htext
      rwa [← htext]
    · obtain ⟨ds, rfl⟩ := Text.eq_append_of_pieces h hb
      rwa [List.getLast?_append_of_ne_nil _ (by simp), List.getLast?_cons_of_ne_nil hlast]
  rw [steps, if_neg hend, h, List.append_nil]

section

variable (hhere : d.root.kindAt d.here = some .dir) (hfree : d.LinkFree) {path : Path}
  {l : Location} (hl : d.root.Writable l) (h : d.locate .making path = .ok l)

include hhere hfree hl h

/-- A file that is to be made is made in a directory that is there. -/
theorem exists_above_of_locate_making :
  ∃ above name, l = above ++ [name] ∧ d.root.kindAt above = some .dir
  := by
  obtain ⟨-, -, -, hway⟩ := locate_eq_ok_iff.mp h
  apply exists_above_of_follow_making hfree (kindAt_start hhere _) hl.ne_dir hway

/-- To make the file changes nothing else, and then the path leads to it. -/
theorem keeps_made (bytes : List UInt8) :
  Keeps (· = l) d (d.withBytes l bytes) ∧ Keeps (· = l) (d.withBytes l bytes) d
    ∧ (d.withBytes l bytes).root.kindAt l = some .file
    ∧ (d.withBytes l bytes).locate .content path = .ok l
    ∧ (d.withBytes l bytes).locate .making path = .ok l
  := by
  obtain ⟨above, name, rfl, hdir⟩ := exists_above_of_locate_making hhere hfree hl h
  obtain ⟨hkeeps, hback⟩ := keeps_withBytes hdir hl bytes
  have hfile := Node.kindAt_putAt_self (.file bytes) name hdir
  use hkeeps, hback, hfile, hkeeps.locate_made hfree rfl (.inr hfile) h
  apply hkeeps.locate_made hfree rfl (.inl rfl) h

/-- A path to a file that is to be made ends with a name, and what is before it leads to a
directory. -/
theorem exists_pieces_of_locate_making :
  ∃ before name there, Text.pieces '/' path.text.toList = before ++ [name]
    ∧ Path.isIdle name = false
    ∧ follow d.root .content linkLimit (start path.text.toList d.here) (before.filterMap step?)
      = .ok there
    ∧ d.root.kindAt there = some .dir
  := by
  obtain ⟨hkeeps, hback, hkind, hlocate, -⟩ := keeps_made hhere hfree hl h []
  obtain ⟨bytes, hat⟩ := Node.kindAt_eq_file_iff.mp hkind
  have hfile := isFile_iff.mpr ⟨bytes, read_eq_ok_iff.mpr ⟨l, hlocate, hat⟩⟩
  obtain ⟨before, name, hpieces, hidle, hup⟩ := exists_pieces_of_isFile hfile
  have hname : name ≠ [] ∧ name ≠ ['.'] := by simpa [Path.isIdle] using hidle
  have hlast : [name].filterMap step? = [.name name] := by simp [step?, hname, hup]
  obtain ⟨-, -, -, hway⟩ := locate_eq_ok_iff.mp hlocate
  rw [hkeeps.here, steps_of_pieces hpieces hname.1, List.filterMap_append, hlast] at hway
  obtain ⟨there, hthere, hdir', -, -⟩ := exists_above_of_follow (hkeeps.linkFree hfree) hway
  obtain ⟨hother, hdir⟩ := hback.kindAt_dir hdir'
  use before, name, there, hpieces, hidle
  use hback.follow (hkeeps.linkFree hfree) linkLimit hother hthere, hdir

end

/-! ### The directory above -/

/-- Pieces at the end that stand for no part are steps that stay, and there is none at the end of
what is left without them. -/
theorem exists_idle_end (pieces : List (List Char)) :
  (∃ idle, pieces = Path.dropIdleEnd pieces ++ idle ∧ ∀ step ∈ idle.filterMap step?, step = .stay)
    ∧ (Path.dropIdleEnd pieces = []
      ∨ ∃ before last, Path.dropIdleEnd pieces = before ++ [last] ∧ last ≠ [])
  := by
  induction pieces using List.reverseRecOn with
  | nil =>
    use ⟨[], rfl, by simp⟩
    left
    rfl
  | append_singleton pieces piece ih =>
    obtain ⟨⟨idle, hidle, hstay⟩, hlast⟩ := ih
    rw [Path.dropIdleEnd_concat]
    split
    · rename_i hpiece
      refine ⟨⟨idle ++ [piece], ?_, ?_⟩, hlast⟩
      · rw [← List.append_assoc, ← hidle]
      · intro step hstep
        rw [List.filterMap_append, List.mem_append] at hstep
        rcases hstep with hstep | hstep
        · apply hstay step hstep
        · obtain ⟨_, hmem, hstep⟩ := List.mem_filterMap.mp hstep
          obtain rfl := List.mem_singleton.mp hmem
          rw [Path.isIdle, Bool.or_eq_true, decide_eq_true_iff, decide_eq_true_iff] at hpiece
          rcases hpiece with rfl | rfl
          · simp [step?] at hstep
          · simpa [step?] using hstep
    · rename_i hpiece
      refine ⟨⟨[], by simp, by simp⟩, .inr ⟨pieces, piece, rfl, ?_⟩⟩
      rintro rfl
      apply hpiece rfl

/-- Steps that stay lead nowhere else. -/
theorem eq_of_follow_stay {root : Node} {purpose : Purpose} {links : Nat} {here l : Location}
    {steps : List Step} (hstay : ∀ step ∈ steps, step = .stay)
    (h : follow root purpose links here steps = .ok l) :
  l = here
  := by
  induction steps with
  | nil =>
    rw [follow_nil] at h
    apply (Except.ok.inj h).symm
  | cons step rest ih =>
    obtain rfl := hstay step List.mem_cons_self
    by_cases hdir : root.kindAt here = some .dir
    · rw [follow_stay _ _ _ hdir] at h
      apply ih (fun step hstep => hstay step (List.mem_cons_of_mem _ hstep)) h
    · rw [follow_of_kindAt_ne _ _ _ hdir] at h
      simp at h

/-- A way that its pieces describe leads to the same place without those at its end that stand
for no part. -/
theorem follow_dropIdleEnd {root : Node} {links : Nat} {here l : Location} {first : List Char}
    {middle : List (List Char)}
    (h : follow root .content links here ((first :: middle).filterMap step?) = .ok l) :
  follow root .content links here ((first :: Path.dropIdleEnd middle).filterMap step?) = .ok l
  := by
  obtain ⟨⟨idle, hidle, hstay⟩, -⟩ := exists_idle_end middle
  rw [hidle, ← List.cons_append, List.filterMap_append] at h
  obtain ⟨there, links', hthere, hend⟩ := follow_between h
  rw [hthere, eq_of_follow_stay hstay hend]

/-- The path above a path with a name at its end is a beginning of it, and has the steps of the
pieces before the name, unless it is the slash that the path starts with. -/
theorem text_parent {path above : Path} {first name : List Char} {middle : List (List Char)}
    (hpieces : Text.pieces '/' path.text.toList = first :: (middle ++ [name]))
    (hidle : Path.isIdle name = false) (habove : path.parent? = some above) :
  above.text.toList <+: path.text.toList
    ∧ (steps above.text.toList = (first :: Path.dropIdleEnd middle).filterMap step?
      ∨ first = [] ∧ Path.dropIdleEnd middle = [] ∧ steps above.text.toList = [.slash])
  := by
  have htext : path.text.toList = first ++ ['/'] ++ Text.join ['/'] (middle ++ [name]) := by
    rw [← Text.join_pieces '/' path.text.toList, hpieces, Text.join_cons (by simp)]
  have hslash : ∀ piece ∈ first :: (middle ++ [name]), '/' ∉ piece := by
    rw [← hpieces]
    intro piece
    apply Text.notMem_of_mem_pieces
  have hfirst : '/' ∉ first := hslash first List.mem_cons_self
  rw [Path.parent?_of_pieces hidle hpieces, Option.some.injEq] at habove
  obtain ⟨⟨idle, hmiddle, -⟩, hend⟩ := exists_idle_end middle
  rcases hend with hnil | ⟨before, last, hlast, hne⟩
  · rw [hnil] at habove ⊢
    by_cases hf : first = []
    · subst hf
      obtain rfl : Path.ofChars ['/'] = above := by simpa [Text.join] using habove
      constructor
      · rw [htext]
        apply List.prefix_append ['/'] _
      · right
        use rfl, rfl
        decide
    · obtain rfl : Path.ofChars first = above := by simpa [Text.join, hf] using habove
      rw [Path.ofChars, String.toList_ofList]
      constructor
      · rw [htext, List.append_assoc]
        apply List.prefix_append first _
      · have hone : Text.pieces '/' first = [] ++ [first] := Text.pieces_of_notMem hfirst
        left
        apply steps_of_pieces hone hf
  · have hsplit :
        Text.pieces '/' (Text.join ['/'] (Path.dropIdleEnd middle)) = before ++ [last] := by
      rw [← hlast]
      apply Text.pieces_join (by simp [hlast])
      intro piece hpiece
      apply hslash piece (by simp [Path.dropIdleEnd_subset middle hpiece])
    have hjoin : Text.join ['/'] (Path.dropIdleEnd middle) ≠ [] := by
      intro hnil
      rw [hnil, Text.pieces_nil] at hsplit
      have hsame := congrArg List.getLast? hsplit
      simp only [List.getLast?_singleton, List.getLast?_concat, Option.some.injEq] at hsame
      apply hne hsame.symm
    rw [if_neg (by simp [hjoin])] at habove
    subst habove
    rw [Path.ofChars, String.toList_ofList]
    constructor
    · have hrest : middle ++ [name] = Path.dropIdleEnd middle ++ (idle ++ [name]) := by
        rw [← List.append_assoc, ← hmiddle]
      rw [htext, hrest, Text.join_append (by simp [hlast]) (by simp)]
      simp
    · left
      have hall : Text.pieces '/' (first ++ '/' :: Text.join ['/'] (Path.dropIdleEnd middle))
          = (first :: before) ++ [last] := by
        rw [Text.pieces_append, Text.pieces_of_notMem hfirst, hsplit]
        rfl
      rw [steps_of_pieces hall hne, hlast, List.cons_append]

/-- The path above a file that is to be made leads to a directory, unless it is empty. -/
theorem isDir_parent (hhere : d.root.kindAt d.here = some .dir) (hfree : d.LinkFree)
    {path above : Path} {l : Location} (hl : d.root.Writable l)
    (h : d.locate .making path = .ok l) (habove : path.parent? = some above)
    (hne : above.text.isEmpty = false) :
  d.isDir above = true
  := by
  obtain ⟨before, name, there, hpieces, hidle, hway, hdir⟩ :=
    exists_pieces_of_locate_making hhere hfree hl h
  obtain ⟨hnull, -, hlen, -⟩ := locate_eq_ok_iff.mp h
  cases before with
  | nil =>
    have hname : path.parent? = if name = [] then none else some ⟨""⟩ := by
      rw [Path.parent?, hpieces]
      rfl
    rw [hname] at habove
    split at habove
    · simp at habove
    · obtain rfl := Option.some.inj habove
      simp at hne
  | cons first middle =>
    obtain ⟨hbegins, hsteps⟩ := text_parent hpieces hidle habove
    have hne' : above.text.toList ≠ [] := by simpa using hne
    obtain ⟨rest, hrest⟩ := hbegins
    rw [← hrest] at hnull hlen hway
    rw [List.mem_append, not_or] at hnull
    rw [Text.bytes, List.flatMap_append, List.length_append] at hlen
    rw [start, List.head?_append_of_ne_nil _ hne', ← start] at hway
    have hpart := follow_dropIdleEnd hway
    apply isDir_iff.mpr
    use there, locate_eq_ok_iff.mpr ⟨hnull.1, hne', Nat.le_of_add_right_le hlen, ?_⟩
    rcases hsteps with hsteps | ⟨rfl, hmiddle, hslash⟩
    · rwa [hsteps]
    · rw [hmiddle, List.filterMap_cons_none (by rfl), List.filterMap_nil, follow_nil] at hpart
      rw [hslash, Except.ok.inj hpart, follow_slash _ _ _ hdir, follow_nil]

end Compendium.Disk
