import Compendium.Proofs.Disk.Making

/-!
# Making room for a file

Which directories are made above a file does not depend on the file.  On disks that are the same
but for a file, the same directories are made if that succeeds on one of them, and the disks are
the same but for the file afterwards.
-/

namespace Compendium

namespace Entries

theorem put_cons_of_lt {name other : Name} (h : name < other) (old new : Node) (rest : Entries) :
  (Entries.cons other old rest).put name new = .cons name new (.cons other old rest)
  := by
  rw [put, if_neg (by rintro rfl; exact List.lt_irrefl _ h), if_pos h]

theorem put_cons_of_gt {name other : Name} (h : other < name) (old new : Node) (rest : Entries) :
  (Entries.cons other old rest).put name new = .cons other old (rest.put name new)
  := by
  rw [put, if_neg (by rintro rfl; exact List.lt_irrefl _ h), if_neg (List.lt_asymm h)]

/-- Of two entries, the one with the lesser name may be put in first or last. -/
theorem put_comm_of_lt {name other : Name} (h : name < other) (new new' : Node)
    (entries : Entries) :
  (entries.put name new).put other new' = (entries.put other new').put name new
  := by
  induction entries using induction_along with
  | nil =>
    rw [put, put, put_cons_of_gt h, put, put_cons_of_lt h]
  | cons third old rest ih =>
    rcases Std.lt_trichotomy name third with hlt | rfl | hlt
    · rw [put_cons_of_lt hlt, put_cons_of_gt h, put]
      split
      · rw [put_cons_of_lt h]
      · split
        · rw [put_cons_of_lt h]
        · rw [put_cons_of_lt hlt]
    · rw [put_cons_of_gt h, put, if_pos rfl, put_cons_of_gt h, put, if_pos rfl]
    · have hthird := List.lt_trans hlt h
      rw [put_cons_of_gt hlt, put_cons_of_gt hthird, put_cons_of_gt hthird, put_cons_of_gt hlt, ih]

/-- Entries of different names may be put in in either order. -/
theorem put_comm {name other : Name} (h : name ≠ other) (new new' : Node) (entries : Entries) :
  (entries.put name new).put other new' = (entries.put other new').put name new
  := by
  rcases Std.lt_trichotomy name other with hlt | heq | hlt
  · apply put_comm_of_lt hlt new new' entries
  · contradiction
  · apply (put_comm_of_lt hlt new' new entries).symm

end Entries

namespace Node

/-- Nodes that are not below each other may be put in in either order. -/
theorem putAt_comm (root new new' : Node) {l m : Location} (hl : ¬ l <+: m) (hm : ¬ m <+: l) :
  (root.putAt new l).putAt new' m = (root.putAt new' m).putAt new l
  := by
  induction l generalizing root m with
  | nil => apply absurd List.nil_prefix hl
  | cons name l ih =>
    cases m with
    | nil => apply absurd List.nil_prefix hm
    | cons name' m =>
      cases root with
      | file => rfl
      | link => rfl
      | dir entries =>
        simp only [putAt]
        by_cases hname : name = name'
        · subst hname
          simp only [List.cons_prefix_cons, true_and] at hl hm
          simp only [Entries.find?_put_self, Option.getD_some, Entries.put_put, ih _ hl hm]
        · rw [Entries.find?_put_of_ne (Ne.symm hname), Entries.find?_put_of_ne hname,
            Entries.put_comm hname]

end Node

namespace Disk

variable {d e : Disk}

/-! ### Directories that can be made -/

/-- Where more directories are found, a way that leads somewhere led there before, or to
something missing. -/
theorem Keeps.follow_or_missing (h : Keeps (fun _ => False) d e) (hfree : d.LinkFree)
    {links : Nat} (links' : Nat) {here m : Location} {steps : List Step}
    (hhere : d.root.kindAt here = e.root.kindAt here)
    (hway : Disk.follow e.root .content links here steps = .ok m) :
  Disk.follow d.root .content links' here steps = .ok m
      ∧ d.root.kindAt m = e.root.kindAt m
    ∨ Disk.follow d.root .content links' here steps = .error .notFound
  := by
  induction steps generalizing here with
  | nil =>
    rw [follow_nil] at hway ⊢
    obtain rfl := Except.ok.inj hway
    left
    use rfl, hhere
  | cons step rest ih =>
    obtain ⟨hdir', hcases⟩ := follow_cons_cases hway
    have hdir := hhere.trans hdir'
    rcases hcases with ⟨rfl | rfl, hrest⟩ | ⟨rfl, hrest⟩ | ⟨n, kind, rfl, hlen, hk, hcases⟩
    · rw [follow_stay _ _ _ hdir]
      apply ih hhere hrest
    · rw [follow_slash _ _ _ hdir]
      apply ih hhere hrest
    · rw [follow_up _ _ _ hdir]
      have habove := List.dropLast_prefix here
      apply ih ((Node.kindAt_of_prefix habove hdir).trans
        (Node.kindAt_of_prefix habove hdir').symm) hrest
    · rcases hcases with ⟨hkind, hrest⟩ | ⟨target, -, rfl, -⟩
      · rw [follow_name _ _ _ hdir, if_neg (by simp), if_neg hlen]
        cases hbefore : d.root.kindAt (here ++ [n]) with
        | none => exact .inr (by simp)
        | some kind' =>
          have hsame := h.kindAt _ kind' id hbefore
          obtain rfl := Option.some.inj (hk.symm.trans hsame)
          rcases hkind with rfl | rfl
          · apply ih (hbefore.trans hk.symm) hrest
          · apply ih (hbefore.trans hk.symm) hrest
      · apply absurd hk (h.linkFree hfree _ target)

/-- No directory is made for a path without a name at its end. -/
theorem makeDir_of_missing {path : Path} (hnull : '\x00' ∉ path.text.toList)
    (hne : path.text.toList ≠ []) (hlen : (Text.bytes path.text.toList).length ≤ pathLimit)
    (hlast : ¬ ∃ before n, (Text.pieces '/' path.text.toList).filterMap step?
      = before ++ [.name n])
    (hmissing : follow d.root .content linkLimit (start path.text.toList d.here)
      ((Text.pieces '/' path.text.toList).filterMap step?) = .error .notFound) :
  d.makeDir path = .error .notFound
  := by
  have hlocate : d.locate .content path = .error .notFound := by
    have hfull := follow_fault hmissing
      (if path.text.toList.getLast? = some '/' then [.slash] else [])
    rw [← steps] at hfull
    simp [locate, hnull, hne, Nat.not_lt.mpr hlen, hfull]
  rw [makeDir, filter_isMove_steps]
  simp only [bind, Except.bind, pure, Except.pure, throw, throwThe, MonadExceptOf.throw]
  rw [if_neg (by simpa using hnull), if_neg hne, if_neg (Nat.not_lt.mpr hlen), hlocate]
  split
  · rename_i n above hreverse
    apply absurd ⟨above.reverse, n, by simpa using congrArg List.reverse hreverse⟩ hlast
  · rfl

/-- A path that leads to a directory once more directories have been made leads to one before, or
a directory can be made there, unless something is missing above it. -/
theorem Keeps.makeDir_cases (h : Keeps (fun _ => False) d e) (hfree : d.LinkFree)
    (hhere : d.root.kindAt d.here = some .dir) {path : Path} (he : e.isDir path = true) :
  d.isDir path = true
    ∨ (∃ d', d.makeDir path = .ok d'
      ∧ ∀ l, e.root.kindAt l ≠ some .dir → d'.root.kindAt l ≠ some .dir)
    ∨ d.makeDir path = .error .notFound
  := by
  obtain ⟨hnull, hne, hlen, l, hway, hdir⟩ := isDir_iff_pieces.mp he
  rw [h.here] at hway
  have hdstart := kindAt_start hhere path.text.toList
  have hstart := hdstart.trans (h.kindAt_dir hdstart).2.symm
  rcases h.follow_or_missing hfree linkLimit hstart hway with ⟨hwas, hsame⟩ | hmissing
  · left
    apply isDir_iff_pieces.mpr ⟨hnull, hne, hlen, l, hwas, hsame.trans hdir⟩
  right
  by_cases hlast : ∃ before n, (Text.pieces '/' path.text.toList).filterMap step?
      = before ++ [.name n]
  · obtain ⟨before, n, hpieces⟩ := hlast
    rw [hpieces] at hway hmissing
    obtain ⟨above, habove, hdir', hshort, rfl⟩ := exists_above_of_follow (h.linkFree hfree) hway
    rcases h.follow_or_missing hfree linkLimit hstart habove with ⟨hwas, hsame⟩ | hgone
    · have hdabove := hsame.trans hdir'
      have hnone : d.root.kindAt (above ++ [n]) = none := by
        cases hk : d.root.kindAt (above ++ [n]) with
        | none => rfl
        | some kind =>
          obtain rfl := Option.some.inj (hdir.symm.trans (h.kindAt _ kind id hk))
          obtain ⟨links, hfurther⟩ := follow_further hwas
          rw [hfurther, follow_name _ _ _ hdabove, if_neg (by simp),
            if_neg (Nat.not_lt.mpr hshort), hk] at hmissing
          simp [follow_nil] at hmissing
      left
      refine ⟨_, makeDir_eq_ok_iff.mpr ⟨hnull, hne, hlen, before, n, above, hpieces, hwas, hdabove,
        hshort, hnone, rfl⟩, ?_⟩
      intro m hm hm'
      have hother : m ≠ above ++ [n] := by
        rintro rfl
        apply hm hdir
      have helse := eq_elsewhere_emptyDir hdabove hnone hother
      apply hm (h.kindAt_dir (helse.1.symm.trans hm')).2
    · right
      rw [makeDir, filter_isMove_steps]
      simp [bind, Except.bind, hnull, hne, Nat.not_lt.mpr hlen, hpieces, hgone]
  · right
    apply makeDir_of_missing hnull hne hlen hlast hmissing

theorem isDir_of_makeDir (hfree : d.LinkFree) {path : Path} {d' : Disk}
    (h : d.makeDir path = .ok d') :
  d'.isDir path = true
  := by
  have hkeeps := keeps_makeDir h
  obtain ⟨hnull, hne, hlen, before, n, above, hpieces, hway, hdir, hshort, hnone, rfl⟩ :=
    makeDir_eq_ok_iff.mp h
  have hself := Node.kindAt_putAt_self .emptyDir n hdir
  apply isDir_iff_pieces.mpr
  use hnull, hne, hlen, above ++ [n], ?_, hself
  obtain ⟨links, hfurther⟩ := follow_further (hkeeps.follow hfree linkLimit id hway)
  rw [hpieces, hfurther, follow_name _ _ _ (hkeeps.kindAt_dir hdir).2, if_neg (by simp),
    if_neg (Nat.not_lt.mpr hshort), hself]
  apply follow_nil _ _ _ _

section

variable {path : Path} {above : List Path} {d₁ d' : Disk}

theorem makeDirs_of_isEmpty (h : path.text.isEmpty = true) :
  d.makeDirs (path :: above) = (.ok (), d)
  := by
  rw [makeDirs, if_pos h]

theorem makeDirs_of_makeDir (h : d.makeDir path = .ok d') :
  d.makeDirs (path :: above) = (.ok (), d')
  := by
  obtain ⟨-, hne, -⟩ := makeDir_eq_ok_iff.mp h
  rw [makeDirs, if_neg (by simpa using hne), h]

/-- Where something is missing above a directory, it is made after what is above it. -/
theorem makeDirs_of_missing (hne : path.text.isEmpty = false)
    (hmissing : d.makeDir path = .error .notFound) (habove : d.makeDirs above = (.ok (), d₁))
    (hpath : d₁.makeDir path = .ok d' ∨ d₁.isDir path = true ∧ d' = d₁) :
  d.makeDirs (path :: above) = (.ok (), d')
  := by
  rw [makeDirs, hne, if_neg (by simp), hmissing]
  simp only [habove]
  rcases hpath with hmade | ⟨hdir, rfl⟩
  · rw [hmade]
  · simp [makeDir_of_isDir hdir, hdir]

/-- There is no other way to make directories. -/
theorem makeDirs_cons_cases (h : d.makeDirs (path :: above) = (.ok (), d')) :
  path.text.isEmpty = true ∧ d' = d ∨ d.isDir path = true ∧ d' = d ∨ d.makeDir path = .ok d'
    ∨ path.text.isEmpty = false ∧ d.makeDir path = .error .notFound
      ∧ ∃ d₁, d.makeDirs above = (.ok (), d₁)
        ∧ (d₁.makeDir path = .ok d' ∨ d₁.isDir path = true ∧ d' = d₁)
  := by
  rw [makeDirs] at h
  split at h
  · rename_i hempty
    left
    use hempty
    apply (congrArg Prod.snd h).symm
  rename_i hne
  right
  split at h
  · rename_i hmade
    rw [hmade]
    right
    left
    apply congrArg (Except.ok ∘ Prod.snd) h
  · rename_i hmissing
    right
    right
    use by simpa using hne, hmissing
    split at h
    · simp at h
    · rename_i d₁ habove
      use d₁, habove
      split at h
      · rename_i hmade
        rw [hmade]
        left
        apply congrArg (Except.ok ∘ Prod.snd) h
      · split at h
        · rename_i hdir
          right
          use hdir
          apply (congrArg Prod.snd h).symm
        · simp at h
  · split at h
    · rename_i hdir
      left
      use hdir
      apply (congrArg Prod.snd h).symm
    · simp at h

end

/-- What is kept is kept as well when a file is left out of account. -/
theorem Keeps.hiding (h : Keeps (fun _ => False) d e) {l : Location} (hl : e.root.Writable l) :
  Keeps (· = l) d e
  := by
  refine ⟨h.here, fun m kind _ => h.kindAt m kind id, fun m bytes _ => h.bytesAt m bytes id,
    fun m _ => h.new m id, ?_, ?_⟩
  · rintro m rfl
    cases hk : d.root.kindAt m with
    | none =>
      left
      apply hk
    | some kind =>
      have hsame := h.kindAt m kind id hk
      rcases hl with hnone | hfile
      · cases hnone.symm.trans hsame
      · obtain rfl := Option.some.inj (hfile.symm.trans hsame)
        right
        apply hk
  · rintro m rfl
    apply hl

/-! ### Disks that differ in a file of a directory -/

/-- Two disks with the same directories and the same files, but for a file of a directory that
both have.  Either may lack that file. -/
structure AlikeAbout (l : Location) (d e : Disk) : Prop where
  above : ∃ above name, l = above ++ [name] ∧ d.root.kindAt above = some .dir
  keeps : Keeps (· = l) d e
  back : Keeps (· = l) e d
  written : ∀ bytes, d.withBytes l bytes = e.withBytes l bytes

variable {l : Location}

theorem AlikeAbout.symm (h : AlikeAbout l d e) :
  AlikeAbout l e d
  := by
  obtain ⟨above, name, hl, hdir⟩ := h.above
  use ⟨above, name, hl, (h.keeps.kindAt_dir hdir).2⟩, h.back, h.keeps
  intro bytes
  apply (h.written bytes).symm

theorem AlikeBut.alikeAbout (h : AlikeBut l d e) (hd : d.WellFormed) (he : e.WellFormed) :
  AlikeAbout l d e
  := by
  have hne := ne_nil_of_writable hd h.left
  have hkeeps := h.keeps hd
  have hback := h.symm.keeps he
  refine ⟨⟨l.dropLast, l.getLast hne, (List.dropLast_concat_getLast hne).symm, ?_⟩, hkeeps, hback,
    h.withBytes_eq hd he⟩
  have habove {root : Node} (hfile : root.kindAt l = some .file) :
      root.kindAt l.dropLast = some .dir := by
    apply Node.kindAt_of_append (m := [l.getLast hne]) (by simp)
    rw [List.dropLast_concat_getLast hne]
    simpa [Node.kindAt] using congrArg Option.isSome hfile
  rcases h.file with hfile | hfile
  · apply habove hfile
  · apply (hback.kindAt_dir (habove hfile)).2

/-- A new directory elsewhere is new on both disks. -/
theorem Keeps.withDir (h : Keeps (· = l) d e) {parent : Location} {n : Name}
    (hdir : d.root.kindAt parent = some .dir) (hnone : d.root.kindAt (parent ++ [n]) = none)
    (hnone' : e.root.kindAt (parent ++ [n]) = none) (hother : parent ++ [n] ≠ l) :
  Keeps (· = l) { d with root := d.root.putAt .emptyDir (parent ++ [n]) }
    { e with root := e.root.putAt .emptyDir (parent ++ [n]) }
  := by
  have hdir' := (h.kindAt_dir hdir).2
  have hleft (m : Location) (hm : m ≠ parent ++ [n]) := eq_elsewhere_emptyDir hdir hnone hm
  have hright (m : Location) (hm : m ≠ parent ++ [n]) := eq_elsewhere_emptyDir hdir' hnone' hm
  have hself := Node.kindAt_putAt_self .emptyDir n hdir
  have hself' := Node.kindAt_putAt_self .emptyDir n hdir'
  constructor
  · apply h.here
  · intro m kind hm hk
    by_cases hn : m = parent ++ [n]
    · subst hn
      apply hself'.trans (hself.symm.trans hk)
    · apply (hright m hn).1.trans (h.kindAt m kind hm ((hleft m hn).1.symm.trans hk))
  · intro m bytes hm hbytes
    by_cases hn : m = parent ++ [n]
    · subst hn
      have hfile := Node.kindAt_eq_file_iff.mpr ⟨bytes, Node.bytesAt_eq_some_iff.mp hbytes⟩
      cases hself.symm.trans hfile
    · apply (hright m hn).2.trans (h.bytesAt m bytes hm ((hleft m hn).2.symm.trans hbytes))
  · intro m hm hk
    by_cases hn : m = parent ++ [n]
    · subst hn
      right
      apply hself'
    · rw [(hright m hn).1]
      apply h.new m hm ((hleft m hn).1.symm.trans hk)
  · rintro m rfl
    rw [Node.Writable, (hleft m hother.symm).1]
    apply h.left m rfl
  · rintro m rfl
    rw [Node.Writable, (hright m hother.symm).1]
    apply h.right m rfl

theorem AlikeAbout.isDir (h : AlikeAbout l d e) (hfree : d.LinkFree) {path : Path}
    (hpath : d.isDir path = true) :
  e.isDir path = true
  := by
  obtain ⟨m, hm, hdir⟩ := isDir_iff.mp hpath
  obtain ⟨hother, hdir'⟩ := h.keeps.kindAt_dir hdir
  apply isDir_iff.mpr ⟨m, h.keeps.locate hfree hother hm, hdir'⟩

/-- A directory that is made elsewhere on one of the disks is made on the other. -/
theorem AlikeAbout.makeDir (h : AlikeAbout l d e) (hfree : d.LinkFree) {path : Path} {d' : Disk}
    (hmade : d.makeDir path = .ok d') (hl : d'.root.kindAt l ≠ some .dir) :
  ∃ e', e.makeDir path = .ok e' ∧ AlikeAbout l d' e'
  := by
  have hmore := keeps_makeDir hmade
  obtain ⟨hnull, hne, hlen, before, n, parent, hpieces, hway, hdir, hshort, hnone, rfl⟩ :=
    makeDir_eq_ok_iff.mp hmade
  obtain ⟨hparent, hdir'⟩ := h.keeps.kindAt_dir hdir
  have hother : parent ++ [n] ≠ l := by
    rintro rfl
    apply hl (Node.kindAt_putAt_self .emptyDir n hdir)
  have hnone' : e.root.kindAt (parent ++ [n]) = none := by
    rcases h.keeps.new _ hother hnone with hk | hk
    · apply hk
    · have hback := (h.back.kindAt_dir hk).2
      simp [hnone] at hback
  have hway' := h.keeps.follow hfree linkLimit hparent hway
  rw [← h.keeps.here] at hway'
  have hmade' := makeDir_eq_ok_iff.mpr ⟨hnull, hne, hlen, before, n, parent, hpieces, hway', hdir',
    hshort, hnone', rfl⟩
  refine ⟨_, hmade', ?_⟩
  obtain ⟨above, name, rfl, habove⟩ := h.above
  constructor
  · use above, name, rfl
    apply (hmore.kindAt_dir habove).2
  · apply h.keeps.withDir hdir hnone hnone' hother
  · apply h.back.withDir hdir' hnone' hnone hother
  · -- What is made is neither above the file nor below it.
    intro bytes
    have hbelow : ¬ above ++ [name] <+: parent ++ [n] := by
      intro hbegins
      rcases List.prefix_concat_iff.mp hbegins with heq | hbegins
      · apply hother heq.symm
      · apply (h.keeps.left _ rfl).ne_dir (Node.kindAt_of_prefix hbegins hdir)
    have hover : ¬ parent ++ [n] <+: above ++ [name] := by
      intro hbegins
      rcases List.prefix_concat_iff.mp hbegins with heq | hbegins
      · apply hother heq
      · have hdir := Node.kindAt_of_prefix hbegins habove
        simp [hnone] at hdir
    have hsame := h.written bytes
    simp only [withBytes, Disk.mk.injEq] at hsame ⊢
    rw [Node.putAt_comm _ _ _ hover hbelow, Node.putAt_comm _ _ _ hover hbelow, hsame.1]
    use rfl, hsame.2

/-- Where something is missing above a directory on one of the disks, it is missing on the other, if
the directory is there later on. -/
theorem AlikeAbout.missing (h : AlikeAbout l d e) (hfree : d.LinkFree)
    (hhere : d.root.kindAt d.here = some .dir) {path : Path}
    (hmissing : d.makeDir path = .error .notFound) {e' : Disk}
    (hlater : Keeps (fun _ => False) e e') (hdir : e'.isDir path = true)
    (hl : e'.root.kindAt l ≠ some .dir) :
  e.makeDir path = .error .notFound
  := by
  have hfree' := h.keeps.linkFree hfree
  have hhere' : e.root.kindAt e.here = some .dir := by
    rw [h.keeps.here]
    apply (h.keeps.kindAt_dir hhere).2
  rcases hlater.makeDir_cases hfree' hhere' hdir with hwas | ⟨e'', hmade, hother⟩ | hmissing'
  · rw [makeDir_of_isDir (h.symm.isDir hfree' hwas)] at hmissing
    cases hmissing
  · obtain ⟨d', hmade', -⟩ := h.symm.makeDir hfree' hmade (hother l hl)
    cases hmade'.symm.trans hmissing
  · exact hmissing'

/-- If directories can be made on one of the disks, so can they on the other. -/
theorem AlikeAbout.makeDirs (h : AlikeAbout l d e) (hfree : d.LinkFree)
    (hhere : d.root.kindAt d.here = some .dir) {paths : List Path} {d' : Disk}
    (hmade : d.makeDirs paths = (.ok (), d')) (hl : d'.root.kindAt l ≠ some .dir) :
  ∃ e', e.makeDirs paths = (.ok (), e') ∧ AlikeAbout l d' e'
  := by
  induction paths generalizing d' with
  | nil =>
    obtain rfl : d = d' := congrArg Prod.snd hmade
    exact ⟨e, rfl, h⟩
  | cons path above ih =>
    rcases makeDirs_cons_cases hmade with
      ⟨hempty, rfl⟩ | ⟨hdir, rfl⟩ | hfirst | ⟨hne, hmissing, d₁, habove, hpath⟩
    · exact ⟨e, makeDirs_of_isEmpty hempty, h⟩
    · exact ⟨e, makeDirs_of_isDir (h.isDir hfree hdir), h⟩
    · obtain ⟨e', he', hsame⟩ := h.makeDir hfree hfirst hl
      exact ⟨e', makeDirs_of_makeDir he', hsame⟩
    have hkeeps : Keeps (fun _ => False) d d₁ := by
      simpa [habove] using keeps_makeDirs d above
    have hfree₁ := hkeeps.linkFree hfree
    obtain ⟨e₁, habove', h₁⟩ := ih habove fun hdir => hl (by
      rcases hpath with hlast | ⟨-, rfl⟩
      · apply ((keeps_makeDir hlast).kindAt_dir hdir).2
      · apply hdir)
    obtain ⟨e', hpath', h'⟩ : ∃ e', (e₁.makeDir path = .ok e'
        ∨ e₁.isDir path = true ∧ e' = e₁) ∧ AlikeAbout l d' e' := by
      rcases hpath with hlast | ⟨hdir, rfl⟩
      · obtain ⟨e', he', hsame⟩ := h₁.makeDir hfree₁ hlast hl
        exact ⟨e', .inl he', hsame⟩
      · exact ⟨e₁, .inr ⟨h₁.isDir hfree₁ hdir, rfl⟩, h₁⟩
    have hkeeps' : Keeps (fun _ => False) e e₁ := by
      simpa [habove'] using keeps_makeDirs e above
    obtain ⟨hlater, hdir⟩ : Keeps (fun _ => False) e e' ∧ e'.isDir path = true := by
      rcases hpath' with hlast | ⟨hdir, rfl⟩
      · use hkeeps'.trans (keeps_makeDir hlast)
        apply isDir_of_makeDir (hkeeps'.linkFree (h.keeps.linkFree hfree)) hlast
      · use hkeeps', hdir
    have hmissing' := h.missing hfree hhere hmissing hlater hdir (h'.back.left l rfl).ne_dir
    exact ⟨e', makeDirs_of_missing hne hmissing' habove' hpath', h'⟩

end Disk

end Compendium
