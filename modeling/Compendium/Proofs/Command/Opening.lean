import Compendium.Proofs.Command.Prepared
import Compendium.Proofs.Disk.Made
import Compendium.Proofs.Disk.Room

/-!
# Opening the document

A run makes room for its document and empties the file of it.  Where that is on the disk does not
depend on what was in the file before, nor on whether it was there.
-/

namespace Compendium.Command

section

variable {d e : Disk} {home : Option Path} {s : Settings}

/-! ### Room for the document -/

theorem keeps_withRoom (d : Disk) (path : Path) :
  Disk.Keeps (fun _ => False) d (withRoom d path).2
  := by
  rw [withRoom]
  cases path.parent? with
  | none => exact .refl d
  | some above =>
    dsimp only
    split
    · exact .refl d
    · apply Disk.keeps_makeDirs d above.ancestors

/-- Whether the document of a run is made at a location of a disk with room for it. -/
structure Opens (d : Disk) (path : Path) (d₁ : Disk) (l : Location) : Prop where
  room : withRoom d path = (.ok (), d₁)
  way : d₁.locate .making path = .ok l
  ne_dir : d₁.root.kindAt l ≠ some .dir

section

variable {path : Path} {d₁ : Disk} {l : Location}

theorem Opens.keeps (h : Opens d path d₁ l) :
  Disk.Keeps (fun _ => False) d d₁
  := by
  have hkeeps := keeps_withRoom d path
  rwa [h.room] at hkeeps

theorem Opens.writable (h : Opens d path d₁ l) (hfree : d.LinkFree) :
  d₁.root.Writable l
  := by
  cases hk : d₁.root.kindAt l with
  | none =>
    left
    apply hk
  | some kind =>
    cases kind with
    | file =>
      right
      apply hk
    | dir => apply absurd hk h.ne_dir
    | link target => apply absurd hk (h.keeps.linkFree hfree l target)

/-- There is room for a document whose file is there or can be made. -/
theorem opens_of_locate (hhere : d.root.kindAt d.here = some .dir) (hfree : d.LinkFree)
    (hl : d.root.Writable l) (h : d.locate .making path = .ok l) :
  Opens d path d l
  := by
  refine ⟨?_, h, hl.ne_dir⟩
  rw [withRoom]
  cases habove : path.parent? with
  | none => rfl
  | some above =>
    dsimp only
    split
    · rfl
    · rename_i hne
      exact Disk.makeDirAll_of_isDir
        (Disk.isDir_parent hhere hfree hl h habove (Bool.eq_false_iff.mpr hne))

/-- There is room for a document once the directory that is missing for it has been made. -/
theorem opens_of_makeDir {above : Path} (habove : path.parent? = some above)
    (hne : above.text.isEmpty = false) (hmade : d.makeDir above = .ok d₁)
    (hway : d₁.locate .making path = .ok l) (hl : d₁.root.kindAt l ≠ some .dir) :
  Opens d path d₁ l
  := by
  constructor
  · rw [withRoom, habove]
    dsimp only
    rw [if_neg (by simp [hne])]
    apply Disk.makeDirAll_of_makeDir hne hmade
  · apply hway
  · apply hl

/-- Room for the document is made without regard to what it is written over. -/
theorem Opens.alike (h : Opens d path d₁ l) (hsame : Disk.AlikeAbout l d e) (hfree : d.LinkFree)
    (hhere : d.root.kindAt d.here = some .dir) :
  ∃ e₁, Opens e path e₁ l ∧ e₁.withBytes l [] = d₁.withBytes l []
  := by
  obtain ⟨e₁, hroom, hsame₁⟩ :
      ∃ e₁, withRoom e path = (.ok (), e₁) ∧ Disk.AlikeAbout l d₁ e₁ := by
    have hroom := h.room
    rw [withRoom] at hroom ⊢
    cases habove : path.parent? with
    | none =>
      obtain rfl : d = d₁ := by simpa [habove] using hroom
      exact ⟨e, rfl, hsame⟩
    | some above =>
      simp only [habove] at hroom ⊢
      split at hroom
      · rename_i hempty
        obtain rfl : d = d₁ := by simpa using hroom
        rw [if_pos hempty]
        exact ⟨e, rfl, hsame⟩
      · rename_i hempty
        rw [if_neg hempty]
        apply hsame.makeDirs hfree hhere hroom h.ne_dir
  refine ⟨e₁, ⟨hroom, ?_, (hsame₁.keeps.right l rfl).ne_dir⟩, (hsame₁.written []).symm⟩
  apply hsame₁.keeps.locate_made (h.keeps.linkFree hfree) rfl (.inl rfl) h.way

/-- The state of a run that has opened its document, which is empty then. -/
def opened (path : Path) (d₁ : Disk) (l : Location) (w : Work) : Work :=
  { w with
    disk := d₁.withBytes l []
    sink := some (.empty (.file l) path generator)
    notices := w.notices ++ [.opened path] }

/-- Where there is room for the document, it is opened. -/
theorem outcome_openDocument {w : Work} (h : Opens w.disk path d₁ l) :
  (openDocument (some path)).outcome w = (.ok (), opened path d₁ l w)
  := by
  have hmade := Disk.createFile_eq_ok_iff.mpr ⟨h.way, h.ne_dir, rfl⟩
  rcases hopen : (openDocument (some path)).outcome w with ⟨complaint | _, w'⟩
  · obtain ⟨-, hfailed⟩ := (meets_openDocument (some path) w).of_outcome.2 complaint hopen
    have hfound := hfailed path rfl
    rw [h.room] at hfound
    apply absurd hmade (hfound rfl _)
  · obtain ⟨location, disk, -, hcreated, rfl⟩ :=
      (meets_openDocument (some path) w).of_outcome.1 _ hopen
    rw [h.room] at hcreated
    obtain ⟨rfl, rfl⟩ := Prod.mk.inj (Except.ok.inj (hmade.symm.trans hcreated))
    rfl

theorem exists_opens_of_outcome {w w' : Work}
    (h : (openDocument (some path)).outcome w = (.ok (), w')) :
  ∃ d₁ l, Opens w.disk path d₁ l
  := by
  obtain ⟨l, d', hroom, hcreated, -⟩ := (meets_openDocument (some path) w).of_outcome.1 _ h
  obtain ⟨hl, hne, -⟩ := Disk.createFile_eq_ok_iff.mp hcreated
  use (withRoom w.disk path).2, l, Prod.ext hroom rfl, hl, hne

end

end

end Compendium.Command
