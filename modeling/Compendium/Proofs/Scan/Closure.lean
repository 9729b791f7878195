import Compendium.Aggregate
import Compendium.Proofs.Action
import Compendium.Proofs.Disk.Kind

/-!
# What every part of a scan has in common

A scan is put together from a few actions, and the disk decides how.  A property that these
actions have, and that passes to actions put together from others, is one of every scan, however
deep the directories are and wherever it stops.
-/

namespace Compendium

/-- The file that is put into the document next, where an event tells of one. -/
def Event.begun? : Event → Option Path
  | .includingText file => some file
  | .includingBinary file _ => some file
  | _ => none

namespace Scan

/-- Whether a property passes to all that a scan of a disk does, if `sees` holds of the disk as
it is seen on the way. -/
structure Closed (d : Disk) (sees : Disk → Prop) (Q : ∀ α : Type, Action Scan α → Prop) :
    Prop where
  pure : ∀ {α : Type} (a : α), Q α (Pure.pure a)
  bind : ∀ {α β : Type} {x : Action Scan α} {f : α → Action Scan β},
    Q α x → (∀ a, Q β (f a)) → Q β (x >>= f)
  tell : ∀ event : Event, event.begun? = none → Q Unit (Action.tell event)
  seeing : ∀ {α : Type} {f : Disk → Action Scan α},
    (∀ seen, sees seen → Q α (f seen)) → Q α (seenDisk d >>= f)
  extending : ∀ seen above path, sees seen →
    Q Context (resolving (Resolver.extend seen above path))
  skip : ∀ path, Q Unit (reporting (·.skip path))
  noting : ∀ failure, Q Unit (reporting (·.note failure))
  includeFile : ∀ path relative context, Q Unit (includeFile d path relative context)

namespace Closed

section

variable {d : Disk} {sees : Disk → Prop} {Q : ∀ α : Type, Action Scan α → Prop}
variable (h : Closed d sees Q)

include h

theorem note (failure : Failure) :
  Q Unit (note failure)
  := h.bind (h.tell _ rfl) fun _ => h.noting failure

theorem ignore (path : Path) (isDir : Bool) (because : ScopedPattern) :
  Q Unit (ignore path isDir because)
  := h.bind (h.tell _ rfl) fun _ => h.skip path

theorem visitFile (context : Context) (path relative : Path) (node : Node) :
  Q Unit (visitFile byPatterns d context path relative node)
  := by
  rw [Scan.visitFile, byPatterns_bind]
  cases context.patterns.ignoredBy? path false with
  | some because => apply h.ignore
  | none =>
    apply h.seeing
    intro seen _
    split
    · apply h.includeFile
    · apply h.tell _ rfl

theorem visitFiles (context : Context) (path : Path) (down : List Name) (entries : Entries) :
  Q Unit (visitFiles byPatterns d context path down entries)
  := by
  induction entries using Entries.induction_along with
  | nil => apply h.pure
  | cons name node rest ih =>
    rw [Scan.visitFiles]
    split
    · apply h.bind (h.visitFile _ _ _ _) fun _ => ih
    · apply ih

/-- Whichever directories are entered, the property passes to what is done on the way down and
to what is done after it. -/
theorem visitDirs (context : Context) (path : Path) (down : List Name) (entries : Entries) :
  Q Unit (visitDirs byPatterns d context path down entries)
  := by
  induction entries using Entries.induction_below generalizing context path down with
  | nil => apply h.pure
  | other name node rest hnode ih =>
    cases node with
    | dir => simp [Node.isDir] at hnode
    | file =>
      rw [Scan.visitDirs]
      · apply ih
      · simp
    | link =>
      rw [Scan.visitDirs]
      · apply ih
      · simp
  | dir name inner rest ihInner ihRest =>
    rw [Scan.visitDirs, byPatterns_bind]
    cases context.patterns.ignoredBy? (path.entry name) true with
    | some because => apply h.bind (h.ignore _ _ _) fun _ => ihRest _ _ _
    | none =>
      apply h.seeing
      intro seen hseen
      apply h.bind (h.extending _ _ _ hseen)
      intro below
      cases seen.node? (path.entry name) with
      | error fault => apply h.bind (h.note _) fun _ => ihRest _ _ _
      | ok node =>
        apply h.bind (h.visitFiles _ _ _ inner)
        intro _
        apply h.bind (ihInner _ _ _) fun _ => ihRest _ _ _

/-- The scan of a directory is made of such parts. -/
theorem directory (root : Path) (above : Context) :
  Q Unit (directory d root above)
  := by
  apply h.bind (h.tell _ rfl)
  intro _
  apply h.seeing
  intro seen hseen
  apply h.bind (h.extending _ _ _ hseen)
  intro context
  cases rootEntries seen root with
  | error fault => apply h.note
  | ok entries => apply h.bind (h.visitFiles _ _ _ _) fun _ => h.visitDirs _ _ _ _

theorem file (path : Path) (context : Context) :
  Q Unit (file d path context)
  := by
  rw [Scan.file, fileBy, byPatterns_bind]
  cases context.patterns.ignoredBy? path false with
  | some because => apply h.bind (h.tell _ rfl) fun _ => h.skip path
  | none => apply h.includeFile

/-- A path argument may have patterns that cannot be used, so that its scan ends at once. -/
theorem argument {scope : Scope}
    (hfound : ∀ root, Q Context (Action.ofExcept (scope.contextAt root))) (path : Path) :
  Q Unit (argument d scope path)
  := by
  apply h.seeing
  intro seen _
  split
  · apply h.bind (hfound _) fun _ => h.directory _ _
  · split
    · apply h.bind (hfound _) fun _ => h.file _ _
    · apply h.tell _ rfl

theorem arguments {scope : Scope}
    (hfound : ∀ root, Q Context (Action.ofExcept (scope.contextAt root))) (paths : List Path) :
  Q Unit (arguments d scope paths)
  := by
  induction paths with
  | nil => apply h.pure
  | cons path rest ih => apply h.bind (h.argument hfound path) fun _ => ih

/-- To keep a file out, its key is put to those that are kept out. -/
theorem exclude
    (hkeep : ∀ key, Q Unit (Action.change fun s => { s with excluded := s.excluded ++ [key] }))
    (path : Path) :
  Q Unit (exclude d path)
  := by
  apply h.seeing
  intro seen _
  cases seen.canonical path with
  | ok key => apply hkeep
  | error fault => apply h.tell _ rfl

/-- Around its path arguments, an aggregation writes the header, keeps a file out, hands over
what is pending and looks at the report. -/
theorem aggregate {scope : Scope}
    (hfound : ∀ root, Q Context (Action.ofExcept (scope.contextAt root)))
    (hkeep : ∀ key, Q Unit (Action.change fun s => { s with excluded := s.excluded ++ [key] }))
    (hbegin : Q Unit (sinking Sink.begin)) (hfinish : Q Unit (sinking Sink.finish))
    (hreport : ∀ f : Report → Action Scan Report, (∀ report, Q Report (f report)) →
      Q Report (Action.state >>= fun s => f s.report))
    (paths : List Path) (excluded : Option Path) :
  Q Report (aggregate d scope paths excluded)
  := by
  have hclosing (report : Report) : Q Report (do
      sinking Sink.finish
      Action.tell
        (.aggregated report.included.length report.skipped.length report.failures.length)
      return report) :=
    h.bind hfinish fun _ => h.bind (h.tell _ rfl) fun _ => h.pure report
  have hconcluding := h.bind (h.arguments hfound paths) fun _ => hreport _ hclosing
  cases excluded with
  | none => apply h.bind hbegin fun _ => hconcluding
  | some path => apply h.bind hbegin fun _ => h.bind (h.exclude hkeep path) fun _ => hconcluding

end

end Closed

end Scan

end Compendium
