import StylesheetAssets.Proofs.Config.Settled
import StylesheetAssets.Proofs.Disk.Confinement
import StylesheetAssets.Proofs.Rewrite.PassOrder

/-!
What a pass over a sheet may change on the disk, whether it succeeds or not: it makes the output
directories, and writes files of one name directly in them.
-/
namespace StylesheetAssets

open Disk (Bounds)

variable {b : Bounds} {config : Config}

/-- Bounds that leave room for the assets of a configuration: its output directories can be made,
and every name directly in them be written. -/
structure Config.AssetsWithin (config : Config) (b : Bounds) : Prop where
  settled : config.Settled
  file : ∀ {category : Category} {dir : Path} {name : String},
    config.outputDir? category = some dir → Path.IsName name → b.file (dir.trail.reverse ++ [name])
  directory : ∀ {category : Category} {dir : Path} {l : Location},
    config.outputDir? category = some dir → l <+: dir.trail.reverse → b.directory l

/-- A copy changes the place of its name, and only if its source can be read. -/
theorem Config.AssetsWithin.passOrder (h : config.AssetsWithin b) :
    config.PassOrder fun s s' => s.disk.ChangesWithin b s'.disk where
  refl s := .refl b s.disk
  trans := .trans
  noted _ _ _ := .refl b _
  made s _ _ hdir := by
    have hcanonical := h.settled.isCanonical hdir
    apply Disk.changesWithin_createDirectories hcanonical
    intro k hk
    rw [hcanonical.placeOf_eq] at hk
    exact h.directory hdir hk
  copied s _ _ _ _ hdir hname := by
    apply Disk.changesWithin_copyFile
    rintro ⟨bytes, hread⟩
    obtain ⟨l, hl⟩ := Disk.readFile_eq_ok.1 hread
    have hname' := hname (Disk.fileName?_of_resolve hl)
    rw [Disk.placeOf_join _ _ hname', (h.settled.isCanonical hdir).placeOf_eq]
    exact h.file hdir hname'

/-- A pass over a sheet makes the output directories and writes names directly in them, and changes
nothing else on the disk. -/
theorem changesWithin_rewriteSheet (h : config.AssetsWithin b) (sheet : Stylesheet.Sheet)
    (queue : CopyQueue) (session : Session) :
    session.disk.ChangesWithin b (rewriteSheet config sheet queue session).2.disk :=
  h.passOrder.upward_rewriteSheet sheet queue session

end StylesheetAssets
