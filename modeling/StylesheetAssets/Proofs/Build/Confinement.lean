import StylesheetAssets.Proofs.Build.Plain
import StylesheetAssets.Proofs.Rewrite.Confinement

/-!
What a build may change on the disk, whether it succeeds or fails at any point: stylesheets in the
output directory, assets directly in their output directories, and directories on the way to either.
What the stylesheets refer to and import does not matter.
-/
namespace StylesheetAssets

open Disk (Bounds)

/-! ### Steps of a build -/

namespace Building

variable {b : Bounds} {α β ε : Type}

/-- Steps whose changes stay within the bounds, whatever they answer. -/
def Confined (b : Bounds) (x : Building α) : Prop :=
  ∀ (registry : CopyRegistry) (session : Session),
    session.disk.ChangesWithin b (x registry session).2.disk

/-- What follows is confined wherever the first step answers. -/
theorem Confined.bind_of {x : Building α} {f : α → Building β} (hx : x.Confined b)
    (hf : ∀ a registry session registry' session',
      x registry session = ((.ok a, registry'), session') → (f a).Confined b) :
    (x >>= f).Confined b := by
  intro registry session
  have hfirst := hx registry session
  rw [run_bind]
  cases hr : x registry session with
  | mk r session' =>
    obtain ⟨answer, registry'⟩ := r
    rw [hr] at hfirst
    cases answer with
    | error e => exact hfirst
    | ok a => exact hfirst.trans (hf a registry session registry' session' hr registry' session')

theorem Confined.bind {x : Building α} {f : α → Building β} (hx : x.Confined b)
    (hf : ∀ a, (f a).Confined b) : (x >>= f).Confined b :=
  hx.bind_of fun a _ _ _ _ _ => hf a

theorem confined_pure (a : α) : (pure a : Building α).Confined b := fun _ _ => .of_eq rfl

theorem confined_liftM {x : StateM Session α}
    (h : ∀ s : Session, s.disk.ChangesWithin b (x s).2.disk) :
    (liftM x : Building α).Confined b := fun _ session => h session

theorem confined_within {place : ε → BuildError} {x : StateM Session (Except ε α)}
    (h : ∀ s : Session, s.disk.ChangesWithin b (x s).2.disk) : (within place x).Confined b := by
  unfold within
  refine (confined_liftM h).bind fun r => ?_
  cases r with
  | ok a => exact confined_pure a
  | error e => exact fun _ _ => .of_eq rfl

theorem confined_queueing {x : StateT CopyQueue (StateM Session) α}
    (h : ∀ (queue : CopyQueue) (s : Session), s.disk.ChangesWithin b (x queue s).2.disk) :
    (queueing x).Confined b := fun _ session => h _ session

end Building

open Building

variable {b : Bounds} {config : Config} {outDir : Path} {inputs : List Path}

theorem confined_readFlat (input : Path) : (readFlat input).Confined b := by
  unfold readFlat
  refine (confined_within fun _ => .of_eq rfl).bind fun code => ?_
  refine (confined_liftM fun _ => .of_eq rfl).bind fun marked => ?_
  refine Confined.bind (fun _ _ => .of_eq rfl) fun session => ?_
  exact confined_within fun _ => .of_eq rfl

/-- A stylesheet is written under the name of its input, and its assets next to each other. -/
theorem confined_buildSheet (h : config.AssetsWithin b) {input : Path}
    (hfile : ∀ (d : Disk) (name : String), input.fileName? = some name →
      b.file (d.placeOf (outDir.join ⟨name⟩))) :
    (buildSheet config outDir input).Confined b := by
  unfold buildSheet
  refine (confined_readFlat input).bind fun flat => ?_
  unfold finishSheet
  refine Confined.bind (confined_queueing (changesWithin_rewriteSheet h _)) fun rewritten => ?_
  obtain ⟨⟨sheet, result⟩, queue⟩ := rewritten
  refine Confined.bind (confined_within fun _ => .of_eq rfl) fun stats => ?_
  refine Confined.bind_of (confined_within fun _ => .of_eq rfl) fun output _ _ _ _ houtput => ?_
  obtain ⟨name, hname, rfl⟩ :=
    outputPath_eq_ok.1 (congrArg Prod.fst (within_eq_ok.1 houtput).1)
  refine Confined.bind (confined_within fun s => ?_) fun _ => ?_
  · exact Disk.changesWithin_writeFile _ (hfile s.disk name hname)
  · refine (confined_liftM fun _ => .of_eq rfl).bind fun _ => ?_
    exact (confined_within fun _ => .of_eq rfl).bind fun _ => confined_pure _

/-- One sheet after the other, failures included. -/
theorem changesWithin_buildEach (h : config.AssetsWithin b)
    (hfile : ∀ input ∈ inputs, ∀ (d : Disk) (name : String), input.fileName? = some name →
      b.file (d.placeOf (outDir.join ⟨name⟩)))
    (registry : CopyRegistry) (session : Session) :
    session.disk.ChangesWithin b (buildEach config outDir inputs registry session).2.disk := by
  induction inputs generalizing registry session with
  | nil => exact .refl b session.disk
  | cons input inputs ih =>
    rw [List.forall_mem_cons] at hfile
    let sheet := buildSheet config outDir input registry session
    have hsheet := confined_buildSheet h hfile.1 registry session
    have hrest := ih hfile.2 sheet.1.2 (Session.record (.progressAdvanced "css") sheet.2).2
    rw [buildEach_cons]
    exact hsheet.trans hrest

/-! ### Whole builds -/

/-- The places in which a build may write files. -/
inductive BuildFile (config : Config) (inputs : List Path) (outDir : Path) (d : Disk) :
    Location → Prop
  /-- In the output directory, under the file name of an input in its normal form. -/
  | sheet {input : Path} {name : String} (mem : input ∈ inputs)
      (named : (input.absolutize config.workDir).fileName? = some name) :
      BuildFile config inputs outDir d (d.placeOf outDir ++ [name])
  /-- Directly in the output directory of a kind of assets. -/
  | asset {category : Category} {dir : Path} {name : String}
      (output : config.outputDir? category = some dir) (named : Path.IsName name) :
      BuildFile config inputs outDir d (d.placeOf dir ++ [name])

/-- The places in which a build may make directories: the output directories, and those above. -/
inductive BuildDirectory (config : Config) (outDir : Path) (d : Disk) : Location → Prop
  | sheet {l : Location} (above : l <+: d.placeOf outDir) : BuildDirectory config outDir d l
  | asset {category : Category} {dir : Path} {l : Location}
      (output : config.outputDir? category = some dir) (above : l <+: d.placeOf dir) :
      BuildDirectory config outDir d l

/-- The bounds of a build on a disk. -/
def buildBounds (config : Config) (inputs : List Path) (outDir : Path) (d : Disk) : Bounds where
  file := BuildFile config inputs outDir d
  directory := BuildDirectory config outDir d

theorem assetsWithin_buildBounds (hconfig : config.Settled) (inputs : List Path) (outDir : Path)
    (d : Disk) :
    config.AssetsWithin (buildBounds config inputs outDir d) := by
  refine ⟨hconfig, ?_, ?_⟩
  · intro category dir name hdir hname
    rw [← (hconfig.isCanonical hdir).placeOf_eq d]
    exact .asset hdir hname
  · intro category dir l hdir hl
    rw [← (hconfig.isCanonical hdir).placeOf_eq d] at hl
    exact .asset hdir hl

/-- Whether a build succeeds or fails at any point, it writes files only under the names of its
inputs in the output directory, and directly in the output directories of the configuration; it
makes no directories but these and those above them; and it removes nothing. -/
theorem changesWithin_buildAll (hconfig : config.Settled) (houtDir : outDir.IsCanonical)
    (inputs : List Path) (session : Session) :
    session.disk.ChangesWithin (buildBounds config inputs outDir session.disk)
      (buildAll config inputs outDir session).2.disk := by
  have hassets := assetsWithin_buildBounds hconfig inputs outDir session.disk
  cases hnames : checkNames [] (inputs.map (·.absolutize config.workDir)) with
  | error e =>
    unfold buildAll
    rw [hnames]
    exact .refl _ session.disk
  | ok =>
    have hdirectory : session.disk.ChangesWithin (buildBounds config inputs outDir session.disk)
        (session.disk.createDirectories outDir).2 :=
      Disk.changesWithin_createDirectories houtDir fun k hk => .sheet hk
    cases hmade : session.disk.createDirectories outDir with
    | mk r d =>
      rw [hmade] at hdirectory
      cases r with
      | error e =>
        unfold buildAll
        rw [hnames]
        dsimp only
        rw [liftM_bind, createDirectories_eq hmade]
        exact hdirectory
      | ok =>
        have hsheets : ∀ input ∈ inputs.map (·.absolutize config.workDir), ∀ (d : Disk)
            (name : String), input.fileName? = some name →
              BuildFile config inputs outDir session.disk (d.placeOf (outDir.join ⟨name⟩)) := by
          intro input hinput d name hname
          obtain ⟨p, hp, rfl⟩ := List.mem_map.1 hinput
          rw [d.placeOf_join outDir (Path.isName_of_fileName? hname), houtDir.placeOf_eq,
            ← houtDir.placeOf_eq session.disk]
          exact .sheet hp hname
        have heach := changesWithin_buildEach hassets hsheets {}
          (begun session outDir d inputs.length)
        rw [buildAll_run hnames hmade]
        exact hdirectory.trans (heach.trans (.of_eq (disk_concluded ..)))

/-- A stylesheet that refers to an image on a winding way, and one that refers to no file. -/
def wandering : Disk where
  entries := [
    (["x"], .directory),
    (["x", "a.css"], .file ".a\x7bb:url(../y/.././y/i.png?v)\x7d".toUTF8),
    (["y"], .directory), (["y", "b.css"], .file ".b\x7bc:url(/../nope.png)\x7d".toUTF8),
    (["y", "i.png"], .file "X".toUTF8)]

/-- A build that fails at the second stylesheet, when the image of the first has been copied. -/
theorem changesWithin_buildAll_wandering :
    let inputs : List Path := [⟨"/x/../x/a.css"⟩, ⟨"/y/b.css"⟩]
    gathering.Settled ∧ Path.IsCanonical ⟨"/out"⟩ ∧
      ∃ s, buildAll gathering inputs ⟨"/out"⟩ ⟨wandering, #[]⟩ =
          (.error (.rewrite ⟨"/y/b.css"⟩ (.asset ⟨"/nope.png"⟩ .notFound)), s) ∧
        s.disk.get? ["out", "img", "i.png"] = some (.file "X".toUTF8) ∧
        wandering.ChangesWithin (buildBounds gathering inputs ⟨"/out"⟩ wandering) s.disk := by
  intro inputs
  have hsettled : gathering.Settled := by
    refine ⟨fun dir hdir => ?_, nofun⟩
    cases hdir
    exact ⟨by decide, by decide⟩
  have houtDir : Path.IsCanonical ⟨"/out"⟩ := ⟨by decide, by decide⟩
  obtain ⟨⟨answer, s⟩, hplain, hanswer, hcopy⟩ :
      ∃ r ∈ plainAll gathering ⟨"/out"⟩ inputs ⟨wandering, #[]⟩,
        r.1 = .error (.rewrite ⟨"/y/b.css"⟩ (.asset ⟨"/nope.png"⟩ .notFound)) ∧
          r.2.disk.get? ["out", "img", "i.png"] = some (.file "X".toUTF8) := by
    decide +kernel
  obtain rfl : answer = _ := hanswer
  have hbuild := buildAll_of_plain hplain
  have hwithin := changesWithin_buildAll hsettled houtDir inputs ⟨wandering, #[]⟩
  rw [hbuild] at hwithin
  exact ⟨hsettled, houtDir, s, hbuild, hcopy, hwithin⟩

end StylesheetAssets
