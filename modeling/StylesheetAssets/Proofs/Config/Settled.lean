import StylesheetAssets.Build.All
import StylesheetAssets.Proofs.Path.Canonical
import StylesheetAssets.Proofs.Rewrite.Running

/-!
Where configurations send assets to: however one is made for an absolute working directory, its
output directories are absolute paths in their normal form.
-/
namespace StylesheetAssets.Config

/-- Assets are copied to absolute paths in their normal form. -/
structure Settled (c : Config) : Prop where
  image : ∀ dir ∈ c.imageOutput, dir.IsCanonical
  font : ∀ dir ∈ c.fontOutput, dir.IsCanonical

variable {c : Config} {workDir dir : Path}

theorem Settled.isCanonical (h : c.Settled) {category : Category}
    (hdir : c.outputDir? category = some dir) : dir.IsCanonical := by
  cases category with
  | image => exact h.image dir hdir
  | font => exact h.font dir hdir
  | unsupported => cases hdir

theorem settled_new (workDir : Path) : (new workDir).Settled := ⟨nofun, nofun⟩

theorem Settled.setOutput? (h : c.Settled) (habs : c.workDir.isAbsolute = true)
    (category : Category) (dir : Option Path) : (c.setOutput? category dir).Settled := by
  cases dir with
  | none => exact h
  | some dir =>
    have hdir := Path.isCanonical_absolutize dir habs
    cases category with
    | image => exact ⟨fun p hp => by cases hp; exact hdir, h.font⟩
    | font => exact ⟨h.image, fun p hp => by cases hp; exact hdir⟩
    | unsupported => exact h

theorem workDir_setOutput? (c : Config) (category : Category) (dir : Option Path) :
    (c.setOutput? category dir).workDir = c.workDir := by
  cases dir with
  | none => rfl
  | some dir => cases category <;> rfl

theorem Settled.setCssOutput? (h : c.Settled) (dir : Option Path) :
    (c.setCssOutput? dir).Settled := by
  cases dir with
  | none => exact h
  | some dir => exact ⟨h.image, h.font⟩

/-- The command line is resolved like the file. -/
theorem Settled.withOverrides (h : c.Settled) (habs : c.workDir.isAbsolute = true)
    (o : Overrides) (outDir : Path) : (c.withOverrides o outDir).Settled := by
  have himage := h.setOutput? habs .image o.imageOutput
  have hfont := himage.setOutput? (by rwa [workDir_setOutput?]) .font o.fontOutput
  have hcss := hfont.setCssOutput? o.cssOutput
  unfold Config.withOverrides
  dsimp only
  split_ifs
  · exact ⟨hcss.image, hcss.font⟩
  · exact ⟨hcss.image, hcss.font⟩

theorem settled_ofSettings {s : Settings} (habs : workDir.isAbsolute = true)
    (h : ofSettings s workDir = .ok c) : c.Settled ∧ c.workDir = workDir := by
  have hresolve {p : Option Path} {dir : Path} (hdir : dir ∈ p.map (·.absolutize workDir)) :
      dir.IsCanonical := by
    obtain ⟨q, -, rfl⟩ := Option.map_eq_some_iff.1 hdir
    exact Path.isCanonical_absolutize q habs
  unfold ofSettings at h
  split at h
  · cases h
    exact ⟨⟨fun _ => hresolve, fun _ => hresolve⟩, rfl⟩
  · cases h
  · cases h
  · cases h

theorem settled_load {file : Path} {session : Session} {found : Bool}
    (habs : workDir.isAbsolute = true)
    (h : (Config.load file workDir session).1 = .ok (c, found)) :
    c.Settled ∧ c.workDir = workDir := by
  unfold Config.load at h
  rw [liftM_bind] at h
  generalize Session.readText file session = r at h
  obtain ⟨answer, s⟩ := r
  cases answer with
  | error cause =>
    cases cause <;> cases h
    exact ⟨settled_new workDir, rfl⟩
  | ok text =>
    dsimp only at h
    cases hparse : Settings.parse text with
    | error e =>
      rw [hparse] at h
      cases h
    | ok parsed =>
      rw [hparse] at h
      dsimp only at h
      rw [liftM_bind] at h
      cases hconfig : ofSettings parsed.1 workDir with
      | error e =>
        rw [hconfig] at h
        cases h
      | ok config =>
        rw [hconfig] at h
        cases h
        exact settled_ofSettings habs hconfig

/-- The configuration that the program builds with is settled, whatever the file and the command
line say. -/
theorem settled_loadConfig {file outDir : Path} {overrides : Overrides} {session : Session}
    (habs : workDir.isAbsolute = true)
    (h : (loadConfig file workDir outDir overrides session).1 = .ok c) : c.Settled := by
  unfold loadConfig at h
  rw [liftM_bind] at h
  cases hload : Config.load (file.absolutize workDir) workDir session with
  | mk answer s =>
    have hanswer : ((Config.load (file.absolutize workDir) workDir).run session) = (answer, s) :=
      hload
    rw [hanswer] at h
    cases answer with
    | error cause => cases h
    | ok loaded =>
      obtain ⟨config, found⟩ := loaded
      obtain ⟨hsettled, hworkDir⟩ := settled_load habs (congrArg Prod.fst hload)
      have hc : (.ok (config.withOverrides overrides outDir) : Except BuildError Config) =
          .ok c := by
        cases found with
        | false => exact h
        | true => exact h
      rw [← Except.ok.inj hc]
      rw [← hworkDir] at habs
      exact hsettled.withOverrides habs overrides outDir

end StylesheetAssets.Config
