import StylesheetAssets.Proofs.Build.Running

/-!
Builds of stylesheets without imports. Nothing has to be flattened for them, so that they can be
computed.
-/
namespace StylesheetAssets

section Plain

variable (config : Config) (outDir : Path)

/-- The build of a stylesheet that can be read and has no imports. -/
def plainSheet (input : Path) (registry : CopyRegistry) (session : Session) :
    Option ((Except BuildError BuildSummary × CopyRegistry) × Session) :=
  match session.disk.readText input with
  | .error _ => none
  | .ok text =>
    let (imports, flat) := Import.cutLive (Import.mark text.toList)
    let journal := (Import.markFile text.toList input (session.journal.push (.read input))).2
    if imports.isEmpty then
      some (finishSheet config outDir input flat registry ⟨session.disk, journal⟩)
    else none

/-- The builds of several of them. -/
def plainEach (registry : CopyRegistry) (session : Session) :
    List Path → Option ((List (Except BuildError BuildSummary) × CopyRegistry) × Session)
  | [] => some (([], registry), session)
  | input :: inputs => do
    let ((result, registry), session) ← plainSheet config outDir input registry session
    let ((results, registry), session) ←
      plainEach registry (Session.record (.progressAdvanced "css") session).2 inputs
    return ((result :: results, registry), session)

/-- The build of all of them, if their names and the directory are in order. -/
def plainAll (inputs : List Path) (session : Session) :
    Option (Except BuildError BuildSummary × Session) :=
  let all := inputs.map (·.absolutize config.workDir)
  match checkNames [] all, session.disk.createDirectories outDir with
  | .ok (), (.ok (), d) =>
    (plainEach config outDir {} (begun session outDir d inputs.length) all).map
      (concluded inputs.length outDir)
  | _, _ => none

end Plain

variable {config : Config} {outDir input : Path} {registry : CopyRegistry} {session : Session}

theorem buildSheet_of_plain {r : (Except BuildError BuildSummary × CopyRegistry) × Session}
    (h : plainSheet config outDir input registry session = some r) :
    buildSheet config outDir input registry session = r := by
  unfold plainSheet at h
  cases htext : session.disk.readText input with
  | error e =>
    rw [htext] at h
    cases h
  | ok text =>
    rw [htext] at h
    dsimp only at h
    split_ifs at h with hplain
    obtain ⟨bytes, hbytes, hdecode⟩ := Disk.readText_eq_ok.1 htext
    have hnone := List.isEmpty_iff.1 hplain
    have hflat : (Import.flatten session.disk (Import.mark text.toList) input).run
        (Import.markFile text.toList input (session.journal.push (.read input))).2 =
          (.ok (Import.cutLive (Import.mark text.toList)).2,
            (Import.markFile text.toList input (session.journal.push (.read input))).2) := by
      unfold Import.flatten
      rw [hnone, Import.flattenStatements]
      rfl
    have hread : readFlat input registry session = ((.ok _, registry), _) :=
      readFlat_eq_ok.2 ⟨bytes, text, _, hbytes, hdecode, hflat, rfl, rfl⟩
    rw [buildSheet, Building.bind_of_ok hread]
    exact Option.some.inj h

theorem buildEach_of_plain {inputs : List Path}
    {r : (List (Except BuildError BuildSummary) × CopyRegistry) × Session}
    (h : plainEach config outDir registry session inputs = some r) :
    buildEach config outDir inputs registry session = r := by
  induction inputs generalizing registry session r with
  | nil => exact Option.some.inj h
  | cons input inputs ih =>
    rw [plainEach, Option.bind_eq_bind, Option.bind_eq_some_iff] at h
    obtain ⟨first, hfirst, h⟩ := h
    rw [Option.bind_eq_bind, Option.bind_eq_some_iff] at h
    obtain ⟨rest, hrest, h⟩ := h
    rw [buildEach_cons, buildSheet_of_plain hfirst]
    dsimp only
    rw [ih hrest]
    exact Option.some.inj h

/-- What is computed is what is built. -/
theorem buildAll_of_plain {inputs : List Path} {r : Except BuildError BuildSummary × Session}
    (h : plainAll config outDir inputs session = some r) :
    buildAll config inputs outDir session = r := by
  unfold plainAll at h
  dsimp only at h
  split at h
  · next d hnames hmade =>
    obtain ⟨each, heach, rfl⟩ := Option.map_eq_some_iff.1 h
    rw [buildAll_run hnames hmade, buildEach_of_plain heach]
  · cases h

/-! ### Two stylesheets with an image each -/

/-- A disk with a stylesheet and an image in either of two directories. -/
def pictures (first second : String) : Disk where
  entries := [
    (["x"], .directory), (["x", "a.css"], .file (".a\x7bb:url(" ++ first ++ ")\x7d").toUTF8),
    (["x", first], .file "X".toUTF8),
    (["y"], .directory), (["y", "b.css"], .file (".b\x7bc:url(" ++ second ++ ")\x7d").toUTF8),
    (["y", second], .file "YY".toUTF8)]

/-- A configuration that takes every asset for an image, and copies it to one directory. -/
def gathering : Config where
  imageOutput := some ⟨"/out/img"⟩
  cssOutput := some ⟨"/out"⟩
  imagePattern := ⟨"", .empty⟩
  fontPattern := ⟨"", .empty⟩
  limit := 0
  workDir := ⟨"/"⟩

end StylesheetAssets
