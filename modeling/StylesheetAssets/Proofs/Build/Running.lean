import StylesheetAssets.Proofs.Build.Inputs
import StylesheetAssets.Proofs.Import.Flattening
import StylesheetAssets.Proofs.Rewrite.Running

/-!
Builds step by step: what it takes for a step to come to an answer, and what comes behind it.
-/
namespace StylesheetAssets

theorem mapError_eq_ok {α ε ε' : Type} {r : Except ε α} {f : ε → ε'} {a : α} :
    r.mapError f = .ok a ↔ r = .ok a := by
  cases r <;> simp [Except.mapError]

namespace Building

variable {α β ε : Type} {registry registry' : CopyRegistry} {session session' : Session}

theorem run_bind (x : Building α) (f : α → Building β) (registry : CopyRegistry)
    (session : Session) : (x >>= f) registry session =
      (ExceptT.bindCont f (x registry session).1.1) (x registry session).1.2
        (x registry session).2 := rfl

theorem bind_of_ok {x : Building α} {f : α → Building β} {a : α}
    (h : x registry session = ((.ok a, registry'), session')) :
    (x >>= f) registry session = f a registry' session' := by
  rw [run_bind, h]
  rfl

theorem bind_eq_ok {x : Building α} {f : α → Building β} {b : β} :
    (x >>= f) registry session = ((.ok b, registry'), session') ↔
      ∃ a registry₁ session₁, x registry session = ((.ok a, registry₁), session₁) ∧
        f a registry₁ session₁ = ((.ok b, registry'), session') := by
  rw [run_bind]
  cases hx : x registry session with
  | mk r session₁ =>
    obtain ⟨answer, registry₁⟩ := r
    constructor
    · intro h
      cases answer with
      | ok a => exact ⟨a, registry₁, session₁, rfl, h⟩
      | error e => cases h
    · rintro ⟨a, _, _, hax, h⟩
      cases hax
      exact h

theorem liftM_run (x : StateM Session α) (registry : CopyRegistry) (session : Session) :
    (liftM x : Building α) registry session = ((.ok (x session).1, registry), (x session).2) := rfl

theorem liftM_eq_ok {x : StateM Session α} {a : α} :
    (liftM x : Building α) registry session = ((.ok a, registry'), session') ↔
      x session = (a, session') ∧ registry' = registry := by
  rw [liftM_run]
  constructor
  · intro h
    cases h
    exact ⟨rfl, rfl⟩
  · rintro ⟨hx, rfl⟩
    rw [hx]

theorem noting_run (x : StateM Journal α) (session : Session) :
    Session.noting x session =
      ((x session.journal).1, ⟨session.disk, (x session.journal).2⟩) := rfl

theorem within_run (place : ε → BuildError) (x : StateM Session (Except ε α))
    (registry : CopyRegistry) (session : Session) : within place x registry session =
      (((x session).1.mapError place, registry), (x session).2) := by
  unfold within
  rw [run_bind, liftM_run]
  dsimp only [ExceptT.bindCont]
  cases (x session).1 <;> rfl

theorem within_eq_ok {place : ε → BuildError} {x : StateM Session (Except ε α)} {a : α} :
    within place x registry session = ((.ok a, registry'), session') ↔
      x session = (.ok a, session') ∧ registry' = registry := by
  rw [within_run]
  constructor
  · intro h
    obtain ⟨hanswer, rfl⟩ := Prod.mk.inj h
    obtain ⟨hok, rfl⟩ := Prod.mk.inj hanswer
    exact ⟨Prod.ext (mapError_eq_ok.1 hok) rfl, rfl⟩
  · rintro ⟨hx, rfl⟩
    rw [hx]
    rfl

theorem queueing_run (x : StateT CopyQueue (StateM Session) α) (registry : CopyRegistry)
    (session : Session) : queueing x registry session =
      ((.ok ((x ⟨registry, []⟩ session).1.1, (x ⟨registry, []⟩ session).1.2),
        (x ⟨registry, []⟩ session).1.2.registry), (x ⟨registry, []⟩ session).2) := rfl

theorem queueing_eq_ok {x : StateT CopyQueue (StateM Session) α} {a : α} {queue : CopyQueue} :
    queueing x registry session = ((.ok (a, queue), registry'), session') ↔
      x ⟨registry, []⟩ session = ((a, queue), session') ∧ registry' = queue.registry := by
  rw [queueing_run]
  cases x ⟨registry, []⟩ session with
  | mk r session₁ =>
    obtain ⟨answer, queue'⟩ := r
    constructor
    · rintro ⟨⟩
      exact ⟨rfl, rfl⟩
    · rintro ⟨⟨⟩, rfl⟩
      rfl

end Building

open Building

variable {config : Config} {outDir input : Path} {registry registry' : CopyRegistry}
  {session session' : Session}

/-! ### One stylesheet -/

/-- How a stylesheet is read with its imports. -/
theorem readFlat_run (input : Path) (registry : CopyRegistry) (session : Session) :
    readFlat input registry session =
      match session.disk.readText input with
      | .error cause => ((.error (.unreadable input cause), registry),
          ⟨session.disk, session.journal.push (.read input)⟩)
      | .ok text =>
        let flat := (Import.flatten session.disk (Import.mark text.toList) input).run
          (Import.markFile text.toList input (session.journal.push (.read input))).2
        ((flat.1.mapError (.flatten input), registry), ⟨session.disk, flat.2⟩) := by
  have hread : Session.readText input session = (session.disk.readText input,
      ⟨session.disk, session.journal.push (.read input)⟩) := rfl
  unfold readFlat
  rw [run_bind, within_run, hread]
  cases session.disk.readText input with
  | error cause => rfl
  | ok text =>
    have hget (s : Session) : (getThe Session : Building Session) registry s =
        ((.ok s, registry), s) := rfl
    dsimp only [Except.mapError, ExceptT.bindCont]
    rw [run_bind, liftM_run]
    dsimp only [ExceptT.bindCont]
    rw [run_bind, hget]
    dsimp only [ExceptT.bindCont]
    rw [within_run, noting_run, noting_run, Import.markFile_fst]
    rfl

/-- What it takes to read a stylesheet with its imports. -/
theorem readFlat_eq_ok {flat : List Char} :
    readFlat input registry session = ((.ok flat, registry'), session') ↔
      ∃ bytes text later, session.disk.readFile input = .ok bytes ∧
        Disk.decode bytes = .ok text ∧
        (Import.flatten session.disk (Import.mark text.toList) input).run
            (Import.markFile text.toList input (session.journal.push (.read input))).2 =
          (.ok flat, later) ∧
        session' = ⟨session.disk, later⟩ ∧ registry' = registry := by
  rw [readFlat_run]
  constructor
  · intro h
    cases htext : session.disk.readText input with
    | error cause =>
      rw [htext] at h
      cases h
    | ok text =>
      obtain ⟨bytes, hbytes, hdecode⟩ := Disk.readText_eq_ok.1 htext
      rw [htext] at h
      obtain ⟨hflat, rfl⟩ := Prod.mk.inj h
      obtain ⟨hok, rfl⟩ := Prod.mk.inj hflat
      exact ⟨bytes, text, _, hbytes, hdecode, Prod.ext (mapError_eq_ok.1 hok) rfl, rfl, rfl⟩
  · rintro ⟨bytes, text, later, hbytes, hdecode, hflat, rfl, rfl⟩
    rw [Disk.readText_eq_ok.2 ⟨bytes, hbytes, hdecode⟩]
    dsimp only
    rw [hflat]
    rfl

open Stylesheet (Sheet) in
/-- What it takes to build a stylesheet. -/
theorem buildSheet_eq_ok {summary : BuildSummary} :
    buildSheet config outDir input registry session = ((.ok summary, registry'), session') ↔
      ∃ (flat : List Char) (flattened rewritten written : Session) (sheet : Sheet)
        (stats : RewriteStats) (queue : CopyQueue) (name : String) (copies : Nat),
        readFlat input registry session = ((.ok flat, registry), flattened) ∧
        rewriteSheet config (Stylesheet.parse (String.ofList flat) (some input))
            ⟨registry, []⟩ flattened = (((sheet, .ok stats), queue), rewritten) ∧
        input.fileName? = some name ∧
        Session.writeFile (outDir.join ⟨name⟩) (Stylesheet.print sheet.nodes).toUTF8 rewritten =
          (.ok (), written) ∧
        queue.finish = .ok copies ∧ summary = { stats, copies } ∧ registry' = queue.registry ∧
        session' = (Session.detail "build"
          s!"{input.text} -> {(outDir.join ⟨name⟩).text}" written).2 := by
  unfold buildSheet finishSheet
  constructor
  · intro h
    obtain ⟨flat, r₁, s₁, hflat, h⟩ := bind_eq_ok.1 h
    obtain ⟨⟨⟨sheet, result⟩, queue⟩, r₂, s₂, hqueue, h⟩ := bind_eq_ok.1 h
    obtain ⟨stats, r₃, s₃, hresult, h⟩ := bind_eq_ok.1 h
    obtain ⟨output, r₄, s₄, houtput, h⟩ := bind_eq_ok.1 h
    obtain ⟨_, r₅, s₅, hwrite, h⟩ := bind_eq_ok.1 h
    obtain ⟨_, r₆, s₆, hdetail, h⟩ := bind_eq_ok.1 h
    obtain ⟨copies, r₇, s₇, hfinish, h⟩ := bind_eq_ok.1 h
    cases h
    obtain ⟨-, -, -, -, -, -, -, hregistry⟩ := readFlat_eq_ok.1 hflat
    obtain ⟨hpass, hr₂⟩ := queueing_eq_ok.1 hqueue
    obtain ⟨hstats, rfl⟩ := within_eq_ok.1 hresult
    obtain ⟨hplace, rfl⟩ := within_eq_ok.1 houtput
    obtain ⟨hwritten, rfl⟩ := within_eq_ok.1 hwrite
    obtain ⟨hnoted, rfl⟩ := liftM_eq_ok.1 hdetail
    obtain ⟨hfinished, hr₇⟩ := within_eq_ok.1 hfinish
    obtain ⟨rfl, rfl⟩ := Prod.mk.inj hstats
    obtain ⟨hpath, rfl⟩ := Prod.mk.inj hplace
    obtain ⟨hcopies, rfl⟩ := Prod.mk.inj hfinished
    obtain ⟨name, hname, rfl⟩ := outputPath_eq_ok.1 hpath
    subst hregistry
    exact ⟨flat, s₁, _, s₅, sheet, stats, queue, name, copies, hflat, hpass, hname, hwritten,
      hcopies, rfl, hr₇.trans hr₂, (congrArg Prod.snd hnoted).symm⟩
  · rintro ⟨flat, s₁, s₂, s₃, sheet, stats, queue, name, copies, hflat, hpass, hname, hwritten,
      hcopies, rfl, rfl, rfl⟩
    have houtput : outputPath outDir input = .ok (outDir.join ⟨name⟩) :=
      outputPath_eq_ok.2 ⟨name, hname, rfl⟩
    refine bind_eq_ok.2 ⟨flat, registry, s₁, hflat, ?_⟩
    refine bind_eq_ok.2 ⟨_, queue.registry, s₂, queueing_eq_ok.2 ⟨hpass, rfl⟩, ?_⟩
    refine bind_eq_ok.2 ⟨stats, _, s₂, within_eq_ok.2 ⟨rfl, rfl⟩, ?_⟩
    refine bind_eq_ok.2 ⟨_, _, s₂, within_eq_ok.2 ⟨congrArg (·, s₂) houtput, rfl⟩, ?_⟩
    refine bind_eq_ok.2 ⟨(), _, s₃, within_eq_ok.2 ⟨hwritten, rfl⟩, ?_⟩
    refine bind_eq_ok.2 ⟨(), _, _, liftM_eq_ok.2 ⟨rfl, rfl⟩, ?_⟩
    exact bind_eq_ok.2 ⟨copies, _, _, within_eq_ok.2 ⟨congrArg (·, _) hcopies, rfl⟩, rfl⟩

theorem writeFile_run (p : Path) (bytes : ByteArray) (s : Session) :
    Session.writeFile p bytes s = ((s.disk.writeFile p bytes).1,
      ⟨(s.disk.writeFile p bytes).2, s.journal.push (.wrote p)⟩) := rfl

/-! ### All stylesheets -/

theorem buildEach_cons (config : Config) (outDir input : Path) (inputs : List Path)
    (registry : CopyRegistry) (session : Session) :
    buildEach config outDir (input :: inputs) registry session =
      let sheet := buildSheet config outDir input registry session
      let rest := buildEach config outDir inputs sheet.1.2
        (Session.record (.progressAdvanced "css") sheet.2).2
      ((sheet.1.1 :: rest.1.1, rest.1.2), rest.2) := by
  unfold buildEach
  rw [List.mapM_cons]
  rfl

theorem disk_announce (sheets : Nat) (outDir : Path) (total : BuildSummary) (session : Session) :
    (announce sheets outDir total session).2.disk = session.disk := by
  have hcounted (topic : String) (n : Nat) (noun after : String) (session : Session) :
      (sayCounted topic n noun after session).2.disk = session.disk := by
    unfold sayCounted
    split_ifs <;> rfl
  exact ((hcounted ..).trans (hcounted ..)).trans (hcounted ..)

/-- A build that has come as far as its sheets. -/
def begun (session : Session) (outDir : Path) (d : Disk) (n : Nat) : Session :=
  (Session.record (.progressBegan [("css", n)])
    ⟨d, session.journal.push (.createdDirectories outDir)⟩).2

theorem createDirectories_eq {d : Disk} {r : Except DiskError Unit}
    (h : session.disk.createDirectories outDir = (r, d)) :
    Session.createDirectories outDir session =
      (r, ⟨d, session.journal.push (.createdDirectories outDir)⟩) := by
  have hrun : Session.createDirectories outDir session =
      ((session.disk.createDirectories outDir).1, ⟨(session.disk.createDirectories outDir).2,
        session.journal.push (.createdDirectories outDir)⟩) := rfl
  rw [hrun, h]

/-- What a build makes of the results for its sheets. -/
def concluded (sheets : Nat) (outDir : Path)
    (r : (List (Except BuildError BuildSummary) × CopyRegistry) × Session) :
    Except BuildError BuildSummary × Session :=
  match r.1.1.mapM id with
  | .error e => (.error e, (Session.record .progressDropped r.2).2)
  | .ok summaries =>
    let total := totalOf summaries r.1.2.conflicts
    (.ok total, (announce sheets outDir total (Session.record .progressFinished r.2).2).2)

theorem fst_concluded (n : Nat) (outDir : Path)
    (r : (List (Except BuildError BuildSummary) × CopyRegistry) × Session) :
    (concluded n outDir r).1 =
      (r.1.1.mapM id).map fun summaries => totalOf summaries r.1.2.conflicts := by
  unfold concluded
  cases r.1.1.mapM id <;> rfl

theorem disk_concluded (n : Nat) (outDir : Path)
    (r : (List (Except BuildError BuildSummary) × CopyRegistry) × Session) :
    (concluded n outDir r).2.disk = r.2.disk := by
  unfold concluded
  cases r.1.1.mapM id with
  | error e => rfl
  | ok summaries => exact disk_announce ..

/-- A build whose names are refused does nothing. -/
theorem buildAll_of_names {inputs : List Path} {e : BuildError}
    (h : checkNames [] (inputs.map (·.absolutize config.workDir)) = .error e) :
    buildAll config inputs outDir session = (.error e, session) := by
  unfold buildAll
  rw [h]
  rfl

/-- A build without its directory comes to no input. -/
theorem buildAll_of_unmade {inputs : List Path} {cause : DiskError} {d : Disk}
    (hnames : checkNames [] (inputs.map (·.absolutize config.workDir)) = .ok ())
    (hmade : session.disk.createDirectories outDir = (.error cause, d)) :
    buildAll config inputs outDir session = (.error (.outputDirectory outDir cause),
      (Session.createDirectories outDir session).2) := by
  unfold buildAll
  rw [hnames]
  dsimp only
  rw [liftM_bind, createDirectories_eq hmade]
  rfl

/-- A build with its names in order and its directory made. -/
theorem buildAll_run {inputs : List Path} {d : Disk}
    (hnames : checkNames [] (inputs.map (·.absolutize config.workDir)) = .ok ())
    (hmade : session.disk.createDirectories outDir = (.ok (), d)) :
    buildAll config inputs outDir session =
      concluded inputs.length outDir (buildEach config outDir
        (inputs.map (·.absolutize config.workDir)) {} (begun session outDir d inputs.length)) := by
  unfold buildAll
  rw [hnames]
  dsimp only
  rw [liftM_bind, createDirectories_eq hmade]
  dsimp only
  rw [liftM_bind, liftM_bind, List.length_map]
  have hbegun (all : List Path) : (buildEach config outDir all).run {}
      (Session.record (.progressBegan [("css", inputs.length)])
        ⟨d, session.journal.push (.createdDirectories outDir)⟩).2 =
        buildEach config outDir all {} (begun session outDir d inputs.length) := rfl
  rw [hbegun]
  unfold concluded
  generalize buildEach config outDir _ {} _ = r
  cases r.1.1.mapM id <;> rfl

end StylesheetAssets
