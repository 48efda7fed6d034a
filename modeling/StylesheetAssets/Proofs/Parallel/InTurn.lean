import StylesheetAssets.Proofs.Build.Running
import StylesheetAssets.Proofs.Import.Chains
import StylesheetAssets.Proofs.Parallel.Beside
import StylesheetAssets.Proofs.Parallel.Builders

/-!
A build whose sheets come one after the other, as one that runs under a schedule.

The schedule gives each worker all of its turns before the next one has any, and has every copy made
as soon as it is handed out.
-/
namespace StylesheetAssets.Parallel

open Program
open Import (FlattenError Statement staysInPlace targetOf cutLive mark Answers)

variable {α β ε : Type}

/-! ### Programs that may fail -/

section Failing

variable {x : ExceptT ε Program α} {f : α → ExceptT ε Program β}
  {transfers transfers' : List Transfer} {shared shared' : Shared}

theorem Worker.Gets.bind_run_ok {a : α} (h : Gets ⟨x.run, transfers⟩ shared
      ⟨done (.ok a), transfers'⟩ shared') :
    Gets ⟨(x >>= f).run, transfers⟩ shared ⟨(f a).run, transfers'⟩ shared' :=
  h.bind fun r => ExceptT.bindCont f r

theorem Worker.Gets.bind_run_error {e : ε} (h : Gets ⟨x.run, transfers⟩ shared
      ⟨done (.error e), transfers'⟩ shared') :
    Gets ⟨(x >>= f).run, transfers⟩ shared ⟨done (.error e), transfers'⟩ shared' :=
  h.bind fun r => ExceptT.bindCont f r

theorem Worker.Gets.bind_lift {x : Program α} {a : α} (h : Gets ⟨x, transfers⟩ shared
      ⟨done a, transfers'⟩ shared') :
    Gets ⟨((liftM x : ExceptT ε Program α) >>= f).run, transfers⟩ shared
      ⟨(f a).run, transfers'⟩ shared' := by
  have hlift : Gets ⟨(liftM x : ExceptT ε Program α).run, transfers⟩ shared
      ⟨done (.ok a), transfers'⟩ shared' := h.bind fun a => (pure (.ok a) : Program (Except ε α))
  exact hlift.bind_run_ok

end Failing

/-! ### Reading -/

/-- On this disk the program comes to the answer, and nothing else happens. -/
def Reads (d : Disk) (x : Program α) (a : α) : Prop :=
  ∀ (transfers : List Transfer) (shared : Shared), shared.session.disk = d → ∃ session',
    Worker.Gets ⟨x, transfers⟩ shared ⟨done a, transfers⟩ { shared with session := session' } ∧
      session'.disk = d

namespace Reads

variable {d : Disk}

protected theorem pure (a : α) : Reads d (pure a) a :=
  fun _ shared hdisk => ⟨shared.session, .refl _ _, hdisk⟩

theorem bind {x : Program α} {f : α → Program β} {a : α} {b : β} (h : Reads d x a)
    (hf : Reads d (f a) b) : Reads d (x >>= f) b := by
  intro transfers shared hdisk
  obtain ⟨session₁, hgets, hdisk₁⟩ := h transfers shared hdisk
  obtain ⟨session₂, hgets', hdisk₂⟩ := hf transfers { shared with session := session₁ } hdisk₁
  exact ⟨session₂, (hgets.bind f).trans hgets', hdisk₂⟩

theorem read (p : Path) : Reads d (Program.request (.read p)) (readContent d p) := by
  rintro transfers shared rfl
  exact ⟨(Session.readFile p shared.session).2, .ask rfl, rfl⟩

section Failing

variable {x : ExceptT ε Program α} {f : α → ExceptT ε Program β}

theorem bind_ok {a : α} {r : Except ε β} (h : Reads d x.run (.ok a)) (hf : Reads d (f a).run r) :
    Reads d (x >>= f).run r :=
  bind (f := fun r => ExceptT.bindCont f r) h hf

theorem bind_error {e : ε} (h : Reads d x.run (.error e)) : Reads d (x >>= f).run (.error e) :=
  bind (f := fun r => ExceptT.bindCont f r) h (.pure _)

theorem lift {x : Program α} {a : α} (h : Reads d x a) :
    Reads d (liftM x : ExceptT ε Program α).run (.ok a) :=
  bind (f := fun a => (pure (.ok a) : Program (Except ε α))) h (.pure _)

/-- Something is made of the answer. -/
theorem map {r : Except ε α} (h : Reads d x.run r) (g : α → β) :
    Reads d (x >>= fun a => pure (g a)).run (r.map g) := by
  cases r with
  | ok a => exact bind_ok h (.pure _)
  | error e => exact bind_error h

end Failing

theorem within {place : ε → BuildError} {x : Program (Except ε α)} {r : Except ε α}
    (h : Reads d x r) : Reads d (Building.within place x).run (r.mapError place) := by
  refine bind_ok (lift h) ?_
  cases r <;> exact .pure _

/-! ### Imports -/

theorem readText_eq (d : Disk) (p : Path) :
    d.readText p = readContent d p >>= fun content => Disk.decode content.1 := by
  rw [Disk.readText, ← Alike.map_readContent]
  cases readContent d p <;> rfl

theorem readImport_ok {target importer : Path} {text : String}
    (h : d.readText target = .ok text) : ∃ short,
      Reads d (readImport target importer).run (.ok ⟨text, short⟩) := by
  rw [readText_eq] at h
  cases hcontent : readContent d target with
  | error cause =>
    rw [hcontent] at h
    cases h
  | ok content =>
    rw [hcontent] at h
    have hdecode : Disk.decode content.1 = .ok text := h
    refine ⟨content.2, bind_ok (lift (hcontent ▸ read target)) ?_⟩
    dsimp only
    rw [hdecode]
    exact .pure _

theorem readImport_error {target importer : Path} {cause : DiskError}
    (h : d.readText target = .error cause) :
    Reads d (readImport target importer).run (.error (.unreadable target importer cause)) := by
  rw [readText_eq] at h
  refine bind_ok (lift (read target)) ?_
  cases hcontent : readContent d target with
  | error e =>
    rw [hcontent] at h
    obtain rfl : e = cause := Except.error.inj h
    exact .pure _
  | ok content =>
    rw [hcontent] at h
    have hdecode : Disk.decode content.1 = .error cause := h
    dsimp only
    rw [hdecode]
    exact .pure _

/-- By induction on what is answered. -/
theorem flattenStatements {chain : List Path} {file : Path}
    {statements : List (List Char × Statement)} {r : Except FlattenError (List Char)}
    (h : Answers d chain file statements r) :
    Reads d (Parallel.flattenStatements (inlinedText chain file) file statements).run r := by
  induction h with
  | done chain file => exact .pure _
  | stays hstays _ ih =>
    rw [Parallel.flattenStatements, if_pos hstays]
    exact ih.map _
  | cycle hstays hcycle =>
    rw [Parallel.flattenStatements, if_neg (by simp [hstays])]
    refine bind_error ?_
    rw [inlinedText, dif_pos hcycle]
    exact .pure _
  | unreadable hstays hnew hread =>
    rw [Parallel.flattenStatements, if_neg (by simp [hstays])]
    refine bind_error ?_
    rw [inlinedText, dif_neg (by simp [hnew])]
    exact bind_error (readImport_error hread)
  | failed hstays hnew hread _ ih =>
    rw [Parallel.flattenStatements, if_neg (by simp [hstays])]
    refine bind_error ?_
    rw [inlinedText, dif_neg (by simp [hnew])]
    obtain ⟨short, htext⟩ := readImport_ok hread
    exact bind_ok htext (bind_error ih)
  | @inlined chain file before inlined i rest text r hstays hnew hread _ _ ihfile ihrest =>
    rw [Parallel.flattenStatements, if_neg (by simp [hstays])]
    obtain ⟨short, htext⟩ := readImport_ok hread
    have hinlined : Reads d (inlinedText chain file (targetOf file i.path)).run
        (.ok (inlined ++ (cutLive (mark text.toList)).2)) := by
      rw [inlinedText, dif_neg (by simp [hnew])]
      exact bind_ok htext (bind_ok ihfile (.pure _))
    simp only [List.append_assoc before inlined]
    exact bind_ok hinlined (ihrest.map _)

theorem flatten (code : List Char) (file : Path) (journal : Journal) :
    Reads d (Parallel.flatten code file).run ((Import.flatten d code file).run journal).1 := by
  obtain ⟨r, hanswers, hr⟩ := Import.exists_answers d code file journal
  rw [hr]
  exact (flattenStatements hanswers).map _

theorem readFlat (input : Path) (registry : CopyRegistry) (session : Session) :
    Reads session.disk (Parallel.readFlat input).run
      (StylesheetAssets.readFlat input registry session).1.1 := by
  rw [readFlat_run, readText_eq]
  cases hcontent : readContent session.disk input with
  | error cause => exact bind_error (within (hcontent ▸ read input))
  | ok content =>
    refine bind_ok (within (hcontent ▸ read input)) ?_
    have hdecoded : (Except.ok content >>= fun content => Disk.decode content.1 :
        Except DiskError String) = Disk.decode content.1 := rfl
    rw [hdecoded]
    cases Disk.decode content.1 with
    | error cause => exact bind_error (within (.pure _))
    | ok text => exact bind_ok (within (.pure _)) (within (flatten _ _ _))

end Reads

/-! ### Stylesheets -/

/-- From where they are, the worker of a build comes to the answer of the session. -/
def Comes (x : StylesheetAssets.Building α) (y : Building α) (registry : CopyRegistry)
    (session : Session) (transfers : List Transfer) (shared : Shared) : Prop :=
  ∃ transfers' shared',
    Worker.Gets ⟨y.run, transfers⟩ shared ⟨done (x registry session).1.1, transfers'⟩ shared' ∧
    (x registry session).2.disk = shared'.session.disk ∧
    (x registry session).1.2 = shared'.registry

section Comes

variable {registry : CopyRegistry} {session : Session} {transfers : List Transfer} {shared : Shared}
  {f : α → StylesheetAssets.Building β} {g : α → Building β}

theorem Comes.pure (a : α) (hdisk : session.disk = shared.session.disk)
    (hregistry : registry = shared.registry) :
    Comes (pure a) (pure a) registry session transfers shared :=
  ⟨transfers, shared, .refl _ _, hdisk, hregistry⟩

/-- What comes next goes on from where the first step has led both. -/
theorem Comes.bind_of_gets {x : StylesheetAssets.Building α} {y : Building α}
    {transfers₁ : List Transfer} {shared₁ : Shared}
    (hgets : Worker.Gets ⟨y.run, transfers⟩ shared
      ⟨done (x registry session).1.1, transfers₁⟩ shared₁)
    (hdisk : (x registry session).2.disk = shared₁.session.disk)
    (hregistry : (x registry session).1.2 = shared₁.registry)
    (hrest : ∀ a, Comes (f a) (g a) (x registry session).1.2 (x registry session).2 transfers₁
      shared₁) :
    Comes (x >>= f) (y >>= g) registry session transfers shared := by
  unfold Comes
  rw [Building.run_bind]
  cases hx : (x registry session).1.1 with
  | ok a =>
    rw [hx] at hgets
    obtain ⟨transfers', shared', hrest, hend⟩ := hrest a
    exact ⟨transfers', shared', hgets.bind_run_ok.trans hrest, hend⟩
  | error e =>
    rw [hx] at hgets
    exact ⟨transfers₁, shared₁, hgets.bind_run_error, hdisk, hregistry⟩

theorem Comes.bind {x : StylesheetAssets.Building α} {y : Building α}
    (h : Comes x y registry session transfers shared)
    (hrest : ∀ a registry' session' transfers' shared', session'.disk = shared'.session.disk →
      registry' = shared'.registry → Comes (f a) (g a) registry' session' transfers' shared') :
    Comes (x >>= f) (y >>= g) registry session transfers shared := by
  obtain ⟨transfers₁, shared₁, hgets, hdisk, hregistry⟩ := h
  exact bind_of_gets hgets hdisk hregistry fun a => hrest a _ _ transfers₁ shared₁ hdisk hregistry

theorem Comes.within {x : StateM Session (Except ε α)} {y : Program (Except ε α)}
    {shared₁ : Shared}
    (hgets : Worker.Gets ⟨y, transfers⟩ shared ⟨done (x session).1, transfers⟩ shared₁)
    (place : ε → BuildError) (hdisk : (x session).2.disk = shared₁.session.disk)
    (hregistry : registry = shared₁.registry)
    (hrest : ∀ a, Comes (f a) (g a) registry (x session).2 transfers shared₁) :
    Comes (StylesheetAssets.Building.within place x >>= f) (Building.within place y >>= g) registry
      session transfers shared := by
  have hrun := Building.within_run place x registry session
  have hwithin : Worker.Gets ⟨(Building.within place y).run, transfers⟩ shared
      ⟨done (StylesheetAssets.Building.within place x registry session).1.1, transfers⟩
      shared₁ := by
    rw [hrun]
    refine Worker.Gets.trans (.bind_lift hgets) ?_
    cases (x session).1 <;> exact .refl _ _
  refine bind_of_gets hwithin ?_ ?_ fun a => ?_ <;> rw [hrun]
  exacts [hdisk, hregistry, hrest a]

/-- A step that hands out nothing. -/
theorem Comes.of_alike {x : StateM Session (Except ε α)} {y : Program (Except ε α)}
    (h : Alike x y) (place : ε → BuildError) (hdisk : session.disk = shared.session.disk)
    (hregistry : registry = shared.registry)
    (hrest : ∀ a session' shared', session'.disk = shared'.session.disk →
      registry = shared'.registry → Comes (f a) (g a) registry session' transfers shared') :
    Comes (StylesheetAssets.Building.within place x >>= f) (Building.within place y >>= g) registry
      session transfers shared := by
  obtain ⟨session₁, hgets, hdisk₁⟩ := h session transfers shared hdisk
  exact within hgets place hdisk₁ hregistry fun a => hrest a _ _ hdisk₁ hregistry

/-- What is only said keeps nobody from going on. -/
theorem Comes.say {topic text : String} {f : Unit → StylesheetAssets.Building α} {y : Building α}
    (h : ∀ session', session'.disk = session.disk →
      Comes (f ()) y registry session' transfers shared) :
    Comes ((liftM (Session.detail topic text) : StylesheetAssets.Building Unit) >>= f) y registry
      session transfers shared :=
  h ⟨session.disk, _⟩ rfl

theorem Comes.queueing {x : StateT CopyQueue (StateM Session) α}
    {y : StateT (List Pending) Program α} (h : Mirrors x y)
    {f : α × CopyQueue → StylesheetAssets.Building β} {g : α × List Pending → Building β}
    (hdisk : session.disk = shared.session.disk) (hregistry : registry = shared.registry)
    (hrest : ∀ a queue session' copies transfers' shared',
      Beside queue session' copies transfers' shared' →
        Comes (f (a, queue)) (g (a, copies)) queue.registry session' transfers' shared') :
    Comes (StylesheetAssets.Building.queueing x >>= f) (liftM (y.run []) >>= g) registry session
      transfers shared := by
  have hempty : Beside ⟨registry, []⟩ session [] transfers shared :=
    ⟨hdisk, hregistry, rfl, fun copy hcopy => absurd hcopy List.not_mem_nil⟩
  obtain ⟨copies, transfers₁, shared₁, hgets, hbeside⟩ := h hempty
  obtain ⟨transfers', shared', hrest, hend⟩ := hrest _ _ _ _ _ _ hbeside
  exact ⟨transfers', shared', (Worker.Gets.bind_lift hgets).trans hrest, hend⟩

theorem comes_finishSheet (config : Config) (outDir input : Path) (flat : List Char)
    (hdisk : session.disk = shared.session.disk) (hregistry : registry = shared.registry) :
    Comes (StylesheetAssets.finishSheet config outDir input flat)
      (finishSheet config outDir input flat) registry session transfers shared := by
  refine .queueing (Mirrors.rewriteSheet config _) hdisk hregistry ?_
  rintro ⟨sheet, result⟩ queue session copies transfers shared h
  refine .of_alike (.pure result) _ h.disk_eq h.registry_eq fun stats _ _ hdisk hregistry => ?_
  refine .of_alike (.pure _) id hdisk hregistry fun output _ _ hdisk hregistry => ?_
  refine .of_alike (.writeFile output _) _ hdisk hregistry fun _ _ shared hdisk hregistry => ?_
  refine .say fun session hsaid => ?_
  -- The copies are made, and there is nothing to wait for.
  have hwritten : Beside queue session copies transfers shared :=
    ⟨hsaid.trans hdisk, hregistry, h.copies_eq, h.isMade⟩
  exact .within hwritten.wait _ hwritten.disk_eq hregistry fun _ =>
    .pure _ hwritten.disk_eq hregistry

theorem comes_readFlat (input : Path) (hdisk : session.disk = shared.session.disk)
    (hregistry : registry = shared.registry) :
    Comes (StylesheetAssets.readFlat input) (readFlat input) registry session transfers shared := by
  obtain ⟨session', hgets, hdisk'⟩ :=
    Reads.readFlat input registry session transfers shared hdisk.symm
  refine ⟨transfers, _, hgets, ?_⟩
  rw [readFlat_run]
  cases session.disk.readText input <;> exact ⟨hdisk'.symm, hregistry⟩

theorem comes_buildSheet (config : Config) (outDir input : Path) (transfers : List Transfer)
    (hdisk : session.disk = shared.session.disk) (hregistry : registry = shared.registry) :
    Comes (StylesheetAssets.buildSheet config outDir input) (buildSheet config outDir input)
      registry session transfers shared :=
  (comes_readFlat input hdisk hregistry).bind fun flat _ _ _ _ hdisk hregistry =>
    comes_finishSheet config outDir input flat hdisk hregistry

end Comes

/-! ### All stylesheets -/

/-- The workers behind the first ones come to the results of the sheets, one after the other. By
induction on the inputs. -/
theorem exists_run_buildEach (config : Config) (outDir : Path) (inputs : List Path)
    (front : List (Worker (Except BuildError BuildSummary))) (registry : CopyRegistry)
    (session : Session) (shared : Shared) (hdisk : session.disk = shared.session.disk)
    (hregistry : registry = shared.registry) :
    ∃ schedule shared' back,
      Crew.run ⟨shared, front ++ inputs.map fun input =>
          { program := (buildSheet config outDir input).run }⟩ schedule =
        ⟨shared', front ++ back⟩ ∧
      back.map (·.program) = (buildEach config outDir inputs registry session).1.1.map done ∧
      (buildEach config outDir inputs registry session).2.disk = shared'.session.disk ∧
      (buildEach config outDir inputs registry session).1.2 = shared'.registry := by
  induction inputs generalizing front registry session shared with
  | nil => exact ⟨[], shared, [], rfl, rfl, hdisk, hregistry⟩
  | cons input inputs ih =>
    obtain ⟨transfers, shared₁, hgets, hdisk₁, hregistry₁⟩ :=
      comes_buildSheet config outDir input [] hdisk hregistry
    let w : Worker (Except BuildError BuildSummary) :=
      ⟨done (StylesheetAssets.buildSheet config outDir input registry session).1.1, transfers⟩
    rw [buildEach_cons]
    dsimp only
    obtain ⟨more, shared', back, hrun', hprograms, hend⟩ := ih (front ++ [w]) _
      (Session.record (.progressAdvanced "css")
        (StylesheetAssets.buildSheet config outDir input registry session).2).2
      shared₁ hdisk₁ hregistry₁
    have hfirst : (front ++ (input :: inputs).map fun input =>
        (⟨(buildSheet config outDir input).run, []⟩ : Worker _))[front.length]? =
          some ⟨(buildSheet config outDir input).run, []⟩ := by simp
    obtain ⟨schedule, hrun⟩ := Crew.exists_run_of_gets (c := ⟨shared, _⟩) hfirst hgets
    refine ⟨schedule ++ more, shared', w :: back, ?_, ?_, hend⟩
    · rw [Crew.run_append, hrun]
      simpa using hrun'
    · rw [List.map_cons, List.map_cons, hprograms]

/-- There is a schedule under which the builders do what a build does whose sheets come one after
the other: they are refused as it is, or they come to its outcome and leave its disk behind. -/
theorem exists_buildUnder (config : Config) (inputs : List Path) (outDir : Path)
    (session : Session) : ∃ schedule,
      (∃ e, buildUnder schedule config inputs outDir session.disk = .error e ∧
        (buildAll config inputs outDir session).1 = .error e) ∨
      ∃ c, buildUnder schedule config inputs outDir session.disk = .ok c ∧
        c.summary? = some (buildAll config inputs outDir session).1 ∧
        c.shared.session.disk = (buildAll config inputs outDir session).2.disk := by
  cases hnames : checkNames [] (inputs.map (·.absolutize config.workDir)) with
  | error e =>
    refine ⟨[], .inl ⟨e, ?_, congrArg Prod.fst (buildAll_of_names hnames)⟩⟩
    rw [buildUnder, setOut_run, hnames]
    rfl
  | ok u =>
    cases hmade : session.disk.createDirectories outDir with
    | mk answer d =>
      cases answer with
      | error cause =>
        refine ⟨[], .inl ⟨_, ?_, congrArg Prod.fst (buildAll_of_unmade hnames hmade)⟩⟩
        rw [buildUnder, setOut_run, hnames, hmade]
        rfl
      | ok u =>
        obtain ⟨schedule, shared, workers, hrun, hprograms, hdisk, hregistry⟩ :=
          exists_run_buildEach config outDir (inputs.map (·.absolutize config.workDir)) [] {}
            (begun session outDir d inputs.length) { session := madeFor outDir d } rfl rfl
        refine ⟨schedule, .inr ⟨⟨shared, workers⟩, ?_, ?_, ?_⟩⟩
        · exact buildUnder_eq_ok.2 ⟨hnames, d, hmade, hrun.symm⟩
        · rw [buildAll_run hnames hmade, fst_concluded, hregistry, Crew.summary?,
            Crew.results?_eq_some.2 hprograms]
          rfl
        · rw [buildAll_run hnames hmade, disk_concluded, hdisk]

end StylesheetAssets.Parallel
