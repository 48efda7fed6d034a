import StylesheetAssets.Proofs.Build.Inputs
import StylesheetAssets.Proofs.Build.Plain
import StylesheetAssets.Proofs.Build.Writing

/-!
Where the stylesheets of a build are written. Inputs of one name are refused before anything else
happens, and inputs of different names are written to different places.
-/
namespace StylesheetAssets

open Session (Outputs)

variable {config : Config} {outDir input : Path} {inputs : List Path} {registry : CopyRegistry}
  {session : Session}

/-! ### Names that clash -/

/-- An input and a later one of the same name. -/
structure Clashing (inputs : List Path) (first second : Path) (name : String) : Prop where
  order : [first, second].Sublist inputs
  first : first.fileName? = some name
  second : second.fileName? = some name

/-- Inputs are refused for one without a name, or for two that clash. The names seen are those of
the inputs in front. -/
theorem checkNames_eq_error {earlier inputs : List Path} {seen : List (String × Path)}
    {e : BuildError}
    (hseen : ∀ name first, seen.lookup name = some first →
      first ∈ earlier ∧ first.fileName? = some name)
    (h : checkNames seen inputs = .error e) :
    (∃ input ∈ inputs, input.fileName? = none ∧ e = .noFileName input) ∨
      ∃ first second name, Clashing (earlier ++ inputs) first second name ∧
        e = .clash first second name := by
  induction inputs generalizing earlier seen with
  | nil => cases h
  | cons input inputs ih =>
    rw [checkNames] at h
    cases hname : input.fileName? with
    | none =>
      rw [hname] at h
      cases h
      exact .inl ⟨input, List.mem_cons_self, hname, rfl⟩
    | some name =>
      rw [hname] at h
      dsimp only at h
      cases hlookup : seen.lookup name with
      | some first =>
        rw [hlookup] at h
        cases h
        obtain ⟨hfirst, hsame⟩ := hseen name first hlookup
        have horder : [first, input].Sublist (earlier ++ input :: inputs) :=
          (List.singleton_sublist.2 hfirst).append
            (List.singleton_sublist.2 (List.mem_cons_self (l := inputs)))
        exact .inr ⟨first, input, name, ⟨horder, hsame, hname⟩, rfl⟩
      | none =>
        rw [hlookup] at h
        -- Behind this input, the names seen are those in front of it and its own.
        have hseen' : ∀ other first, ((name, input) :: seen).lookup other = some first →
            first ∈ earlier ++ [input] ∧ first.fileName? = some other := by
          intro other first hother
          rw [List.lookup_cons] at hother
          split at hother
          · next heq =>
            cases hother
            rw [eq_of_beq heq]
            exact ⟨List.mem_append_right _ (List.mem_singleton_self _), hname⟩
          · obtain ⟨hfirst, hsame⟩ := hseen other first hother
            exact ⟨List.mem_append_left _ hfirst, hsame⟩
        rcases ih hseen' h with ⟨nameless, hmem, hnone, rfl⟩ | ⟨first, second, n, hclash, rfl⟩
        · exact .inl ⟨nameless, List.mem_cons_of_mem _ hmem, hnone, rfl⟩
        · rw [List.append_assoc, List.singleton_append] at hclash
          exact .inr ⟨first, second, n, hclash, rfl⟩

/-! ### Whole builds -/

section Builds

variable {e : BuildError} {d : Disk} {results : List (Except BuildError BuildSummary)}

theorem mem_of_mapM_error (h : results.mapM id = .error e) : .error e ∈ results := by
  induction results with
  | nil => cases h
  | cons r results ih =>
    rw [List.mapM_cons] at h
    cases r with
    | error e' =>
      cases h
      exact List.mem_cons_self
    | ok summary =>
      refine List.mem_cons_of_mem _ (ih ?_)
      cases hrest : results.mapM id <;> simp_all [bind, Except.bind, pure, Except.pure]

theorem forall_ok_of_mapM_ok {summaries : List BuildSummary} (h : results.mapM id = .ok summaries) :
    ∀ r ∈ results, ∃ summary, r = .ok summary := by
  rw [mapM_id_eq_ok.1 h]
  intro r hr
  obtain ⟨summary, -, rfl⟩ := List.mem_map.1 hr
  exact ⟨summary, rfl⟩

theorem outputs_begun (hmade : session.disk.createDirectories outDir = (.ok (), d)) (n : Nat) :
    session.Outputs (begun session outDir d n) [] := by
  have hdirectory : session.Outputs (Session.createDirectories outDir session).2 [] :=
    ⟨_, .createDirectories session outDir, rfl⟩
  rw [createDirectories_eq hmade] at hdirectory
  exact hdirectory.trans (Outputs.notingOrder.noted _ rfl)

theorem outputs_concluded (n : Nat) (outDir : Path)
    (results : List (Except BuildError BuildSummary)) (registry : CopyRegistry)
    (session : Session) :
    session.Outputs (concluded n outDir ((results, registry), session)).2 [] := by
  unfold concluded
  dsimp only
  cases results.mapM id with
  | error e => exact Outputs.notingOrder.noted session rfl
  | ok summaries =>
    exact Outputs.notingOrder.trans (Outputs.notingOrder.noted session rfl)
      (Outputs.notingOrder.upward_announce _ _ _ _)

/-- What a build writes, apart from copies, are stylesheets of its inputs. It answers a clash only
where that is what it found in the names. -/
theorem outputs_buildAll (config : Config) (inputs : List Path) (outDir : Path)
    (session : Session) :
    let all := inputs.map (·.absolutize config.workDir)
    let build := buildAll config inputs outDir session
    ∃ paths, session.Outputs build.2 paths ∧ paths.Sublist (ownPaths outDir all) ∧
      (∀ summary, build.1 = .ok summary → paths = ownPaths outDir all) ∧
      ∀ first second name, build.1 = .error (.clash first second name) →
        checkNames [] all = .error (.clash first second name) := by
  intro all build
  cases hnames : checkNames [] all with
  | error e =>
    have hrun : build = (.error e, session) := buildAll_of_names hnames
    rw [hrun]
    refine ⟨[], Outputs.notingOrder.refl session, List.nil_sublist _, nofun, ?_⟩
    rintro first second name ⟨⟩
    rfl
  | ok =>
    cases hmade : session.disk.createDirectories outDir with
    | mk made d =>
      cases made with
      | error cause =>
        have hrun : build = _ := buildAll_of_unmade hnames hmade
        rw [hrun]
        exact ⟨[], ⟨_, .createDirectories session outDir, rfl⟩, List.nil_sublist _, nofun, nofun⟩
      | ok =>
        have hrun : build = concluded inputs.length outDir
            (buildEach config outDir all {} (begun session outDir d inputs.length)) :=
          buildAll_run hnames hmade
        obtain ⟨paths, heach, hwritten⟩ :=
          outputs_buildEach config outDir all {} (begun session outDir d inputs.length)
        rw [hrun, fst_concluded]
        generalize buildEach config outDir all {} (begun session outDir d inputs.length) = built
          at heach hwritten ⊢
        obtain ⟨⟨results, registry⟩, later⟩ := built
        have hall := (outputs_begun hmade inputs.length).trans
          (heach.trans (outputs_concluded inputs.length outDir results registry later))
        rw [List.nil_append, List.append_nil] at hall
        refine ⟨paths, hall, hwritten.own, fun summary h => ?_, fun first second name h => ?_⟩
        · cases hresults : results.mapM id with
          | error e =>
            rw [hresults] at h
            cases h
          | ok summaries => exact hwritten.complete (forall_ok_of_mapM_ok hresults)
        · cases hresults : results.mapM id with
          | error e =>
            rw [hresults] at h
            cases h
            exact absurd rfl (hwritten.clashless _ (mem_of_mapM_error hresults) first second name)
          | ok summaries =>
            rw [hresults] at h
            cases h

/-- Where a build stands when it comes to an input: the inputs in front have had their turn. -/
inductive Turn (config : Config) (inputs : List Path) (outDir : Path) (session : Session)
    (input : Path) : CopyRegistry → Session → Prop
  | intro {before after : List Path} {d : Disk}
      (place : inputs.map (·.absolutize config.workDir) = before ++ input :: after)
      (names : checkNames [] (inputs.map (·.absolutize config.workDir)) = .ok ())
      (made : session.disk.createDirectories outDir = (.ok (), d)) :
      Turn config inputs outDir session input
        (buildEach config outDir before {} (begun session outDir d inputs.length)).1.2
        (buildEach config outDir before {} (begun session outDir d inputs.length)).2

/-- Behind the turn of an input, only the stylesheets of later inputs are written. -/
theorem Turn.outputs {s : Session} (h : Turn config inputs outDir session input registry s) :
    ∃ before after earlier later,
      inputs.map (·.absolutize config.workDir) = before ++ input :: after ∧
      session.Outputs s earlier ∧
      (buildSheet config outDir input registry s).2.Outputs
        (buildAll config inputs outDir session).2 later ∧
      later.Sublist (ownPaths outDir after) := by
  obtain ⟨hplace, hnames, hmade⟩ := h
  next before after d =>
    obtain ⟨earlier, hbefore, -⟩ :=
      outputs_buildEach config outDir before {} (begun session outDir d inputs.length)
    rw [buildAll_run hnames hmade, hplace, buildEach_append]
    dsimp only
    rw [buildEach_cons]
    dsimp only
    generalize buildEach config outDir before {} (begun session outDir d inputs.length) = reached
      at hbefore ⊢
    generalize buildSheet config outDir input reached.1.2 reached.2 = sheet
    obtain ⟨later, hafter, hwritten⟩ := outputs_buildEach config outDir after sheet.1.2
      (Session.record (.progressAdvanced "css") sheet.2).2
    refine ⟨before, after, earlier, later, rfl, (outputs_begun hmade _).trans hbefore, ?_,
      hwritten.own⟩
    have hadvanced := Outputs.notingOrder.noted sheet.2 (e := .progressAdvanced "css") rfl
    rw [← List.append_nil later]
    exact Outputs.trans (hadvanced.trans hafter) (outputs_concluded _ _ _ _ _)

/-- Inputs of different names have places of their own. -/
theorem nodup_places {all : List Path} (h : (all.map (·.fileName?)).Nodup) (outDir : Path)
    (d : Disk) : ((ownPaths outDir all).map d.placeOf).Nodup := by
  unfold ownPaths List.Nodup
  rw [List.pairwise_map, List.pairwise_filterMap]
  refine (List.pairwise_map.1 h).imp fun {a b} hne p hp q hq hplace => hne ?_
  have hnamed {input p : Path} (hp : (outputPath outDir input).toOption = some p) :
      ∃ name, input.fileName? = some name ∧ d.placeOf p = d.placeOf outDir ++ [name] := by
    cases houtput : outputPath outDir input with
    | error e =>
      rw [houtput] at hp
      cases hp
    | ok output =>
      rw [houtput] at hp
      cases hp
      obtain ⟨name, hname, rfl⟩ := outputPath_eq_ok.1 houtput
      exact ⟨name, hname, d.placeOf_join outDir (Path.isName_of_fileName? hname)⟩
  obtain ⟨name, hname, hp⟩ := hnamed hp
  obtain ⟨name', hname', hq⟩ := hnamed hq
  rw [hp, hq, List.append_cancel_left_eq, List.singleton_inj] at hplace
  rw [hname, hname', hplace]

/-- Nor is there a place among those behind an input that is its own. -/
theorem ne_place_of_behind {before after : List Path} {output p : Path}
    (h : ((ownPaths outDir (before ++ input :: after)).map d.placeOf).Nodup)
    (houtput : outputPath outDir input = .ok output) (hp : p ∈ ownPaths outDir after) :
    d.placeOf p ≠ d.placeOf output := by
  rw [ownPaths_append, ← List.singleton_append, ownPaths_append, ownPaths_singleton houtput,
    List.map_append, List.map_append] at h
  have hrest := (List.nodup_append.1 h).2.1
  rw [List.map_singleton, List.singleton_append, List.nodup_cons] at hrest
  exact fun hsame => hrest.1 (hsame ▸ List.mem_map_of_mem hp)

/-- What the events of a build say of its stylesheets. -/
structure SheetsApart (config : Config) (inputs : List Path) (outDir : Path) (session : Session)
    (events : List Event) : Prop where
  /-- These are the events of the build, and all that it did to files. -/
  records : session.Records (buildAll config inputs outDir session).2 events
  /-- Apart from copies, only stylesheets are written, each at most once. -/
  own : (events.filterMap Event.output?).Sublist
    (ownPaths outDir (inputs.map (·.absolutize config.workDir)))
  /-- No two of them would be written to one place. -/
  apart : ((ownPaths outDir (inputs.map (·.absolutize config.workDir))).map
    session.disk.placeOf).Nodup
  /-- A build that succeeds writes all of them. -/
  complete : ∀ summary, (buildAll config inputs outDir session).1 = .ok summary →
    events.filterMap Event.output? = ownPaths outDir (inputs.map (·.absolutize config.workDir))
  /-- One that was built is written under its own name, and then lies there to the end, unless an
  asset is copied over it. -/
  built : ∀ {input : Path} {registry : CopyRegistry} {s : Session},
    Turn config inputs outDir session input registry s → ∀ {summary : BuildSummary},
    (buildSheet config outDir input registry s).1.1 = .ok summary →
    ∃ output text, outputPath outDir input = .ok output ∧
      output ∈ events.filterMap Event.output? ∧
      (sheetText config input registry s).1.1 = .ok text ∧
      (buildSheet config outDir input registry s).2.disk.get? (session.disk.placeOf output) =
        some (.file text.toUTF8) ∧
      ((∀ e ∈ events, ∀ p ∈ e.destination?,
          session.disk.placeOf p ≠ session.disk.placeOf output) →
        (buildAll config inputs outDir session).2.disk.get? (session.disk.placeOf output) =
          some (.file text.toUTF8))

/-- With different names, whatever a build writes behind the turn of an input lies elsewhere. -/
theorem sheetsApart (h : ((inputs.map (·.absolutize config.workDir)).map (·.fileName?)).Nodup) :
    ∃ events, SheetsApart config inputs outDir session events := by
  obtain ⟨_, ⟨events, hrecords, rfl⟩, hown, hcomplete, -⟩ :=
    outputs_buildAll config inputs outDir session
  have hapart := nodup_places h outDir session.disk
  refine ⟨events, hrecords, hown, hapart, hcomplete, fun {input registry s} hturn summary hok => ?_⟩
  obtain ⟨before, after, _, _, hplace, ⟨earlier, hearlier, rfl⟩, ⟨later, hlater, rfl⟩, hafter⟩ :=
    hturn.outputs
  obtain ⟨_, ⟨written, hwritten, rfl⟩, -, hsheet, -⟩ :=
    writes_buildSheet config outDir input registry s
  obtain ⟨output, text, houtput, htext, hfile⟩ := exists_text_of_buildSheet hok
  -- The journal has the events up to the turn, those of the sheet, and those behind, one after the
  -- other, so that what is known of each part is known of the events of the build.
  have hreached := hearlier.trans hwritten
  obtain rfl : events = _ := hrecords.unique (hreached.trans hlater)
  have hplaces (p : Path) : (buildSheet config outDir input registry s).2.disk.placeOf p =
      session.disk.placeOf p := Disk.placeOf_congr hreached.later.workDir p
  have hpaths : written.filterMap Event.output? = [output] := by
    rw [hsheet (by simpa using ⟨summary, hok⟩), ownPaths_singleton houtput]
  dsimp only at hfile
  rw [hplaces] at hfile
  refine ⟨output, text, houtput, ?_, htext, hfile, fun hcopies => ?_⟩
  · rw [List.filterMap_append, List.filterMap_append, hpaths]
    simp
  · refine hlater.kept hfile fun e he p hp => ?_
    rw [hplaces]
    rcases Event.output_or_destination hp with hp | hp
    · have hown := hafter.subset (List.mem_filterMap.2 ⟨e, he, hp⟩)
      exact ne_place_of_behind (hplace ▸ hapart) houtput hown
    · exact hcopies e (List.mem_append_right _ he) p hp

/-- Inputs that all have names, but not all different ones, are refused for two that clash, before
anything is written or noted; nor are inputs ever refused for a clash where there is none. Inputs of
different names are written to places of their own, in whatever order they are built. -/
theorem buildAll_ownPlaces (config : Config) (inputs : List Path) (outDir : Path)
    (session : Session) :
    let all := inputs.map (·.absolutize config.workDir)
    let names := all.map (·.fileName?)
    let build := buildAll config inputs outDir session
    (none ∉ names → ¬names.Nodup → ∃ first second name, Clashing all first second name ∧
      build = (.error (.clash first second name), session)) ∧
    (∀ first second name, build.1 = .error (.clash first second name) →
      Clashing all first second name ∧ build.2 = session) ∧
    (names.Nodup → ∀ order, inputs.Perm order →
      ∃ events, SheetsApart config order outDir session events) := by
  intro all names build
  have hclash {e : BuildError} (hnames : checkNames [] all = .error e) :
      (∃ input ∈ all, input.fileName? = none ∧ e = .noFileName input) ∨
        ∃ first second name, Clashing all first second name ∧ e = .clash first second name := by
    have hnone : ∀ name first, ([] : List (String × Path)).lookup name = some first →
        first ∈ ([] : List Path) ∧ first.fileName? = some name := nofun
    simpa using checkNames_eq_error hnone hnames
  refine ⟨fun hnamed hsame => ?_, fun first second name h => ?_, fun hdistinct order horder => ?_⟩
  · cases hnames : checkNames [] all with
    | ok => exact absurd (checkNames_eq_ok.1 hnames).2 hsame
    | error e =>
      have hrun : build = (.error e, session) := buildAll_of_names hnames
      rcases hclash hnames with ⟨input, hinput, hnone, -⟩ | ⟨first, second, name, hpair, rfl⟩
      · exact absurd (List.mem_map.2 ⟨input, hinput, hnone⟩) hnamed
      · exact ⟨first, second, name, hpair, hrun⟩
  · obtain ⟨_, -, -, -, hfound⟩ := outputs_buildAll config inputs outDir session
    have hnames := hfound first second name h
    have hrun : build = (.error (.clash first second name), session) := buildAll_of_names hnames
    rcases hclash hnames with ⟨_, -, -, ⟨⟩⟩ | ⟨_, _, _, hpair, ⟨⟩⟩
    exact ⟨hpair, congrArg Prod.snd hrun⟩
  · exact sheetsApart (((horder.map _).map _).nodup_iff.1 hdistinct)

end Builds

/-- Two inputs of one name in two spellings of their directories, and two of different names that
are built the last one first. -/
theorem buildAll_ownPlaces_pictures :
    let session : Session := ⟨pictures "i.png" "j.png", #[]⟩
    let same : List Path := [⟨"/x/a.css"⟩, ⟨"/y/./z/../a.css"⟩]
    let different : List Path := [⟨"/x/a.css"⟩, ⟨"/y/../y/b.css"⟩]
    let order : List Path := [⟨"/y/../y/b.css"⟩, ⟨"/x/a.css"⟩]
    buildAll gathering same ⟨"/out"⟩ session =
        (.error (.clash ⟨"/x/a.css"⟩ ⟨"/y/a.css"⟩ "a.css"), session) ∧
      different.Perm order ∧ ∃ events, SheetsApart gathering order ⟨"/out"⟩ session events ∧
        events.filterMap Event.output? = [⟨"/out/b.css"⟩, ⟨"/out/a.css"⟩] := by
  intro session same different order
  constructor
  · obtain ⟨hclash, -, -⟩ := buildAll_ownPlaces gathering same ⟨"/out"⟩ session
    obtain ⟨first, second, name, hpair, hrun⟩ := hclash (by decide +kernel) (by decide +kernel)
    have hall : same.map (·.absolutize gathering.workDir) = [⟨"/x/a.css"⟩, ⟨"/y/a.css"⟩] := by
      decide +kernel
    have horder := hpair.order
    rw [hall] at horder
    obtain ⟨rfl, rfl⟩ : first = ⟨"/x/a.css"⟩ ∧ second = ⟨"/y/a.css"⟩ := by
      simpa using horder.eq_of_length rfl
    have hname : Path.fileName? ⟨"/x/a.css"⟩ = some "a.css" := by decide +kernel
    obtain rfl : "a.css" = name := Option.some.inj (hname.symm.trans hpair.first)
    exact hrun
  · obtain ⟨⟨answer, s⟩, hplain, hanswer⟩ :
        ∃ r ∈ plainAll gathering ⟨"/out"⟩ order session, r.1 = .ok ⟨⟨0, 2, 0⟩, 2, 0⟩ := by
      decide +kernel
    have hbuild := congrArg Prod.fst (buildAll_of_plain hplain)
    have hdistinct :
        ((different.map (·.absolutize gathering.workDir)).map (·.fileName?)).Nodup := by
      decide +kernel
    obtain ⟨-, -, hapart⟩ := buildAll_ownPlaces gathering different ⟨"/out"⟩ session
    have horder : different.Perm order := .swap _ _ []
    obtain ⟨events, hevents⟩ := hapart hdistinct order horder
    refine ⟨horder, events, hevents, (hevents.complete _ (hbuild.trans hanswer)).trans ?_⟩
    decide +kernel

end StylesheetAssets
