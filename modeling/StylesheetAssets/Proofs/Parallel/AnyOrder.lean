import StylesheetAssets.Proofs.Parallel.Builders

/-!
Builds of the same stylesheets in another order, and under another schedule.

Without conflicts every place is written with one content only, whatever the order.
-/
namespace StylesheetAssets.Parallel

open Program

variable {config : Config} {inputs inputs' : List Path} {outDir : Path} {disk d : Disk}
  {schedule schedule' : List Turn} {summary : BuildSummary}
  {c c' : Crew (Except BuildError BuildSummary)}
  {ways ways' : List (Way (Except BuildError BuildSummary))}

/-- The builders of the same inputs in another order have the same ways to go. -/
theorem exists_ways_perm {inputs inputs' : List Path} (hperm : inputs.Perm inputs')
    (hbuilt : List.Forall₂ (fun input x => x.Built config outDir input) inputs ways)
    (session : Session) :
    ∃ ways', ways.Perm ways' ∧
      List.Forall₂ (fun input x => x.Built config outDir input) inputs' ways' ∧
      (builders config inputs' outDir session).workers = ways'.map fun x => ⟨x.program, []⟩ := by
  obtain ⟨ways', hbuilt', hways⟩ := List.perm_comp_forall₂ hperm.symm hbuilt
  refine ⟨ways', hways.symm, hbuilt', ?_⟩
  have hprograms : List.Forall₂ (· = ·) (inputs'.map fun input =>
      (⟨(buildSheet config outDir input).run, []⟩ : Worker _))
      (ways'.map fun x => ⟨x.program, []⟩) := by
    refine List.forall₂_map_left_iff.2 (List.forall₂_map_right_iff.2 (hbuilt'.imp fun _ _ hx => ?_))
    rw [hx.program]
  rwa [List.forall₂_eq_eq_eq] at hprograms

namespace Crew

/-- Where no conflict was counted, a destination has one source. -/
theorem same_of_conflicts_eq_zero (h : c.Finishes schedule ways)
    (hbuilt : ∀ x ∈ ways, ∃ input, x.Built config outDir input)
    (hcontested : contested (claimsOf (c.log schedule)) = ∅)
    {x y : Way (Except BuildError BuildSummary)} (hx : x ∈ ways) (hy : y ∈ ways)
    {source destination source' destination' : Path} (hcopies : x.Copies source destination)
    (hcopies' : y.Copies source' destination')
    (hsame : destination.same destination' = true) : source.same source' = true := by
  have hsource {x : Way (Except BuildError BuildSummary)} (hx : x ∈ ways)
      {source destination : Path} (hcopies : x.Copies source destination) :
      source.components ∈ sourcesOf (claimsOf (c.log schedule)) destination.components := by
    obtain ⟨input, hbuilt⟩ := hbuilt x hx
    exact mem_sourcesOf.2 ⟨⟨source, destination⟩,
      h.mem_claimsOf.2 ⟨x, hx, hbuilt.exists_claim_iff.2 hcopies⟩, rfl, rfl⟩
  refine decide_eq_true ?_
  by_contra hne
  have hcomponents : destination.components = destination'.components := of_decide_eq_true hsame
  have hmem := mem_contested.2
    ⟨_, hsource hx hcopies, _, hcomponents ▸ hsource hy hcopies', hne⟩
  rw [hcontested] at hmem
  cases hmem

/-- The same claims are contested, whoever makes them first. -/
theorem Finishes.contested_perm (h : c.Finishes schedule ways) (h' : c'.Finishes schedule' ways')
    (hperm : ways.Perm ways') :
    contested (claimsOf (c'.log schedule')) = contested (claimsOf (c.log schedule)) := by
  refine contested_congr fun d a => ?_
  simp only [mem_sourcesOf, h.mem_claimsOf_perm h' hperm]

end Crew

/-- The builders of a build without conflicts agree everywhere. -/
theorem CameThrough.agrees
    (h : CameThrough c schedule config inputs outDir disk summary ways) (hsettled : config.Settled)
    (hsucceeds : c.Succeeds schedule ways config outDir disk)
    (hcontested : contested (claimsOf (c.log schedule)) = ∅)
    (hcopies : CopiesApart disk (c.run schedule).shared.session.journal.toList) (l : Location) :
    (c.run schedule).Agrees disk l := by
  have hsame {x y : Way (Except BuildError BuildSummary)} (hx : x ∈ ways) (hy : y ∈ ways)
      {t t' : Transfer} (ht : t ∈ x.transfers) (ht' : t' ∈ y.transfers)
      (hl : disk.placeOf t.destination = l) (hl' : disk.placeOf t'.destination = l) :
      t.destination = t'.destination :=
    (hsucceeds.isCanonical h.forall_built hsettled hx ⟨_, ht⟩).eq_of_placeOf_eq
      (hsucceeds.isCanonical h.forall_built hsettled hy ⟨_, ht'⟩) (hl.trans hl'.symm)
  refine ⟨?_, ?_, fun e he e' he' p hp q hq hl hl' =>
    hcopies e he e' he' p hp q hq (hl.trans hl'.symm)⟩
  · rw [h.finishes.ends, List.pairwise_map]
    refine List.pairwise_of_forall_mem_list fun x hx y hy t ht t' ht' hl hl' => ?_
    have hcopies : x.Copies t.source t.destination := ⟨_, ht⟩
    have hcopies' : y.Copies t'.source t'.destination := ⟨_, ht'⟩
    refine Crew.same_of_conflicts_eq_zero h.finishes h.forall_built hcontested hx hy hcopies
      hcopies' ?_
    rw [hsame hx hy ht ht' hl hl']
    exact decide_eq_true rfl
  · rw [h.finishes.ends]
    intro w hw t ht t' ht' hl hl'
    obtain ⟨x, hx, rfl⟩ := List.mem_map.1 hw
    rw [hsame hx hx ht ht' hl hl']
    exact decide_eq_true rfl

/-- Wherever builders of the same inputs come to their ends, they have the same summary and leave
the same disk. -/
theorem CameThrough.perm (h : CameThrough c schedule config inputs outDir disk summary ways)
    (hsettled : config.Settled) (htree : disk.IsTree) (hconflicts : summary.conflicts = 0)
    (hapart : ReadsApart disk (c.run schedule).shared.session.disk
      (c.run schedule).shared.session.journal.toList)
    (hcopies : CopiesApart disk (c.run schedule).shared.session.journal.toList)
    (hperm : inputs.Perm inputs')
    (hcrew : c' = builders config inputs' outDir (madeFor outDir c.shared.session.disk))
    (hdone : ∀ w ∈ (c'.run schedule').workers, ∃ a, w.program = done a) :
    (c'.run schedule').summary? = some (.ok summary) ∧ ∀ l,
      (c'.run schedule').shared.session.disk.get? l =
        (c.run schedule).shared.session.disk.get? l := by
  have hsucceeds := h.succeeds hsettled htree hapart
  obtain ⟨-, hregistry, hnoted⟩ := h.did
  obtain ⟨summaries, hresults, rfl⟩ := h.summed
  have hzero : (c.run schedule).shared.registry.conflicts = 0 := hconflicts
  have hcontested := (CopyRegistry.conflicts_eq_zero_iff _).1 (hregistry ▸ hzero)
  obtain ⟨ways', hways, -, hworkers⟩ := exists_ways_perm hperm h.built
    (madeFor outDir c.shared.session.disk)
  rw [← hcrew] at hworkers
  have hdisk : c'.shared.session.disk = c.shared.session.disk := by rw [hcrew]; rfl
  have hsucceeds' := hsucceeds.perm hways hworkers hdisk hdone
  refine ⟨?_, fun l => hsucceeds.get?_eq hsucceeds' hways ?_⟩
  · obtain ⟨summaries', hsummaries, hresults'⟩ :=
      exists_map_perm (hresults ▸ hways.map Way.result)
    have hregistry' : c'.shared.registry = {} := by rw [hcrew]; rfl
    have hconflicts' : (c'.run schedule').shared.registry.conflicts = 0 := by
      rw [hsucceeds'.did.2.1, hregistry']
      refine (CopyRegistry.conflicts_eq_zero_iff _).2 ?_
      rw [h.finishes.contested_perm hsucceeds'.finishes hways, hcontested]
    rw [hsucceeds'.finishes.summary? hresults', hconflicts', hzero, totalOf_perm hsummaries]
  · exact h.finishes.undisputed h.built (checkNames_eq_ok.1 h.names).2
      (fun e he => hnoted (List.mem_cons_of_mem _ he))
      (h.agrees hsettled hsucceeds hcontested hcopies l)

/-- A build without conflicts, which writes nothing that it reads and copies nothing over a
stylesheet, depends neither on the order of its inputs nor on the schedule. In every order it sets
out, under every schedule it can be carried on to its end, and wherever it comes to an end it has
the same summary and leaves the same disk. Configurations are settled as the program makes them
(`Config.settled_loadConfig`), and disks are trees. -/
theorem buildUnder_perm (hsettled : config.Settled) (htree : disk.IsTree)
    (hperm : inputs.Perm inputs') (h : buildUnder schedule config inputs outDir disk = .ok c)
    (hsummary : c.summary? = some (.ok summary)) (hconflicts : summary.conflicts = 0)
    (hapart : ReadsApart disk c.shared.session.disk c.shared.session.journal.toList)
    (hcopies : CopiesApart disk c.shared.session.journal.toList) (schedule' : List Turn) :
    ∃ c', buildUnder schedule' config inputs' outDir disk = .ok c' ∧
      (∃ more, (c'.run more).summary? = some (.ok summary)) ∧
      ∀ answer, c'.summary? = some answer → answer = .ok summary ∧
        ∀ l, c'.shared.session.disk.get? l = c.shared.session.disk.get? l := by
  obtain ⟨c₀, ways, rfl, hcame⟩ := exists_cameThrough h hsummary
  have hinputs := hperm.map (·.absolutize config.workDir)
  refine ⟨_, buildUnder_eq_ok.2 ⟨checkNames_perm hinputs hcame.names, _, hcame.made, rfl⟩, ?_,
    fun answer hanswer => ?_⟩
  · obtain ⟨more, hdone⟩ := Crew.exists_all_done (Crew.run _ schedule')
    rw [← Crew.run_append] at hdone
    refine ⟨more, ?_⟩
    rw [← Crew.run_append]
    exact (hcame.perm hsettled htree hconflicts hapart hcopies hinputs rfl hdone).1
  · obtain ⟨results, hresults, -⟩ := Option.map_eq_some_iff.1 hanswer
    obtain ⟨hsame, hdisk⟩ := hcame.perm hsettled htree hconflicts hapart hcopies hinputs rfl
      (Crew.exists_done_of_results? hresults)
    exact ⟨Option.some.inj (hanswer.symm.trans hsame), hdisk⟩

theorem eq_ok_of_toOption {ε α : Type} {x : Except ε α} {a : α} (h : a ∈ x.toOption) :
    x = .ok a := by
  cases x with
  | ok b =>
    cases h
    rfl
  | error e => cases h

/-! ### Two stylesheets that refer to files of one name -/

/-- A disk with a stylesheet and a file in either of two directories. -/
def namesakes : Disk where
  entries := [
    (["x"], .directory), (["x", "a.css"], .file ".a\x7bb:url(../x/i.png)\x7d".toUTF8),
    (["x", "i.png"], .file "X".toUTF8),
    (["y"], .directory), (["y", "b.css"], .file ".b\x7bc:url(../y/i.png)\x7d".toUTF8),
    (["y", "i.png"], .file "YY".toUTF8)]

/-- A configuration that takes what comes from the first directory for images, and what comes from
the second one for fonts. -/
def sorting (images fonts : Path) : Config where
  imageOutput := some images
  fontOutput := some fonts
  cssOutput := some ⟨"/out"⟩
  imagePattern := ⟨"x", .text ['x']⟩
  fontPattern := ⟨"y", .text ['y']⟩
  limit := 0
  workDir := ⟨"/"⟩

/-- One stylesheet after the other, each with its copy as soon as it is asked for. -/
def inTurn (workers : List Nat) : List Turn :=
  workers.flatMap fun worker =>
    List.replicate 6 ⟨worker, .advance⟩ ++ ⟨worker, .transfer 0⟩ ::
      List.replicate 2 ⟨worker, .advance⟩

/-- Both stylesheets at once, and the copies when both are written. -/
def atOnce : List Turn :=
  (List.replicate 7 [⟨0, .advance⟩, ⟨1, .advance⟩]).flatten ++
    [⟨1, .transfer 0⟩, ⟨0, .transfer 0⟩, ⟨0, .advance⟩, ⟨1, .advance⟩]

theorem isTree_namesakes : namesakes.IsTree := Disk.isTree_of_entries (by decide) (by decide)

/-- Both go to directories of their own. -/
theorem buildUnder_perm_namesakes :
    let config := sorting ⟨"/out/img"⟩ ⟨"/out/font"⟩
    ∃ c, buildUnder (inTurn [0, 1]) config [⟨"/x/a.css"⟩, ⟨"/y/b.css"⟩] ⟨"/out"⟩ namesakes = .ok c ∧
      c.summary? = some (.ok ⟨⟨0, 2, 0⟩, 2, 0⟩) ∧
      ReadsApart namesakes c.shared.session.disk c.shared.session.journal.toList ∧
      CopiesApart namesakes c.shared.session.journal.toList ∧
      ∃ c', buildUnder atOnce config [⟨"/y/b.css"⟩, ⟨"/x/a.css"⟩] ⟨"/out"⟩ namesakes = .ok c' ∧
        (∃ more, (c'.run more).summary? = some (.ok ⟨⟨0, 2, 0⟩, 2, 0⟩)) ∧
        ∀ answer, c'.summary? = some answer → answer = .ok ⟨⟨0, 2, 0⟩, 2, 0⟩ ∧
          ∀ l, c'.shared.session.disk.get? l = c.shared.session.disk.get? l := by
  intro config
  obtain ⟨c, hbuild, hsummary, hapart, hcopies⟩ :
      ∃ c ∈ (buildUnder (inTurn [0, 1]) config [⟨"/x/a.css"⟩, ⟨"/y/b.css"⟩] ⟨"/out"⟩
          namesakes).toOption,
        c.summary? = some (.ok ⟨⟨0, 2, 0⟩, 2, 0⟩) ∧
        ReadsApart namesakes c.shared.session.disk c.shared.session.journal.toList ∧
        CopiesApart namesakes c.shared.session.journal.toList := by
    decide +kernel
  have hbuild := eq_ok_of_toOption hbuild
  have hsettled : config.Settled := by
    constructor
    · rintro dir ⟨⟩
      exact ⟨by decide, by decide⟩
    · rintro dir ⟨⟩
      exact ⟨by decide, by decide⟩
  exact ⟨c, hbuild, hsummary, hapart, hcopies, buildUnder_perm hsettled isTree_namesakes
    (.swap _ _ []) hbuild hsummary rfl hapart hcopies atOnce⟩

/-- Two ways to write one directory: the copies meet there, and no conflict is counted. -/
theorem buildUnder_perm_unsettled :
    let config := sorting ⟨"/out/b/../a"⟩ ⟨"/out/a"⟩
    ∃ c, buildUnder (inTurn [0, 1]) config [⟨"/x/a.css"⟩, ⟨"/y/b.css"⟩] ⟨"/out"⟩ namesakes = .ok c ∧
      c.summary? = some (.ok ⟨⟨0, 2, 0⟩, 2, 0⟩) ∧
      ReadsApart namesakes c.shared.session.disk c.shared.session.journal.toList ∧
      CopiesApart namesakes c.shared.session.journal.toList ∧
      ∃ c', buildUnder (inTurn [0, 1]) config [⟨"/y/b.css"⟩, ⟨"/x/a.css"⟩] ⟨"/out"⟩
          namesakes = .ok c' ∧
        c'.summary? = some (.ok ⟨⟨0, 2, 0⟩, 2, 0⟩) ∧
        c.shared.session.disk.get? ["out", "a", "i.png"] = some (.file "YY".toUTF8) ∧
        c'.shared.session.disk.get? ["out", "a", "i.png"] = some (.file "X".toUTF8) := by
  intro config
  obtain ⟨c, hbuild, hsummary, hapart, hcopies, c', hbuild', hrest⟩ :
      ∃ c ∈ (buildUnder (inTurn [0, 1]) config [⟨"/x/a.css"⟩, ⟨"/y/b.css"⟩] ⟨"/out"⟩
          namesakes).toOption,
        c.summary? = some (.ok ⟨⟨0, 2, 0⟩, 2, 0⟩) ∧
        ReadsApart namesakes c.shared.session.disk c.shared.session.journal.toList ∧
        CopiesApart namesakes c.shared.session.journal.toList ∧
        ∃ c' ∈ (buildUnder (inTurn [0, 1]) config [⟨"/y/b.css"⟩, ⟨"/x/a.css"⟩] ⟨"/out"⟩
            namesakes).toOption,
          c'.summary? = some (.ok ⟨⟨0, 2, 0⟩, 2, 0⟩) ∧
          c.shared.session.disk.get? ["out", "a", "i.png"] = some (.file "YY".toUTF8) ∧
          c'.shared.session.disk.get? ["out", "a", "i.png"] = some (.file "X".toUTF8) := by
    decide +kernel
  exact ⟨c, eq_ok_of_toOption hbuild, hsummary, hapart, hcopies, c', eq_ok_of_toOption hbuild',
    hrest⟩

end StylesheetAssets.Parallel
