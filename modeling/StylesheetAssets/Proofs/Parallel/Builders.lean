import StylesheetAssets.Proofs.Build.Inputs
import StylesheetAssets.Proofs.Config.Settled
import StylesheetAssets.Proofs.Parallel.Meeting

/-!
Crews that build stylesheets. A build that came through is one of workers that have all built
theirs, and what they read of the disk stands.
-/
namespace StylesheetAssets.Parallel

open Program

variable {config : Config} {outDir input : Path} {inputs : List Path} {before : Disk}
  {x : Way (Except BuildError BuildSummary)} {ways : List (Way (Except BuildError BuildSummary))}

/-! ### The way of one builder -/

/-- The way of a worker that has built a stylesheet. -/
structure Way.Built (x : Way (Except BuildError BuildSummary)) (config : Config)
    (outDir input : Path) : Prop where
  program : x.program = (buildSheet config outDir input).run
  course : SheetCourse config outDir input x.exchanges
  recorded : Recorded x.exchanges x.transfers

namespace Way.Built

variable {source destination p q : Path} {bytes bytes' : ByteArray}

theorem exists_ok {t : Transfer} (h : x.Built config outDir input) (ht : t ∈ x.transfers) :
    ∃ n, t.outcome? = some (.ok n) :=
  h.recorded.exists_ok h.course.fitting h.course.joined ht

/-- One file is written, with the name of the input. -/
theorem wrote (h : x.Built config outDir input) :
    ∃ name content, input.fileName? = some name ∧ ∀ p bytes answer,
      ⟨.write p bytes, answer⟩ ∈ x.exchanges → p = outDir.join ⟨name⟩ ∧ bytes = content := by
  obtain ⟨name, content, hname, hwritten⟩ := h.course.written
  refine ⟨name, content, hname, fun p bytes answer hmem => ?_⟩
  have hwrote : (p, bytes) ∈ x.exchanges.filterMap Exchange.wrote? :=
    List.mem_filterMap.2 ⟨_, hmem, rfl⟩
  rw [hwritten, List.mem_singleton] at hwrote
  exact Prod.mk.inj hwrote

theorem exists_start (h : x.Built config outDir input) (hcopies : x.Copies source destination) :
    ∃ ticket, ⟨.start source destination, ticket⟩ ∈ x.exchanges := by
  obtain ⟨outcome?, hmem⟩ := hcopies
  obtain ⟨ticket, hticket⟩ := List.getElem?_of_mem hmem
  obtain ⟨⟨r, answer⟩, he, hstarted⟩ := List.mem_filterMap.1 (h.recorded.mem_startedIn hticket)
  cases r with
  | start =>
    cases hstarted
    exact ⟨_, he⟩
  | _ => cases hstarted

/-- The claims are those of the copies, one after the other. -/
theorem claimed_eq (h : x.Built config outDir input) :
    x.exchanges.filterMap Exchange.claimed? =
      x.transfers.map fun t => ⟨t.source, t.destination⟩ := by
  have hcopied : Exchange.copied? =
      fun e => e.started?.map fun copy => ⟨copy.source, copy.destination⟩ := by
    funext ⟨r, answer⟩
    cases r <;> rfl
  rw [h.course.claimed, hcopied, ← List.map_filterMap, ← startedIn, h.recorded.started]
  exact List.ext_getElem (by simp) fun i hi hi' => by simp

/-- What is copied is claimed, and nothing else. -/
theorem exists_claim_iff (h : x.Built config outDir input) {r : CopyRequest} :
    (∃ e ∈ x.exchanges, e.claimed? = some r) ↔ x.Copies r.source r.destination := by
  rw [← List.mem_filterMap, h.claimed_eq, List.mem_map]
  constructor
  · rintro ⟨t, ht, rfl⟩
    exact ⟨t.outcome?, ht⟩
  · rintro ⟨outcome?, ht⟩
    exact ⟨_, ht, rfl⟩

/-- What has a name is copied to a canonical path. -/
theorem isCanonical (h : x.Built config outDir input) (hsettled : config.Settled)
    (hcopies : x.Copies source destination) (hnamed : source.fileName? ≠ none) :
    destination.IsCanonical := by
  obtain ⟨ticket, hstart⟩ := h.exists_start hcopies
  obtain ⟨-, directory, name, rfl, hmade, hname⟩ := h.course.fitting.of_mem hstart
  obtain ⟨⟨category, hdirectory⟩, -⟩ := h.course.fitting.of_mem hmade
  exact (hsettled.isCanonical hdirectory).join (hname hnamed)

theorem normal (h : x.Built config outDir input) (hcopies : x.Copies source destination) :
    ∃ q : Path, source = q.normalize := by
  obtain ⟨ticket, hstart⟩ := h.exists_start hcopies
  exact (h.course.fitting.of_mem hstart).1

theorem neat (h : x.Built config outDir input) (hsettled : config.Settled) {deed : Deed}
    (hdeed : x.Does deed) {a : Act} (hact : deed.act? = some a) : a.Neat := by
  cases deed with
  | copied source destination outcome =>
    cases hact
    exact h.normal ⟨some outcome, hdeed⟩
  | asked e =>
    have hfits := h.course.fitting.of_mem hdeed
    obtain ⟨r, answer⟩ := e
    cases r with
    | size p =>
      obtain ⟨hp, n, rfl⟩ := hfits
      cases hact
      exact hp
    | read p =>
      obtain ⟨hp, content, rfl⟩ := hfits
      cases hact
      exact hp
    | write p bytes =>
      obtain rfl : answer = .ok () := hfits
      cases hact
      trivial
    | createDirectories p =>
      obtain ⟨⟨category, hdirectory⟩, rfl⟩ := hfits
      cases hact
      exact hsettled.isCanonical hdirectory
    | claim | start | join => cases hact

theorem intact (h : x.Built config outDir input) {deed : Deed} (hdeed : x.Does deed) {a : Act}
    (hact : deed.act? = some a) : ¬a.Refused := by
  rintro ⟨source, destination, cause, rfl⟩
  cases deed with
  | copied s t outcome =>
    cases hact
    obtain ⟨n, hn⟩ := h.exists_ok hdeed
    cases hn
  | asked e =>
    obtain ⟨r, answer⟩ := e
    cases r with
    | size | read | write | createDirectories =>
      cases answer with
      | error cause => cases hact
      | ok u => cases hact
    | claim | start | join => cases hact

/-- The way is sound if what is done on it stands. -/
theorem sound {written : Location → Prop} {after : Disk} (h : x.Built config outDir input)
    (hleads : x.program.Leads x.exchanges (done x.result))
    (hstands : ∀ deed, x.Does deed → ∀ a ∈ deed.act?, a.Stands written before after) :
    x.Sound config outDir written before after := by
  refine ⟨hleads, h.course.fitting, h.course.orderly, h.recorded, h.course.joined,
    fun p bytes answer hmem => ?_, fun e he a ha => hstands (.asked e) he a ha, fun t ht => ?_⟩
  · obtain ⟨name, content, hname, hwrote⟩ := h.wrote
    exact ⟨name, (hwrote p bytes answer hmem).1, Path.isName_of_fileName? hname⟩
  · obtain ⟨n, hn⟩ := h.exists_ok ht
    obtain ⟨source, destination, outcome?⟩ := t
    obtain rfl : outcome? = some (.ok n) := hn
    exact ⟨.ok n, rfl, hstands (.copied source destination (.ok n)) ht _ rfl⟩

end Way.Built

/-! ### Runs of builders -/

namespace Crew

variable {c : Crew (Except BuildError BuildSummary)} {schedule : List Turn}

/-- Builders that have come to summaries have built their stylesheets. -/
theorem Finishes.built (h : c.Finishes schedule ways)
    (hworkers : c.workers = inputs.map fun input => ⟨(buildSheet config outDir input).run, []⟩)
    (hinputs : ∀ input ∈ inputs, ∃ q : Path, input = q.normalize)
    (hok : ∀ x ∈ ways, ∃ summary, x.result = .ok summary) :
    List.Forall₂ (fun input x => x.Built config outDir input) inputs ways := by
  have hprograms : List.Forall₂ (fun input x => (buildSheet config outDir input).run = x.program)
      inputs ways := by
    have heq := congrArg (List.map Worker.program) (hworkers.symm.trans h.starts)
    rw [List.map_map, List.map_map] at heq
    have hsame : List.Forall₂ (· = ·) (inputs.map fun input => (buildSheet config outDir input).run)
        (ways.map Way.program) := List.forall₂_eq_eq_eq ▸ heq
    exact List.forall₂_map_right_iff.1 (List.forall₂_map_left_iff.1 hsame)
  obtain ⟨hlength, hpairs⟩ := List.forall₂_iff_zip.1 hprograms
  refine List.forall₂_iff_zip.2 ⟨hlength, fun {input x} hpair => ?_⟩
  have hprogram := hpairs hpair
  obtain ⟨hinput, hx⟩ := List.of_mem_zip hpair
  obtain ⟨summary, hresult⟩ := hok x hx
  have hleads := h.leads hx
  rw [← hprogram, hresult] at hleads
  have hcourse := sheetCourse_of_leads (hinputs input hinput) hleads
  exact ⟨hprogram.symm, hcourse, h.recorded hx hcourse.orderly⟩

theorem Finishes.fits_of_built (h : c.Finishes schedule ways)
    (hbuilt : ∀ x ∈ ways, ∃ input, x.Built config outDir input) (i : Nat) (deed : Deed)
    (hmem : (i, deed) ∈ c.log schedule) : deed.Fits config := by
  refine h.fits (fun x hx => ?_) i deed hmem
  obtain ⟨input, hx⟩ := hbuilt x hx
  exact hx.course.fitting

/-- Builders that have built their stylesheets, and have written nothing that they looked at. -/
theorem Succeeds.of_built (h : c.Finishes schedule ways)
    (hmade : before.createDirectories outDir = (.ok (), c.shared.session.disk))
    (hbuilt : ∀ x ∈ ways, ∃ input, x.Built config outDir input) (hsettled : config.Settled)
    (htree : before.IsTree)
    (hapart : ReadsApart before (c.run schedule).shared.session.disk
      ((.made outDir :: actsOf (c.log schedule)).map Act.event)) :
    c.Succeeds schedule ways config outDir before := by
  have hfits := h.fits_of_built hbuilt
  have hpasses := Disk.Passes.cons (a := .made outDir) hmade (c.did_run hfits).1
  have hstands {x : Way (Except BuildError BuildSummary)} (hx : x ∈ ways) {deed : Deed}
      (hdeed : x.Does deed) {a : Act} (hact : deed.act? = some a) :
      a.Stands (WrittenBy before (actsOf (c.log schedule))) before
        (c.run schedule).shared.session.disk := by
    obtain ⟨input, hbuilt⟩ := hbuilt x hx
    have hmem : a ∈ actsOf (c.log schedule) := h.mem_actsOf.2 ⟨x, hx, deed, hdeed, hact⟩
    rw [← writtenBy_made before outDir]
    exact hpasses.stands htree hapart (List.mem_cons_of_mem _ hmem)
      (hbuilt.neat hsettled hdeed hact) (hbuilt.intact hdeed hact)
  refine ⟨h, hmade, fun x hx => ?_⟩
  obtain ⟨input, hbuilt⟩ := hbuilt x hx
  exact hbuilt.sound (h.leads hx) fun deed hdeed a ha => hstands hx hdeed ha

/-- What has been copied went to a canonical path. -/
theorem Succeeds.isCanonical (h : c.Succeeds schedule ways config outDir before)
    (hbuilt : ∀ x ∈ ways, ∃ input, x.Built config outDir input) (hsettled : config.Settled)
    (hx : x ∈ ways) {source destination : Path} (hcopies : x.Copies source destination) :
    destination.IsCanonical := by
  obtain ⟨input, hbuilt⟩ := hbuilt x hx
  obtain ⟨outcome?, hmem⟩ := id hcopies
  obtain ⟨-, -, k, l, bytes, hshown, -⟩ := (h.sound x hx).copied _ hmem
  exact hbuilt.isCanonical hsettled hcopies (Disk.fileName?_of_resolve hshown.resolve)

/-- At the place there is nothing to choose between: what two workers copy there has one source, one
worker knows the place by one name, and nothing else is written there. -/
structure Agrees {α : Type} (c : Crew α) (before : Disk) (l : Location) : Prop where
  apart : c.workers.Pairwise fun w w' => ∀ t ∈ w.transfers, ∀ t' ∈ w'.transfers,
    before.placeOf t.destination = l → before.placeOf t'.destination = l →
      t.source.same t'.source = true
  spelled : ∀ w ∈ c.workers, ∀ t ∈ w.transfers, ∀ t' ∈ w.transfers,
    before.placeOf t.destination = l → before.placeOf t'.destination = l →
      t.destination.same t'.destination = true
  aside : ∀ e ∈ c.shared.session.journal.toList, ∀ e' ∈ c.shared.session.journal.toList,
    ∀ p ∈ e.destination?, ∀ q ∈ e'.output?, before.placeOf p = l → before.placeOf q ≠ l

/-- The input of a builder. -/
theorem exists_input {x : Way (Except BuildError BuildSummary)}
    (hbuilt : List.Forall₂ (fun input x => x.Built config outDir input) inputs ways)
    (hx : x ∈ ways) : ∃ (i : Nat) (input : Path), ways[i]? = some x ∧ inputs[i]? = some input ∧
      x.Built config outDir input := by
  obtain ⟨hlength, hpairs⟩ := List.forall₂_iff_zip.1 hbuilt
  obtain ⟨i, hi⟩ := List.getElem?_of_mem hx
  have hlt := (List.getElem?_eq_some_iff.1 hi).1
  rw [← hlength] at hlt
  have hinput := List.getElem?_eq_getElem hlt
  exact ⟨i, _, hi, hinput,
    hpairs (List.mem_of_getElem? (List.getElem?_zip_eq_some.2 ⟨hinput, hi⟩))⟩

/-- Builders of inputs with names of their own write one text to a place. -/
theorem eq_of_writes {x y : Way (Except BuildError BuildSummary)} {p q : Path}
    {bytes bytes' : ByteArray}
    (hbuilt : List.Forall₂ (fun input x => x.Built config outDir input) inputs ways)
    (hnames : (inputs.map (·.fileName?)).Nodup) (hx : x ∈ ways) (hy : y ∈ ways)
    (hwrites : x.Writes p bytes) (hwrites' : y.Writes q bytes')
    (hplace : before.placeOf p = before.placeOf q) : bytes = bytes' := by
  obtain ⟨i, input, hi, hinput, hx⟩ := exists_input hbuilt hx
  obtain ⟨j, input', hj, hinput', hy⟩ := exists_input hbuilt hy
  obtain ⟨name, content, hname, hwrote⟩ := hx.wrote
  obtain ⟨name', content', hname', hwrote'⟩ := hy.wrote
  obtain ⟨rfl, rfl⟩ := hwrote p bytes _ hwrites
  obtain ⟨rfl, -⟩ := hwrote' q bytes' _ hwrites'
  rw [Disk.placeOf_join _ _ (Path.isName_of_fileName? hname),
    Disk.placeOf_join _ _ (Path.isName_of_fileName? hname')] at hplace
  obtain rfl : name = name' := by simpa using hplace
  -- Their inputs have one name, so that they are one builder.
  have hij : i = j := by
    refine (List.getElem?_inj ?_ hnames).1 ?_
    · rw [List.length_map]
      exact (List.getElem?_eq_some_iff.1 hinput).1
    · rw [List.getElem?_map, List.getElem?_map, hinput, hinput']
      exact congrArg some (hname.trans hname'.symm)
  rw [hij, hj] at hi
  rw [← Option.some.inj hi] at hwrote
  exact (hwrote _ bytes' _ hwrites').2.symm

/-- Builders of inputs with names of their own dispute no place where they agree. -/
theorem Finishes.undisputed {l : Location} (h : c.Finishes schedule ways)
    (hbuilt : List.Forall₂ (fun input x => x.Built config outDir input) inputs ways)
    (hnames : (inputs.map (·.fileName?)).Nodup)
    (hnoted : (actsOf (c.log schedule)).map Act.event ⊆
      (c.run schedule).shared.session.journal.toList)
    (hagrees : (c.run schedule).Agrees before l) : Undisputed before ways l := by
  have hmem {x : Way (Except BuildError BuildSummary)} (hx : x ∈ ways) (deed : Deed)
      (hdeed : x.Does deed) {a : Act} (hact : deed.act? = some a) :
      a.event ∈ (c.run schedule).shared.session.journal.toList :=
    hnoted (List.mem_map_of_mem (h.mem_actsOf.2 ⟨x, hx, deed, hdeed, hact⟩))
  obtain ⟨hapart, hspelled, haside⟩ := hagrees
  rw [h.ends] at hapart hspelled
  refine ⟨fun x hx y hy p bytes q bytes' hwrites hwrites' hl hl' =>
      eq_of_writes hbuilt hnames hx hy hwrites hwrites' (hl.trans hl'.symm),
    fun x hx y hy source destination q bytes hcopy hwrites => ?_,
    fun x hx source destination source' destination' hcopy hcopy' => ?_, ?_⟩
  · obtain ⟨outcome?, ht⟩ := hcopy
    obtain ⟨-, input, -, -, hbuilt⟩ := exists_input hbuilt hx
    obtain ⟨n, hn⟩ := hbuilt.exists_ok ht
    obtain rfl : outcome? = some (.ok n) := hn
    have hcopied : Event.copied source destination ∈
        (c.run schedule).shared.session.journal.toList :=
      hmem hx (.copied source destination (.ok n)) ht rfl
    have hwrote : Event.wrote q ∈ (c.run schedule).shared.session.journal.toList :=
      hmem hy (.asked ⟨.write q bytes, .ok ()⟩) hwrites rfl
    exact haside _ hcopied _ hwrote destination rfl q rfl
  · obtain ⟨outcome?, ht⟩ := hcopy
    obtain ⟨outcome?', ht'⟩ := hcopy'
    exact hspelled _ (List.mem_map_of_mem hx) ⟨source, destination, outcome?⟩ ht
      ⟨source', destination', outcome?'⟩ ht'
  · refine (List.pairwise_map.1 hapart).imp fun {x y} hxy => ?_
    rintro source destination source' destination' ⟨outcome?, ht⟩ ⟨outcome?', ht'⟩ hl hl'
    exact hxy ⟨source, destination, outcome?⟩ ht ⟨source', destination', outcome?'⟩ ht' hl hl'

end Crew

/-! ### Whole builds -/

section Builds

variable {config : Config} {inputs : List Path} {outDir : Path} {disk : Disk}
  {schedule : List Turn} {summary : BuildSummary} {c : Crew (Except BuildError BuildSummary)}
  {ways : List (Way (Except BuildError BuildSummary))}

/-- The session in which builders set out. -/
def madeFor (outDir : Path) (d : Disk) : Session := ⟨d, #[.createdDirectories outDir]⟩

theorem setOut_run (config : Config) (inputs : List Path) (outDir : Path) (disk : Disk) :
    ((setOut config inputs outDir).run ⟨disk, #[]⟩).1 =
      (checkNames [] (inputs.map (·.absolutize config.workDir))).bind fun _ =>
        (disk.createDirectories outDir).1.mapError (.outputDirectory outDir) |>.map fun _ =>
          builders config (inputs.map (·.absolutize config.workDir)) outDir
            (madeFor outDir (disk.createDirectories outDir).2) := by
  unfold setOut
  dsimp only [ExceptT.run]
  cases hnames : checkNames [] (inputs.map (·.absolutize config.workDir)) with
  | error e => rfl
  | ok u =>
    have hmade : Session.createDirectories outDir ⟨disk, #[]⟩ =
        ((disk.createDirectories outDir).1, madeFor outDir (disk.createDirectories outDir).2) := rfl
    dsimp only
    rw [liftM_bind, hmade]
    cases (disk.createDirectories outDir).1 <;> rfl

/-- Builders set out if the names of the inputs are in order and the directory can be made. -/
theorem buildUnder_eq_ok : buildUnder schedule config inputs outDir disk = .ok c ↔
    checkNames [] (inputs.map (·.absolutize config.workDir)) = .ok () ∧
      ∃ d, disk.createDirectories outDir = (.ok (), d) ∧
        c = (builders config (inputs.map (·.absolutize config.workDir)) outDir
          (madeFor outDir d)).run schedule := by
  rw [buildUnder, setOut_run]
  cases checkNames [] (inputs.map (·.absolutize config.workDir)) with
  | error e => exact iff_of_false nofun nofun
  | ok u =>
    obtain ⟨answer, d⟩ := disk.createDirectories outDir
    cases answer with
    | error cause => exact iff_of_false nofun nofun
    | ok u =>
      constructor
      · rintro ⟨⟩
        exact ⟨rfl, d, rfl, rfl⟩
      · rintro ⟨-, d, ⟨⟩, rfl⟩
        rfl

/-- The summary of workers that are all at their ends. -/
theorem Crew.Finishes.summary? {summaries : List BuildSummary} (h : c.Finishes schedule ways)
    (hresults : ways.map Way.result = summaries.map .ok) :
    (c.run schedule).summary? =
      some (.ok (totalOf summaries (c.run schedule).shared.registry.conflicts)) := by
  rw [Crew.summary?, h.results?, hresults, Option.map_some, mapM_id_eq_ok.2 rfl]
  rfl

/-- Builders who have set out for some inputs, and come through with a summary on these ways. -/
structure CameThrough (c : Crew (Except BuildError BuildSummary)) (schedule : List Turn)
    (config : Config) (inputs : List Path) (outDir : Path) (disk : Disk) (summary : BuildSummary)
    (ways : List (Way (Except BuildError BuildSummary))) : Prop where
  names : checkNames [] inputs = .ok ()
  made : disk.createDirectories outDir = (.ok (), c.shared.session.disk)
  crew : c = builders config inputs outDir (madeFor outDir c.shared.session.disk)
  finishes : c.Finishes schedule ways
  built : List.Forall₂ (fun input x => x.Built config outDir input) inputs ways
  summed : ∃ summaries, ways.map Way.result = summaries.map .ok ∧
    summary = totalOf summaries (c.run schedule).shared.registry.conflicts

theorem exists_cameThrough (h : buildUnder schedule config inputs outDir disk = .ok c)
    (hsummary : c.summary? = some (.ok summary)) :
    ∃ c₀ ways, c = c₀.run schedule ∧ CameThrough c₀ schedule config
      (inputs.map (·.absolutize config.workDir)) outDir disk summary ways := by
  obtain ⟨hnames, d, hmade, rfl⟩ := buildUnder_eq_ok.1 h
  obtain ⟨results, hresults, heq⟩ := Option.map_eq_some_iff.1 hsummary
  obtain ⟨ways, hfinishes⟩ := Crew.exists_finishes
    (by simp only [builders, List.mem_map]; rintro w ⟨input, -, rfl⟩; rfl)
    (Crew.exists_done_of_results? hresults)
  obtain rfl := Option.some.inj (hfinishes.results?.symm.trans hresults)
  cases hok : (ways.map Way.result).mapM id with
  | error e =>
    rw [hok] at heq
    cases heq
  | ok summaries =>
    have hsummaries := mapM_id_eq_ok.1 hok
    rw [hok] at heq
    obtain rfl := Except.ok.inj heq
    refine ⟨_, ways, rfl, hnames, hmade, rfl, hfinishes, ?_, summaries, hsummaries, rfl⟩
    refine hfinishes.built rfl (fun input hinput => ?_) fun x hx => ?_
    · obtain ⟨p, -, rfl⟩ := List.mem_map.1 hinput
      exact ⟨_, rfl⟩
    · have hresult : x.result ∈ summaries.map .ok := hsummaries ▸ List.mem_map_of_mem hx
      obtain ⟨s, -, hs⟩ := List.mem_map.1 hresult
      exact ⟨s, hs.symm⟩

namespace CameThrough

theorem summary? (h : CameThrough c schedule config inputs outDir disk summary ways) :
    (c.run schedule).summary? = some (.ok summary) := by
  obtain ⟨summaries, hresults, rfl⟩ := h.summed
  exact h.finishes.summary? hresults

theorem forall_built (h : CameThrough c schedule config inputs outDir disk summary ways) :
    ∀ x ∈ ways, ∃ input, x.Built config outDir input := by
  intro x hx
  obtain ⟨-, input, -, -, hbuilt⟩ := Crew.exists_input h.built hx
  exact ⟨input, hbuilt⟩

theorem did (h : CameThrough c schedule config inputs outDir disk summary ways) :
    c.shared.session.disk.Passes (actsOf (c.log schedule)) (c.run schedule).shared.session.disk ∧
      (c.run schedule).shared.registry = CopyRegistry.claimAll {} (claimsOf (c.log schedule)) ∧
      (.made outDir :: actsOf (c.log schedule)).map Act.event ⊆
        (c.run schedule).shared.session.journal.toList := by
  obtain ⟨hpasses, hregistry, hnoted⟩ := c.did_run (h.finishes.fits_of_built h.forall_built)
  have hnone : c.shared.registry = {} := congrArg (·.shared.registry) h.crew
  have hmade : c.shared.session.journal = #[.createdDirectories outDir] :=
    congrArg (·.shared.session.journal) h.crew
  rw [hnone] at hregistry
  refine ⟨hpasses, hregistry, fun e he => Array.mem_toList_iff.2 (hnoted e ?_)⟩
  rcases List.mem_cons.1 he with rfl | he
  · rw [hmade]
    exact .inl (Array.mem_singleton.2 rfl)
  · exact .inr he

theorem succeeds (h : CameThrough c schedule config inputs outDir disk summary ways)
    (hsettled : config.Settled) (htree : disk.IsTree)
    (hapart : ReadsApart disk (c.run schedule).shared.session.disk
      (c.run schedule).shared.session.journal.toList) :
    c.Succeeds schedule ways config outDir disk :=
  .of_built h.finishes h.made h.forall_built hsettled htree (hapart.mono h.did.2.2)

end CameThrough

end Builds

end StylesheetAssets.Parallel
