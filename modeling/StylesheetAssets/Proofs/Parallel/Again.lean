import StylesheetAssets.Proofs.Disk.Redone
import StylesheetAssets.Proofs.Parallel.AnyOrder

/-!
Builds on the disk that the same build has left.

Under the same schedule the second build does what the first one did, turn by turn. Under another
one its builders go the same ways, as all that they look at is still there.
-/
namespace StylesheetAssets.Parallel

open Program

/-! ### Under the same schedule -/

section Again

variable {α : Type} {config : Config}

/-- Whether a step is open to a worker is no matter of the disk. -/
theorem Worker.step?_eq_none {w : Worker α} {shared : Shared} {move : Move}
    (h : w.step? shared move = none) (shared' : Shared) : w.step? shared' move = none := by
  cases move with
  | advance =>
    rw [step?] at h ⊢
    cases hprogram : w.program with
    | done a => rfl
    | ask r next =>
      rw [hprogram] at h
      obtain ⟨copy, source, destination, rfl, hticket⟩ :=
        Request.answer?_eq_none (Option.map_eq_none_iff.1 h)
      dsimp only
      rw [Request.answer?, Request.outcomeAt, hticket]
      rfl
  | transfer ticket =>
    rw [step?] at h ⊢
    split at h
    · cases h
    · rfl

/-- A request is answered as before, if the act in it can be made. -/
theorem Request.answer?_again {r : Request} {answer answer' : r.Answer}
    {transfers transfers₁ transfers₁' : List Transfer} {shared shared₁ shared' shared₁' : Shared}
    (h : r.answer? transfers shared = some (answer, transfers₁, shared₁))
    (h' : r.answer? transfers shared' = some (answer', transfers₁', shared₁'))
    (hfits : (Deed.asked ⟨r, answer⟩).Fits config)
    (htakes : ∀ a ∈ (Deed.asked ⟨r, answer⟩).act?, ∃ d, a.Takes shared'.session.disk d) :
    answer' = answer ∧ transfers₁' = transfers₁ := by
  have hgiven := transfers_of_answer? h
  have hgiven' := transfers_of_answer? h'
  obtain ⟨earlier, hfits⟩ := hfits
  obtain rfl : answer' = answer := by
    refine answer_eq h' hfits htakes ?_
    cases r with
    | start => exact hgiven.1
    | join copy => exact fun outcome houtcome => Option.some.inj (houtcome.symm.trans hgiven.1)
    | _ => trivial
  refine ⟨rfl, ?_⟩
  cases r with
  | start => exact hgiven'.2.trans hgiven.2.symm
  | join => exact hgiven'.2.trans hgiven.2.symm
  | _ => exact Eq.trans hgiven' (Eq.symm hgiven)

/-- A step is taken on another disk as well, if the act in it can be made there. -/
theorem Worker.step?_again {w w' : Worker α} {shared shared₁ shared' : Shared} {move : Move}
    {deed : Deed} (h : w.step? shared move = some (deed, w', shared₁)) (hfits : deed.Fits config)
    (htakes : ∀ a ∈ deed.act?, ∃ d, a.Takes shared'.session.disk d) :
    ∃ shared₁', w.step? shared' move = some (deed, w', shared₁') := by
  cases hstep : w.step? shared' move with
  | none =>
    rw [step?_eq_none hstep shared] at h
    cases h
  | some result =>
    obtain ⟨deed', w₁', shared₁'⟩ := result
    refine ⟨shared₁', ?_⟩
    cases move with
    | advance =>
      rw [step?] at h hstep
      cases hprogram : w.program with
      | done a =>
        rw [hprogram] at h
        cases h
      | ask r next =>
        rw [hprogram] at h hstep
        obtain ⟨⟨answer, transfers, _⟩, hanswer, heq⟩ := Option.map_eq_some_iff.1 h
        obtain ⟨⟨answer', transfers', _⟩, hanswer', heq'⟩ := Option.map_eq_some_iff.1 hstep
        cases heq
        cases heq'
        obtain ⟨rfl, rfl⟩ := Request.answer?_again hanswer hanswer' hfits htakes
        rfl
    | transfer ticket =>
      rw [step?] at h hstep
      split at h
      · next source destination hticket =>
        rw [hticket] at hstep
        obtain ⟨outcome, session, hcopy⟩ : ∃ outcome session,
          Session.copyFile source destination shared.session = (outcome, session) := ⟨_, _, rfl⟩
        obtain ⟨outcome', session', hcopy'⟩ : ∃ outcome session,
          Session.copyFile source destination shared'.session = (outcome, session) := ⟨_, _, rfl⟩
        simp only [hcopy, Option.some.injEq, Prod.mk.injEq] at h
        simp only [hcopy', Option.some.injEq, Prod.mk.injEq] at hstep
        obtain ⟨rfl, rfl, -⟩ := h
        obtain ⟨rfl, rfl, rfl⟩ := hstep
        obtain ⟨d, htakes⟩ := htakes _ rfl
        obtain rfl : outcome' = outcome :=
          (congrArg Prod.fst hcopy').symm.trans (congrArg Prod.fst htakes)
        rfl
      · cases h

/-- A crew of the second run beside that of the first run after the same turns. The first run ends
in `final`. -/
structure Crew.Again (final : Disk) (c c' : Crew α) : Prop where
  workers : c'.workers = c.workers
  registry : c'.shared.registry = c.shared.registry
  disk : Redone final c.shared.session.disk c'.shared.session.disk

namespace Crew.Again

variable {final : Disk} {c c' : Crew α} {turn : Turn}

/-- A turn that passes without effect does so again. -/
theorem idle (h : Again final c c') (hnone : c.deed? turn = none) :
    c'.step turn = c' ∧ c'.deed? turn = none := by
  rcases c'.step_cases turn with hidle | ⟨deed, w, w', shared, hw, hstep, -, -⟩
  · exact hidle
  · rw [h.workers] at hw
    cases hstep' : w.step? c.shared turn.move with
    | none =>
      rw [Worker.step?_eq_none hstep' c'.shared] at hstep
      cases hstep
    | some result =>
      have hdeed : c.deed? turn ≠ none := by simp [deed?, step?, hw, hstep']
      exact absurd hnone hdeed

/-- What is done in a turn is done again, if the act in it can be made. -/
theorem step {deed : Deed} {w w' : Worker α} {shared : Shared} {d : Disk} (h : Again final c c')
    (hw : c.workers[turn.worker]? = some w)
    (hstep : w.step? c.shared turn.move = some (deed, w', shared)) (hfits : deed.Fits config)
    (hact : c'.shared.session.disk.Passes deed.act?.toList d)
    (hredone : Redone final shared.session.disk d) :
    c'.deed? turn = some (turn.worker, deed) ∧
      Again final ⟨shared, c.workers.set turn.worker w'⟩ (c'.step turn) := by
  obtain ⟨shared', hstep'⟩ := Worker.step?_again hstep hfits fun a ha => by
    rw [ha] at hact
    exact ⟨d, Disk.passes_singleton.1 hact⟩
  have hdid := Worker.did_of_step? hstep hfits
  have hdid' := Worker.did_of_step? hstep' hfits
  obtain rfl := hact.unique hdid'.disk
  have hw' : c'.workers[turn.worker]? = some w := h.workers ▸ hw
  have hnext : c'.step turn = ⟨shared', c'.workers.set turn.worker w'⟩ := step_of_step? hw' hstep'
  rw [hnext]
  refine ⟨by simp [deed?, step?, hw', hstep'], ?_, ?_, hredone⟩
  · dsimp only
    rw [h.workers]
  · rw [hdid'.registry, hdid.registry, h.registry]

/-- Turn by turn the second run does what the first one did. -/
theorem run {schedule : List Turn} (h : Again final c c')
    (hfits : ∀ i deed, (i, deed) ∈ c.log schedule → deed.Fits config)
    (hintact : ∀ a ∈ actsOf (c.log schedule), ¬a.Refused)
    (hpasses : c.shared.session.disk.Passes (actsOf (c.log schedule)) final)
    (hapart : ReadsApart c.shared.session.disk final ((actsOf (c.log schedule)).map Act.event)) :
    c'.log schedule = c.log schedule ∧ Again final (c.run schedule) (c'.run schedule) := by
  induction schedule generalizing c c' with
  | nil => exact ⟨rfl, h⟩
  | cons turn schedule ih =>
    have hrun (c : Crew α) : c.run (turn :: schedule) = (c.step turn).run schedule := rfl
    rw [log] at hfits hintact hpasses hapart
    rw [log, log, hrun, hrun]
    rcases c.step_cases turn with ⟨hidle, hnone⟩ | ⟨deed, w, w', shared, hw, hstep, hdeed, hnext⟩
    · obtain ⟨hidle', hnone'⟩ := h.idle hnone
      rw [hnone, hidle, Option.toList_none, List.nil_append] at hfits hintact hpasses hapart
      rw [hidle, hnone, hidle', hnone']
      exact ih h hfits hintact hpasses hapart
    · rw [hdeed, hnext, Option.toList_some, List.singleton_append] at hfits hintact hpasses hapart
      rw [actsOf_cons] at hintact hpasses hapart
      have hdeedFits := hfits _ _ List.mem_cons_self
      have hdid := Worker.did_of_step? hstep hdeedFits
      obtain ⟨d, hact, hrest⟩ := Disk.passes_append.1 hpasses
      obtain rfl := hact.unique hdid.disk
      obtain ⟨d', hact', hredone⟩ := h.disk.passes hact hrest hapart
        fun a ha => hintact a (List.mem_append_left _ (Option.mem_toList.2 ha))
      obtain ⟨hdeed', hagain⟩ := h.step hw hstep hdeedFits hact' hredone
      rw [List.map_append] at hapart
      obtain ⟨hlog, hend⟩ := ih hagain
        (fun i deed hmem => hfits i deed (List.mem_cons_of_mem _ hmem))
        (fun a ha => hintact a (List.mem_append_right _ ha)) hrest
        ((hapart.mono (List.subset_append_right _ _)).later hdid.disk.later)
      rw [hdeed, hdeed', hnext, hlog]
      exact ⟨rfl, hend⟩

end Crew.Again

end Again

/-! ### Under another schedule -/

section Builds

variable {config : Config} {inputs : List Path} {outDir : Path} {disk final before : Disk}
  {schedule schedule' : List Turn} {summary : BuildSummary}
  {c c' : Crew (Except BuildError BuildSummary)}
  {ways : List (Way (Except BuildError BuildSummary))}

/-- Claims for a destination that only one worker makes are made in its order. -/
theorem sourcesOf_claimsOf {i : Nat} {log : List (Nat × Deed)} {d : List Component}
    (h : ∀ j deed, (j, deed) ∈ log → ∀ r ∈ deed.claimed?, r.destination.components = d → j = i) :
    sourcesOf (claimsOf log) d = sourcesOf ((exchangesOf i log).filterMap Exchange.claimed?) d := by
  have hsources (claims : List CopyRequest) : sourcesOf claims d = claims.filterMap fun r =>
      if r.destination.components = d then some r.source.components else none := by
    rw [sourcesOf, ← List.filterMap_eq_map, List.filterMap_filter]
    exact List.filterMap_congr fun r _ => by simp
  rw [hsources, hsources, claimsOf, exchangesOf, List.filterMap_filterMap, List.filterMap_filterMap,
    List.filterMap_filterMap]
  refine List.filterMap_congr fun entry hmem => ?_
  obtain ⟨j, deed⟩ := entry
  cases deed with
  | copied => simp [Deed.claimed?, Deed.exchange?]
  | asked e =>
    by_cases hj : j = i
    · simp [hj, Deed.claimed?, Deed.exchange?]
    · cases hclaim : e.claimed? with
      | none => simp [hj, Deed.claimed?, hclaim]
      | some r =>
        have hne : r.destination.components ≠ d := fun hd => hj (h j _ hmem r hclaim hd)
        simp [hj, hne, Deed.claimed?, hclaim]

namespace Crew.Finishes

/-- Where the workers dispute no place, they count the same conflicts under every schedule. -/
theorem conflicts_eq (h : c.Finishes schedule ways) (h' : c'.Finishes schedule' ways)
    (hbuilt : ∀ x ∈ ways, ∃ input, x.Built config outDir input)
    (hundisputed : ∀ l, Undisputed before ways l) :
    (CopyRegistry.claimAll {} (claimsOf (c'.log schedule'))).conflicts =
      (CopyRegistry.claimAll {} (claimsOf (c.log schedule))).conflicts := by
  have hclaims {c : Crew (Except BuildError BuildSummary)} {schedule : List Turn}
      (h : c.Finishes schedule ways) {i : Nat} {deed : Deed} (hmem : (i, deed) ∈ c.log schedule)
      {r : CopyRequest} (hclaim : deed.claimed? = some r) :
      ∃ x, ways[i]? = some x ∧ x.Copies r.source r.destination := by
    obtain ⟨x, hx, hdeed⟩ := h.mem_log.1 hmem
    obtain ⟨input, hbuilt⟩ := hbuilt x (List.mem_of_getElem? hx)
    cases deed with
    | asked e => exact ⟨x, hx, hbuilt.exists_claim_iff.1 ⟨e, hdeed, hclaim⟩⟩
    | copied => cases hclaim
  have hcontested := h.contested_perm h' (.refl _)
  rw [CopyRegistry.conflicts_claimAll, CopyRegistry.conflicts_claimAll, hcontested]
  refine Finset.sum_congr rfl fun d hd => congrArg handovers ?_
  -- Two sources of a destination are those of one worker, and nobody else has a source for it.
  obtain ⟨a, ha, b, hb, hne⟩ := mem_contested.1 hd
  obtain ⟨r, hr, hdestination, rfl⟩ := mem_sourcesOf.1 ha
  obtain ⟨r', hr', hdestination', rfl⟩ := mem_sourcesOf.1 hb
  obtain ⟨⟨i, deed⟩, hmem, hclaim⟩ := List.mem_filterMap.1 hr
  obtain ⟨⟨j, deed'⟩, hmem', hclaim'⟩ := List.mem_filterMap.1 hr'
  obtain ⟨x, hx, hcopies⟩ := hclaims h hmem hclaim
  obtain ⟨y, hy, hcopies'⟩ := hclaims h hmem' hclaim'
  have hsame {i j : Nat} {x y : Way (Except BuildError BuildSummary)} {r r' : CopyRequest}
      (hij : i ≠ j) (hx : ways[i]? = some x) (hy : ways[j]? = some y)
      (hcopies : x.Copies r.source r.destination) (hcopies' : y.Copies r'.source r'.destination)
      (hd : r.destination.components = d) (hd' : r'.destination.components = d) :
      r.source.components = r'.source.components := by
    have hplace : before.placeOf r'.destination = before.placeOf r.destination :=
      before.placeOf_eq_of_same (decide_eq_true (hd'.trans hd.symm))
    exact of_decide_eq_true ((hundisputed _).same hij hx hy hcopies hcopies' rfl hplace)
  obtain rfl : i = j := by
    by_contra hij
    exact hne (hsame hij hx hy hcopies hcopies' hdestination hdestination')
  have howner {c : Crew (Except BuildError BuildSummary)} {schedule : List Turn}
      (h : c.Finishes schedule ways) : sourcesOf (claimsOf (c.log schedule)) d =
        sourcesOf (x.exchanges.filterMap Exchange.claimed?) d := by
    rw [← h.exchanges i x hx]
    refine sourcesOf_claimsOf fun k deed hmem s hs hds => ?_
    obtain ⟨z, hz, hcopies''⟩ := hclaims h hmem hs
    by_contra hk
    refine hne ?_
    rw [← hsame hk hz hx hcopies'' hcopies hds hdestination,
      ← hsame hk hz hy hcopies'' hcopies' hds hdestination']
  rw [howner h, howner h']

end Crew.Finishes

namespace CameThrough

theorem intact (h : CameThrough c schedule config inputs outDir disk summary ways) {a : Act}
    (ha : a ∈ actsOf (c.log schedule)) : ¬a.Refused := by
  obtain ⟨x, hx, deed, hdeed, hact⟩ := h.finishes.mem_actsOf.1 ha
  obtain ⟨input, hx⟩ := h.forall_built x hx
  exact hx.intact hdeed hact

/-- On the disk that they have left, the builders do the same, turn by turn. -/
theorem retrace (h : CameThrough c schedule config inputs outDir disk summary ways)
    (hapart : ReadsApart disk final (c.run schedule).shared.session.journal.toList)
    (hfinal : (c.run schedule).shared.session.disk = final)
    (hcrew : c' = builders config inputs outDir (madeFor outDir final)) :
    c'.log schedule = c.log schedule ∧ Crew.Again final (c.run schedule) (c'.run schedule) := by
  obtain ⟨hpasses, -, hnoted⟩ := h.did
  rw [hfinal] at hpasses
  have hmade : (Act.made outDir).Takes disk c.shared.session.disk := h.made
  have hdisk : c'.shared.session.disk = final := congrArg (·.shared.session.disk) hcrew
  have hstart : Crew.Again final c c' := by
    refine ⟨?_, ?_, by rw [hdisk, hpasses.later.workDir], fun l => .inl (by rw [hdisk])⟩
    · rw [hcrew, h.crew]
      rfl
    · rw [hcrew, h.crew]
      rfl
  exact hstart.run (h.finishes.fits_of_built h.forall_built) (fun a => h.intact) hpasses
    (((hapart.mono hnoted).mono (List.subset_cons_self ..)).later hmade.later)

/-- On the disk that they have left, and under the same schedule, the builders come through again
and change nothing. -/
theorem again (h : CameThrough c schedule config inputs outDir disk summary ways)
    (hapart : ReadsApart disk final (c.run schedule).shared.session.journal.toList)
    (hfinal : (c.run schedule).shared.session.disk = final)
    (hcrew : c' = builders config inputs outDir (madeFor outDir final)) :
    CameThrough c' schedule config inputs outDir final summary ways ∧
      c'.Succeeds schedule ways config outDir final ∧
      ∀ l, (c'.run schedule).shared.session.disk.get? l = final.get? l := by
  obtain ⟨hlog, hends, hregistry, hredone⟩ := h.retrace hapart hfinal hcrew
  obtain ⟨hpasses, -, hnoted⟩ := h.did
  rw [hfinal] at hpasses hredone
  have hmade : (Act.made outDir).Takes disk c.shared.session.disk := h.made
  have hdisk : c'.shared.session.disk = final := congrArg (·.shared.session.disk) hcrew
  have hsame (l : Location) : (c'.run schedule).shared.session.disk.get? l = final.get? l :=
    (hredone.either l).elim id And.left
  have hfinishes : c'.Finishes schedule ways := by
    refine ⟨?_, hends.trans h.finishes.ends, fun i x hx => ?_⟩
    · rw [← h.finishes.starts, hcrew, h.crew]
      rfl
    · rw [hlog, h.finishes.exchanges i x hx]
  have hthere : final.createDirectories outDir = (.ok (), c'.shared.session.disk) := by
    rw [hdisk]
    exact ((Disk.reaches_of_createDirectories h.made).later hpasses.later.workDir
      hpasses.later.directories).createDirectories
  have hcrew' : c' = builders config inputs outDir (madeFor outDir c'.shared.session.disk) := by
    rw [hdisk, hcrew]
  refine ⟨⟨h.names, hthere, hcrew', hfinishes, h.built, ?_⟩, ⟨hfinishes, hthere, fun x hx => ?_⟩,
    hsame⟩
  · rw [hregistry]
    exact h.summed
  · obtain ⟨input, hbuilt⟩ := h.forall_built x hx
    refine hbuilt.sound (h.finishes.leads hx) fun deed hdeed a hact => ?_
    have hmem : a ∈ actsOf (c.log schedule) := h.finishes.mem_actsOf.2 ⟨x, hx, deed, hdeed, hact⟩
    rw [hlog, ← writtenBy_made final outDir]
    exact (Disk.Passes.cons hmade hpasses).stands_again (hapart.mono hnoted)
      (List.mem_cons_of_mem _ hmem) (h.intact hmem) hsame

/-- Wherever the builders come to their ends, they count the same except for conflicts. They leave
the same where they dispute no place, and where they dispute none at all, they count the same
conflicts. -/
theorem elsewhen (h : CameThrough c schedule config inputs outDir disk summary ways)
    (hsucceeds : c.Succeeds schedule ways config outDir disk)
    (hdone : ∀ w ∈ (c.run schedule').workers, ∃ a, w.program = done a) :
    ∃ conflicts, (c.run schedule').summary? = some (.ok { summary with conflicts }) ∧
      (∀ l, Undisputed disk ways l → (c.run schedule').shared.session.disk.get? l =
        (c.run schedule).shared.session.disk.get? l) ∧
      ((∀ l, Undisputed disk ways l) → conflicts = summary.conflicts) := by
  have hsucceeds' := hsucceeds.perm (.refl _) hsucceeds.finishes.starts rfl hdone
  obtain ⟨summaries, hresults, rfl⟩ := h.summed
  refine ⟨_, hsucceeds'.finishes.summary? hresults,
    fun l hundisputed => hsucceeds.get?_eq hsucceeds' (.refl _) hundisputed, fun hundisputed => ?_⟩
  have hnone : c.shared.registry = {} := congrArg (·.shared.registry) h.crew
  dsimp only [totalOf]
  rw [hsucceeds'.did.2.1, hsucceeds.did.2.1, hnone]
  exact hsucceeds.finishes.conflicts_eq hsucceeds'.finishes h.forall_built hundisputed

end CameThrough

/-- A build that writes nothing that it reads can be made again. Under the schedule of the first
build, conflicts or not, it has the same summary and changes nothing. Under any other schedule it
can be carried on to its end as well, where it has copied and inlined as much, and has changed only
places on which two stylesheets do not agree. If they agree on all of them, it has counted the same
conflicts. -/
theorem buildUnder_again (h : buildUnder schedule config inputs outDir disk = .ok c)
    (hsummary : c.summary? = some (.ok summary))
    (hapart : ReadsApart disk c.shared.session.disk c.shared.session.journal.toList) :
    (∃ c', buildUnder schedule config inputs outDir c.shared.session.disk = .ok c' ∧
      c'.summary? = some (.ok summary) ∧
      ∀ l, c'.shared.session.disk.get? l = c.shared.session.disk.get? l) ∧
    ∀ schedule', ∃ c', buildUnder schedule' config inputs outDir c.shared.session.disk = .ok c' ∧
      (∃ more answer, (c'.run more).summary? = some (.ok answer)) ∧
      ∀ answer, c'.summary? = some answer →
        ∃ conflicts, answer = .ok { summary with conflicts } ∧
          (∀ l, c.Agrees disk l →
            c'.shared.session.disk.get? l = c.shared.session.disk.get? l) ∧
          ((∀ l, c.Agrees disk l) → conflicts = summary.conflicts) := by
  obtain ⟨c₀, ways, rfl, hcame⟩ := exists_cameThrough h hsummary
  obtain ⟨hagain, hsucceeds, hsame⟩ := hcame.again hapart rfl rfl
  obtain ⟨hpasses, -, hnoted⟩ := hcame.did
  have hmade : (Act.made outDir).Takes disk c₀.shared.session.disk := hcame.made
  have hundisputed {l : Location} (hagrees : (c₀.run schedule).Agrees disk l) :
      Undisputed (c₀.run schedule).shared.session.disk ways l :=
    (hcame.finishes.undisputed hcame.built (checkNames_eq_ok.1 hcame.names).2
      (fun e he => hnoted (List.mem_cons_of_mem _ he)) hagrees).congr
        (hmade.later.trans hpasses.later).workDir
  refine ⟨⟨_, buildUnder_eq_ok.2 ⟨hagain.names, _, hagain.made, rfl⟩, hagain.summary?, hsame⟩,
    fun schedule' => ⟨_, buildUnder_eq_ok.2 ⟨hagain.names, _, hagain.made, rfl⟩, ?_,
      fun answer hanswer => ?_⟩⟩
  · obtain ⟨more, hdone⟩ := Crew.exists_all_done (Crew.run _ schedule')
    rw [← Crew.run_append] at hdone
    obtain ⟨conflicts, hanswer, -⟩ := hagain.elsewhen hsucceeds hdone
    refine ⟨more, { summary with conflicts }, ?_⟩
    rw [← Crew.run_append]
    exact hanswer
  · obtain ⟨results, hresults, -⟩ := Option.map_eq_some_iff.1 hanswer
    obtain ⟨conflicts, hsummary', hdisk, hconflicts⟩ :=
      hagain.elsewhen hsucceeds (Crew.exists_done_of_results? hresults)
    refine ⟨conflicts, Option.some.inj (hanswer.symm.trans hsummary'), fun l hl => ?_,
      fun hagrees => hconflicts fun l => hundisputed (hagrees l)⟩
    exact (hdisk l (hundisputed hl)).trans (hsame l)

end Builds

/-! ### Two stylesheets that copy to one place -/

/-- Both files go to one place. Their stylesheets have changed hands once, and do so again. -/
theorem buildUnder_again_namesakes :
    let config := sorting ⟨"/out/a"⟩ ⟨"/out/a"⟩
    let inputs : List Path := [⟨"/x/a.css"⟩, ⟨"/y/b.css"⟩]
    ∃ c, buildUnder (inTurn [0, 1]) config inputs ⟨"/out"⟩ namesakes = .ok c ∧
      c.summary? = some (.ok ⟨⟨0, 2, 0⟩, 2, 1⟩) ∧
      ReadsApart namesakes c.shared.session.disk c.shared.session.journal.toList ∧
      (∃ c', buildUnder (inTurn [0, 1]) config inputs ⟨"/out"⟩ c.shared.session.disk = .ok c' ∧
        c'.summary? = some (.ok ⟨⟨0, 2, 0⟩, 2, 1⟩) ∧
        ∀ l, c'.shared.session.disk.get? l = c.shared.session.disk.get? l) ∧
      ∀ schedule', ∃ c',
        buildUnder schedule' config inputs ⟨"/out"⟩ c.shared.session.disk = .ok c' ∧
          (∃ more answer, (c'.run more).summary? = some (.ok answer)) ∧
          ∀ answer, c'.summary? = some answer →
            ∃ conflicts, answer = .ok ⟨⟨0, 2, 0⟩, 2, conflicts⟩ ∧
              (∀ l, c.Agrees namesakes l →
                c'.shared.session.disk.get? l = c.shared.session.disk.get? l) ∧
              ((∀ l, c.Agrees namesakes l) → conflicts = 1) := by
  intro config inputs
  obtain ⟨c, hbuild, hsummary, hapart⟩ :
      ∃ c ∈ (buildUnder (inTurn [0, 1]) config inputs ⟨"/out"⟩ namesakes).toOption,
        c.summary? = some (.ok ⟨⟨0, 2, 0⟩, 2, 1⟩) ∧
        ReadsApart namesakes c.shared.session.disk c.shared.session.journal.toList := by
    decide +kernel
  have hbuild := eq_ok_of_toOption hbuild
  exact ⟨c, hbuild, hsummary, hapart, buildUnder_again hbuild hsummary hapart⟩

/-- When the other stylesheet comes last, the second build changes what the first one left. -/
theorem buildUnder_again_elsewhen :
    let config := sorting ⟨"/out/a"⟩ ⟨"/out/a"⟩
    let inputs : List Path := [⟨"/x/a.css"⟩, ⟨"/y/b.css"⟩]
    ∃ c, buildUnder (inTurn [0, 1]) config inputs ⟨"/out"⟩ namesakes = .ok c ∧
      c.summary? = some (.ok ⟨⟨0, 2, 0⟩, 2, 1⟩) ∧
      ReadsApart namesakes c.shared.session.disk c.shared.session.journal.toList ∧
      ∃ c', buildUnder (inTurn [1, 0]) config inputs ⟨"/out"⟩ c.shared.session.disk = .ok c' ∧
        c'.summary? = some (.ok ⟨⟨0, 2, 0⟩, 2, 1⟩) ∧
        c.shared.session.disk.get? ["out", "a", "i.png"] = some (.file "YY".toUTF8) ∧
        c'.shared.session.disk.get? ["out", "a", "i.png"] = some (.file "X".toUTF8) := by
  intro config inputs
  obtain ⟨c, hbuild, hsummary, hapart, c', hbuild', hrest⟩ :
      ∃ c ∈ (buildUnder (inTurn [0, 1]) config inputs ⟨"/out"⟩ namesakes).toOption,
        c.summary? = some (.ok ⟨⟨0, 2, 0⟩, 2, 1⟩) ∧
        ReadsApart namesakes c.shared.session.disk c.shared.session.journal.toList ∧
        ∃ c' ∈ (buildUnder (inTurn [1, 0]) config inputs ⟨"/out"⟩
            c.shared.session.disk).toOption,
          c'.summary? = some (.ok ⟨⟨0, 2, 0⟩, 2, 1⟩) ∧
          c.shared.session.disk.get? ["out", "a", "i.png"] = some (.file "YY".toUTF8) ∧
          c'.shared.session.disk.get? ["out", "a", "i.png"] = some (.file "X".toUTF8) := by
    decide +kernel
  exact ⟨c, eq_ok_of_toOption hbuild, hsummary, hapart, c', eq_ok_of_toOption hbuild', hrest⟩

end StylesheetAssets.Parallel
