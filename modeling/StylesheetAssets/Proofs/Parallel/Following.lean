import StylesheetAssets.Proofs.Parallel.Deeds

/-!
Workers that have the same way to go.

Where a run has come to its end and has written nothing that it looked at, each of its workers goes
the same way again under every schedule: the disks that it meets lie amid those before and after the
run, and give it the same answers.
-/
namespace StylesheetAssets.Parallel

open Program

variable {α : Type} {config : Config} {outDir : Path} {written : Location → Prop}
  {before after : Disk}

/-- What a worker has done and handed out when it has come to its end. -/
structure Way (α : Type) where
  program : Program α
  exchanges : List Exchange
  result : α
  transfers : List Transfer

/-- The way of a worker through a run from one disk to another. Nothing failed on it, and all that
was asked of the disk stands. -/
structure Way.Sound (x : Way α) (config : Config) (outDir : Path) (written : Location → Prop)
    (before after : Disk) : Prop where
  leads : x.program.Leads x.exchanges (done x.result)
  fitting : Fitting config [] x.exchanges
  orderly : Orderly [] x.exchanges
  recorded : Recorded x.exchanges x.transfers
  joined : underAfter [] x.exchanges = []
  outputs : ∀ p bytes answer, ⟨.write p bytes, answer⟩ ∈ x.exchanges →
    ∃ name, p = outDir.join ⟨name⟩ ∧ Path.IsName name
  stands : ∀ e ∈ x.exchanges, ∀ a ∈ (Deed.asked e).act?, a.Stands written before after
  copied : ∀ t ∈ x.transfers, ∃ outcome, t.outcome? = some outcome ∧
    (Act.copied t.source t.destination outcome).Stands written before after

/-- A worker that has gone the first part of a way. -/
structure OnWay (x : Way α) (front : List Exchange) (w : Worker α) : Prop where
  leads : x.program.Leads front w.program
  part : front <+: x.exchanges
  recorded : Recorded front w.transfers
  outcomes : ∀ (ticket : Nat) (t t' : Transfer), w.transfers[ticket]? = some t →
    x.transfers[ticket]? = some t' → t.outcome? = none ∨ t.outcome? = t'.outcome?

/-- The directories that were made are there. -/
def Grounded (d : Disk) (es : List Exchange) : Prop :=
  ∀ p, ⟨.createDirectories p, .ok ()⟩ ∈ es → d.Reaches p

theorem Grounded.later {d d' : Disk} {es : List Exchange} (h : Grounded d es)
    (hlater : d.Later d') : Grounded d' es :=
  fun p hp => (h p hp).later hlater.workDir hlater.directories

/-- The answers that a disk gives are those of the act. -/
theorem Request.answer_of_takes {r : Request} {answer answer' : r.Answer}
    {transfers transfers' : List Transfer} {shared shared' : Shared} {a : Act} {d : Disk}
    (h : r.answer? transfers shared = some (answer, transfers', shared'))
    (hact : (Deed.asked ⟨r, answer'⟩).act? = some a) (htakes : a.Takes shared.session.disk d) :
    answer = answer' := by
  cases r with
  | size p =>
    cases h
    cases answer' with
    | error e => cases hact
    | ok n =>
      cases hact
      exact htakes.1
  | read p =>
    cases h
    cases answer' with
    | error e => cases hact
    | ok content =>
      cases hact
      exact readContent_eq_ok.2 htakes.1
  | write p bytes =>
    cases h
    cases answer' with
    | error e => cases hact
    | ok u =>
      cases hact
      exact congrArg Prod.fst htakes
  | createDirectories p =>
    cases h
    cases answer' with
    | error e => cases hact
    | ok u =>
      cases hact
      exact congrArg Prod.fst htakes
  | claim => cases hact
  | start => cases hact
  | join => cases hact

/-- An answer is known, if the act behind it can be made and the copies are as far as before. -/
theorem Request.answer_eq {r : Request} {answer answer' : r.Answer}
    {transfers transfers' : List Transfer} {shared shared' : Shared} {earlier : List Exchange}
    (h : r.answer? transfers shared = some (answer, transfers', shared'))
    (hfits : Exchange.Fits config earlier ⟨r, answer'⟩)
    (htakes : ∀ a ∈ (Deed.asked ⟨r, answer'⟩).act?, ∃ d, a.Takes shared.session.disk d)
    (hcopies : match r, answer' with
      | .start .., ticket => ticket = transfers.length
      | .join copy, outcome =>
        ∀ outcome', outcomeAt transfers copy.ticket = some outcome' → outcome' = outcome
      | _, _ => True) : answer = answer' := by
  have hanswer := transfers_of_answer? h
  have hact {a : Act} (ha : (Deed.asked ⟨r, answer'⟩).act? = some a) : answer = answer' := by
    obtain ⟨d, htakes⟩ := htakes a ha
    exact answer_of_takes h ha htakes
  cases r with
  | size p =>
    obtain ⟨-, n, rfl⟩ := hfits
    exact hact rfl
  | read p =>
    obtain ⟨-, content, rfl⟩ := hfits
    exact hact rfl
  | write p bytes =>
    obtain rfl : answer' = .ok () := hfits
    exact hact rfl
  | createDirectories p =>
    obtain ⟨-, rfl⟩ := hfits
    exact hact rfl
  | claim => rfl
  | start source destination => exact hanswer.1.trans hcopies.symm
  | join copy => exact hcopies answer hanswer.1

abbrev Transfer.Made (t : Transfer) : Prop := t.outcome? ≠ none

/-- A request changes no outcome. -/
theorem Request.made_of_answer? {r : Request} {answer : r.Answer}
    {transfers transfers' : List Transfer} {shared shared' : Shared} {ticket : Nat} {t : Transfer}
    (h : r.answer? transfers shared = some (answer, transfers', shared')) (hmade : t.Made) :
    transfers'[ticket]? = some t ↔ transfers[ticket]? = some t := by
  have htransfers := transfers_of_answer? h
  cases r with
  | start source destination =>
    obtain ⟨-, rfl⟩ := htransfers
    rw [Recorded.getElem?_concat, or_iff_left]
    rintro ⟨-, rfl⟩
    exact hmade rfl
  | join copy =>
    obtain ⟨-, rfl⟩ := htransfers
    rfl
  | _ =>
    have hkept : transfers' = transfers := htransfers
    rw [hkept]

/-- A step whose act stands leads from amid two disks to amid them. -/
theorem Did.amid {deed : Deed} {shared shared' : Shared} (h : Did deed shared shared')
    (hamid : Amid written before after shared.session.disk) (hlater : before.Later after)
    (hstands : ∀ a ∈ deed.act?, a.Stands written before after)
    (hhouses : ∀ a ∈ deed.act?, ∀ p ∈ a.event.written?, shared.session.disk.Houses p) :
    Amid written before after shared'.session.disk := by
  have hpasses := h.disk
  cases hact : deed.act? with
  | none =>
    rw [hact] at hpasses
    rwa [Disk.passes_nil.1 hpasses]
  | some a =>
    rw [hact] at hpasses
    obtain ⟨d, htakes, hd⟩ := hamid.step hlater (hstands a hact) (hhouses a hact)
    rwa [(Disk.passes_singleton.1 hpasses).unique htakes]

/-- Programs write nothing but outputs. -/
theorem Way.Sound.houses {x : Way α} {e : Exchange} {d : Disk}
    (h : x.Sound config outDir written before after) (he : e ∈ x.exchanges)
    (hout : d.Reaches outDir) :
    ∀ a ∈ (Deed.asked e).act?, ∀ p ∈ a.event.written?, d.Houses p := by
  intro a ha p hp
  obtain ⟨bytes, rfl⟩ := Deed.exists_write ha hp
  obtain ⟨name, hname, hplain⟩ := h.outputs p bytes _ he
  exact ⟨outDir, name, hname, hplain, hout⟩

namespace OnWay

variable {x : Way α} {front : List Exchange} {w w' : Worker α} {shared shared' : Shared}

/-- The exchange that is next on the way. -/
theorem exists_next {r : Request} {next : r.Answer → Program α} (h : OnWay x front w)
    (hx : x.program.Leads x.exchanges (done x.result)) (hprogram : w.program = .ask r next) :
    ∃ answer rest, x.exchanges = front ++ ⟨r, answer⟩ :: rest := by
  obtain ⟨back, hback⟩ := h.part
  rw [← hback] at hx
  have hrest := h.leads.rest hx
  rw [hprogram] at hrest
  cases hrest with
  | cons rest => exact ⟨_, _, hback.symm⟩

theorem getElem?_transfers {ticket : Nat} {t : Transfer} (h : OnWay x front w)
    (hx : Recorded x.exchanges x.transfers) (ht : w.transfers[ticket]? = some t) :
    ∃ outcome?, x.transfers[ticket]? = some ⟨t.source, t.destination, outcome?⟩ :=
  h.recorded.exists_of_started hx (h.part.filterMap _) ht

/-- The answer is that of the way. -/
theorem answer_eq {r : Request} {answer answer' : r.Answer} {rest : List Exchange}
    {transfers : List Transfer} (h : OnWay x front w)
    (hx : x.Sound config outDir written before after) (hlater : before.Later after)
    (hamid : Amid written before after shared.session.disk)
    (hhouses : ∀ a ∈ (Deed.asked ⟨r, answer'⟩).act?, ∀ p ∈ a.event.written?,
      shared.session.disk.Houses p)
    (hexchanges : x.exchanges = front ++ ⟨r, answer'⟩ :: rest)
    (hanswer : r.answer? w.transfers shared = some (answer, transfers, shared')) :
    answer = answer' := by
  have hmem : ⟨r, answer'⟩ ∈ x.exchanges := by
    rw [hexchanges]
    exact List.mem_append_right _ List.mem_cons_self
  have hfits : Exchange.Fits config front ⟨r, answer'⟩ := by
    have hfitting := hx.fitting
    rw [hexchanges] at hfitting
    exact hfitting.fits
  have horder := hx.orderly
  rw [hexchanges, orderly_append] at horder
  refine Request.answer_eq hanswer hfits (fun a hact => ?_) ?_
  · obtain ⟨d, htakes, -⟩ := hamid.step hlater (hx.stands _ hmem a hact) (hhouses a hact)
    exact ⟨d, htakes⟩
  · cases r with
    | start source destination =>
      have hrecorded := hx.recorded
      rw [hexchanges] at hrecorded
      have hlength := congrArg List.length h.recorded.started
      rw [List.length_mapIdx] at hlength
      exact hrecorded.ticket_eq.trans hlength
    | join copy =>
      intro outcome houtcome
      obtain ⟨outcome?, hknown⟩ := h.recorded.known copy horder.2.1
      have hjoined := hx.recorded.joined copy answer' hmem
      rw [Request.outcomeAt, hknown] at houtcome
      obtain rfl : outcome? = some outcome := houtcome
      rcases h.outcomes _ _ _ hknown hjoined with hnone | hsame
      · cases hnone
      · exact Option.some.inj hsame
    | _ => trivial

theorem fits {e : Exchange} {rest : List Exchange} (hx : x.Sound config outDir written before after)
    (hexchanges : x.exchanges = front ++ e :: rest) : e.Fits config front := by
  have hfitting := hx.fitting
  rw [hexchanges] at hfitting
  exact hfitting.fits

/-- The program makes its next request. -/
theorem advance {r : Request} {next : r.Answer → Program α} {answer : r.Answer}
    {transfers : List Transfer} (h : OnWay x front w)
    (hx : x.Sound config outDir written before after) (hlater : before.Later after)
    (hamid : Amid written before after shared.session.disk)
    (hgrounded : Grounded shared.session.disk front) (hout : shared.session.disk.Reaches outDir)
    (hprogram : w.program = .ask r next)
    (hanswer : r.answer? w.transfers shared = some (answer, transfers, shared')) :
    Exchange.Fits config front ⟨r, answer⟩ ∧
      OnWay x (front ++ [⟨r, answer⟩]) ⟨next answer, transfers⟩ ∧
      Amid written before after shared'.session.disk ∧
      Grounded shared'.session.disk (front ++ [⟨r, answer⟩]) := by
  obtain ⟨answer', rest, hexchanges⟩ := h.exists_next hx.leads hprogram
  have hmem : ⟨r, answer'⟩ ∈ x.exchanges := by
    rw [hexchanges]
    exact List.mem_append_right _ List.mem_cons_self
  have hhouses := hx.houses hmem hout
  obtain rfl := h.answer_eq hx hlater hamid hhouses hexchanges hanswer
  have hfits := fits hx hexchanges
  have hdid := Request.did_of_answer? hanswer hfits
  refine ⟨hfits, ⟨?_, ?_, ?_, fun ticket t t' ht ht' => ?_⟩,
    hdid.amid hamid hlater (hx.stands _ hmem) hhouses, fun p hp => ?_⟩
  · refine h.leads.trans ?_
    rw [hprogram]
    exact .cons (.nil _)
  · rw [hexchanges]
    exact ⟨rest, by simp⟩
  · have hstep : w.step? shared .advance =
        some (.asked ⟨r, answer⟩, ⟨next answer, transfers⟩, shared') := by
      simp only [Worker.step?, hprogram, hanswer, Option.map_some]
    refine h.recorded.step hstep (orderly_append.2 ?_)
    have horder := hx.orderly
    rw [hexchanges, orderly_append] at horder
    exact ⟨horder.1, horder.2.1, trivial⟩
  · by_cases hmade : t.outcome? = none
    · exact .inl hmade
    · exact h.outcomes ticket t t' ((Request.made_of_answer? hanswer hmade).1 ht) ht'
  · rcases List.mem_append.1 hp with hp | hp
    · exact hgrounded.later hdid.disk.later p hp
    · have hpasses := hdid.disk
      rw [← List.mem_singleton.1 hp] at hpasses
      exact Disk.reaches_of_createDirectories (Disk.passes_singleton.1 hpasses)

/-- A copy was handed out behind its directory. -/
theorem exists_directory {ticket : Nat} {t : Transfer} (h : OnWay x front w)
    (hx : x.Sound config outDir written before after) (ht : w.transfers[ticket]? = some t) :
    ∃ directory name, t.destination = directory.join ⟨name⟩ ∧
      ⟨.createDirectories directory, .ok ()⟩ ∈ front ∧
      (t.source.fileName? ≠ none → Path.IsName name) := by
  obtain ⟨⟨r, answer⟩, he, hstarted⟩ := List.mem_filterMap.1 (h.recorded.mem_startedIn ht)
  obtain ⟨back, hback⟩ := h.part
  obtain ⟨earlier, rest, hfront⟩ := List.append_of_mem he
  rw [hfront, List.append_assoc] at hback
  cases r with
  | start source destination =>
    cases hstarted
    obtain ⟨-, directory, name, hdestination, hmade, hname⟩ := fits hx hback.symm
    refine ⟨directory, name, hdestination, ?_, hname⟩
    rw [hfront]
    exact List.mem_append_left _ hmade
  | _ => cases hstarted

/-- One of the copies is made. -/
theorem transfer {ticket : Nat} {source destination : Path} {outcome : Except DiskError Nat}
    (h : OnWay x front w) (hx : x.Sound config outDir written before after)
    (hlater : before.Later after) (hamid : Amid written before after shared.session.disk)
    (hgrounded : Grounded shared.session.disk front)
    (hticket : w.transfers[ticket]? = some ⟨source, destination, none⟩)
    (hcopy : (Act.copied source destination outcome).Takes shared.session.disk
      shared'.session.disk) :
    OnWay x front ⟨w.program, w.transfers.set ticket ⟨source, destination, some outcome⟩⟩ ∧
      Amid written before after shared'.session.disk := by
  obtain ⟨outcome?, hticket'⟩ := h.getElem?_transfers hx.recorded hticket
  obtain ⟨outcome', houtcome, hstands⟩ := hx.copied _ (List.mem_of_getElem? hticket')
  obtain rfl : outcome? = some outcome' := houtcome
  obtain ⟨directory, name, rfl, hmade, hname⟩ := h.exists_directory hx hticket
  obtain ⟨k, l, bytes, hshown, hleft, hok⟩ := id hstands
  have hhouses : shared.session.disk.Houses (directory.join ⟨name⟩) :=
    ⟨directory, name, rfl, hname (Disk.fileName?_of_resolve hshown.resolve),
      hgrounded directory hmade⟩
  obtain ⟨d, htakes, hd⟩ := hamid.step hlater hstands fun p hp => by
    cases hp
    exact hhouses
  have hsame : (outcome', d) = (outcome, shared'.session.disk) := htakes.symm.trans hcopy
  obtain ⟨rfl, rfl⟩ := Prod.mk.inj hsame
  refine ⟨⟨h.leads, h.part, h.recorded.made hticket, fun i t t' hi hi' => ?_⟩, hd⟩
  rcases (Recorded.getElem?_set hticket).1 hi with ⟨rfl, rfl⟩ | ⟨-, hi⟩
  · rw [hticket'] at hi'
    cases hi'
    exact .inr rfl
  · exact h.outcomes i t t' hi hi'

end OnWay

/-! ### Crews -/

/-- Each worker of the crew has gone the first part of its way, and the disk lies amid those of the
run. The log says how far they are. -/
structure Crew.Along (c : Crew α) (config : Config) (outDir : Path) (written : Location → Prop)
    (before after : Disk) (ways : List (Way α)) (log : List (Nat × Deed)) : Prop where
  amid : Amid written before after c.shared.session.disk
  out : c.shared.session.disk.Reaches outDir
  workers : ∀ (i : Nat) (w : Worker α), c.workers[i]? = some w →
    ∃ x, ways[i]? = some x ∧ OnWay x (exchangesOf i log) w ∧
      Grounded c.shared.session.disk (exchangesOf i log)
  fits : ∀ i deed, (i, deed) ∈ log → deed.Fits config

namespace Crew.Along

variable {c : Crew α} {ways : List (Way α)} {log : List (Nat × Deed)}

/-- One of the workers takes a step. -/
theorem after_step {i : Nat} {x : Way α} {w w' : Worker α} {deed : Deed} {shared : Shared}
    (h : c.Along config outDir written before after ways log)
    (hw : c.workers[i]? = some w) (hx : ways[i]? = some x)
    (honWay : OnWay x (exchangesOf i log ++ deed.exchange?.toList) w')
    (hgrounded : Grounded shared.session.disk (exchangesOf i log ++ deed.exchange?.toList))
    (hamid : Amid written before after shared.session.disk) (hfits : deed.Fits config)
    (hdid : Did deed c.shared shared) :
    (⟨shared, c.workers.set i w'⟩ : Crew α).Along config outDir written before after ways
      (log ++ [(i, deed)]) := by
  have hlater := hdid.disk.later
  refine ⟨hamid, h.out.later hlater.workDir hlater.directories, fun j v hv => ?_,
    fun j d hd => ?_⟩
  · rw [exchangesOf_append]
    by_cases hj : i = j
    · subst hj
      rw [List.getElem?_set_self (List.getElem?_eq_some_iff.1 hw).1] at hv
      obtain rfl := Option.some.inj hv
      rw [exchangesOf_self]
      exact ⟨x, hx, honWay, hgrounded⟩
    · rw [List.getElem?_set_ne hj] at hv
      obtain ⟨y, hy, hon, hground⟩ := h.workers j v hv
      rw [exchangesOf_other deed hj, List.append_nil]
      exact ⟨y, hy, hon, hground.later hlater⟩
  · rcases List.mem_append.1 hd with hd | hd
    · exact h.fits j d hd
    · cases List.mem_singleton.1 hd
      exact hfits

theorem step (h : c.Along config outDir written before after ways log)
    (hways : ∀ x ∈ ways, x.Sound config outDir written before after)
    (hlater : before.Later after) (turn : Turn) :
    (c.step turn).Along config outDir written before after ways
      (log ++ (c.deed? turn).toList) := by
  rcases c.step_cases turn with ⟨hidle, hnone⟩ | ⟨deed, w, w', shared, hw, hstep, hdeed, hnext⟩
  · rwa [hnone, hidle, Option.toList_none, List.append_nil]
  rw [hdeed, hnext, Option.toList_some]
  obtain ⟨x, hx, hon, hgrounded⟩ := h.workers _ _ hw
  have hsound := hways x (List.mem_of_getElem? hx)
  rcases Worker.step?_cases hstep with ⟨r, next, answer, transfers, hprogram, hanswer, rfl, rfl⟩ |
    ⟨ticket, source, destination, outcome, hticket, -, -, rfl, rfl⟩
  · obtain ⟨hfits, hon', hamid, hgrounded'⟩ :=
      hon.advance hsound hlater h.amid hgrounded h.out hprogram hanswer
    exact h.after_step hw hx hon' hgrounded' hamid ⟨_, hfits⟩ (Request.did_of_answer? hanswer hfits)
  · have hfits : (Deed.copied source destination outcome).Fits config := trivial
    have hdid := Worker.did_of_step? hstep hfits
    have htakes := Disk.passes_singleton.1 hdid.disk
    obtain ⟨hon', hamid⟩ := hon.transfer hsound hlater h.amid hgrounded hticket htakes
    refine h.after_step hw hx ?_ ?_ hamid trivial hdid
    · rwa [Deed.exchange?, Option.toList_none, List.append_nil]
    · rw [Deed.exchange?, Option.toList_none, List.append_nil]
      exact hgrounded.later hdid.disk.later

/-- Whatever the schedule, the workers stay on their ways. -/
theorem run (h : c.Along config outDir written before after ways log)
    (hways : ∀ x ∈ ways, x.Sound config outDir written before after)
    (hlater : before.Later after) (schedule : List Turn) :
    (c.run schedule).Along config outDir written before after ways (log ++ c.log schedule) := by
  induction schedule generalizing c log with
  | nil => rwa [Crew.log, List.append_nil]
  | cons turn schedule ih =>
    rw [Crew.log, ← List.append_assoc]
    exact ih (h.step hways hlater turn)

/-- So it is when they set out. -/
theorem start (config : Config) (hworkers : c.workers = ways.map fun x => ⟨x.program, []⟩)
    (hamid : Amid written before after c.shared.session.disk)
    (hout : c.shared.session.disk.Reaches outDir) :
    c.Along config outDir written before after ways [] := by
  refine ⟨hamid, hout, fun i w hw => ?_, nofun⟩
  rw [hworkers, List.getElem?_map] at hw
  obtain ⟨x, hx, rfl⟩ := Option.map_eq_some_iff.1 hw
  exact ⟨x, hx, ⟨.nil _, List.nil_prefix, .nil, nofun⟩, nofun⟩

/-- A program that is at its end has come to the end of its way. -/
theorem result_eq {i : Nat} {w : Worker α} {x : Way α} {a : α}
    (h : c.Along config outDir written before after ways log)
    (hways : ∀ x ∈ ways, x.Sound config outDir written before after)
    (hw : c.workers[i]? = some w) (hx : ways[i]? = some x) (ha : w.program = done a) :
    a = x.result ∧ exchangesOf i log = x.exchanges := by
  obtain ⟨y, hy, hon, -⟩ := h.workers i w hw
  obtain rfl := Option.some.inj (hx.symm.trans hy)
  obtain ⟨back, hback⟩ := hon.part
  have hleads := (hways x (List.mem_of_getElem? hx)).leads
  rw [← hback] at hleads
  have hrest := hon.leads.rest hleads
  rw [ha] at hrest
  obtain ⟨rfl, heq⟩ := leads_done.1 hrest
  rw [List.append_nil] at hback
  exact ⟨(Program.done.inj heq).symm, hback⟩

end Crew.Along

end StylesheetAssets.Parallel
