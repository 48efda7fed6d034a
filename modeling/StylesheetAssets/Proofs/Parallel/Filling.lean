import StylesheetAssets.Proofs.Parallel.Finishing

/-!
What lies in the end where workers write.

Copies of one worker to one destination are made in their order, so that the last one stays. At a
place that no two workers dispute it does not matter when each of them gets there.
-/
namespace StylesheetAssets.Parallel

open Program

variable {α : Type} {config : Config} {outDir : Path} {written : Location → Prop}
  {before after : Disk}

namespace Way

/-- The copy is handed out on the way. -/
def Copies (x : Way α) (source destination : Path) : Prop :=
  ∃ outcome?, ⟨source, destination, outcome?⟩ ∈ x.transfers

/-- The bytes are written on the way, other than by a copy. -/
def Writes (x : Way α) (p : Path) (bytes : ByteArray) : Prop :=
  ⟨.write p bytes, .ok ()⟩ ∈ x.exchanges

end Way

/-- What lies at the place in the end is no matter of turns: all that is written there is the same,
or only copies go there, which two workers make only of one source. One worker knows the place by
one name. -/
structure Undisputed (before : Disk) (ways : List (Way α)) (l : Location) : Prop where
  outputs : ∀ x ∈ ways, ∀ y ∈ ways, ∀ p bytes q bytes', x.Writes p bytes → y.Writes q bytes' →
    before.placeOf p = l → before.placeOf q = l → bytes = bytes'
  aside : ∀ x ∈ ways, ∀ y ∈ ways, ∀ source destination q bytes, x.Copies source destination →
    y.Writes q bytes → before.placeOf destination = l → before.placeOf q ≠ l
  spelled : ∀ x ∈ ways, ∀ source destination source' destination', x.Copies source destination →
    x.Copies source' destination' → before.placeOf destination = l →
      before.placeOf destination' = l → destination.same destination' = true
  apart : ways.Pairwise fun x y => ∀ source destination source' destination',
    x.Copies source destination → y.Copies source' destination' → before.placeOf destination = l →
      before.placeOf destination' = l → source.same source' = true

namespace Undisputed

variable {ways ways' : List (Way α)} {l : Location}

theorem perm (h : Undisputed before ways l) (hperm : ways.Perm ways') :
    Undisputed before ways' l := by
  refine ⟨fun x hx y hy => h.outputs x (hperm.mem_iff.2 hx) y (hperm.mem_iff.2 hy),
    fun x hx y hy => h.aside x (hperm.mem_iff.2 hx) y (hperm.mem_iff.2 hy),
    fun x hx => h.spelled x (hperm.mem_iff.2 hx),
    (hperm.pairwise_iff fun hxy source destination source' destination' hy hx hl hl' => ?_).1
      h.apart⟩
  exact same_symm (hxy _ _ _ _ hx hy hl' hl)

/-- Two workers that copy there copy from one source. -/
theorem same {i j : Nat} {x y : Way α} {source destination source' destination' : Path}
    (h : Undisputed before ways l) (hij : i ≠ j) (hx : ways[i]? = some x) (hy : ways[j]? = some y)
    (hcopies : x.Copies source destination) (hcopies' : y.Copies source' destination')
    (hl : before.placeOf destination = l) (hl' : before.placeOf destination' = l) :
    source.same source' = true := by
  obtain ⟨hi, rfl⟩ := List.getElem?_eq_some_iff.1 hx
  obtain ⟨hj, rfl⟩ := List.getElem?_eq_some_iff.1 hy
  rcases Nat.lt_or_gt_of_ne hij with hlt | hlt
  · exact List.pairwise_iff_getElem.1 h.apart i j hi hj hlt _ _ _ _ hcopies hcopies' hl hl'
  · exact same_symm (List.pairwise_iff_getElem.1 h.apart j i hj hi hlt _ _ _ _ hcopies' hcopies
      hl' hl)

theorem congr {before' : Disk} (h : Undisputed before ways l)
    (hworkDir : before'.workDir = before.workDir) : Undisputed before' ways l := by
  have hplace : before'.placeOf = before.placeOf := funext (Disk.placeOf_congr hworkDir)
  obtain ⟨houtputs, haside, hspelled, hapart⟩ := h
  rw [← hplace] at houtputs haside hspelled hapart
  exact ⟨houtputs, haside, hspelled, hapart⟩

end Undisputed

/-- No later one among the transfers that satisfy the condition goes to the same destination. -/
def LastAmong (among : Transfer → Prop) (transfers : List Transfer) (ticket : Nat) (t : Transfer) :
    Prop :=
  ∀ (j : Nat) (t' : Transfer), ticket < j → transfers[j]? = some t' → among t' →
    t'.destination.same t.destination = false

theorem exists_lastAmong {transfers : List Transfer} {t : Transfer} (ht : t ∈ transfers) :
    ∃ (ticket : Nat) (last : Transfer), transfers[ticket]? = some last ∧
      last.destination.same t.destination = true ∧
      LastAmong (fun _ => True) transfers ticket last := by
  induction transfers using List.reverseRecOn with
  | nil => cases ht
  | append_singleton transfers new ih =>
    by_cases hnew : new.destination.same t.destination = true
    · refine ⟨transfers.length, new, Recorded.getElem?_concat.2 (.inr ⟨rfl, rfl⟩), hnew,
        fun j t' hj ht' => ?_⟩
      have hlt := (List.getElem?_eq_some_iff.1 ht').1
      rw [List.length_append, List.length_singleton] at hlt
      omega
    · rcases List.mem_append.1 ht with ht | ht
      · obtain ⟨ticket, last, hlast, hsame, hrest⟩ := ih ht
        refine ⟨ticket, last, Recorded.getElem?_concat.2 (.inl hlast), hsame,
          fun j t' hj ht' _ => ?_⟩
        rcases Recorded.getElem?_concat.1 ht' with ht' | ⟨-, rfl⟩
        · exact hrest j t' hj ht' trivial
        · exact eq_false_of_ne_true fun heq => hnew (same_trans heq hsame)
      · rw [List.mem_singleton.1 ht] at hnew
        exact absurd (decide_eq_true rfl) hnew

/-- The last one among the copies that are made was so before another one was made. -/
theorem LastAmong.of_set {transfers : List Transfer} {ticket ticket' : Nat}
    {source destination : Path} {outcome : Except DiskError Nat} {t : Transfer}
    (hticket : transfers[ticket]? = some ⟨source, destination, none⟩)
    (h : LastAmong Transfer.Made (transfers.set ticket ⟨source, destination, some outcome⟩)
      ticket' t) : LastAmong Transfer.Made transfers ticket' t := by
  intro k t' hk ht' hmade
  refine h k t' hk ((Recorded.getElem?_set hticket).2 (.inr ⟨?_, ht'⟩)) hmade
  rintro rfl
  cases hticket.symm.trans ht'
  exact hmade rfl

/-- At the place lies what was put there last. -/
structure Crew.Filled (c : Crew α) (before : Disk) (log : List (Nat × Deed)) (l : Location) :
    Prop where
  outputs : ∀ (i : Nat) (w : Worker α), c.workers[i]? = some w → ∀ p bytes,
    ⟨.write p bytes, .ok ()⟩ ∈ exchangesOf i log → before.placeOf p = l →
      c.shared.session.disk.Holds p bytes
  copies : ∀ (i : Nat) (w : Worker α), c.workers[i]? = some w → ∀ (ticket : Nat) (t : Transfer),
    w.transfers[ticket]? = some t → t.Made → LastAmong Transfer.Made w.transfers ticket t →
      before.placeOf t.destination = l → ∀ bytes, before.Holds t.source bytes →
        c.shared.session.disk.Holds t.destination bytes

theorem OnWay.copies {x : Way α} {front : List Exchange} {w : Worker α} {ticket : Nat}
    {t : Transfer} (h : OnWay x front w) (hx : x.Sound config outDir written before after)
    (ht : w.transfers[ticket]? = some t) : x.Copies t.source t.destination := by
  obtain ⟨outcome?, hsame⟩ := h.getElem?_transfers hx.recorded ht
  exact ⟨outcome?, List.mem_of_getElem? hsame⟩

/-- A copy is not made behind one to its destination that is made, nor in front of the last one. -/
theorem OnWay.elsewhere {x : Way α} {front : List Exchange} {w : Worker α} {ticket ticket' : Nat}
    {source destination : Path} {outcome : Except DiskError Nat} {t : Transfer}
    (h : OnWay x front w) (hticket : w.transfers[ticket]? = some ⟨source, destination, none⟩)
    (ht : w.transfers[ticket']? = some t) (hne : ticket' ≠ ticket)
    (hlast : LastAmong Transfer.Made
      (w.transfers.set ticket ⟨source, destination, some outcome⟩) ticket' t) :
    destination.same t.destination = false := by
  rcases Nat.lt_or_gt_of_ne hne with hlt | hgt
  · exact hlast ticket _ hlt ((Recorded.getElem?_set hticket).2 (.inl ⟨rfl, rfl⟩)) nofun
  · exact eq_false_of_ne_true fun hsame =>
      h.recorded.ordered ticket ticket' _ t hgt hticket ht hsame rfl

/-- What lay at a place still does, unless something else was put there. -/
theorem Did.holds {deed : Deed} {shared shared' : Shared} {p : Path} {bytes : ByteArray}
    {l : Location} (h : Did deed shared shared')
    (hworkDir : shared.session.disk.workDir = before.workDir) (hl : before.placeOf p = l)
    (hp : shared.session.disk.Holds p bytes)
    (hnew : ∀ a ∈ deed.act?, ∀ q ∈ a.event.written?, before.placeOf q = l →
      shared'.session.disk.Holds q bytes) : shared'.session.disk.Holds p bytes := by
  have hpasses := h.disk
  cases hact : deed.act? with
  | none =>
    rw [hact] at hpasses
    rwa [Disk.passes_nil.1 hpasses]
  | some a =>
    rw [hact] at hpasses
    have htakes := Disk.passes_singleton.1 hpasses
    by_cases hwritten : ∃ q ∈ a.event.written?, before.placeOf q = l
    · obtain ⟨q, hq, hplace⟩ := hwritten
      refine (hnew a hact q hq hplace).congr ?_
      have hworkDir' := htakes.later.workDir.trans hworkDir
      rw [Disk.placeOf_congr hworkDir', Disk.placeOf_congr hworkDir', hl, hplace]
    · refine htakes.holds hp fun q hq hplace => hwritten ⟨q, hq, ?_⟩
      rwa [Disk.placeOf_congr hworkDir, Disk.placeOf_congr hworkDir, hl] at hplace

/-- A copy replaces nothing but what lay at its destination. -/
theorem Did.holds_of_copied {source destination p : Path} {outcome : Except DiskError Nat}
    {shared shared' : Shared} {bytes : ByteArray} {l : Location}
    (h : Did (.copied source destination outcome) shared shared')
    (hworkDir : shared.session.disk.workDir = before.workDir) (hl : before.placeOf p = l)
    (hp : shared.session.disk.Holds p bytes)
    (hnew : before.placeOf destination = l → shared'.session.disk.Holds destination bytes) :
    shared'.session.disk.Holds p bytes := by
  refine h.holds hworkDir hl hp fun a ha q hq hplace => ?_
  cases ha
  cases hq
  exact hnew hplace

namespace Crew.Along

variable {c : Crew α} {ways : List (Way α)} {log : List (Nat × Deed)} {i : Nat} {w w' : Worker α}
  {shared : Shared}

/-- What a program writes lies in its place. -/
theorem holds_wrote {e : Exchange} {a : Act} {q : Path}
    (hnext : (⟨shared, c.workers.set i w'⟩ : Crew α).Along config outDir written before after ways
      (log ++ [(i, .asked e)]))
    (hw : c.workers[i]? = some w) (hdid : Did (.asked e) c.shared shared)
    (ha : a ∈ (Deed.asked e).act?) (hq : q ∈ a.event.written?) :
    ∃ x ∈ ways, ∃ bytes, e = ⟨.write q bytes, .ok ()⟩ ∧ x.Writes q bytes ∧
      shared.session.disk.Holds q bytes := by
  have hlt := (List.getElem?_eq_some_iff.1 hw).1
  obtain ⟨x, hx, hon, -⟩ := hnext.workers i w' (List.getElem?_set_self hlt)
  obtain ⟨bytes, rfl⟩ := Deed.exists_write ha hq
  have hpasses := Disk.passes_singleton.1 hdid.disk
  refine ⟨x, List.mem_of_getElem? hx, bytes, rfl, hon.part.subset ?_,
    Disk.get?_of_writeFile hpasses⟩
  rw [exchangesOf_append, exchangesOf_self]
  exact List.mem_append_right _ (List.mem_singleton_self _)

/-- The destination of a copy holds what its source held in the beginning. -/
theorem holds_copied {ticket : Nat} {source destination : Path} {outcome : Except DiskError Nat}
    {bytes : ByteArray} (halong : c.Along config outDir written before after ways log)
    (hnext : (⟨shared, c.workers.set i ⟨w.program,
        w.transfers.set ticket ⟨source, destination, some outcome⟩⟩⟩ : Crew α).Along config outDir
      written before after ways (log ++ [(i, .copied source destination outcome)]))
    (hways : ∀ x ∈ ways, x.Sound config outDir written before after) (hlater : before.Later after)
    (hw : c.workers[i]? = some w)
    (hticket : w.transfers[ticket]? = some ⟨source, destination, none⟩)
    (hdid : Did (.copied source destination outcome) c.shared shared)
    (hbytes : before.Holds source bytes) : shared.session.disk.Holds destination bytes := by
  have hlt := (List.getElem?_eq_some_iff.1 hw).1
  obtain ⟨x, hx, hon, -⟩ := halong.workers i w hw
  have hsound := hways x (List.mem_of_getElem? hx)
  obtain ⟨outcome?, hsame⟩ := hon.getElem?_transfers hsound.recorded hticket
  obtain ⟨outcome', hmade, hstands⟩ := hsound.copied _ (List.mem_of_getElem? hsame)
  obtain ⟨y, hy, honNext, -⟩ := hnext.workers i _ (List.getElem?_set_self hlt)
  obtain rfl := Option.some.inj (hx.symm.trans hy)
  obtain rfl : outcome = outcome' := by
    rcases honNext.outcomes ticket _ _ ((Recorded.getElem?_set hticket).2 (.inl ⟨rfl, rfl⟩))
      hsame with hnone | houtcome
    · cases hnone
    · exact Option.some.inj (houtcome.trans hmade)
  exact halong.amid.holds_copied hlater hstands (Disk.passes_singleton.1 hdid.disk) hbytes

end Crew.Along

namespace Crew.Filled

variable {c : Crew α} {ways : List (Way α)} {log : List (Nat × Deed)} {l : Location}

/-- A program makes its next request. -/
theorem asked {i : Nat} {w w' : Worker α} {e : Exchange} {shared : Shared}
    (h : c.Filled before log l) (halong : c.Along config outDir written before after ways log)
    (hnext : (⟨shared, c.workers.set i w'⟩ : Crew α).Along config outDir written before after ways
      (log ++ [(i, .asked e)]))
    (hways : ∀ x ∈ ways, x.Sound config outDir written before after)
    (hundisputed : Undisputed before ways l) (hw : c.workers[i]? = some w)
    (hdid : Did (.asked e) c.shared shared)
    (hmade : ∀ (ticket : Nat) (t : Transfer), t.Made →
      (w'.transfers[ticket]? = some t ↔ w.transfers[ticket]? = some t)) :
    (⟨shared, c.workers.set i w'⟩ : Crew α).Filled before (log ++ [(i, .asked e)]) l := by
  have hworkDir := halong.amid.workDir
  have hlt := (List.getElem?_eq_some_iff.1 hw).1
  -- Neither outputs nor copies that lay in the place are replaced by something else.
  have hkept {j : Nat} {v : Worker α} (hv : c.workers[j]? = some v) {p : Path} {bytes : ByteArray}
      (hmem : ⟨.write p bytes, .ok ()⟩ ∈ exchangesOf j log) (hl : before.placeOf p = l) :
      shared.session.disk.Holds p bytes := by
    refine hdid.holds hworkDir hl (h.outputs j v hv p bytes hmem hl) fun a ha q hq hplace => ?_
    obtain ⟨x, hx, bytes', -, hwrites, hholds⟩ := hnext.holds_wrote hw hdid ha hq
    obtain ⟨y, hy, hony, -⟩ := halong.workers j v hv
    rwa [← hundisputed.outputs x hx y (List.mem_of_getElem? hy) _ _ _ _ hwrites
      (hony.part.subset hmem) hplace hl]
  have hcopied {j : Nat} {v : Worker α} (hv : c.workers[j]? = some v) {ticket : Nat} {t : Transfer}
      (ht : v.transfers[ticket]? = some t) (hmade : t.Made)
      (hlast : LastAmong Transfer.Made v.transfers ticket t) (hl : before.placeOf t.destination = l)
      {bytes : ByteArray} (hbytes : before.Holds t.source bytes) :
      shared.session.disk.Holds t.destination bytes := by
    refine hdid.holds hworkDir hl (h.copies j v hv ticket t ht hmade hlast hl bytes hbytes)
      fun a ha q hq hplace => ?_
    obtain ⟨x, hx, bytes', -, hwrites, -⟩ := hnext.holds_wrote hw hdid ha hq
    obtain ⟨y, hy, hony, -⟩ := halong.workers j v hv
    have hymem := List.mem_of_getElem? hy
    exact absurd hplace (hundisputed.aside y hymem x hx _ _ _ _
      (hony.copies (hways y hymem) ht) hwrites hl)
  refine ⟨fun j v hv p bytes hmem hl => ?_,
    fun j v hv ticket t ht hmade' hlast hl bytes hbytes => ?_⟩
  · rw [exchangesOf_append] at hmem
    by_cases hj : i = j
    · subst hj
      rcases List.mem_append.1 hmem with hmem | hmem
      · exact hkept hw hmem hl
      · rw [exchangesOf_self] at hmem
        obtain rfl : _ = e := List.mem_singleton.1 hmem
        obtain ⟨-, -, bytes', hsame, -, hholds⟩ := hnext.holds_wrote hw hdid rfl rfl
        cases hsame
        exact hholds
    · rw [exchangesOf_other _ hj, List.append_nil] at hmem
      rw [List.getElem?_set_ne hj] at hv
      exact hkept hv hmem hl
  · by_cases hj : i = j
    · subst hj
      rw [List.getElem?_set_self hlt] at hv
      obtain rfl := Option.some.inj hv
      refine hcopied hw ((hmade ticket t hmade').1 ht) hmade' (fun k t' hk ht' hmade'' => ?_) hl
        hbytes
      exact hlast k t' hk ((hmade k t' hmade'').2 ht') hmade''
    · rw [List.getElem?_set_ne hj] at hv
      exact hcopied hv ht hmade' hlast hl hbytes

/-- One of the copies is made. -/
theorem copied {i ticket : Nat} {w : Worker α} {source destination : Path}
    {outcome : Except DiskError Nat} {shared : Shared}
    (h : c.Filled before log l) (halong : c.Along config outDir written before after ways log)
    (hnext : (⟨shared, c.workers.set i ⟨w.program,
        w.transfers.set ticket ⟨source, destination, some outcome⟩⟩⟩ : Crew α).Along config outDir
      written before after ways (log ++ [(i, .copied source destination outcome)]))
    (hways : ∀ x ∈ ways, x.Sound config outDir written before after) (hlater : before.Later after)
    (hundisputed : Undisputed before ways l) (hw : c.workers[i]? = some w)
    (hticket : w.transfers[ticket]? = some ⟨source, destination, none⟩)
    (hdid : Did (.copied source destination outcome) c.shared shared) :
    (⟨shared, c.workers.set i ⟨w.program,
        w.transfers.set ticket ⟨source, destination, some outcome⟩⟩⟩ : Crew α).Filled before
      (log ++ [(i, .copied source destination outcome)]) l := by
  have hworkDir := halong.amid.workDir
  obtain ⟨x, hx, hon, -⟩ := halong.workers i w hw
  have hxmem := List.mem_of_getElem? hx
  have hsound := hways x hxmem
  have hcopies : x.Copies source destination := hon.copies hsound hticket
  have hnew {bytes : ByteArray} (hbytes : before.Holds source bytes) :
      shared.session.disk.Holds destination bytes :=
    halong.holds_copied hnext hways hlater hw hticket hdid hbytes
  refine ⟨fun j v hv p bytes hmem hl => ?_,
    fun j v hv ticket' t ht hmade hlast hl bytes hbytes => ?_⟩
  · rw [exchangesOf_append, exchangesOf_copied, List.append_nil] at hmem
    have hj := (List.getElem?_eq_some_iff.1 hv).1
    rw [List.length_set] at hj
    have hv' := List.getElem?_eq_getElem hj
    refine hdid.holds_of_copied hworkDir hl (h.outputs j _ hv' p bytes hmem hl) fun hplace => ?_
    obtain ⟨y, hy, hony, -⟩ := halong.workers j _ hv'
    exact absurd hl (hundisputed.aside x hxmem y (List.mem_of_getElem? hy) _ _ _ _ hcopies
      (hony.part.subset hmem) hplace)
  by_cases hj : i = j
  · subst hj
    rw [List.getElem?_set_self (List.getElem?_eq_some_iff.1 hw).1] at hv
    obtain rfl := Option.some.inj hv
    rcases (Recorded.getElem?_set hticket).1 ht with ⟨-, rfl⟩ | ⟨hne, ht⟩
    · exact hnew hbytes
    · refine hdid.holds_of_copied hworkDir hl
        (h.copies i w hw ticket' t ht hmade (hlast.of_set hticket) hl bytes hbytes)
        fun hplace => ?_
      have hsame := hundisputed.spelled x hxmem _ _ _ _ hcopies (hon.copies hsound ht) hplace hl
      rw [hon.elsewhere hticket ht hne hlast] at hsame
      cases hsame
  · rw [List.getElem?_set_ne hj] at hv
    refine hdid.holds_of_copied hworkDir hl
      (h.copies j v hv ticket' t ht hmade hlast hl bytes hbytes) fun hplace => ?_
    obtain ⟨y, hy, hony, -⟩ := halong.workers j v hv
    have hsource := hundisputed.same hj hx hy hcopies
      (hony.copies (hways y (List.mem_of_getElem? hy)) ht) hplace hl
    exact hnew (hbytes.congr (before.placeOf_eq_of_same hsource).symm)

theorem step (h : c.Filled before log l)
    (halong : c.Along config outDir written before after ways log)
    (hways : ∀ x ∈ ways, x.Sound config outDir written before after) (hlater : before.Later after)
    (hundisputed : Undisputed before ways l) (turn : Turn) :
    (c.step turn).Filled before (log ++ (c.deed? turn).toList) l := by
  have hnextAlong := halong.step hways hlater turn
  rcases c.step_cases turn with ⟨hidle, hnone⟩ | ⟨deed, w, w', shared, hw, hstep, hdeed, hnext⟩
  · rwa [hnone, hidle, Option.toList_none, List.append_nil]
  rw [hdeed, hnext, Option.toList_some] at hnextAlong ⊢
  have hfits := hnextAlong.fits _ _ (List.mem_append_right _ (List.mem_singleton_self _))
  have hdid := Worker.did_of_step? hstep hfits
  rcases Worker.step?_cases hstep with ⟨r, next, answer, transfers, -, hanswer, rfl, rfl⟩ |
    ⟨ticket, source, destination, outcome, hticket, -, -, rfl, rfl⟩
  · exact h.asked halong hnextAlong hways hundisputed hw hdid
      fun ticket t => Request.made_of_answer? hanswer
  · exact h.copied halong hnextAlong hways hlater hundisputed hw hticket hdid

theorem run (h : c.Filled before log l)
    (halong : c.Along config outDir written before after ways log)
    (hways : ∀ x ∈ ways, x.Sound config outDir written before after) (hlater : before.Later after)
    (hundisputed : Undisputed before ways l) (schedule : List Turn) :
    (c.run schedule).Filled before (log ++ c.log schedule) l := by
  induction schedule generalizing c log with
  | nil => rwa [Crew.log, List.append_nil]
  | cons turn schedule ih =>
    rw [Crew.log, ← List.append_assoc]
    exact ih (h.step halong hways hlater hundisputed turn) (halong.step hways hlater turn)

theorem start (before : Disk) (l : Location)
    (hworkers : c.workers = ways.map fun x => ⟨x.program, []⟩) : c.Filled before [] l := by
  refine ⟨nofun, fun i w hw ticket t ht => ?_⟩
  rw [hworkers, List.getElem?_map] at hw
  obtain ⟨x, -, rfl⟩ := Option.map_eq_some_iff.1 hw
  cases ht

end Crew.Filled

end StylesheetAssets.Parallel
