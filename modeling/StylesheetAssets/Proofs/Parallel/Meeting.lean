import StylesheetAssets.Proofs.Parallel.Filling

/-!
Runs of the same workers under different schedules. Where one of them comes through, all do, and
where nothing is disputed they leave the same disk.
-/
namespace StylesheetAssets.Parallel

open Program

variable {α : Type} {config : Config} {outDir : Path} {before : Disk}

/-- Under the schedule all workers come to their ends, and nothing fails. They set out when the
output directory was made. -/
structure Crew.Succeeds (c : Crew α) (schedule : List Turn) (ways : List (Way α)) (config : Config)
    (outDir : Path) (before : Disk) : Prop where
  finishes : c.Finishes schedule ways
  made : before.createDirectories outDir = (.ok (), c.shared.session.disk)
  sound : ∀ x ∈ ways, x.Sound config outDir (WrittenBy before (actsOf (c.log schedule))) before
    (c.run schedule).shared.session.disk

namespace Crew.Finishes

variable {c c' : Crew α} {schedule schedule' : List Turn} {ways ways' : List (Way α)}

theorem fits (h : c.Finishes schedule ways) (hfitting : ∀ x ∈ ways, Fitting config [] x.exchanges)
    (i : Nat) (deed : Deed) (hmem : (i, deed) ∈ c.log schedule) : deed.Fits config := by
  obtain ⟨x, hx, hdeed⟩ := h.mem_log.1 hmem
  cases deed with
  | asked e => exact ⟨_, (hfitting x (List.mem_of_getElem? hx)).of_mem hdeed⟩
  | copied => trivial

/-- The same ways are made of the same acts. -/
theorem mem_actsOf_perm (h : c.Finishes schedule ways) (h' : c'.Finishes schedule' ways')
    (hperm : ways.Perm ways') {a : Act} :
    a ∈ actsOf (c'.log schedule') ↔ a ∈ actsOf (c.log schedule) := by
  rw [h.mem_actsOf, h'.mem_actsOf]
  simp only [hperm.mem_iff]

theorem mem_claimsOf_perm (h : c.Finishes schedule ways) (h' : c'.Finishes schedule' ways')
    (hperm : ways.Perm ways') {r : CopyRequest} :
    r ∈ claimsOf (c'.log schedule') ↔ r ∈ claimsOf (c.log schedule) := by
  rw [h.mem_claimsOf, h'.mem_claimsOf]
  simp only [hperm.mem_iff]

theorem writtenBy_eq (h : c.Finishes schedule ways) (h' : c'.Finishes schedule' ways')
    (hperm : ways.Perm ways') (before : Disk) :
    WrittenBy before (actsOf (c'.log schedule')) = WrittenBy before (actsOf (c.log schedule)) := by
  funext l
  refine propext (exists_congr fun a => ?_)
  rw [h.mem_actsOf_perm h' hperm]

end Crew.Finishes

namespace Crew.Succeeds

variable {c c' : Crew α} {schedule schedule' : List Turn} {ways ways' : List (Way α)}

theorem did (h : c.Succeeds schedule ways config outDir before) :
    c.shared.session.disk.Passes (actsOf (c.log schedule)) (c.run schedule).shared.session.disk ∧
      (c.run schedule).shared.registry = c.shared.registry.claimAll (claimsOf (c.log schedule)) ∧
      ∀ e, e ∈ c.shared.session.journal ∨ e ∈ (actsOf (c.log schedule)).map Act.event →
        e ∈ (c.run schedule).shared.session.journal :=
  c.did_run (h.finishes.fits fun x hx => (h.sound x hx).fitting)

theorem later (h : c.Succeeds schedule ways config outDir before) :
    before.Later (c.run schedule).shared.session.disk := by
  have hmade : (Act.made outDir).Takes before c.shared.session.disk := h.made
  exact hmade.later.trans h.did.1.later

theorem amid_start (h : c.Succeeds schedule ways config outDir before) (written : Location → Prop) :
    Amid written before (c.run schedule).shared.session.disk c.shared.session.disk := by
  have hextends := Disk.extends_createDirectories before outDir
  rw [h.made] at hextends
  exact (Amid.refl written _ _).of_extends hextends fun l _ hl => h.did.1.later.directories l hl

theorem reaches (h : c.Succeeds schedule ways config outDir before) :
    c.shared.session.disk.Reaches outDir := Disk.reaches_of_createDirectories h.made

/-- The same workers in another order, under another schedule, stay on their ways. -/
theorem along (h : c.Succeeds schedule ways config outDir before) (hperm : ways.Perm ways')
    (hworkers : c'.workers = ways'.map fun x => ⟨x.program, []⟩)
    (hdisk : c'.shared.session.disk = c.shared.session.disk) (schedule' : List Turn) :
    (c'.run schedule').Along config outDir (WrittenBy before (actsOf (c.log schedule))) before
      (c.run schedule).shared.session.disk ways' (c'.log schedule') := by
  have hstart := Along.start config hworkers
    (hdisk ▸ h.amid_start (WrittenBy before (actsOf (c.log schedule)))) (hdisk ▸ h.reaches)
  have hrun := hstart.run (fun x hx => h.sound x (hperm.mem_iff.2 hx)) h.later schedule'
  rwa [List.nil_append] at hrun

/-- They succeed as well, when they come to their ends. -/
theorem perm (h : c.Succeeds schedule ways config outDir before) (hperm : ways.Perm ways')
    (hworkers : c'.workers = ways'.map fun x => ⟨x.program, []⟩)
    (hdisk : c'.shared.session.disk = c.shared.session.disk)
    (hdone : ∀ w ∈ (c'.run schedule').workers, ∃ a, w.program = done a) :
    c'.Succeeds schedule' ways' config outDir before := by
  have hsound : ∀ x ∈ ways', x.Sound config outDir (WrittenBy before (actsOf (c.log schedule)))
      before (c.run schedule).shared.session.disk := fun x hx => h.sound x (hperm.mem_iff.2 hx)
  have halong := h.along hperm hworkers hdisk schedule'
  have hfinishes := Finishes.of_along hworkers halong hsound hdone
  have hpasses := (c'.did_run halong.fits).1
  have hmem {x : Way α} (hx : x ∈ ways') {deed : Deed} (hdeed : x.Does deed) {a : Act}
      (hact : deed.act? = some a) : a ∈ actsOf (c'.log schedule') :=
    hfinishes.mem_actsOf.2 ⟨x, hx, deed, hdeed, hact⟩
  have hstands {x : Way α} (hx : x ∈ ways') (deed : Deed) (hdeed : x.Does deed) {a : Act}
      (hact : deed.act? = some a)
      (hstands : a.Stands (WrittenBy before (actsOf (c.log schedule))) before
        (c.run schedule).shared.session.disk) :
      a.Stands (WrittenBy before (actsOf (c'.log schedule'))) before
        (c'.run schedule').shared.session.disk := by
    have hmem := hmem hx hdeed hact
    rw [h.finishes.writtenBy_eq hfinishes hperm]
    refine halong.amid.stands hstands (fun q hq => ?_) fun p hp => hpasses.reaches (hp ▸ hmem)
    obtain ⟨l, hleft⟩ := hpasses.left hmem hstands.intact hq
    have hworkDir : c'.shared.session.disk.workDir = before.workDir :=
      hdisk ▸ (h.amid_start fun _ => True).workDir
    rw [← Disk.placeOf_congr hworkDir, hleft.placeOf_eq]
    exact hleft.file
  refine ⟨hfinishes, hdisk ▸ h.made, fun x hx => ?_⟩
  have hx' := hsound x hx
  refine ⟨hx'.leads, hx'.fitting, hx'.orderly, hx'.recorded, hx'.joined, hx'.outputs,
    fun e he a ha => hstands hx (.asked e) he ha (hx'.stands e he a ha), fun t ht => ?_⟩
  obtain ⟨source, destination, outcome?⟩ := t
  obtain ⟨outcome, hmade, hcopied⟩ := hx'.copied _ ht
  obtain rfl : outcome? = some outcome := hmade
  exact ⟨outcome, rfl,
    hstands hx (.copied source destination outcome) ht rfl hcopied⟩

variable {l : Location}

theorem filled (h : c.Succeeds schedule ways config outDir before)
    (hundisputed : Undisputed before ways l) :
    (c.run schedule).Filled before (c.log schedule) l := by
  have hstart := Along.start config h.finishes.starts
    (h.amid_start (WrittenBy before (actsOf (c.log schedule)))) h.reaches
  have hrun := (Filled.start before l h.finishes.starts).run hstart h.sound
    h.later hundisputed schedule
  rwa [List.nil_append] at hrun

/-- What a worker writes there, or copies there last, lies there in the end. -/
theorem holds (h : c.Succeeds schedule ways config outDir before)
    (hundisputed : Undisputed before ways l) {x : Way α} (hx : x ∈ ways) :
    (∀ p bytes, x.Writes p bytes → before.placeOf p = l →
      (c.run schedule).shared.session.disk.Holds p bytes) ∧
      ∀ (ticket : Nat) (t : Transfer), x.transfers[ticket]? = some t →
        LastAmong (fun _ => True) x.transfers ticket t → before.placeOf t.destination = l →
          ∀ bytes, before.Holds t.source bytes →
            (c.run schedule).shared.session.disk.Holds t.destination bytes := by
  obtain ⟨i, hi⟩ := List.getElem?_of_mem hx
  have hfilled := h.filled hundisputed
  have hw := h.finishes.worker_eq hi
  refine ⟨fun p bytes hwrites => hfilled.outputs i _ hw p bytes ?_,
    fun ticket t ht hlast => hfilled.copies i _ hw ticket t ht ?_ ?_⟩
  · rw [h.finishes.exchanges i x hi]
    exact hwrites
  · obtain ⟨outcome, hmade, -⟩ := (h.sound x hx).copied t (List.mem_of_getElem? ht)
    rw [Transfer.Made, hmade]
    nofun
  · exact fun j t' hj ht' _ => hlast j t' hj ht' trivial

/-- Two runs of the same workers agree where they write without a dispute. -/
theorem get?_of_written (h : c.Succeeds schedule ways config outDir before)
    (h' : c'.Succeeds schedule' ways' config outDir before) (hperm : ways.Perm ways')
    (hundisputed : Undisputed before ways l) (hl : WrittenBy before (actsOf (c.log schedule)) l) :
    (c'.run schedule').shared.session.disk.get? l =
      (c.run schedule).shared.session.disk.get? l := by
  obtain ⟨a, ha, q, hq, hplace⟩ := hl
  obtain ⟨x, hx, deed, hdeed, hact⟩ := h.finishes.mem_actsOf.1 ha
  have hagree {p : Path} {bytes : ByteArray} (hp : before.placeOf p = l)
      (hholds : (c.run schedule).shared.session.disk.Holds p bytes)
      (hholds' : (c'.run schedule').shared.session.disk.Holds p bytes) :
      (c'.run schedule').shared.session.disk.get? l =
        (c.run schedule).shared.session.disk.get? l := by
    rw [Disk.Holds, Disk.placeOf_congr h.later.workDir, hp] at hholds
    rw [Disk.Holds, Disk.placeOf_congr h'.later.workDir, hp] at hholds'
    rw [hholds, hholds']
  obtain ⟨houtputs, hcopies⟩ := h.holds hundisputed hx
  obtain ⟨houtputs', hcopies'⟩ := h'.holds (hundisputed.perm hperm) (hperm.mem_iff.1 hx)
  cases deed with
  | asked e =>
    obtain ⟨bytes, rfl⟩ := Deed.exists_write hact hq
    exact hagree hplace (houtputs q bytes hdeed hplace) (houtputs' q bytes hdeed hplace)
  | copied source destination outcome =>
    cases hact
    cases hq
    obtain ⟨ticket, t, ht, hsame, hlast⟩ := exists_lastAmong hdeed
    obtain ⟨-, -, k, l, bytes, hshown, -⟩ := (h.sound x hx).copied t (List.mem_of_getElem? ht)
    rw [← before.placeOf_eq_of_same hsame] at hplace
    exact hagree hplace (hcopies ticket t ht hlast hplace bytes hshown.holds)
      (hcopies' ticket t ht hlast hplace bytes hshown.holds)

/-- Two runs of the same workers leave the same at a place that is not disputed. -/
theorem get?_eq (h : c.Succeeds schedule ways config outDir before)
    (h' : c'.Succeeds schedule' ways' config outDir before) (hperm : ways.Perm ways')
    (hundisputed : Undisputed before ways l) :
    (c'.run schedule').shared.session.disk.get? l =
      (c.run schedule).shared.session.disk.get? l := by
  have hdisk : c'.shared.session.disk = c.shared.session.disk :=
    (Prod.mk.inj (h'.made.symm.trans h.made)).2
  by_cases hl : WrittenBy before (actsOf (c.log schedule)) l
  · exact h.get?_of_written h' hperm hundisputed hl
  · have hthere := (h.along hperm h'.finishes.starts hdisk schedule').amid
    have hback := (h'.along hperm.symm h.finishes.starts hdisk.symm schedule).amid
    rw [h.finishes.writtenBy_eq h'.finishes hperm] at hback
    exact hthere.antisymm hback hl

end Crew.Succeeds

end StylesheetAssets.Parallel
