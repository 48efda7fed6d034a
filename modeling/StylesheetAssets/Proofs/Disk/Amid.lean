import StylesheetAssets.Proofs.Disk.Apart

/-!
Disks on the way.

A run of acts that writes nothing it looks at leaves marks: what it looked at stays, what it wrote
is a file in the end. Each of its acts can be made, with the same answer, on every disk that lies
amid those before and after the run, as soon as the directory is there that it writes into; and it
leads to such a disk again. It does not matter in which order.
-/
namespace StylesheetAssets

/-- The acts write to the place. -/
def WrittenBy (before : Disk) (acts : List Act) (l : Location) : Prop :=
  ∃ a ∈ acts, ∃ q ∈ a.event.written?, before.placeOf q = l

/-- What is looked at is looked at through a normalized path, and what is made is canonical. -/
def Act.Neat : Act → Prop
  | examined p _ => ∃ q : Path, p = q.normalize
  | read p _ => ∃ q : Path, p = q.normalize
  | made p => p.IsCanonical
  | wrote _ _ => True
  | copied source _ _ => ∃ q : Path, source = q.normalize

/-- The path leads there before the run, and nothing is changed there. -/
structure Shown (written : Location → Prop) (before after : Disk) (p : Path) (l : Location)
    (e : Entry) : Prop where
  resolve : before.resolve p = .ok (.found l e)
  kept : after.get? l = before.get? l
  unwritten : ¬written l

/-- The path could be written there at some time of the run, and after it a file lies there. -/
structure Left (written : Location → Prop) (before after : Disk) (p : Path) (l : Location) :
    Prop where
  writable : ∃ d : Disk, d.workDir = before.workDir ∧ d.writable p = .ok l
  file : ∃ bytes, after.get? l = some (.file bytes)
  written : written l

/-- What a run says of an act in it that does not depend on when the act was made. -/
def Act.Stands (written : Location → Prop) (before after : Disk) : Act → Prop
  | examined p n => ∃ l e, Shown written before after p l e ∧ e.size = n
  | read p bytes => ∃ l, Shown written before after p l (.file bytes)
  | made p => before.Reaches p ∨ p.IsCanonical ∧ ∃ l, after.resolve p = .ok (.found l .directory)
  | wrote p _ => ∃ l, Left written before after p l
  | copied source destination outcome => ∃ k l bytes,
      Shown written before after source k (.file bytes) ∧ Left written before after destination l ∧
        outcome = .ok bytes.size

variable {written : Location → Prop} {before after d d' : Disk} {a : Act} {acts all : List Act}
  {p q : Path} {l : Location} {bytes : ByteArray}

theorem Left.placeOf_eq (h : Left written before after p l) : before.placeOf p = l := by
  obtain ⟨d, hworkDir, hl⟩ := h.writable
  rw [← Disk.placeOf_congr hworkDir, Disk.place_of_writable hl]

theorem Shown.holds (h : Shown written before after p l (.file bytes)) : before.Holds p bytes := by
  have hplace : l = before.placeOf p := Disk.place_of_resolve h.resolve
  rw [Disk.Holds, ← hplace]
  exact Disk.get?_of_resolve h.resolve

theorem Act.Stands.intact (h : a.Stands written before after) : ¬a.Refused := by
  rintro ⟨source, destination, e, rfl⟩
  obtain ⟨k, l, bytes, -, -, hok⟩ := h
  cases hok

theorem Disk.Reaches.resolve (h : d.Reaches p) (hp : p.IsCanonical) :
    ∃ l, d.resolve p = .ok (.found l .directory) := by
  refine h.resolve_left fun hempty => ?_
  have habs := Path.isAbsolute_eq_of_same hempty
  rw [hp.absolute] at habs
  cases habs

theorem writtenBy_congr {before' : Disk} (h : before'.workDir = before.workDir) (acts : List Act) :
    WrittenBy before' acts = WrittenBy before acts := by
  funext l
  simp only [WrittenBy, Disk.placeOf_congr h]

theorem writtenBy_made (before : Disk) (outDir : Path) (acts : List Act) :
    WrittenBy before (.made outDir :: acts) = WrittenBy before acts := by
  funext l
  refine propext ⟨?_, fun ⟨a, ha, hwritten⟩ => ⟨a, List.mem_cons_of_mem _ ha, hwritten⟩⟩
  rintro ⟨a, ha, q, hq, hplace⟩
  rcases List.mem_cons.1 ha with rfl | ha
  · cases hq
  · exact ⟨a, ha, q, hq, hplace⟩

/-! ### What a run says of its acts -/

/-- An act that was made stands, if what it looked at was there before and stays, and what it put is
there in the end. -/
theorem Act.Takes.stands (h : a.Takes d d') (hintact : ¬a.Refused)
    (hapart : ∀ p ∈ a.event.looked?, ∀ q ∈ a.event.written?, d.placeOf p ≠ d.placeOf q)
    (hshown : ∀ p ∈ a.event.looked?, ∀ l e, d.resolve p = .ok (.found l e) →
      Shown written before after p l e)
    (hleft : ∀ q ∈ a.event.written?, ∃ l, Left written before after q l)
    (hmade : ∀ p, a = .made p → (Act.made p).Stands written before after) :
    a.Stands written before after := by
  cases a with
  | examined p n =>
    obtain ⟨l, e, hl, hn⟩ := Disk.size_eq_ok.1 h.1
    exact ⟨l, e, hshown p rfl l e hl, hn⟩
  | read p bytes =>
    obtain ⟨l, hl⟩ := Disk.readFile_eq_ok.1 h.1
    exact ⟨l, hshown p rfl l _ hl⟩
  | made p => exact hmade p rfl
  | wrote p bytes => exact hleft p rfl
  | copied source destination outcome =>
    cases outcome with
    | error e => exact absurd ⟨source, destination, e, rfl⟩ hintact
    | ok n =>
      obtain ⟨k, -, bytes, hk, -, -, rfl, -⟩ :=
        Disk.exists_of_copyFile_apart h (hapart source rfl destination rfl)
      obtain ⟨l, hl⟩ := hleft destination rfl
      exact ⟨k, l, bytes, hshown source rfl k _ hk, hl, rfl⟩

namespace Disk.Passes

/-- Where an act of a run writes, a file lies in the end. -/
theorem left (h : before.Passes all after) (ha : a ∈ all) (hintact : ¬a.Refused)
    (hq : q ∈ a.event.written?) : ∃ l, Left (WrittenBy before all) before after q l := by
  obtain ⟨front, back, rfl⟩ := List.append_of_mem ha
  obtain ⟨d, hfront, hrest⟩ := passes_append.1 h
  cases hrest with
  | @cons _ d₁ _ _ _ hact hback =>
    have hworkDir := hfront.later.workDir
    have hleft {l : Location} {bytes : ByteArray} (hl : d.writable q = .ok l)
        (hfile : d₁.get? l = some (.file bytes)) :
        ∃ l, Left (WrittenBy before (front ++ a :: back)) before after q l := by
      refine ⟨l, ⟨d, hworkDir, hl⟩, hback.later.files hfile, a, ha, q, hq, ?_⟩
      rw [← placeOf_congr hworkDir, place_of_writable hl]
    cases a with
    | wrote p bytes =>
      cases hq
      obtain ⟨l, hl, rfl⟩ := writeFile_eq_ok.1 hact
      exact hleft hl (get?_put_self _ (ne_nil_of_get? (get?_ne_of_writable hl)))
    | copied source destination outcome =>
      cases outcome with
      | error e => exact absurd ⟨source, destination, e, rfl⟩ hintact
      | ok n =>
        cases hq
        obtain ⟨l, bytes, hl, -, hfile, -⟩ := exists_of_copyFile hact
        exact hleft hl hfile
    | examined | read | made => cases hq

theorem reaches (h : before.Passes all after) (hp : .made p ∈ all) : after.Reaches p := by
  obtain ⟨front, back, rfl⟩ := List.append_of_mem hp
  obtain ⟨d, -, hrest⟩ := passes_append.1 h
  cases hrest with
  | cons hact hback =>
    exact (reaches_of_createDirectories hact).later hback.later.workDir hback.later.directories

/-- What an act of a run looks at stays from then on, and is not written to. -/
theorem kept {d₁ : Disk} {front back : List Act} (hfront : before.Passes front d)
    (hact : a.Takes d d₁) (hback : d₁.Passes back after)
    (hapart : ReadsApart before after ((front ++ a :: back).map Act.event))
    (hp : p ∈ a.event.looked?) {e : Entry} (hl : d.resolve p = .ok (.found l e)) :
    after.get? l = d.get? l ∧ after.get? l = before.get? l ∧
      ¬WrittenBy before (front ++ a :: back) l := by
  have hall := passes_append.2 ⟨d, hfront, .cons hact hback⟩
  have hmem : a ∈ front ++ a :: back := List.mem_append_right _ List.mem_cons_self
  have hplace : l = before.placeOf p := by
    have hplace : l = d.placeOf p := place_of_resolve hl
    rw [hplace, placeOf_congr hfront.later.workDir]
  refine ⟨?_, ?_, fun ⟨b, hb, q, hq, hwritten⟩ => ?_⟩
  · have hapart' := (hapart.mono (List.map_subset _ (List.subset_append_right _ _))).later
      hfront.later
    rw [hplace, ← placeOf_congr hfront.later.workDir]
    exact (Passes.cons hact hback).get?_looked hapart' List.mem_cons_self hp
  · rw [hplace]
    exact hall.get?_looked hapart hmem hp
  · refine hapart.written _ (List.mem_map_of_mem hmem) _ (List.mem_map_of_mem hb) p hp q hq ?_
    rw [hwritten, hplace]

/-- The acts of a run on a tree stand, whenever they were made. -/
theorem stands (h : before.Passes all after) (htree : before.IsTree)
    (hapart : ReadsApart before after (all.map Act.event)) (ha : a ∈ all) (hneat : a.Neat)
    (hintact : ¬a.Refused) : a.Stands (WrittenBy before all) before after := by
  have hleft := fun q => h.left ha hintact (q := q)
  have hevent := List.mem_map_of_mem (f := Act.event) ha
  have hreaches := fun p (hp : a = .made p) => h.reaches (hp ▸ ha)
  obtain ⟨front, back, rfl⟩ := List.append_of_mem ha
  obtain ⟨d, hfront, hrest⟩ := passes_append.1 h
  cases hrest with
  | cons hact hback =>
    refine hact.stands hintact (fun p hp q hq => ?_) (fun p hp l e hl => ?_) hleft
      fun p hp => .inr ?_
    · rw [placeOf_congr hfront.later.workDir, placeOf_congr hfront.later.workDir]
      exact hapart.written _ hevent _ hevent p hp q hq
    · obtain ⟨hd, hbefore, hwritten⟩ := kept hfront hact hback hapart hp hl
      obtain ⟨q, rfl⟩ : ∃ q : Path, p = q.normalize := by
        cases a with
        | examined | read | copied =>
          cases hp
          exact hneat
        | made | wrote => cases hp
      exact ⟨resolve_upThenDown (Path.upThenDown_normalize q) htree hfront.later.workDir.symm
        (hbefore.symm.trans hd) hl, hbefore, hwritten⟩
    · subst hp
      exact ⟨hneat, (hreaches p rfl).resolve hneat⟩

/-- The acts of a run stand also on the disk that it has left, as everything is there already. -/
theorem stands_again {after' : Disk} (h : before.Passes all after)
    (hapart : ReadsApart before after (all.map Act.event)) (ha : a ∈ all) (hintact : ¬a.Refused)
    (hsame : ∀ l, after'.get? l = after.get? l) :
    a.Stands (WrittenBy after all) after after' := by
  have hworkDir := h.later.workDir
  rw [writtenBy_congr hworkDir]
  have hleft := fun q => h.left ha hintact (q := q)
  have hevent := List.mem_map_of_mem (f := Act.event) ha
  have hreaches := fun p (hp : a = .made p) => h.reaches (hp ▸ ha)
  obtain ⟨front, back, rfl⟩ := List.append_of_mem ha
  obtain ⟨d, hfront, hrest⟩ := passes_append.1 h
  cases hrest with
  | cons hact hback =>
    have hlater := hact.later.trans hback.later
    refine hact.stands hintact (fun p hp q hq => ?_) (fun p hp l e hl => ?_) (fun q hq => ?_)
      fun p hp => .inl (hreaches p hp)
    · rw [placeOf_congr hfront.later.workDir, placeOf_congr hfront.later.workDir]
      exact hapart.written _ hevent _ hevent p hp q hq
    · obtain ⟨hd, -, hwritten⟩ := kept hfront hact hback hapart hp hl
      exact ⟨resolve_found hlater.workDir hlater.directories (fun _ => hd) hl, hsame l, hwritten⟩
    · obtain ⟨l, ⟨d, hd, hl⟩, hfile, hwritten⟩ := hleft q hq
      exact ⟨l, ⟨d, hd.trans hworkDir.symm, hl⟩, by rwa [hsame], hwritten⟩

end Disk.Passes

/-! ### Disks amid a run -/

/-- At every place of the disk lies what lies there before or after the run, or, where the run
writes, some file. -/
structure Amid (written : Location → Prop) (before after d : Disk) : Prop where
  workDir : d.workDir = before.workDir
  either : ∀ l, d.get? l = before.get? l ∨ d.get? l = after.get? l ∨
    written l ∧ (∃ bytes, d.get? l = some (.file bytes)) ∧
      ∃ bytes, after.get? l = some (.file bytes)

/-- The path is that of a name in a directory that is there. -/
def Disk.Houses (d : Disk) (p : Path) : Prop :=
  ∃ directory name, p = directory.join ⟨name⟩ ∧ Path.IsName name ∧ d.Reaches directory

namespace Amid

theorem refl (written : Location → Prop) (before after : Disk) :
    Amid written before after before := ⟨rfl, fun _ => .inl rfl⟩

theorem directories (h : Amid written before after d) (hlater : before.Later after)
    (hl : before.get? l = some .directory) : d.get? l = some .directory := by
  rcases h.either l with heq | heq | ⟨-, -, bytes, hfile⟩
  · rw [heq, hl]
  · rw [heq, hlater.directories l hl]
  · rw [hlater.directories l hl] at hfile
    cases hfile

/-- No file of the disk lies where there is a directory in the end. -/
theorem apart (h : Amid written before after d) (hlater : before.Later after)
    (hl : d.get? l = some (.file bytes)) : after.get? l ≠ some .directory := by
  rcases h.either l with heq | heq | ⟨-, -, content, hfile⟩
  · obtain ⟨content, hfile⟩ := hlater.files (heq ▸ hl)
    simp [hfile]
  · simp [← heq, hl]
  · simp [hfile]

theorem resolve (h : Amid written before after d) (hlater : before.Later after) {e : Entry}
    (hshown : Shown written before after p l e) : d.resolve p = .ok (.found l e) := by
  have hl : d.get? l = before.get? l := by
    rcases h.either l with heq | heq | ⟨hwritten, -⟩
    · exact heq
    · rw [heq, hshown.kept]
    · exact absurd hwritten hshown.unwritten
  exact Disk.resolve_found h.workDir (fun _ => h.directories hlater) (fun _ => hl) hshown.resolve

theorem writable (h : Amid written before after d) (hlater : before.Later after)
    (hleft : Left written before after p l) (hhouses : d.Houses p) : d.writable p = .ok l := by
  obtain ⟨directory, name, rfl, hname, hreaches⟩ := hhouses
  obtain ⟨d₁, hworkDir, hl⟩ := hleft.writable
  obtain ⟨bytes, hfile⟩ := hleft.file
  refine hreaches.writable_join hname hl (h.workDir.trans hworkDir.symm) fun hdirectory => ?_
  rcases h.either l with heq | heq | ⟨-, ⟨content, hcontent⟩, -⟩
  · rw [hlater.directories l (heq ▸ hdirectory)] at hfile
    cases hfile
  · rw [heq, hfile] at hdirectory
    cases hdirectory
  · rw [hcontent] at hdirectory
    cases hdirectory

/-- Directories that are there in the end may be made. -/
theorem of_extends (h : Amid written before after d) (hextends : d.Extends d')
    (hmade : ∀ l, d.get? l = none → d'.get? l = some .directory →
      after.get? l = some .directory) : Amid written before after d' := by
  refine ⟨hextends.workDir.trans h.workDir, fun l => ?_⟩
  rcases hd : d.get? l with - | e
  · rcases hd' : d'.get? l with - | (bytes | -)
    · rw [← hd]
      exact h.either l
    · rw [hextends.filed hd'] at hd
      cases hd
    · exact .inr (.inl (hmade l hd hd').symm)
  · rw [hextends.kept hd, ← hd]
    exact h.either l

/-- A file may be written where the run leaves one. -/
theorem of_file (h : Amid written before after d) (hleft : Left written before after p l)
    (hworkDir : d'.workDir = d.workDir) (hfile : d'.get? l = some (.file bytes))
    (hothers : ∀ k, k ≠ l → d'.get? k = d.get? k) : Amid written before after d' := by
  refine ⟨hworkDir.trans h.workDir, fun k => ?_⟩
  by_cases hk : k = l
  · rw [hk]
    exact .inr (.inr ⟨hleft.written, ⟨bytes, hfile⟩, hleft.file⟩)
  · rw [hothers k hk]
    exact h.either k

/-- An act that stands can be made, if the directory is there that it writes into. -/
theorem step (h : Amid written before after d) (hlater : before.Later after)
    (hstands : a.Stands written before after) (hhouses : ∀ p ∈ a.event.written?, d.Houses p) :
    ∃ d', a.Takes d d' ∧ Amid written before after d' := by
  cases a with
  | examined p n =>
    obtain ⟨l, e, hshown, hn⟩ := hstands
    exact ⟨d, ⟨Disk.size_eq_ok.2 ⟨l, e, h.resolve hlater hshown, hn⟩, rfl⟩, h⟩
  | read p bytes =>
    obtain ⟨l, hshown⟩ := hstands
    exact ⟨d, ⟨Disk.readFile_eq_ok.2 ⟨l, h.resolve hlater hshown⟩, rfl⟩, h⟩
  | made p =>
    rcases hstands with hreaches | ⟨hp, l, hl⟩
    · exact ⟨d, (hreaches.later h.workDir fun _ => h.directories hlater).createDirectories, h⟩
    obtain ⟨hok, -⟩ := Disk.createDirectories_canonical hp hl
      (h.workDir.trans hlater.workDir.symm) fun _ _ => h.apart hlater
    refine ⟨(d.createDirectories p).2, Prod.ext hok rfl,
      h.of_extends (Disk.extends_createDirectories d p) fun k hnone hmade => ?_⟩
    refine Disk.directories_of_resolve hp hl ?_
    by_contra hk
    rw [hp.placeOf_eq, ← hp.placeOf_eq d] at hk
    rw [Disk.get?_createDirectories hp hk, hnone] at hmade
    cases hmade
  | wrote p bytes =>
    obtain ⟨l, hleft⟩ := hstands
    have hl := h.writable hlater hleft (hhouses p rfl)
    have hroot := Disk.ne_nil_of_get? (Disk.get?_ne_of_writable hl)
    exact ⟨_, Disk.writeFile_eq_ok.2 ⟨l, hl, rfl⟩, h.of_file hleft rfl (Disk.get?_put_self _ hroot)
      fun k hk => Disk.get?_put_of_ne _ hk⟩
  | copied source destination outcome =>
    obtain ⟨k, l, bytes, hshown, hleft, rfl⟩ := hstands
    have hl := h.writable hlater hleft (hhouses destination rfl)
    have hne : k ≠ l := fun heq => hshown.unwritten (heq ▸ hleft.written)
    obtain ⟨d', hcopy, hworkDir, hfile, hothers⟩ :=
      Disk.copyFile_of_apart (h.resolve hlater hshown) hl hne
    exact ⟨d', hcopy, h.of_file hleft hworkDir hfile hothers⟩

/-- Behind a copy that stands its destination holds what the source held before the run. -/
theorem holds_copied {source destination : Path} {outcome : Except DiskError Nat}
    (h : Amid written before after d) (hlater : before.Later after)
    (hstands : (Act.copied source destination outcome).Stands written before after)
    (htakes : (Act.copied source destination outcome).Takes d d')
    (hholds : before.Holds source bytes) : d'.Holds destination bytes := by
  obtain ⟨k, l, content, hshown, hleft, rfl⟩ := hstands
  obtain rfl := hshown.holds.unique hholds
  have hk := h.resolve hlater hshown
  have hsource : d.placeOf source = k := (Disk.place_of_resolve hk).symm
  have hdestination : d.placeOf destination = l := by
    rw [Disk.placeOf_congr h.workDir, hleft.placeOf_eq]
  have hne : k ≠ l := fun heq => hshown.unwritten (heq ▸ hleft.written)
  obtain ⟨k', l', content', hk', hl', -, -, hworkDir, hfile, -⟩ :=
    Disk.exists_of_copyFile_apart htakes (by rwa [hsource, hdestination])
  cases hk.symm.trans hk'
  rwa [Disk.Holds, Disk.placeOf_congr hworkDir, Disk.place_of_writable hl']

/-- Where the run does not write, two disks that lie each on the way to the other are the same. -/
theorem antisymm {after' : Disk} (h : Amid written before after after')
    (h' : Amid written before after' after) (hl : ¬written l) : after'.get? l = after.get? l := by
  rcases h.either l with heq | heq | ⟨hwritten, -⟩
  · rcases h'.either l with heq' | heq' | ⟨hwritten, -⟩
    · rw [heq, heq']
    · exact heq'.symm
    · exact absurd hwritten hl
  · exact heq
  · exact absurd hwritten hl

/-- What stands for a run stands for another one that ends amid it, and has made and written the
same. -/
theorem stands (h : Amid written before after d) (hstands : a.Stands written before after)
    (hfiles : ∀ q ∈ a.event.written?, ∃ bytes, d.get? (before.placeOf q) = some (.file bytes))
    (hmade : ∀ p, a = .made p → d.Reaches p) : a.Stands written before d := by
  have hshown {p : Path} {l : Location} {e : Entry} (hshown : Shown written before after p l e) :
      Shown written before d p l e := by
    refine ⟨hshown.resolve, ?_, hshown.unwritten⟩
    rcases h.either l with heq | heq | ⟨hwritten, -⟩
    · exact heq
    · rw [heq, hshown.kept]
    · exact absurd hwritten hshown.unwritten
  have hleft {q : Path} {l : Location} (hq : q ∈ a.event.written?)
      (hleft : Left written before after q l) : Left written before d q l :=
    ⟨hleft.writable, hleft.placeOf_eq ▸ hfiles q hq, hleft.written⟩
  cases a with
  | examined p n =>
    obtain ⟨l, e, hl, hn⟩ := hstands
    exact ⟨l, e, hshown hl, hn⟩
  | read p bytes =>
    obtain ⟨l, hl⟩ := hstands
    exact ⟨l, hshown hl⟩
  | made p => exact hstands.imp_right fun hp => ⟨hp.1, (hmade p rfl).resolve hp.1⟩
  | wrote p bytes =>
    obtain ⟨l, hl⟩ := hstands
    exact ⟨l, hleft rfl hl⟩
  | copied source destination outcome =>
    obtain ⟨k, l, bytes, hk, hl, hn⟩ := hstands
    exact ⟨k, l, bytes, hshown hk, hleft rfl hl, hn⟩

end Amid

end StylesheetAssets
