import StylesheetAssets.Proofs.Copy.Claims
import StylesheetAssets.Proofs.Disk.Holding
import StylesheetAssets.Proofs.Disk.Walking
import StylesheetAssets.Proofs.Parallel.Progress

/-!
Requests one after the other, with copies in the background. The copies under way are at each time
one for each destination, of the source that it was last requested for. Once all of them have been
waited for, that source is what the destination holds, whenever the copies were made.
-/
namespace StylesheetAssets.Parallel

open Program

namespace Collecting

def requestAll (requests : List CopyRequest) : Collecting Unit :=
  requests.forM fun r => request r.source r.destination

variable {copies copies' : List Pending} {es : List Exchange} {u : Unit}

theorem leads_requestAll_cons {r : CopyRequest} {rest : List CopyRequest}
    (h : (requestAll (r :: rest) copies).Leads es (done (.ok u, copies'))) :
    ∃ front between back, es = front ++ back ∧
      Requested r.source r.destination copies front between ∧
      (requestAll rest between).Leads back (done (.ok (), copies')) := by
  obtain ⟨front, ⟨⟩, between, back, rfl, hfront, hback⟩ := leads_bind.1 h
  exact ⟨front, between, back, rfl, requested_of_leads hfront, hback⟩

end Collecting

/-- There is one copy under way for each destination that was requested, of the source that was
requested last. -/
structure Tracks (copies : List Pending) (requests : List CopyRequest) : Prop where
  distinct : Distinct copies
  requested : ∀ p : Path, (∃ c ∈ copies, c.destination.same p = true) ↔
    ∃ r ∈ requests, r.destination.same p = true
  latest : ∀ copy ∈ copies,
    (sourcesOf requests copy.destination.components).getLast? = some copy.source.components

theorem eq_of_same_destination {copies : List Pending} {c c' : Pending} (h : Distinct copies)
    (hc : c ∈ copies) (hc' : c' ∈ copies) (hsame : c.destination.same c'.destination = true) :
    c = c' := by
  have hpairwise := List.pairwise_map.1 h
  have hsymm : Std.Symm fun c c' : Pending => c.destination.same c'.destination = false :=
    ⟨fun c c' hne => eq_false_of_ne_true fun heq => absurd (same_symm heq) (by simp [hne])⟩
  by_contra hne
  exact absurd hsame (ne_true_of_eq_false (hpairwise.forall hc hc' hne))

namespace Tracks

variable {copies copies' left : List Pending} {before : List CopyRequest}
  {source destination : Path} {es : List Exchange}

theorem nil : Tracks [] [] := by
  constructor <;> simp [Distinct, Path.Distinct]

/-- As many copies as there are destinations. -/
theorem length_eq {requests : List CopyRequest} (h : Tracks copies requests) :
    copies.length = (destinationsOf requests).card := by
  have hnodup : (copies.map (·.destination.components)).Nodup := by
    refine List.pairwise_map.2 ((List.pairwise_map.1 h.distinct).imp fun {c c'} hne heq => ?_)
    rw [Path.same, heq, decide_eq_true rfl] at hne
    cases hne
  have hmem : (copies.map (·.destination.components)).toFinset = destinationsOf requests := by
    ext cs
    rw [destinationsOf, List.mem_toFinset, List.mem_toFinset, List.mem_map, List.mem_map]
    constructor
    · rintro ⟨c, hc, rfl⟩
      obtain ⟨r, hr, hsame⟩ := (h.requested c.destination).1 ⟨c, hc, same_refl _⟩
      exact ⟨r, hr, of_decide_eq_true hsame⟩
    · rintro ⟨r, hr, rfl⟩
      obtain ⟨c, hc, hsame⟩ := (h.requested r.destination).2 ⟨r, hr, same_refl _⟩
      exact ⟨c, hc, of_decide_eq_true hsame⟩
  rw [← hmem, List.toFinset_card_of_nodup hnodup, List.length_map]

/-- What a destination already has was the last that was requested for it, also after it is
requested once more. -/
theorem repeated {copy : Pending} (h : Tracks copies before) (hcopy : copy ∈ copies)
    (hsame : copy.destination.same destination = true) (hsource : copy.source.same source = true) :
    Tracks copies (before ++ [⟨source, destination⟩]) := by
  refine ⟨h.distinct, fun p => ?_, fun c hc => ?_⟩
  · rw [h.requested p]
    refine ⟨fun ⟨r, hr, hp⟩ => ⟨r, List.mem_append_left _ hr, hp⟩, fun ⟨r, hr, hp⟩ => ?_⟩
    rcases List.mem_append.1 hr with hr | hr
    · exact ⟨r, hr, hp⟩
    · obtain rfl := List.mem_singleton.1 hr
      exact (h.requested p).1 ⟨copy, hcopy, same_trans hsame hp⟩
  · rw [sourcesOf_concat]
    split
    · next hlast =>
      have hsame' : c.destination.same copy.destination = true :=
        decide_eq_true (hlast.symm.trans (of_decide_eq_true hsame).symm)
      obtain rfl := eq_of_same_destination h.distinct hc hcopy hsame'
      rw [List.getLast?_concat, of_decide_eq_true hsource]
    · rw [List.append_nil]
      exact h.latest c hc

/-- The newest copy takes the place of the one that went to the same destination. -/
theorem renewed {ticket : Nat} (h : Tracks copies before)
    (hleft : ∀ c, c ∈ left ↔ c ∈ copies ∧ c.destination.same destination = false)
    (hdistinct : Distinct (left ++ [⟨source, destination, ticket⟩])) :
    Tracks (left ++ [⟨source, destination, ticket⟩]) (before ++ [⟨source, destination⟩]) := by
  refine ⟨hdistinct, fun p => ⟨?_, ?_⟩, fun c hc => ?_⟩
  · rintro ⟨c, hc, hp⟩
    rcases List.mem_append.1 hc with hc | hc
    · obtain ⟨r, hr, hp⟩ := (h.requested p).1 ⟨c, ((hleft c).1 hc).1, hp⟩
      exact ⟨r, List.mem_append_left _ hr, hp⟩
    · obtain rfl := List.mem_singleton.1 hc
      exact ⟨_, List.mem_append_right _ (List.mem_singleton_self _), hp⟩
  · rintro ⟨r, hr, hp⟩
    by_cases hlast : destination.same p = true
    · exact ⟨_, List.mem_append_right _ (List.mem_singleton_self _), hlast⟩
    rcases List.mem_append.1 hr with hr | hr
    · obtain ⟨c, hc, hp⟩ := (h.requested p).2 ⟨r, hr, hp⟩
      have hne : c.destination.same destination = false :=
        eq_false_of_ne_true fun heq => hlast (same_trans (same_symm heq) hp)
      exact ⟨c, List.mem_append_left _ ((hleft c).2 ⟨hc, hne⟩), hp⟩
    · obtain rfl := List.mem_singleton.1 hr
      exact absurd hp hlast
  · rw [sourcesOf_concat]
    rcases List.mem_append.1 hc with hc | hc
    · obtain ⟨hc, hne⟩ := (hleft c).1 hc
      rw [if_neg fun heq => of_decide_eq_false hne heq.symm, List.append_nil]
      exact h.latest c hc
    · obtain rfl := List.mem_singleton.1 hc
      rw [if_pos rfl, List.getLast?_concat]

theorem request (h : Tracks copies before)
    (hrequested : Requested source destination copies es copies') :
    Tracks copies' (before ++ [⟨source, destination⟩]) := by
  have hdistinct := hrequested.distinct h.distinct
  cases hrequested with
  | held mem destined sourced => exact h.repeated mem destined sourced
  | fresh ticket free =>
    exact h.renewed (fun c => ⟨fun hc => ⟨hc, free c hc⟩, And.left⟩) hdistinct
  | @replaced left copy n ticket perm destined =>
    refine h.renewed (fun c => ⟨fun hc => ⟨?_, ?_⟩, fun ⟨hc, hne⟩ => ?_⟩) hdistinct
    · exact perm.mem_iff.2 (List.mem_cons_of_mem _ hc)
    · exact (distinct_concat.1 hdistinct).2 c hc
    · refine (List.mem_cons.1 (perm.mem_iff.1 hc)).resolve_left ?_
      rintro rfl
      rw [destined] at hne
      cases hne

end Tracks

namespace Exchange

/-- The exchange is about copies, and hands out only what was requested. -/
def Serves (requests : List CopyRequest) : Exchange → Prop
  | ⟨.claim .., _⟩ => True
  | ⟨.start source destination, _⟩ => ⟨source, destination⟩ ∈ requests
  | ⟨.join _, _⟩ => True
  | _ => False

end Exchange

/-- What is known of a program that has asked for copies one after the other. -/
structure Collected (copies : List Pending) (requests all : List CopyRequest) (es : List Exchange)
    (copies' : List Pending) : Prop where
  orderly : Orderly copies es
  under : (underAfter copies es).Perm copies'
  tracks : Tracks copies' all
  serves : ∀ e ∈ es, e.Serves requests

theorem Requested.serves {source destination : Path} {copies copies' : List Pending}
    {es : List Exchange} (h : Requested source destination copies es copies') :
    ∀ e ∈ es, e.Serves [⟨source, destination⟩] := by
  cases h <;> simp [Exchange.Serves]

theorem Exchange.Serves.mono {requests requests' : List CopyRequest} (h : requests ⊆ requests')
    {e : Exchange} (he : e.Serves requests) : e.Serves requests' := by
  obtain ⟨r, answer⟩ := e
  cases r with
  | start => exact h he
  | claim => trivial
  | join => trivial
  | _ => exact he

theorem collected_of_leads {copies copies' : List Pending} {before requests : List CopyRequest}
    {es : List Exchange} {u : Unit} (htracks : Tracks copies before)
    (h : (Collecting.requestAll requests copies).Leads es (done (.ok u, copies'))) :
    Collected copies requests (before ++ requests) es copies' := by
  induction requests generalizing copies before es with
  | nil =>
    obtain ⟨rfl, -, rfl⟩ := Collecting.leads_pure.1 h
    rw [List.append_nil]
    exact ⟨trivial, .refl _, htracks, by simp⟩
  | cons r rest ih =>
    obtain ⟨front, between, back, rfl, hfirst, hrest⟩ := Collecting.leads_requestAll_cons h
    obtain ⟨horder, hunder⟩ := hfirst.orderly htracks.distinct
    obtain ⟨horder', hunder', htracks', hserves⟩ := ih (htracks.request hfirst) hrest
    refine ⟨orderly_append.2 ⟨horder, horder'.perm hunder.symm⟩, ?_, ?_, fun e he => ?_⟩
    · rw [underAfter_append]
      exact (underAfter_perm hunder back).trans hunder'
    · rwa [List.append_assoc] at htracks'
    · rcases List.mem_append.1 he with he | he
      · exact (hfirst.serves e he).mono (by simp)
      · exact (hserves e he).mono (List.subset_cons_self r rest)

/-! ### What the destinations hold -/

/-- Requests between canonical paths, none of them from where another one goes to. -/
structure Apart (requests : List CopyRequest) : Prop where
  source : ∀ r ∈ requests, r.source.IsCanonical
  destination : ∀ r ∈ requests, r.destination.IsCanonical
  apart : ∀ r ∈ requests, ∀ r' ∈ requests, r.source.same r'.destination = false

/-- Nothing but destinations is written. The transfers that could be made at the start are made, and
the destination of the last one that was made holds what its source held then. -/
structure Supplied (start : Disk) (requests : List CopyRequest) (transfers : List Transfer)
    (disk : Disk) : Prop where
  workDir : disk.workDir = start.workDir
  directories : ∀ l, disk.get? l = some .directory ↔ start.get? l = some .directory
  elsewhere : ∀ l, (∀ r ∈ requests, start.placeOf r.destination ≠ l) →
    disk.get? l = start.get? l
  made : ∀ (i : Nat) (t : Transfer) outcome, transfers[i]? = some t →
    t.outcome? = some outcome → ((∃ n, outcome = .ok n) ↔
      (∃ bytes, start.readFile t.source = .ok bytes) ∧ ∃ l, start.writable t.destination = .ok l)
  filled : ∀ (i : Nat) (t : Transfer) n, transfers[i]? = some t → t.outcome? = some (.ok n) →
    (∀ (j : Nat) (t' : Transfer), i < j → transfers[j]? = some t' →
      t'.destination.same t.destination = true → t'.outcome? = none) →
    ∃ bytes, start.readFile t.source = .ok bytes ∧ disk.readFile t.destination = .ok bytes

namespace Supplied

variable {start disk : Disk} {requests : List CopyRequest} {transfers : List Transfer}
  {r : CopyRequest} {bytes : ByteArray}

/-- What lies where a source lies is what lay there at the start. -/
theorem get?_source (h : Supplied start requests transfers disk) (hapart : Apart requests)
    (hr : r ∈ requests) :
    disk.get? (start.placeOf r.source) = start.get? (start.placeOf r.source) := by
  refine h.elsewhere _ fun r' hr' hplace => ?_
  have heq : r'.destination = r.source :=
    (hapart.destination r' hr').eq_of_placeOf_eq (hapart.source r hr) hplace
  have hne := hapart.apart r hr r' hr'
  rw [heq, same_refl] at hne
  cases hne

/-- A source can be read just if that could be done at the start, and holds the same. -/
theorem readFile_source (h : Supplied start requests transfers disk) (hapart : Apart requests)
    (hr : r ∈ requests) :
    disk.readFile r.source = .ok bytes ↔ start.readFile r.source = .ok bytes := by
  have hplace := h.get?_source hapart hr
  constructor
  · intro hread
    refine Disk.readFile_of_holds hread h.workDir.symm (fun l => (h.directories l).1) ?_
    rw [Disk.Holds, ← hplace, ← Disk.placeOf_congr h.workDir]
    exact Disk.holds_of_readFile hread
  · intro hread
    refine Disk.readFile_of_holds hread h.workDir (fun l => (h.directories l).2) ?_
    rw [Disk.Holds, Disk.placeOf_congr h.workDir, hplace]
    exact Disk.holds_of_readFile hread

/-- No copy gets in the way of another one. -/
theorem writable_iff {p : Path} {l : Location} (h : Supplied start requests transfers disk) :
    disk.writable p = .ok l ↔ start.writable p = .ok l := by
  constructor
  · intro hwritable
    have hfree := mt (h.directories l).2 (Disk.get?_ne_of_writable hwritable)
    exact Disk.writable_later (fun l => (h.directories l).1) h.workDir.symm hwritable hfree
  · intro hwritable
    have hfree := mt (h.directories l).1 (Disk.get?_ne_of_writable hwritable)
    exact Disk.writable_later (fun l => (h.directories l).2) h.workDir hwritable hfree

/-- What was copied to another destination can still be read there. -/
theorem readFile_other {p : Path} (hapart : Apart requests) (hr : r ∈ requests)
    (hp : p.IsCanonical) (hne : ¬r.destination.same p = true)
    (hread : disk.readFile p = .ok bytes) :
    (disk.copyFile r.source r.destination).2.readFile p = .ok bytes := by
  have hplace : disk.placeOf p ≠ disk.placeOf r.destination := by
    intro hplace
    rw [hp.eq_of_placeOf_eq (hapart.destination r hr) hplace] at hne
    exact hne (same_refl _)
  have hworkDir := disk.workDir_copyFile r.source r.destination
  refine Disk.readFile_of_holds hread hworkDir (fun _ => Disk.get?_copyFile_directory _ _) ?_
  rw [Disk.Holds, Disk.placeOf_congr hworkDir, Disk.get?_copyFile r.source hplace]
  exact Disk.holds_of_readFile hread

/-- A copy that is made holds what its source held at the start. -/
theorem readFile_copied {n : Nat} {d : Disk} (h : Supplied start requests transfers disk)
    (hapart : Apart requests) (hr : r ∈ requests)
    (hcopy : disk.copyFile r.source r.destination = (.ok n, d)) :
    ∃ bytes, start.readFile r.source = .ok bytes ∧ d.readFile r.destination = .ok bytes := by
  obtain ⟨⟨bytes, hread⟩, -⟩ := Disk.exists_copyFile_eq_ok.1 ⟨n, congrArg Prod.fst hcopy⟩
  have hsource := (h.readFile_source hapart hr).1 hread
  have hholds := Disk.holds_of_readFile hread
  refine ⟨bytes, hsource, Disk.readFile_copyFile hcopy hholds fun hplace => ?_⟩
  have hne := hapart.apart r hr r hr
  rw [(hapart.source r hr).eq_of_placeOf_eq (hapart.destination r hr) hplace, same_refl] at hne
  cases hne

/-- Handing a copy out changes nothing yet. -/
theorem concat {source destination : Path} (h : Supplied start requests transfers disk) :
    Supplied start requests (transfers ++ [⟨source, destination, none⟩]) disk := by
  refine ⟨h.workDir, h.directories, h.elsewhere, fun i t outcome hi ho => ?_,
    fun i t n hi hn hlast => ?_⟩
  · rcases Recorded.getElem?_concat.1 hi with hi | ⟨-, rfl⟩
    · exact h.made i t outcome hi ho
    · cases ho
  · rcases Recorded.getElem?_concat.1 hi with hi | ⟨-, rfl⟩
    · exact h.filled i t n hi hn fun j t' hij hj =>
        hlast j t' hij (Recorded.getElem?_concat.2 (.inl hj))
    · cases hn

/-- A transfer is made. It is the last one that was handed out for its destination. -/
theorem transfer {ticket : Nat} {es : List Exchange} {source destination : Path}
    {outcome : Except DiskError Nat} {disk' : Disk}
    (h : Supplied start requests transfers disk) (hes : Recorded es transfers)
    (hapart : Apart requests)
    (hknown : ∀ (i : Nat) (t : Transfer), transfers[i]? = some t →
      ⟨t.source, t.destination⟩ ∈ requests)
    (hticket : transfers[ticket]? = some ⟨source, destination, none⟩)
    (hcopy : disk.copyFile source destination = (outcome, disk')) :
    Supplied start requests (transfers.set ticket ⟨source, destination, some outcome⟩) disk' := by
  have hr : ⟨source, destination⟩ ∈ requests := hknown ticket _ hticket
  have hdisk : disk' = (disk.copyFile source destination).2 := by rw [hcopy]
  have houtcome : outcome = (disk.copyFile source destination).1 := by rw [hcopy]
  have hset (i : Nat) (t : Transfer) :=
    @Recorded.getElem?_set transfers source destination ticket outcome i t hticket
  constructor
  case workDir =>
    rw [hdisk, Disk.workDir_copyFile]
    exact h.workDir
  case directories =>
    intro l
    rw [hdisk, ← h.directories l]
    exact ⟨Disk.get?_of_copyFile_directory, Disk.get?_copyFile_directory _ _⟩
  case elsewhere =>
    intro l hl
    have hplace := hl _ hr
    rw [← Disk.placeOf_congr h.workDir] at hplace
    rw [hdisk, Disk.get?_copyFile source hplace.symm, h.elsewhere l hl]
  case made =>
    intro i t o hi ho
    rcases (hset _ _).1 hi with ⟨-, rfl⟩ | ⟨-, hi⟩
    · cases ho
      rw [houtcome, Disk.exists_copyFile_eq_ok]
      simp only [h.readFile_source hapart hr, h.writable_iff]
    · exact h.made i t o hi ho
  case filled =>
    intro i t n hi hn hlast
    rcases (hset _ _).1 hi with ⟨-, rfl⟩ | ⟨hne, hi⟩
    · cases hn
      have hcopied := h.readFile_copied hapart hr hcopy
      exact hcopied
    · have hother : ¬destination.same t.destination = true := by
        intro hsame
        rcases Nat.lt_or_gt_of_ne hne with hlt | hgt
        · exact absurd (hlast ticket _ hlt ((hset _ _).2 (.inl ⟨rfl, rfl⟩)) hsame) nofun
        · exact hes.ordered ticket i _ t hgt hticket hi hsame rfl
      obtain ⟨bytes, hsource, hread⟩ := h.filled i t n hi hn fun j t' hij hj hsame => by
        by_cases hjt : j = ticket
        · subst hjt
          cases hticket.symm.trans hj
          rfl
        · exact hlast j t' hij ((hset _ _).2 (.inr ⟨hjt, hj⟩)) hsame
      have hcanonical := hapart.destination _ (hknown i t hi)
      have hlater := readFile_other hapart hr hcanonical hother hread
      rw [← hdisk] at hlater
      exact ⟨bytes, hsource, hlater⟩

end Supplied

/-! ### A program that asks for copies and then waits for them -/

section Alone

variable {shared shared' : Shared} {transfers transfers' : List Transfer}
  {copies copies' : List Pending} {requests : List CopyRequest} {schedule : List Turn}
  {es : List Exchange}

theorem Exchange.Serves.mem_of_started {copy : Pending}
    (hserves : ∀ e ∈ es, e.Serves requests) (h : copy ∈ startedIn es) :
    ⟨copy.source, copy.destination⟩ ∈ requests := by
  obtain ⟨⟨r, answer⟩, he, hstarted⟩ := List.mem_filterMap.1 h
  cases r with
  | start source destination =>
    cases hstarted
    exact hserves _ he
  | _ => cases hstarted

/-- A worker that does nothing but ask for copies and wait for them takes a step. -/
theorem Supplied.step {α : Type} {start : Disk} {w w' : Worker α} {move : Move} {deed : Deed}
    (h : Supplied start requests w.transfers shared.session.disk) (hes : Recorded es w.transfers)
    (hapart : Apart requests) (hserves : ∀ e ∈ es ++ deed.exchange?.toList, e.Serves requests)
    (hstep : w.step? shared move = some (deed, w', shared')) :
    Supplied start requests w'.transfers shared'.session.disk := by
  rcases Worker.step?_cases hstep with ⟨r, next, answer, ts, -, hanswer, rfl, rfl⟩ |
    ⟨ticket, source, destination, outcome, hticket, hcopy, -, rfl, rfl⟩
  · have hserved : Exchange.Serves requests ⟨r, answer⟩ :=
      hserves _ (List.mem_append_right _ (List.mem_singleton_self _))
    cases r with
    | claim =>
      cases hanswer
      exact h
    | start source destination =>
      cases hanswer
      exact h.concat
    | join copy =>
      obtain ⟨outcome, -, heq⟩ := Option.map_eq_some_iff.1 hanswer
      cases heq
      exact h
    | _ => exact hserved.elim
  · have hdisk : shared.session.disk.copyFile source destination =
        (outcome, shared'.session.disk) := by
      obtain ⟨hcopied, hsession⟩ := Prod.mk.inj hcopy
      exact Prod.ext hcopied (congrArg Session.disk hsession)
    refine h.transfer hes hapart (fun i t hi => ?_) hticket hdisk
    exact Exchange.Serves.mem_of_started (fun e he => hserves e (List.mem_append_left _ he))
      (hes.mem_startedIn hi)

/-- What the disk holds is as it should be all along. -/
theorem Supplied.run {α : Type} {start : Disk} {x x' : Program α}
    (h : Supplied start requests transfers shared.session.disk) (hes : Recorded es transfers)
    (hapart : Apart requests)
    (horder : Orderly [] (es ++ exchangesOf 0 ((alone shared x transfers).log schedule)))
    (hserves : ∀ e ∈ es ++ exchangesOf 0 ((alone shared x transfers).log schedule),
      e.Serves requests)
    (hrun : (alone shared x transfers).run schedule = alone shared' x' transfers') :
    Supplied start requests transfers' shared'.session.disk := by
  induction schedule generalizing shared x transfers es with
  | nil =>
    cases hrun
    exact h
  | cons turn schedule ih =>
    rw [Crew.log, exchangesOf_append, ← List.append_assoc] at horder hserves
    rcases step_alone shared x transfers turn with ⟨hidle, hnone⟩ |
      ⟨deed, x₁, transfers₁, shared₁, hstep, hdeed, hnext⟩
    · rw [hnone, hidle] at horder hserves
      rw [exchangesOf, Option.toList_none, List.filterMap_nil, List.append_nil] at horder hserves
      refine ih h hes horder hserves ?_
      rw [← hidle]
      exact hrun
    · rw [hdeed, hnext, Option.toList_some, exchangesOf_self] at horder hserves
      exact ih (h.step hes hapart (fun e he => hserves e (List.mem_append_left _ he)) hstep)
        (hes.step hstep (orderly_append.1 horder).1) horder hserves (by rw [← hnext]; exact hrun)

/-- On the way to its end a program that asks for copies has asked for the first of them. -/
theorem exists_front {before rest : List CopyRequest}
    (h : (alone shared (Collecting.requestAll (before ++ rest) copies) transfers).run schedule =
      alone shared' (done (.ok (), copies')) transfers') :
    ∃ front shared₁ copies₁ transfers₁, front <+: schedule ∧
      (alone shared (Collecting.requestAll before copies) transfers).run front =
        alone shared₁ (done (.ok (), copies₁)) transfers₁ := by
  induction before generalizing shared copies transfers schedule with
  | nil => exact ⟨[], shared, copies, transfers, List.nil_prefix, rfl⟩
  | cons r before ih =>
    have hcons (l : List CopyRequest) : Collecting.requestAll (r :: l) copies =
        Collecting.request r.source r.destination copies >>= fun a =>
          (ExceptT.bindCont (fun _ => Collecting.requestAll l) a.1 : StateT _ _ _) a.2 := rfl
    rw [List.cons_append, hcons] at h
    obtain ⟨front, back, shared₁, ⟨answer, copies₁⟩, transfers₁, rfl, -, hothers, hback⟩ :=
      run_bind h
    cases answer with
    | error e =>
      obtain ⟨shared₂, transfers₂, hend⟩ :=
        run_done shared₁ ((.error e, copies₁) : Except RewriteError Unit × _) transfers₁ back
      cases hend.symm.trans hback
    | ok u =>
      obtain ⟨front', shared₂, copies₂, transfers₂, hfront', hrun⟩ := ih hback
      refine ⟨front ++ front', shared₂, copies₂, transfers₂,
        (List.prefix_append_right_inj front).2 hfront', ?_⟩
      rw [hcons, Crew.run_append, hothers]
      exact hrun

/-- A program that has come to its end has led there, and its transfers are as it has asked. -/
theorem leads_of_run {α : Type} {x : Program α} {a : α} (hes : Recorded es transfers)
    (h : (alone shared x transfers).run schedule = alone shared' (done a) transfers') :
    x.Leads (exchangesOf 0 ((alone shared x transfers).log schedule)) (done a) ∧
      (Orderly [] (es ++ exchangesOf 0 ((alone shared x transfers).log schedule)) →
        Recorded (es ++ exchangesOf 0 ((alone shared x transfers).log schedule)) transfers') := by
  have hfirst : (alone shared x transfers).workers[0]? = some ⟨x, transfers⟩ := rfl
  obtain ⟨w, hw, hleads⟩ := Crew.exists_worker schedule hfirst
  have hend : ((alone shared x transfers).run schedule).workers[0]? =
      some ⟨done a, transfers'⟩ := by
    rw [h]
    rfl
  obtain rfl := Option.some.inj (hend.symm.trans hw)
  exact ⟨hleads, fun horder => Crew.recorded_run hfirst hes horder hend⟩

/-- What is known of the transfers of a program that has asked for copies. -/
theorem recorded_requestAll
    (h : (alone shared (Collecting.requestAll requests []) []).run schedule =
      alone shared' (done (.ok (), copies)) transfers) :
    ∃ es, Collected [] requests requests es copies ∧ Recorded es transfers ∧
      (Apart requests → Supplied shared.session.disk requests transfers shared'.session.disk) := by
  obtain ⟨hleads, hrecorded⟩ := leads_of_run .nil h
  have hcollected := collected_of_leads .nil hleads
  refine ⟨_, hcollected, hrecorded hcollected.orderly, fun hapart => ?_⟩
  have hstart : Supplied shared.session.disk requests [] shared.session.disk :=
    ⟨rfl, fun _ => .rfl, fun _ _ => rfl, nofun, nofun⟩
  exact hstart.run .nil hapart hcollected.orderly hcollected.serves h

/-- What is known of them once the copies that are still under way have been waited for. -/
theorem recorded_wait {start : Disk} {answer : Except RewriteError Nat}
    (hcollected : Collected [] requests requests es copies) (hes : Recorded es transfers)
    (hapart : Apart requests) (hsupplied : Supplied start requests transfers shared.session.disk)
    (h : (alone shared (Collecting.wait copies) transfers).run schedule =
      alone shared' (done answer) transfers') :
    ∃ outcomes : List (Pending × Except DiskError Nat), outcomes.map Prod.fst = copies ∧
      answer = waited outcomes ∧
      Recorded (es ++ outcomes.map fun o => ⟨.join o.1, o.2⟩) transfers' ∧
      Supplied start requests transfers' shared'.session.disk := by
  obtain ⟨hleads, hrecorded⟩ := leads_of_run hes h
  obtain ⟨outcomes, houtcomes, hjoins, rfl⟩ := Collecting.leads_wait hleads
  have hperm : (outcomes.map Prod.fst).Perm (underAfter [] es) := by
    rw [houtcomes]
    exact hcollected.under.symm
  have horder : Orderly [] (es ++ exchangesOf 0
      ((alone shared (Collecting.wait copies) transfers).log schedule)) := by
    rw [hjoins]
    exact orderly_append.2 ⟨hcollected.orderly, (orderly_joins outcomes hperm).1⟩
  refine ⟨outcomes, houtcomes, rfl, ?_, hsupplied.run hes hapart horder (fun e he => ?_) h⟩
  · rw [← hjoins]
    exact hrecorded horder
  · rcases List.mem_append.1 he with he | he
    · exact hcollected.serves e he
    · rw [hjoins] at he
      obtain ⟨o, -, rfl⟩ := List.mem_map.1 he
      trivial

/-- Waiting hands no copy out. -/
theorem startedIn_joins (outcomes : List (Pending × Except DiskError Nat)) :
    startedIn (es ++ outcomes.map fun o => ⟨.join o.1, o.2⟩) = startedIn es := by
  rw [startedIn, List.filterMap_append, List.filterMap_map]
  simp [startedIn, Exchange.started?, Function.comp_def]

/-- Requests for copies, one after the other, between canonical paths and with no destination that
is also a source; the copies are made in the background, at any time. After each request there is
one copy under way for each destination so far, of the source that was last requested for it. The
wait for them comes to its end from wherever it is. Then each of these copies has been made or has
failed, also behind one that failed; the answer is the first failure in their order, or their
number; and each copy that did not fail left its destination with the bytes of its source. -/
theorem requestAll_lastWins (hapart : Apart requests)
    (h : (alone shared (Collecting.requestAll requests []) []).run schedule =
      alone shared' (done (.ok (), copies)) transfers) :
    (∀ before, before <+: requests → ∃ front shared₁ copies₁ transfers₁, front <+: schedule ∧
      (alone shared (Collecting.requestAll before []) []).run front =
        alone shared₁ (done (.ok (), copies₁)) transfers₁ ∧
      Tracks copies₁ before ∧ copies₁.length = (destinationsOf before).card) ∧
    (∀ more, ∃ rest shared'' answer transfers',
      (alone shared' (Collecting.wait copies) transfers).run (more ++ rest) =
        alone shared'' (done answer) transfers') ∧
    ∀ more shared'' answer transfers',
      (alone shared' (Collecting.wait copies) transfers).run more =
        alone shared'' (done answer) transfers' →
      ∃ outcomes : List (Pending × Except DiskError Nat), outcomes.map Prod.fst = copies ∧
        (answer = match outcomes.findSome? fun o => o.1.failureOf o.2 with
          | some e => .error e
          | none => .ok (destinationsOf requests).card) ∧
        ∀ o ∈ outcomes,
          transfers'[o.1.ticket]? = some ⟨o.1.source, o.1.destination, some o.2⟩ ∧
          ((∃ n, o.2 = .ok n) ↔ (∃ bytes, shared.session.disk.readFile o.1.source = .ok bytes) ∧
            ∃ l, shared.session.disk.writable o.1.destination = .ok l) ∧
          ((∃ n, o.2 = .ok n) → ∃ bytes, shared.session.disk.readFile o.1.source = .ok bytes ∧
            shared''.session.disk.readFile o.1.source = .ok bytes ∧
            shared''.session.disk.readFile o.1.destination = .ok bytes) := by
  obtain ⟨es, hcollected, hrecorded, hsupplied⟩ := recorded_requestAll h
  refine ⟨fun before hbefore => ?_, fun more => exists_end shared' _ transfers more,
    fun more shared'' answer transfers' hwait => ?_⟩
  · obtain ⟨rest, rfl⟩ := hbefore
    obtain ⟨front, shared₁, copies₁, transfers₁, hfront, hrun⟩ := exists_front h
    obtain ⟨es₁, hcollected₁, -, -⟩ := recorded_requestAll hrun
    exact ⟨front, shared₁, copies₁, transfers₁, hfront, hrun, hcollected₁.tracks,
      hcollected₁.tracks.length_eq⟩
  obtain ⟨outcomes, houtcomes, rfl, hrecorded', hsupplied'⟩ :=
    recorded_wait hcollected hrecorded hapart (hsupplied hapart) hwait
  refine ⟨outcomes, houtcomes, ?_, fun o ho => ?_⟩
  · have hlength : outcomes.length = (destinationsOf requests).card := by
      rw [← hcollected.tracks.length_eq, ← houtcomes, List.length_map]
    unfold waited
    cases outcomes.findSome? fun o => o.1.failureOf o.2 with
    | some e => rfl
    | none => exact congrArg Except.ok hlength
  have hcopy : o.1 ∈ copies := by
    rw [← houtcomes]
    exact List.mem_map_of_mem ho
  have hunder : o.1 ∈ underAfter [] es := hcollected.under.mem_iff.2 hcopy
  have hjoined := hrecorded'.joined o.1 o.2 (List.mem_append_right _ (List.mem_map_of_mem ho))
  refine ⟨hjoined, hsupplied'.made _ _ _ hjoined rfl, fun ⟨n, hn⟩ => ?_⟩
  -- No later transfer goes to the destination of one that is under way in the end.
  obtain ⟨bytes, hsource, hread⟩ := hsupplied'.filled _ _ n hjoined (by rw [hn])
    fun j t' hj ht' hdestination => by
      obtain ⟨outcome?, ht⟩ :=
        hrecorded'.exists_of_started hrecorded (by rw [startedIn_joins]) ht'
      have hne := hrecorded.latest o.1 hunder j _ hj ht
      rw [hdestination] at hne
      cases hne
  have hstarted := hrecorded'.mem_startedIn hjoined
  rw [startedIn_joins] at hstarted
  have hknown := Exchange.Serves.mem_of_started hcollected.serves hstarted
  exact ⟨bytes, hsource, (hsupplied'.readFile_source hapart hknown).2 hsource, hread⟩

deriving instance DecidableEq for Transfer

/-- One destination changes hands twice, another one is asked for from a file that is missing. -/
def contestedRequests : List CopyRequest :=
  [⟨⟨"/a"⟩, ⟨"/x"⟩⟩, ⟨⟨"/b"⟩, ⟨"/y"⟩⟩, ⟨⟨"/b"⟩, ⟨"/x"⟩⟩, ⟨⟨"/b"⟩, ⟨"/x"⟩⟩, ⟨⟨"/none"⟩, ⟨"/z"⟩⟩,
    ⟨⟨"/a"⟩, ⟨"/x"⟩⟩]

def twoFiles : Session := ⟨⟨[(["a"], .file ⟨#[1]⟩), (["b"], .file ⟨#[2]⟩)], some []⟩, #[]⟩

theorem apart_contestedRequests : Apart contestedRequests := by
  have hcanonical : ∀ r ∈ contestedRequests, (r.source.isAbsolute = true ∧
      r.source.normalize = r.source) ∧
      r.destination.isAbsolute = true ∧ r.destination.normalize = r.destination := by
    decide +kernel
  have hapart : ∀ r ∈ contestedRequests, ∀ r' ∈ contestedRequests,
      r.source.same r'.destination = false := by
    decide +kernel
  exact ⟨fun r hr => ⟨(hcanonical r hr).1.1, (hcanonical r hr).1.2⟩,
    fun r hr => ⟨(hcanonical r hr).2.1, (hcanonical r hr).2.2⟩, hapart⟩

/-- The only worker makes its next request. -/
def goOn : Turn := ⟨0, .advance⟩

/-- One of its copies is made. -/
def copyNow (ticket : Nat) : Turn := ⟨0, .transfer ticket⟩

/-- Requests that have to wait for the first copy and for the third one. -/
def requesting : List Turn :=
  List.replicate 6 goOn ++ [copyNow 0] ++ List.replicate 6 goOn ++ [copyNow 2, goOn, goOn]

/-- The last copy is made first. -/
def waiting : List Turn := [copyNow 4, goOn, copyNow 1, goOn, goOn, copyNow 3, goOn, goOn]

theorem requestAll_lastWins_contestedRequests :
    ∃ shared' copies transfers shared'' transfers',
      (alone ⟨twoFiles, {}⟩ (Collecting.requestAll contestedRequests []) []).run requesting =
        alone shared' (done (.ok (), copies)) transfers ∧
      (alone shared' (Collecting.wait copies) transfers).run waiting =
        alone shared'' (done (.error (.copy ⟨"/none"⟩ ⟨"/z"⟩ .notFound))) transfers' ∧
      (∀ before, before <+: contestedRequests → ∃ front shared₁ copies₁ transfers₁,
        front <+: requesting ∧
        (alone ⟨twoFiles, {}⟩ (Collecting.requestAll before []) []).run front =
          alone shared₁ (done (.ok (), copies₁)) transfers₁ ∧
        Tracks copies₁ before ∧ copies₁.length = (destinationsOf before).card) ∧
      ∃ outcomes : List (Pending × Except DiskError Nat), outcomes.map Prod.fst = copies ∧
        ∀ o ∈ outcomes, transfers'[o.1.ticket]? = some ⟨o.1.source, o.1.destination, some o.2⟩ ∧
          ((∃ n, o.2 = .ok n) ↔ (∃ bytes, twoFiles.disk.readFile o.1.source = .ok bytes) ∧
            ∃ l, twoFiles.disk.writable o.1.destination = .ok l) ∧
          ((∃ n, o.2 = .ok n) → ∃ bytes, twoFiles.disk.readFile o.1.source = .ok bytes ∧
            shared''.session.disk.readFile o.1.source = .ok bytes ∧
            shared''.session.disk.readFile o.1.destination = .ok bytes) := by
  let copies : List Pending := [⟨⟨"/b"⟩, ⟨"/y"⟩, 1⟩, ⟨⟨"/none"⟩, ⟨"/z"⟩, 3⟩, ⟨⟨"/a"⟩, ⟨"/x"⟩, 4⟩]
  let transfers : List Transfer := [⟨⟨"/a"⟩, ⟨"/x"⟩, some (.ok 1)⟩, ⟨⟨"/b"⟩, ⟨"/y"⟩, none⟩,
    ⟨⟨"/b"⟩, ⟨"/x"⟩, some (.ok 1)⟩, ⟨⟨"/none"⟩, ⟨"/z"⟩, none⟩, ⟨⟨"/a"⟩, ⟨"/x"⟩, none⟩]
  let transfers' : List Transfer := [⟨⟨"/a"⟩, ⟨"/x"⟩, some (.ok 1)⟩, ⟨⟨"/b"⟩, ⟨"/y"⟩, some (.ok 1)⟩,
    ⟨⟨"/b"⟩, ⟨"/x"⟩, some (.ok 1)⟩, ⟨⟨"/none"⟩, ⟨"/z"⟩, some (.error .notFound)⟩,
    ⟨⟨"/a"⟩, ⟨"/x"⟩, some (.ok 1)⟩]
  let c := (alone ⟨twoFiles, {}⟩ (Collecting.requestAll contestedRequests []) []).run requesting
  have hrequests : c.results? = some [(.ok (), copies)] ∧
      c.workers.map (·.transfers) = [transfers] := by
    decide +kernel
  have hwaits : ((alone c.shared (Collecting.wait copies) transfers).run waiting).results? =
      some [.error (.copy ⟨"/none"⟩ ⟨"/z"⟩ .notFound)] ∧
      ((alone c.shared (Collecting.wait copies) transfers).run waiting).workers.map
        (·.transfers) = [transfers'] := by
    decide +kernel
  have hrequested := eq_alone hrequests.1 hrequests.2
  have hwaited := eq_alone hwaits.1 hwaits.2
  obtain ⟨hsteps, -, hend⟩ := requestAll_lastWins apart_contestedRequests hrequested
  obtain ⟨outcomes, houtcomes, -, hmade⟩ := hend _ _ _ _ hwaited
  exact ⟨_, copies, transfers, _, transfers', hrequested, hwaited, hsteps, outcomes, houtcomes,
    hmade⟩

end Alone

end StylesheetAssets.Parallel
