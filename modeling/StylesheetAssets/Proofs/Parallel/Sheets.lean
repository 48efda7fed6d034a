import StylesheetAssets.Parallel.Building
import StylesheetAssets.Proofs.Build.Inputs
import StylesheetAssets.Proofs.Parallel.Course

/-!
What the program of one stylesheet asks for on the way to its summary: it reads, has its references
resolved, writes one file, and waits for all of its copies.
-/
namespace StylesheetAssets.Parallel

open Program
open Import (FlattenError Statement staysInPlace targetOf cutLive mark)

variable {α β ε : Type} {config : Config} {copies : List Pending} {es : List Exchange}

/-! ### Programs that may fail -/

namespace Program

/-- A program that may fail comes to an answer in two parts. -/
theorem leads_bind_ok {x : ExceptT ε Program α} {f : α → ExceptT ε Program β} {b : β} :
    (x >>= f).run.Leads es (done (.ok b)) ↔
      ∃ front a back, es = front ++ back ∧ x.run.Leads front (done (.ok a)) ∧
        (f a).run.Leads back (done (.ok b)) := by
  have hbind : (x >>= f).run = x.run >>= fun r => (ExceptT.bindCont f r : Program _) := rfl
  rw [hbind, leads_bind]
  constructor
  · rintro ⟨front, answer, back, rfl, hfront, hback⟩
    cases answer with
    | ok a => exact ⟨front, a, back, rfl, hfront, hback⟩
    | error e => cases (leads_pure.1 hback).2
  · rintro ⟨front, a, back, rfl, hfront, hback⟩
    exact ⟨front, .ok a, back, rfl, hfront, hback⟩

theorem leads_pure_ok {a b : α} :
    (pure a : ExceptT ε Program α).run.Leads es (done (.ok b)) ↔ es = [] ∧ b = a := by
  refine leads_pure.trans (and_congr_right fun _ => ?_)
  simp

theorem not_leads_throw_ok {e : ε} {a : α} :
    ¬(throw e : ExceptT ε Program α).run.Leads es (done (.ok a)) := by
  intro h
  cases (leads_pure.1 h).2

theorem leads_liftM_ok {x : Program α} {a : α} :
    (liftM x : ExceptT ε Program α).run.Leads es (done (.ok a)) ↔ x.Leads es (done a) := by
  have hlift : (liftM x : ExceptT ε Program α).run = x >>= fun a => pure (.ok a) := rfl
  rw [hlift, leads_bind]
  constructor
  · rintro ⟨front, a', back, rfl, hfront, hback⟩
    obtain ⟨rfl, heq⟩ := leads_pure.1 hback
    cases heq
    rwa [List.append_nil]
  · intro h
    exact ⟨es, a, [], (List.append_nil es).symm, h, .nil _⟩

end Program

theorem Building.leads_within {ε : Type} {place : ε → BuildError} {x : Program (Except ε α)}
    {a : α} :
    (Building.within place x).run.Leads es (done (.ok a)) ↔ x.Leads es (done (.ok a)) := by
  rw [Building.within, leads_bind_ok]
  constructor
  · rintro ⟨front, answer, back, rfl, hfront, hback⟩
    cases answer with
    | error e => exact absurd hback not_leads_throw_ok
    | ok a' =>
      obtain ⟨rfl, rfl⟩ := leads_pure_ok.1 hback
      rw [List.append_nil]
      exact leads_liftM_ok.1 hfront
  · intro h
    exact ⟨es, .ok a, [], (List.append_nil es).symm, leads_liftM_ok.2 h, .nil _⟩

/-! ### Imports -/

theorem course_readImport {target importer : Path} (htarget : ∃ q : Path, target = q.normalize)
    {text : { _text : String // target.text.utf8ByteSize ≤ Disk.maxPath }}
    (h : (readImport target importer).run.Leads es (done (.ok text))) :
    Course config copies es copies := by
  obtain ⟨front, answer, back, rfl, hfront, hback⟩ := leads_bind_ok.1 h
  obtain rfl := leads_request.1 (leads_liftM_ok.1 hfront)
  cases answer with
  | error cause => exact absurd hback not_leads_throw_ok
  | ok content =>
    dsimp only at hback
    cases hdecode : Disk.decode content.1 with
    | error cause =>
      rw [hdecode] at hback
      exact absurd hback not_leads_throw_ok
    | ok code =>
      rw [hdecode] at hback
      obtain ⟨rfl, -⟩ := leads_pure_ok.1 hback
      exact .read htarget

theorem course_flattenStatements {inlined : Path → Flattening (List Char)} {file : Path}
    {statements : List (List Char × Statement)} {text : List Char}
    (hinlined : ∀ (q : Path) (es : List Exchange) (text : List Char),
      (inlined q.normalize).run.Leads es (done (.ok text)) → Course config copies es copies)
    (h : (flattenStatements inlined file statements).run.Leads es (done (.ok text))) :
    Course config copies es copies := by
  induction statements generalizing es text with
  | nil =>
    obtain ⟨rfl, -⟩ := leads_pure_ok.1 h
    exact .nil config copies
  | cons statement rest ih =>
    obtain ⟨before, i⟩ := statement
    rw [flattenStatements] at h
    split_ifs at h
    · obtain ⟨front, after, back, rfl, hfront, hback⟩ := leads_bind_ok.1 h
      obtain ⟨rfl, -⟩ := leads_pure_ok.1 hback
      rw [List.append_nil]
      exact ih hfront
    · obtain ⟨front, inner, back, rfl, hfront, hback⟩ := leads_bind_ok.1 h
      obtain ⟨middle, after, last, rfl, hmiddle, hlast⟩ := leads_bind_ok.1 hback
      obtain ⟨rfl, -⟩ := leads_pure_ok.1 hlast
      rw [List.append_nil]
      exact (hinlined _ _ _ hfront).append (ih hmiddle)

/-- By induction on how many paths are left to be read. -/
theorem course_inlinedText {chain : List Path} {importer target : Path} {text : List Char}
    (htarget : ∃ q : Path, target = q.normalize)
    (h : (inlinedText chain importer target).run.Leads es (done (.ok text))) :
    Course config copies es copies := by
  induction hleft : Disk.pathsLeft chain using Nat.strong_induction_on
    generalizing chain importer target es text with
  | _ n ih =>
    subst hleft
    rw [inlinedText] at h
    split_ifs at h with hreading
    · exact absurd h not_leads_throw_ok
    · obtain ⟨front, ⟨code, hshort⟩, back, rfl, hfront, hback⟩ := leads_bind_ok.1 h
      obtain ⟨middle, inner, last, rfl, hmiddle, hlast⟩ := leads_bind_ok.1 hback
      obtain ⟨rfl, -⟩ := leads_pure_ok.1 hlast
      rw [List.append_nil]
      refine (course_readImport htarget hfront).append
        (course_flattenStatements (fun q es text hinner => ?_) hmiddle)
      refine ih _ ?_ ⟨q, rfl⟩ hinner rfl
      refine Disk.pathsLeft_append_lt (fun hmem => ?_) hshort
      exact hreading (List.any_eq_true.2 ⟨_, hmem, decide_eq_true rfl⟩)

theorem course_flatten {code flat : List Char} {file : Path}
    (h : (flatten code file).run.Leads es (done (.ok flat))) : Course config copies es copies := by
  obtain ⟨front, inner, back, rfl, hfront, hback⟩ := leads_bind_ok.1 h
  obtain ⟨rfl, -⟩ := leads_pure_ok.1 hback
  rw [List.append_nil]
  exact course_flattenStatements (fun q es text => course_inlinedText ⟨q, rfl⟩) hfront

theorem course_readFlat {input : Path} {flat : List Char}
    (hinput : ∃ q : Path, input = q.normalize)
    (h : (readFlat input).run.Leads es (done (.ok flat))) : Course config copies es copies := by
  obtain ⟨front, content, back, rfl, hfront, hback⟩ := leads_bind_ok.1 h
  obtain rfl := leads_request.1 (Building.leads_within.1 hfront)
  obtain ⟨decoding, code, last, rfl, hdecode, hflat⟩ := leads_bind_ok.1 hback
  obtain ⟨rfl, -⟩ := Program.leads_pure.1 (Building.leads_within.1 hdecode)
  exact (Course.read hinput).append (course_flatten (Building.leads_within.1 hflat))

/-! ### Stylesheets -/

/-- All that was asked for in the build of a stylesheet that came through. One file is written, and
in the end no copy is under way. -/
structure SheetCourse (config : Config) (outDir input : Path) (es : List Exchange) : Prop where
  fitting : Fitting config [] es
  claimed : es.filterMap Exchange.claimed? = es.filterMap Exchange.copied?
  written : ∃ name bytes, input.fileName? = some name ∧
    es.filterMap Exchange.wrote? = [(outDir.join ⟨name⟩, bytes)]
  orderly : Orderly [] es
  joined : underAfter [] es = []

/-- Where nothing fails, all copies are joined. -/
theorem waited_eq_ok {outcomes : List (Pending × Except DiskError Nat)} {n : Nat}
    (h : waited outcomes = .ok n) : ∀ o ∈ outcomes, ∃ n, o.2 = .ok n := by
  intro o ho
  unfold waited at h
  split at h
  · cases h
  · next hnone =>
    have hfailure := List.findSome?_eq_none_iff.1 hnone o ho
    cases houtcome : o.2 with
    | ok n => exact ⟨n, rfl⟩
    | error cause =>
      rw [houtcome] at hfailure
      cases hfailure

/-- Behind its rewriting a stylesheet is written, and then its copies are joined. -/
theorem Course.sheet {front : List Exchange} {input : Path} {name : String}
    {outcomes : List (Pending × Except DiskError Nat)} (h : Course config [] front copies)
    (outDir : Path) (bytes : ByteArray) (hname : input.fileName? = some name)
    (houtcomes : outcomes.map Prod.fst = copies) (hok : ∀ o ∈ outcomes, ∃ n, o.2 = .ok n) :
    SheetCourse config outDir input (front ++
      ⟨.write (outDir.join ⟨name⟩) bytes, .ok ()⟩ :: outcomes.map fun o => ⟨.join o.1, o.2⟩) := by
  obtain ⟨horderly, hunder, -⟩ := h.orderly List.Pairwise.nil
  have hperm : (outcomes.map Prod.fst).Perm (underAfter [] front) := by
    rw [houtcomes]
    exact hunder.symm
  obtain ⟨hjoins, hjoined⟩ := orderly_joins outcomes hperm
  have hfits (outcomes : List (Pending × Except DiskError Nat)) (earlier : List Exchange)
      (hok : ∀ o ∈ outcomes, ∃ n, o.2 = .ok n) :
      Fitting config earlier (outcomes.map fun o => ⟨.join o.1, o.2⟩) := by
    induction outcomes generalizing earlier with
    | nil => trivial
    | cons o outcomes ih =>
      obtain ⟨ho, hrest⟩ := List.forall_mem_cons.1 hok
      exact ⟨ho, ih _ hrest⟩
  refine ⟨fitting_append.2 ⟨h.fitting, rfl, hfits _ _ hok⟩, ?_, ⟨name, bytes, hname, ?_⟩,
    orderly_append.2 ⟨horderly, trivial, hjoins⟩, ?_⟩
  · rw [List.filterMap_append, List.filterMap_append, h.claimed, List.filterMap_cons,
      List.filterMap_cons, List.filterMap_map, List.filterMap_map]
    rfl
  · rw [List.filterMap_append, h.unwritten, List.filterMap_cons, List.filterMap_map]
    simp [Exchange.wrote?, Function.comp_def]
  · rw [underAfter_append]
    exact hjoined

theorem sheetCourse_of_leads {outDir input : Path} {summary : BuildSummary}
    (hinput : ∃ q : Path, input = q.normalize)
    (h : (buildSheet config outDir input).run.Leads es (done (.ok summary))) :
    SheetCourse config outDir input es := by
  obtain ⟨reading, flat, behind, rfl, hreading, hbehind⟩ := leads_bind_ok.1 h
  obtain ⟨rewriting, ⟨⟨sheet, result⟩, copies⟩, behind, rfl, hrewriting, hresulting⟩ :=
    leads_bind_ok.1 hbehind
  obtain ⟨none₁, stats, behind, rfl, hstats, hplacing⟩ := leads_bind_ok.1 hresulting
  obtain ⟨rfl, rfl⟩ := Program.leads_pure.1 (Building.leads_within.1 hstats)
  obtain ⟨none₂, output, behind, rfl, hplace, hlanding⟩ := leads_bind_ok.1 hplacing
  obtain ⟨rfl, houtput⟩ := Program.leads_pure.1 (Building.leads_within.1 hplace)
  obtain ⟨name, hname, rfl⟩ := outputPath_eq_ok.1 houtput.symm
  obtain ⟨writing, u, behind, rfl, hwriting, hleft⟩ := leads_bind_ok.1 hlanding
  obtain rfl := leads_request.1 (Building.leads_within.1 hwriting)
  obtain ⟨waiting, n, last, rfl, hwaiting, hlast⟩ := leads_bind_ok.1 hleft
  obtain ⟨outcomes, houtcomes, rfl, hwaited⟩ :=
    Collecting.leads_wait (Building.leads_within.1 hwaiting)
  obtain ⟨rfl, -⟩ := leads_pure_ok.1 hlast
  have hcourse := (course_readFlat hinput hreading).append
    (course_rewriteSheet (leads_liftM_ok.1 hrewriting))
  rw [List.append_nil, List.nil_append, List.nil_append, ← List.append_assoc]
  exact hcourse.sheet outDir _ hname houtcomes (waited_eq_ok hwaited.symm)

end StylesheetAssets.Parallel
