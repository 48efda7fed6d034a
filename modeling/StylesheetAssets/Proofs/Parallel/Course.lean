import StylesheetAssets.Parallel.Rewriting
import StylesheetAssets.Proofs.Asset.Naming
import StylesheetAssets.Proofs.Copy.Claims
import StylesheetAssets.Proofs.Parallel.Requesting

/-!
What is asked for on the way through a stylesheet, as long as nothing fails.

Each function of the rewriting is read off once: whatever it looks at it looks at through a
normalized path, its copies go to directories that it has made, and each of them is claimed.
-/
namespace StylesheetAssets.Parallel

open Program
open Stylesheet (Node Sheet visitAll)

namespace Exchange

def claimed? : Exchange → Option CopyRequest
  | ⟨.claim source destination, _⟩ => some ⟨source, destination⟩
  | _ => none

def copied? : Exchange → Option CopyRequest
  | ⟨.start source destination, _⟩ => some ⟨source, destination⟩
  | _ => none

def wrote? : Exchange → Option (Path × ByteArray)
  | ⟨.write p bytes, _⟩ => some (p, bytes)
  | _ => none

/-- The answer is no failure. What is looked at is looked at through a normalized path, and copies
go to directories that were made before. -/
def Fits (config : Config) (earlier : List Exchange) : Exchange → Prop
  | ⟨.size p, answer⟩ => (∃ q : Path, p = q.normalize) ∧ ∃ n, answer = .ok n
  | ⟨.read p, answer⟩ => (∃ q : Path, p = q.normalize) ∧ ∃ content, answer = .ok content
  | ⟨.write .., answer⟩ => answer = .ok ()
  | ⟨.createDirectories p, answer⟩ =>
    (∃ category, config.outputDir? category = some p) ∧ answer = .ok ()
  | ⟨.claim .., _⟩ => True
  | ⟨.start source destination, _⟩ =>
    (∃ q : Path, source = q.normalize) ∧
      ∃ directory name, destination = directory.join ⟨name⟩ ∧
        ⟨.createDirectories directory, .ok ()⟩ ∈ earlier ∧
        (source.fileName? ≠ none → Path.IsName name)
  | ⟨.join _, answer⟩ => ∃ n, answer = .ok n

theorem Fits.mono {config : Config} {earlier earlier' : List Exchange} (hsub : earlier ⊆ earlier')
    {e : Exchange} (h : e.Fits config earlier) : e.Fits config earlier' := by
  obtain ⟨r, answer⟩ := e
  cases r with
  | start source destination =>
    obtain ⟨hsource, directory, name, hdestination, hmade, hname⟩ := h
    exact ⟨hsource, directory, name, hdestination, hsub hmade, hname⟩
  | _ => exact h

end Exchange

/-- Every exchange fits behind those in front of it. -/
def Fitting (config : Config) (earlier : List Exchange) : List Exchange → Prop
  | [] => True
  | e :: rest => e.Fits config earlier ∧ Fitting config (earlier ++ [e]) rest

section Fitting

variable {config : Config} {earlier earlier' es more : List Exchange}

theorem Fitting.mono (hsub : earlier ⊆ earlier') (h : Fitting config earlier es) :
    Fitting config earlier' es := by
  induction es generalizing earlier earlier' with
  | nil => trivial
  | cons e es ih =>
    refine ⟨h.1.mono hsub, ih (fun b hb => ?_) h.2⟩
    rcases List.mem_append.1 hb with hb | hb
    · exact List.mem_append_left _ (hsub hb)
    · exact List.mem_append_right _ hb

theorem fitting_append : Fitting config earlier (es ++ more) ↔
    Fitting config earlier es ∧ Fitting config (earlier ++ es) more := by
  induction es generalizing earlier with
  | nil => simp [Fitting]
  | cons e es ih =>
    rw [List.cons_append, Fitting, Fitting, ih, and_assoc, List.append_assoc]
    rfl

theorem Fitting.fits {e : Exchange} (h : Fitting config earlier (es ++ e :: more)) :
    e.Fits config (earlier ++ es) := (fitting_append.1 h).2.1

end Fitting

/-- What was asked for in a part of a pass that came through, from the copies under way before it to
those under way behind it. -/
structure Course (config : Config) (copies : List Pending) (es : List Exchange)
    (copies' : List Pending) : Prop where
  fitting : Fitting config [] es
  claimed : es.filterMap Exchange.claimed? = es.filterMap Exchange.copied?
  unwritten : es.filterMap Exchange.wrote? = []
  orderly : Distinct copies →
    Orderly copies es ∧ (underAfter copies es).Perm copies' ∧ Distinct copies'

namespace Course

variable {config : Config} {copies copies' copies'' : List Pending} {es more : List Exchange}

theorem append (h : Course config copies es copies') (h' : Course config copies' more copies'') :
    Course config copies (es ++ more) copies'' := by
  refine ⟨fitting_append.2 ⟨h.fitting, h'.fitting.mono (List.nil_subset _)⟩, ?_, ?_,
    fun hdistinct => ?_⟩
  · rw [List.filterMap_append, List.filterMap_append, h.claimed, h'.claimed]
  · rw [List.filterMap_append, h.unwritten, h'.unwritten, List.nil_append]
  · obtain ⟨horderly, hunder, hdistinct⟩ := h.orderly hdistinct
    obtain ⟨horderly', hunder', hdistinct⟩ := h'.orderly hdistinct
    refine ⟨orderly_append.2 ⟨horderly, horderly'.perm hunder.symm⟩, ?_, hdistinct⟩
    rw [underAfter_append]
    exact (underAfter_perm hunder more).trans hunder'

/-- Nothing is asked for that has to do with copies. -/
theorem of_fits {e : Exchange} (hfits : e.Fits config [])
    (hclaimed : e.claimed? = none ∧ e.copied? = none ∧ e.wrote? = none)
    (hunder : ∀ copies, e.InOrder copies ∧ e.under copies = copies) :
    Course config copies [e] copies := by
  refine ⟨⟨hfits, trivial⟩, ?_, ?_, fun hdistinct => ⟨⟨(hunder copies).1, trivial⟩, ?_, hdistinct⟩⟩
  · simp [hclaimed.1, hclaimed.2.1]
  · simp [hclaimed.2.2]
  · rw [underAfter, List.foldl_cons, (hunder copies).2]
    exact .refl _

theorem nil (config : Config) (copies : List Pending) : Course config copies [] copies :=
  ⟨trivial, rfl, rfl, fun hdistinct => ⟨trivial, .refl _, hdistinct⟩⟩

theorem size {p : Path} {n : Nat} (hp : ∃ q : Path, p = q.normalize) :
    Course config copies [⟨.size p, .ok n⟩] copies :=
  of_fits ⟨hp, n, rfl⟩ ⟨rfl, rfl, rfl⟩ fun _ => ⟨trivial, rfl⟩

theorem read {p : Path} {content : Content p} (hp : ∃ q : Path, p = q.normalize) :
    Course config copies [⟨.read p, .ok content⟩] copies :=
  of_fits ⟨hp, content, rfl⟩ ⟨rfl, rfl, rfl⟩ fun _ => ⟨trivial, rfl⟩

theorem made {p : Path} (hp : ∃ category, config.outputDir? category = some p) :
    Course config copies [⟨.createDirectories p, .ok ()⟩] copies :=
  of_fits ⟨hp, rfl⟩ ⟨rfl, rfl, rfl⟩ fun _ => ⟨trivial, rfl⟩

/-- A copy is asked for behind other things, among them its directory. -/
theorem requested {source directory : Path} {name : String}
    (h : Course config copies es copies')
    (hrequested : Requested source (directory.join ⟨name⟩) copies' more copies'')
    (hsource : ∃ q : Path, source = q.normalize)
    (hmade : ⟨.createDirectories directory, .ok ()⟩ ∈ es)
    (hname : source.fileName? ≠ none → Path.IsName name) :
    Course config copies (es ++ more) copies'' := by
  have hstart (ticket : Nat) (between : List Exchange) :
      Exchange.Fits config ([] ++ es ++ between)
        ⟨.start source (directory.join ⟨name⟩), ticket⟩ := by
    refine ⟨hsource, directory, name, rfl, ?_, hname⟩
    exact List.mem_append_left _ (List.mem_append_right _ hmade)
  have hmore : Fitting config ([] ++ es) more ∧
      more.filterMap Exchange.claimed? = more.filterMap Exchange.copied? ∧
      more.filterMap Exchange.wrote? = [] := by
    cases hrequested with
    | held => exact ⟨trivial, rfl, rfl⟩
    | fresh ticket => exact ⟨⟨trivial, hstart ticket _, trivial⟩, rfl, rfl⟩
    | @replaced left copy n ticket =>
      have hlast := hstart ticket
        [⟨.claim source (directory.join ⟨name⟩), ()⟩, ⟨.join copy, .ok n⟩]
      rw [← List.singleton_append, ← List.append_assoc] at hlast
      exact ⟨⟨trivial, ⟨n, rfl⟩, hlast, trivial⟩, rfl, rfl⟩
  refine ⟨fitting_append.2 ⟨h.fitting, hmore.1⟩, ?_, ?_, fun hdistinct => ?_⟩
  · rw [List.filterMap_append, List.filterMap_append, h.claimed, hmore.2.1]
  · rw [List.filterMap_append, h.unwritten, hmore.2.2, List.nil_append]
  · obtain ⟨horderly, hunder, hdistinct⟩ := h.orderly hdistinct
    obtain ⟨horderly', hunder'⟩ := hrequested.orderly hdistinct
    refine ⟨orderly_append.2 ⟨horderly, horderly'.perm hunder.symm⟩, ?_,
      hrequested.distinct hdistinct⟩
    rw [underAfter_append]
    exact (underAfter_perm hunder more).trans hunder'

end Course

/-! ### References -/

variable {α β : Type} {config : Config} {copies copies' : List Pending} {es : List Exchange}

theorem leads_resolveAsset {path : Path} {target : AssetTarget}
    (h : (resolveAsset path).Leads es (done (.ok target))) :
    ∃ n, es = [⟨.size path, .ok n⟩] ∧ target.path = path ∧
      target.extension = target.path.extension?.getD "" := by
  obtain ⟨front, answer, back, rfl, hfront, hback⟩ := Program.leads_bind.1 h
  obtain rfl := leads_request.1 hfront
  cases answer with
  | error cause => cases (Program.leads_pure.1 hback).2
  | ok n =>
    obtain ⟨rfl, heq⟩ := Program.leads_pure.1 hback
    cases heq
    exact ⟨n, rfl, rfl, rfl⟩

theorem leads_readAsset {target : AssetTarget} {bytes : ByteArray}
    (h : (readAsset target).Leads es (done (.ok bytes))) :
    ∃ content, es = [⟨.read target.path, .ok content⟩] := by
  obtain ⟨front, answer, back, rfl, hfront, hback⟩ := Program.leads_bind.1 h
  obtain rfl := leads_request.1 hfront
  cases answer with
  | error cause => cases (Program.leads_pure.1 hback).2
  | ok content =>
    obtain ⟨rfl, -⟩ := Program.leads_pure.1 hback
    exact ⟨content, rfl⟩

namespace Collecting

/-- Whatever a step asks for on the way to an answer is part of a course. -/
def Courses (config : Config) (x : Collecting α) : Prop :=
  ∀ (copies : List Pending) (es : List Exchange) (a : α) (copies' : List Pending),
    (x copies).Leads es (done (.ok a, copies')) → Course config copies es copies'

theorem leads_ofProgram {x : Program (Except RewriteError α)} {a : α} :
    ((ofProgram x : Collecting α) copies).Leads es (done (.ok a, copies')) ↔
      x.Leads es (done (.ok a)) ∧ copies' = copies := by
  have hlift : (ofProgram x : Collecting α) copies = x >>= fun r => pure (r, copies) := rfl
  rw [hlift, Program.leads_bind]
  constructor
  · rintro ⟨front, a', back, rfl, hfront, hback⟩
    obtain ⟨rfl, heq⟩ := Program.leads_pure.1 hback
    cases heq
    rw [List.append_nil]
    exact ⟨hfront, rfl⟩
  · rintro ⟨h, rfl⟩
    exact ⟨es, .ok a, [], (List.append_nil es).symm, h, .nil _⟩

theorem Courses.bind {x : Collecting α} {f : α → Collecting β} (hx : x.Courses config)
    (hf : ∀ a, (f a).Courses config) : (x >>= f).Courses config := by
  intro copies es b copies' h
  obtain ⟨front, a, between, back, rfl, hfront, hback⟩ := leads_bind.1 h
  exact (hx _ _ _ _ hfront).append (hf a _ _ _ _ hback)

theorem courses_pure (a : α) : (pure a : Collecting α).Courses config := by
  intro copies es a' copies' h
  obtain ⟨rfl, -, rfl⟩ := leads_pure.1 h
  exact .nil config _

theorem courses_mapM {as : List α} {f : α → Collecting β} (hf : ∀ a, (f a).Courses config) :
    (as.mapM f).Courses config := by
  induction as with
  | nil => exact courses_pure []
  | cons a as ih =>
    rw [List.mapM_cons]
    exact (hf a).bind fun b => ih.bind fun bs => courses_pure _

end Collecting

open Collecting

theorem leads_makeDirectory {directory : Path} {u : Unit}
    (h : (makeDirectory directory copies).Leads es (done (.ok u, copies'))) :
    es = [⟨.createDirectories directory, .ok ()⟩] ∧ copies' = copies := by
  obtain ⟨front, answer, between, back, rfl, hfront, hback⟩ := Collecting.leads_bind.1 h
  obtain ⟨hrequest, rfl⟩ := leads_lift.1 hfront
  obtain rfl := leads_request.1 hrequest
  cases answer with
  | error cause => exact absurd hback not_leads_throw
  | ok u =>
    obtain ⟨rfl, -, rfl⟩ := Collecting.leads_pure.1 hback
    exact ⟨rfl, rfl⟩

theorem courses_hashOf {target : AssetTarget} (htarget : ∃ q : Path, target.path = q.normalize) :
    (hashOf config target).Courses config := by
  intro copies es hash copies' h
  unfold hashOf at h
  split at h
  · obtain ⟨front, bytes, between, back, rfl, hfront, hback⟩ := Collecting.leads_bind.1 h
    obtain ⟨hread, rfl⟩ := leads_ofProgram.1 hfront
    obtain ⟨content, rfl⟩ := leads_readAsset hread
    obtain ⟨rfl, -, rfl⟩ := Collecting.leads_pure.1 hback
    exact .read htarget
  · obtain ⟨rfl, -, rfl⟩ := Collecting.leads_pure.1 h
    exact .nil config _

/-- The directory is made, the file is read for its hash, and then the copy is asked for. -/
theorem courses_relocate {target : AssetTarget} {directory : Path}
    (htarget : ∃ q : Path, target.path = q.normalize)
    (hextension : target.extension = target.path.extension?.getD "")
    (hdirectory : ∃ category, config.outputDir? category = some directory) :
    (relocate config target directory).Courses config := by
  intro copies es path copies' h
  obtain ⟨front, u, between, back, rfl, hfront, hback⟩ := Collecting.leads_bind.1 h
  obtain ⟨rfl, rfl⟩ := leads_makeDirectory hfront
  obtain ⟨hashing, hash, between, back, rfl, hhash, hback⟩ := Collecting.leads_bind.1 hback
  have hcourse := (Course.made hdirectory).append (courses_hashOf htarget _ _ _ _ hhash)
  obtain ⟨requesting, v, between, back, rfl, hrequest, hback⟩ := Collecting.leads_bind.1 hback
  obtain ⟨rfl, -, rfl⟩ := Collecting.leads_pure.1 hback
  have hrequested := hcourse.requested (requested_of_leads hrequest) htarget
    (List.mem_append_left _ (List.mem_singleton_self _))
    fun hfile => AssetTarget.isName_outputName_of_fileName? hextension hfile hash
  rwa [List.append_nil, ← List.append_assoc]

theorem courses_resolveReference (config : Config) (base : Path) (reference : List Char) :
    (resolveReference config base reference).Courses config := by
  intro copies es resolution copies' h
  cases hroute : config.route? (String.ofList (Url.splitSuffix reference).1) with
  | none =>
    simp only [resolveReference, hroute] at h
    obtain ⟨rfl, -, rfl⟩ := Collecting.leads_pure.1 h
    exact .nil config _
  | some routed =>
    obtain ⟨category, directory⟩ := routed
    simp only [resolveReference, hroute] at h
    obtain ⟨front, target, between, back, rfl, hfront, hback⟩ := Collecting.leads_bind.1 h
    obtain ⟨hresolve, rfl⟩ := leads_ofProgram.1 hfront
    obtain ⟨n, rfl, hpath, hextension⟩ := leads_resolveAsset hresolve
    have htarget : ∃ q : Path, target.path = q.normalize := ⟨_, hpath⟩
    refine (Course.size ⟨_, rfl⟩).append ?_
    split at hback
    · obtain ⟨front, bytes, between, last, rfl, hfront, hlast⟩ := Collecting.leads_bind.1 hback
      obtain ⟨hread, rfl⟩ := leads_ofProgram.1 hfront
      obtain ⟨content, rfl⟩ := leads_readAsset hread
      obtain ⟨rfl, -, rfl⟩ := Collecting.leads_pure.1 hlast
      exact .read htarget
    · obtain ⟨front, path, between, last, rfl, hfront, hlast⟩ := Collecting.leads_bind.1 hback
      obtain ⟨rfl, -, rfl⟩ := Collecting.leads_pure.1 hlast
      have hdirectory := Config.outputDir?_of_route? hroute
      rw [List.append_nil]
      exact courses_relocate htarget hextension ⟨category, hdirectory⟩ _ _ _ _ hfront

theorem courses_resolveFragment (config : Config) (base : Path) (fragment : Url.Fragment) :
    (resolveFragment config base fragment).Courses config := by
  cases fragment with
  | char c => exact courses_pure _
  | url o =>
    rw [resolveFragment]
    split_ifs
    · refine (courses_resolveReference config base o.path).bind fun resolution => ?_
      split
      · exact courses_pure _
      · exact courses_pure _
    · exact courses_pure _

theorem courses_rewriteValue (config : Config) (base : Path) (value : String) :
    (rewriteValue config base value).Courses config :=
  (courses_mapM (courses_resolveFragment config base)).bind fun _ => courses_pure _

/-! ### Sheets -/

section Passes

variable {stats stats' : RewriteStats}

namespace Rewriting

theorem leads_bind {x : Rewriting α} {f : α → Rewriting β} {b : β} :
    ((x >>= f) stats copies).Leads es (done ((b, stats'), copies')) ↔
      ∃ front a counts between back, es = front ++ back ∧
        (x stats copies).Leads front (done ((a, counts), between)) ∧
        (f a counts between).Leads back (done ((b, stats'), copies')) := by
  have hbind : (x >>= f) stats copies = x stats copies >>= fun r => f r.1.1 r.1.2 r.2 := rfl
  rw [hbind, Program.leads_bind]
  constructor
  · rintro ⟨front, ⟨⟨a, counts⟩, between⟩, back, rfl, hfront, hback⟩
    exact ⟨front, a, counts, between, back, rfl, hfront, hback⟩
  · rintro ⟨front, a, counts, between, back, rfl, hfront, hback⟩
    exact ⟨front, ((a, counts), between), back, rfl, hfront, hback⟩

theorem leads_pure {a a' : α} :
    ((pure a : Rewriting α) stats copies).Leads es (done ((a', stats'), copies')) ↔
      es = [] ∧ a' = a ∧ stats' = stats ∧ copies' = copies := by
  refine Program.leads_pure.trans (and_congr_right fun _ => ?_)
  simp [and_assoc]

/-- What asks for copies leaves the counts as they are. -/
theorem leads_liftM {x : StateT (List Pending) Program α} {a : α} :
    ((liftM x : Rewriting α) stats copies).Leads es (done ((a, stats'), copies')) ↔
      (x copies).Leads es (done (a, copies')) ∧ stats' = stats := by
  have hlift : (liftM x : Rewriting α) stats copies =
      x copies >>= fun r => pure ((r.1, stats), r.2) := rfl
  rw [hlift, Program.leads_bind]
  constructor
  · rintro ⟨front, ⟨a', between⟩, back, rfl, hfront, hback⟩
    obtain ⟨rfl, heq⟩ := Program.leads_pure.1 hback
    cases heq
    rw [List.append_nil]
    exact ⟨hfront, rfl⟩
  · rintro ⟨h, rfl⟩
    exact ⟨es, (a, copies'), [], (List.append_nil es).symm, h, .nil _⟩

end Rewriting

open Rewriting

theorem course_visitValue {base : Path} {value new : String}
    (h : (visitValue config base value stats copies).Leads es (done ((.ok new, stats'), copies'))) :
    Course config copies es copies' := by
  obtain ⟨front, answer, counts, between, back, rfl, hfront, hback⟩ := Rewriting.leads_bind.1 h
  obtain ⟨hvalue, rfl⟩ := leads_liftM.1 hfront
  cases answer with
  | error e => cases (Rewriting.leads_pure.1 hback).2.1
  | ok answer =>
    obtain ⟨front', u, counts', between', back, rfl, hmodify, hlast⟩ :=
      Rewriting.leads_bind.1 hback
    obtain ⟨rfl, heq⟩ := Program.leads_pure.1 hmodify
    cases heq
    obtain ⟨rfl, -, -, rfl⟩ := Rewriting.leads_pure.1 hlast
    rw [List.append_nil, List.append_nil]
    exact courses_rewriteValue config base value _ _ _ _ hvalue

mutual

theorem course_visitValues (config : Config) (base : Path) (node : Node)
    (stats : RewriteStats) (copies : List Pending) (es : List Exchange) (node' : Node)
    (stats' : RewriteStats) (copies' : List Pending)
    (h : (node.visitValues (visitValue config base) stats copies).Leads es
      (done (((node', none), stats'), copies'))) : Course config copies es copies' := by
  cases node with
  | declaration property value =>
    rw [Node.visitValues] at h
    obtain ⟨front, answer, counts, between, back, rfl, hfront, hback⟩ := Rewriting.leads_bind.1 h
    cases answer with
    | error e => cases (Rewriting.leads_pure.1 hback).2.1
    | ok new =>
      obtain ⟨rfl, -, -, rfl⟩ := Rewriting.leads_pure.1 hback
      rw [List.append_nil]
      exact course_visitValue hfront
  | rule selector nodes =>
    rw [Node.visitValues] at h
    obtain ⟨front, ⟨nodes', failure⟩, counts, between, back, rfl, hfront, hback⟩ :=
      Rewriting.leads_bind.1 h
    obtain ⟨rfl, heq, -, rfl⟩ := Rewriting.leads_pure.1 hback
    cases heq
    rw [List.append_nil]
    exact course_visitAll config base nodes _ _ _ _ _ _ hfront
  | atBlock name params nodes =>
    rw [Node.visitValues] at h
    obtain ⟨front, ⟨nodes', failure⟩, counts, between, back, rfl, hfront, hback⟩ :=
      Rewriting.leads_bind.1 h
    obtain ⟨rfl, heq, -, rfl⟩ := Rewriting.leads_pure.1 hback
    cases heq
    rw [List.append_nil]
    exact course_visitAll config base nodes _ _ _ _ _ _ hfront
  | atStatement name params =>
    rw [Node.visitValues] at h
    obtain ⟨rfl, -, -, rfl⟩ := Rewriting.leads_pure.1 h
    · exact .nil config _
    all_goals nofun
  | comment text =>
    rw [Node.visitValues] at h
    obtain ⟨rfl, -, -, rfl⟩ := Rewriting.leads_pure.1 h
    · exact .nil config _
    all_goals nofun

theorem course_visitAll (config : Config) (base : Path) (nodes : List Node)
    (stats : RewriteStats) (copies : List Pending) (es : List Exchange) (nodes' : List Node)
    (stats' : RewriteStats) (copies' : List Pending)
    (h : (visitAll (visitValue config base) nodes stats copies).Leads es
      (done (((nodes', none), stats'), copies'))) : Course config copies es copies' := by
  cases nodes with
  | nil =>
    rw [visitAll] at h
    obtain ⟨rfl, -, -, rfl⟩ := Rewriting.leads_pure.1 h
    exact .nil config _
  | cons node rest =>
    rw [visitAll] at h
    obtain ⟨front, ⟨node', failure⟩, counts, between, back, rfl, hfront, hback⟩ :=
      Rewriting.leads_bind.1 h
    cases failure with
    | some e => cases (Rewriting.leads_pure.1 hback).2.1
    | none =>
      obtain ⟨middle, ⟨rest', failure⟩, counts', between', back, rfl, hmiddle, hlast⟩ :=
        Rewriting.leads_bind.1 hback
      obtain ⟨rfl, heq, -, rfl⟩ := Rewriting.leads_pure.1 hlast
      cases heq
      rw [List.append_nil]
      exact (course_visitValues config base node _ _ _ _ _ _ hfront).append
        (course_visitAll config base rest _ _ _ _ _ _ hmiddle)

end

theorem course_rewriteNodes {tracker : Import.Tracker} {index : Nat} {nodes : List Node}
    {nodes' : Flagged}
    (h : (rewriteNodes config tracker index nodes stats copies).Leads es
      (done (((nodes', none), stats'), copies'))) : Course config copies es copies' := by
  induction nodes generalizing tracker index stats copies es nodes' with
  | nil =>
    obtain ⟨rfl, -, -, rfl⟩ := Rewriting.leads_pure.1 h
    exact .nil config _
  | cons node rest ih =>
    rw [rewriteNodes] at h
    have hrest {tracker : Import.Tracker} {flag : Bool} {node : Node} {stats : RewriteStats}
        {copies : List Pending} {es : List Exchange}
        (h : ((rewriteNodes config tracker (index + 1) rest >>= fun r =>
          pure ((node, flag) :: r.1, r.2) : Rewriting _) stats copies).Leads es
            (done (((nodes', none), stats'), copies'))) : Course config copies es copies' := by
      obtain ⟨front, ⟨rest', failure⟩, counts, between, back, rfl, hfront, hback⟩ :=
        Rewriting.leads_bind.1 h
      obtain ⟨rfl, heq, rfl, rfl⟩ := Rewriting.leads_pure.1 hback
      cases heq
      rw [List.append_nil]
      exact ih hfront
    cases hstep : unnoted (tracker.observe index node) with
    | mk step next =>
      rw [hstep] at h
      cases step with
      | remove => exact hrest h
      | keep => exact hrest h
      | scan base =>
        obtain ⟨front, ⟨node', failure⟩, counts, between, back, rfl, hfront, hback⟩ :=
          Rewriting.leads_bind.1 h
        cases failure with
        | some e => cases (Rewriting.leads_pure.1 hback).2.1
        | none =>
          exact (course_visitValues config base node _ _ _ _ _ _ hfront).append (hrest hback)

theorem course_rewriteSheet {sheet sheet' : Sheet}
    (h : (rewriteSheet config sheet copies).Leads es (done ((sheet', .ok stats), copies'))) :
    Course config copies es copies' := by
  cases hsource : sheet.source with
  | none =>
    simp only [rewriteSheet, hsource] at h
    cases (Program.leads_pure.1 h).2
  | some source =>
    simp only [rewriteSheet, hsource] at h
    obtain ⟨front, ⟨⟨⟨nodes, failure⟩, counts⟩, between⟩, back, rfl, hfront, hback⟩ :=
      Program.leads_bind.1 h
    cases failure with
    | some e => cases (Program.leads_pure.1 hback).2
    | none =>
      obtain ⟨rfl, heq⟩ := Program.leads_pure.1 hback
      cases heq
      rw [List.append_nil]
      exact course_rewriteNodes hfront

end Passes

end StylesheetAssets.Parallel
