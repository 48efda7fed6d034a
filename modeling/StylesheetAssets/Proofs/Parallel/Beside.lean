import StylesheetAssets.Parallel.Rewriting
import StylesheetAssets.Proofs.Import.Tracking
import StylesheetAssets.Proofs.Parallel.Progress
import StylesheetAssets.Proofs.Parallel.Requesting
import StylesheetAssets.Proofs.Rewrite.Orders

/-!
The rewriting of a stylesheet by one worker, beside that of `rewriteSheet`.

A worker that nobody interrupts, and whose copies are made as soon as they are handed out, does what
`rewriteSheet` does: a step of the queue is answered by some steps of the worker.
-/
namespace StylesheetAssets.Parallel

open Program
open Stylesheet (Node Sheet visitAll)

variable {α β : Type}

/-! ### Steps that ask for no copies -/

/-- Wherever both see the same disk, the worker comes to the answer of the session. -/
def Alike (x : StateM Session α) (y : Program α) : Prop :=
  ∀ (session : Session) (transfers : List Transfer) (shared : Shared),
    session.disk = shared.session.disk → ∃ session',
      Worker.Gets ⟨y, transfers⟩ shared ⟨done (x session).1, transfers⟩
        { shared with session := session' } ∧
      (x session).2.disk = session'.disk

namespace Alike

variable {x : StateM Session α} {y : Program α}

protected theorem pure (a : α) : Alike (pure a) (pure a) :=
  fun _ _ shared hdisk => ⟨shared.session, .refl _ _, hdisk⟩

theorem bind {f : α → StateM Session β} {g : α → Program β} (h : Alike x y)
    (hf : ∀ a, Alike (f a) (g a)) : Alike (x >>= f) (y >>= g) := by
  intro session transfers shared hdisk
  obtain ⟨session₁, hgets, hdisk₁⟩ := h session transfers shared hdisk
  obtain ⟨session₂, hgets', hdisk₂⟩ := hf _ _ transfers { shared with session := session₁ } hdisk₁
  exact ⟨session₂, (hgets.bind g).trans hgets', hdisk₂⟩

/-- A request that is answered by a step of the session. -/
theorem request {r : Request} {x : StateM Session r.Answer}
    (hanswer : ∀ transfers shared, r.answer? transfers shared =
      some ((x shared.session).1, transfers, { shared with session := (x shared.session).2 }))
    (hdisk : ∀ s t : Session, s.disk = t.disk → (x s).1 = (x t).1 ∧ (x s).2.disk = (x t).2.disk) :
    Alike x (request r) := by
  intro session transfers shared hsame
  obtain ⟨hfirst, hlater⟩ := hdisk session shared.session hsame
  refine ⟨(x shared.session).2, .ask ?_, hlater⟩
  rw [hanswer, hfirst]

theorem size (p : Path) : Alike (Session.size p) (Program.request (.size p)) :=
  request (fun _ _ => rfl) fun _ _ hsame => ⟨congrArg (Disk.size · p) hsame, hsame⟩

theorem createDirectories (p : Path) :
    Alike (Session.createDirectories p) (Program.request (.createDirectories p)) := by
  refine request (fun _ _ => rfl) fun s t hsame => ?_
  have hrun (s : Session) : Session.createDirectories p s =
      ((s.disk.createDirectories p).1, ⟨(s.disk.createDirectories p).2,
        s.journal.push (.createdDirectories p)⟩) := rfl
  rw [hrun, hrun, hsame]
  exact ⟨rfl, rfl⟩

theorem writeFile (p : Path) (bytes : ByteArray) :
    Alike (Session.writeFile p bytes) (Program.request (.write p bytes)) := by
  refine request (fun _ _ => rfl) fun s t hsame => ?_
  have hrun (s : Session) : Session.writeFile p bytes s =
      ((s.disk.writeFile p bytes).1, ⟨(s.disk.writeFile p bytes).2, s.journal.push (.wrote p)⟩) :=
    rfl
  rw [hrun, hrun, hsame]
  exact ⟨rfl, rfl⟩

theorem map_readContent (d : Disk) (p : Path) :
    (readContent d p).map (·.1) = d.readFile p := by
  unfold readContent
  split <;> simp [*, Except.map]

theorem readFile (p : Path) : Alike (Session.readFile p)
    (Program.request (.read p) >>= fun content => pure (content.map (·.1))) := by
  intro session transfers shared hdisk
  have hgets : Worker.Gets ⟨Program.request (.read p), transfers⟩ shared
      ⟨done (readContent shared.session.disk p), transfers⟩
      { shared with session := (Session.readFile p shared.session).2 } := .ask rfl
  refine ⟨(Session.readFile p shared.session).2, ?_, hdisk⟩
  have hanswer : (Session.readFile p session).1 =
      (readContent shared.session.disk p).map (·.1) := by
    rw [map_readContent, ← hdisk]
    rfl
  rw [hanswer]
  exact hgets.bind _

end Alike

/-! ### Steps that ask for copies -/

/-- A copy as it stands in the queue once it is made. -/
def Pending.made (transfers : List Transfer) (copy : Pending) : Copy :=
  ⟨copy.source, copy.destination,
    (Request.outcomeAt transfers copy.ticket).getD (.error .notFound)⟩

/-- A session with its queue, and a worker that has made all of its copies. -/
structure Beside (queue : CopyQueue) (session : Session) (copies : List Pending)
    (transfers : List Transfer) (shared : Shared) : Prop where
  disk_eq : session.disk = shared.session.disk
  registry_eq : queue.registry = shared.registry
  copies_eq : queue.copies = copies.map (Pending.made transfers)
  isMade : ∀ copy ∈ copies, ∃ outcome,
    transfers[copy.ticket]? = some ⟨copy.source, copy.destination, some outcome⟩

/-- Beside each other the worker comes to the answer of the session, and the two stay so. -/
def Mirrors (x : StateT CopyQueue (StateM Session) α) (y : StateT (List Pending) Program α) :
    Prop :=
  ∀ ⦃queue : CopyQueue⦄ ⦃session : Session⦄ ⦃copies : List Pending⦄ ⦃transfers : List Transfer⦄
    ⦃shared : Shared⦄, Beside queue session copies transfers shared →
      ∃ copies' transfers' shared',
        Worker.Gets ⟨y copies, transfers⟩ shared
          ⟨done ((x queue session).1.1, copies'), transfers'⟩ shared' ∧
        Beside (x queue session).1.2 (x queue session).2 copies' transfers' shared'

namespace Mirrors

section Rules

variable {x : StateT CopyQueue (StateM Session) α} {y : StateT (List Pending) Program α}

protected theorem pure (a : α) : Mirrors (pure a) (pure a) :=
  fun _ _ copies transfers shared h => ⟨copies, transfers, shared, .refl _ _, h⟩

theorem bind {f : α → StateT CopyQueue (StateM Session) β}
    {g : α → StateT (List Pending) Program β} (h : Mirrors x y) (hf : ∀ a, Mirrors (f a) (g a)) :
    Mirrors (x >>= f) (y >>= g) := by
  intro queue session copies transfers shared hbeside
  obtain ⟨copies₁, transfers₁, shared₁, hgets, hbeside₁⟩ := h hbeside
  obtain ⟨copies₂, transfers₂, shared₂, hgets', hbeside₂⟩ := hf _ hbeside₁
  exact ⟨copies₂, transfers₂, shared₂, (hgets.bind fun r => g r.1 r.2).trans hgets', hbeside₂⟩

/-- What is only noted keeps nobody from going on. -/
theorem noting_bind {x : StateM Journal β} {f : β → StateT CopyQueue (StateM Session) α}
    (hx : ∀ journal, (x journal).1 = unnoted x) (h : Mirrors (f (unnoted x)) y) :
    Mirrors (liftM (Session.noting x) >>= f) y := by
  intro queue session copies transfers shared hbeside
  have hrun : (liftM (Session.noting x) >>= f) queue session =
      f (unnoted x) queue ⟨session.disk, (x session.journal).2⟩ := by
    rw [← hx session.journal]
    rfl
  rw [hrun]
  exact h ⟨hbeside.disk_eq, hbeside.registry_eq, hbeside.copies_eq, hbeside.isMade⟩

end Rules

section Failing

variable {x : Copying α} {y : Collecting α}

theorem bindExcept {f : α → Copying β} {g : α → Collecting β} (h : Mirrors x.run y.run)
    (hf : ∀ a, Mirrors (f a).run (g a).run) : Mirrors (x >>= f).run (y >>= g).run := by
  have hleft : (x >>= f).run = x.run >>= fun r => ExceptT.bindCont f r := rfl
  have hright : (y >>= g).run = y.run >>= fun r => ExceptT.bindCont g r := rfl
  rw [hleft, hright]
  refine h.bind fun r => ?_
  cases r with
  | ok a => exact hf a
  | error e => exact .pure _

/-- A step of the session that asks for no copies. -/
theorem ofAlike {x : StateM Session α} {y : Program α} (h : Alike x y) :
    Mirrors (monadLift x) (monadLift y) := by
  intro queue session copies transfers shared hbeside
  obtain ⟨session', hgets, hdisk⟩ := h session transfers shared hbeside.disk_eq
  exact ⟨copies, transfers, _, hgets.bind fun a => pure (a, copies), hdisk, hbeside.registry_eq,
    hbeside.copies_eq, hbeside.isMade⟩

theorem say_bind {topic text : String} {f : Unit → Copying α} (h : Mirrors (f ()).run y.run) :
    Mirrors ((liftM (Session.detail topic text) : Copying Unit) >>= f).run y.run :=
  noting_bind (x := Journal.detail topic text) (f := fun _ => (f ()).run) (fun _ => rfl) h

end Failing

end Mirrors

/-! ### Requests for copies -/

theorem Collecting.get_bind (f : List Pending → Collecting α) (copies : List Pending) :
    ((get : Collecting (List Pending)) >>= f) copies = f copies copies := rfl

section Gets

variable {y : Collecting α} {g : α → Collecting β} {copies copies' : List Pending}
  {transfers transfers' : List Transfer} {shared shared' : Shared}

theorem Worker.Gets.bind_ok {a : α} (h : Gets ⟨y copies, transfers⟩ shared
      ⟨done (.ok a, copies'), transfers'⟩ shared') :
    Gets ⟨(y >>= g) copies, transfers⟩ shared ⟨g a copies', transfers'⟩ shared' :=
  h.bind fun r => ExceptT.bindCont g r.1 r.2

theorem Worker.Gets.bind_error {e : RewriteError} (h : Gets ⟨y copies, transfers⟩ shared
      ⟨done (.error e, copies'), transfers'⟩ shared') :
    Gets ⟨(y >>= g) copies, transfers⟩ shared ⟨done (.error e, copies'), transfers'⟩ shared' :=
  h.bind fun r => ExceptT.bindCont g r.1 r.2

end Gets

theorem map_swapRemove (f : α → β) (l : List α) (i : Nat) :
    swapRemove (l.map f) i = (swapRemove l i).map f := by
  unfold swapRemove
  rw [List.getLast?_map]
  cases l.getLast? with
  | none => rfl
  | some last => simp [List.map_set, List.map_dropLast]

namespace Beside

variable {queue : CopyQueue} {session : Session} {copies : List Pending}
  {transfers : List Transfer} {shared : Shared}

theorem find?_eq (h : Beside queue session copies transfers shared) (destination : Path) :
    queue.find? destination =
      (Collecting.find? copies destination).map fun r => (r.1.made transfers, r.2) := by
  rw [CopyQueue.find?, h.copies_eq, List.zipIdx_map, List.find?_map]
  rfl

theorem claim (h : Beside queue session copies transfers shared) (source destination : Path) :
    ∃ queue' session' shared',
      (CopyQueue.claim source destination).exec (queue, session) = (.ok (), queue', session') ∧
      Worker.Gets ⟨Collecting.claim source destination copies, transfers⟩ shared
        ⟨done (.ok (), copies), transfers⟩ shared' ∧
      Beside queue' session' copies transfers shared' := by
  obtain ⟨⟨queue', session'⟩, hclaim, rfl, hdisk⟩ :=
    CopyQueue.exec_claim source destination (queue, session)
  refine ⟨_, session', { shared with registry := (shared.registry.claim source destination).2 },
    hclaim, .ask rfl, hdisk.trans h.disk_eq, ?_, h.copies_eq, h.isMade⟩
  exact congrArg (fun registry => (CopyRegistry.claim registry source destination).2) h.registry_eq

/-- The copy is made already. -/
theorem answer_join (h : Beside queue session copies transfers shared) {copy : Pending}
    (hcopy : copy ∈ copies) : ∃ outcome,
      Request.answer? transfers shared (.join copy) = some (outcome, transfers, shared) ∧
      (copy.made transfers).finish = outcome.mapError (.copy copy.source copy.destination) := by
  obtain ⟨outcome, hmade⟩ := h.isMade copy hcopy
  refine ⟨outcome, ?_, ?_⟩
  · simp [Request.answer?, Request.outcomeAt, hmade]
  · simp [Pending.made, Copy.finish, Request.outcomeAt, hmade]

theorem join (h : Beside queue session copies transfers shared) {copy : Pending}
    (hcopy : copy ∈ copies) : Worker.Gets ⟨copy.join, transfers⟩ shared
      ⟨done (copy.made transfers).finish, transfers⟩ shared := by
  obtain ⟨outcome, hanswer, hfinish⟩ := h.answer_join hcopy
  rw [hfinish]
  exact .ask hanswer

theorem settle (h : Beside queue session copies transfers shared) {copy : Pending} {place : Nat}
    (hplace : copies[place]? = some copy) :
    Worker.Gets ⟨Collecting.settle copy place copies, transfers⟩ shared
        ⟨done ((copy.made transfers).finish.map fun _ => (), swapRemove copies place), transfers⟩
        shared ∧
      Beside { queue with copies := swapRemove queue.copies place } session
        (swapRemove copies place) transfers shared := by
  obtain ⟨outcome, hanswer, hfinish⟩ := h.answer_join (List.mem_of_getElem? hplace)
  refine ⟨?_, h.disk_eq, h.registry_eq, ?_, fun c hc => h.isMade c ?_⟩
  · rw [hfinish]
    cases outcome <;> exact .ask hanswer
  · rw [h.copies_eq, map_swapRemove]
  · exact (perm_swapRemove hplace).mem_iff.2 (List.mem_cons_of_mem copy hc)

/-- A copy is handed out, and then made. -/
theorem start (h : Beside queue session copies transfers shared) (source destination : Path) :
    ∃ queue' session' copies' transfers' shared',
      (CopyQueue.start source destination).exec (queue, session) = (.ok (), queue', session') ∧
      Worker.Gets ⟨Collecting.start source destination copies, transfers⟩ shared
        ⟨done (.ok (), copies'), transfers'⟩ shared' ∧
      Beside queue' session' copies' transfers' shared' := by
  obtain ⟨⟨queue', session'⟩, hstart, rfl, hdisk⟩ :=
    CopyQueue.exec_start source destination (queue, session)
  let handed : List Pending := copies ++ [⟨source, destination, transfers.length⟩]
  let made : List Transfer := transfers ++
    [⟨source, destination, some (shared.session.disk.copyFile source destination).1⟩]
  have hasked : Worker.Gets ⟨Collecting.start source destination copies, transfers⟩ shared
      ⟨done (.ok (), handed), transfers ++ [⟨source, destination, none⟩]⟩ shared := .ask rfl
  have hgets := hasked.trans (.transfer List.getElem?_concat_length)
  rw [List.set_append_right _ _ le_rfl, Nat.sub_self] at hgets
  -- The copies before this one are made as before.
  have hbefore {c : Pending} (hc : c ∈ copies) : made[c.ticket]? = transfers[c.ticket]? := by
    obtain ⟨outcome, hmade⟩ := h.isMade c hc
    exact List.getElem?_append_left (List.getElem?_eq_some_iff.1 hmade).1
  refine ⟨_, session', handed, made, _, hstart, hgets, ?_, h.registry_eq, ?_, fun c hc => ?_⟩
  · exact hdisk.trans (congrArg (fun d => (Disk.copyFile d source destination).2) h.disk_eq)
  · have hkept : copies.map (Pending.made made) = copies.map (Pending.made transfers) := by
      refine List.map_congr_left fun c hc => ?_
      rw [Pending.made, Pending.made, Request.outcomeAt, Request.outcomeAt, hbefore hc]
    have hlast : Pending.made made ⟨source, destination, transfers.length⟩ =
        ⟨source, destination, (session.disk.copyFile source destination).1⟩ := by
      rw [h.disk_eq]
      simp [Pending.made, Request.outcomeAt, made]
    rw [List.map_append, hkept, List.map_singleton, hlast, h.copies_eq]
  · rcases List.mem_append.1 hc with hc | hc
    · rw [hbefore hc]
      exact h.isMade c hc
    · obtain rfl := List.mem_singleton.1 hc
      exact ⟨_, List.getElem?_concat_length⟩

/-- By induction on the copies that are still to be waited for. -/
theorem waitFrom (h : Beside queue session copies transfers shared) (rest : List Pending)
    (hrest : rest ⊆ copies) (written : Nat) (failure : Option RewriteError) :
    Worker.Gets ⟨Collecting.waitFrom written failure rest, transfers⟩ shared
      ⟨done (failure.elim ((rest.map (Pending.made transfers)).foldlM
        (fun written copy => copy.finish.map fun _ => written + 1) written) .error), transfers⟩
      shared := by
  induction rest generalizing written failure with
  | nil => cases failure <;> exact .refl _ _
  | cons copy rest ih =>
    obtain ⟨hcopy, hrest⟩ := List.cons_subset.1 hrest
    unfold Collecting.waitFrom
    refine ((h.join hcopy).bind _).trans ?_
    rw [List.map_cons, List.foldlM_cons]
    cases (copy.made transfers).finish with
    | ok n => exact ih hrest (written + 1) failure
    | error e =>
      have hfailed := ih hrest written (failure.or (some e))
      cases failure <;> exact hfailed

/-- Nothing is left to wait for, and the outcomes are those in the queue. -/
theorem wait (h : Beside queue session copies transfers shared) :
    Worker.Gets ⟨Collecting.wait copies, transfers⟩ shared
      ⟨done queue.finish, transfers⟩ shared := by
  rw [CopyQueue.finish, h.copies_eq]
  exact h.waitFrom copies (List.Subset.refl _) 0 none

end Beside

namespace Mirrors

/-- A step of the session is put beside what the worker does, from wherever both are. -/
theorem of_exec {x : Copying α} {y : Collecting α}
    (hanswer : ∀ {queue session copies transfers shared},
      Beside queue session copies transfers shared →
        ∃ r queue' session' copies' transfers' shared',
          x.exec (queue, session) = (r, queue', session') ∧
          Worker.Gets ⟨y copies, transfers⟩ shared ⟨done (r, copies'), transfers'⟩ shared' ∧
          Beside queue' session' copies' transfers' shared') :
    Mirrors x.run y.run := by
  intro queue session copies transfers shared h
  obtain ⟨r, queue', session', copies', transfers', shared', hexec, hgets, hbeside⟩ := hanswer h
  have hrun : x.run queue session =
      (((x.exec (queue, session)).1, (x.exec (queue, session)).2.1),
        (x.exec (queue, session)).2.2) := rfl
  rw [hrun, hexec]
  exact ⟨copies', transfers', shared', hgets, hbeside⟩

/-- What was asked for before is waited for where its destination is to hold something else. -/
theorem request (source destination : Path) :
    Mirrors (CopyQueue.request source destination).run
      (Collecting.request source destination).run := by
  refine of_exec fun {queue session copies transfers shared} h => ?_
  unfold CopyQueue.request Collecting.request
  rw [Copying.exec_bind, Copying.exec_get, Collecting.get_bind]
  dsimp only
  rw [h.find?_eq]
  obtain ⟨queue₁, session₁, shared₁, hclaim, hclaimed, h₁⟩ := h.claim source destination
  cases hfind : Collecting.find? copies destination with
  | none =>
    obtain ⟨queue₂, session₂, copies₂, transfers₂, shared₂, hstart, hstarted, h₂⟩ :=
      h₁.start source destination
    refine ⟨.ok (), queue₂, session₂, copies₂, transfers₂, shared₂, ?_,
      hclaimed.bind_ok.trans hstarted, h₂⟩
    dsimp only [Option.map_none]
    rw [Copying.exec_bind, hclaim]
    exact hstart
  | some found =>
    obtain ⟨copy, place⟩ := found
    dsimp only [Option.map_some]
    by_cases hsource : copy.source.same source = true
    · rw [if_neg (by simp [Pending.made, hsource]), if_neg (by simp [hsource])]
      exact ⟨.ok (), queue, session, copies, transfers, shared, rfl, .refl _ _, h⟩
    · rw [if_pos (by simpa [Pending.made] using hsource), if_pos (by simpa using hsource)]
      obtain ⟨hsettled, h₂⟩ := h₁.settle (Collecting.find?_spec hfind).1
      simp only [Copying.exec_bind, hclaim, CopyQueue.exec_settle]
      cases hfinish : (copy.made transfers).finish with
      | error e =>
        rw [hfinish] at hsettled
        exact ⟨.error e, _, _, _, _, _, rfl, hclaimed.bind_ok.trans hsettled.bind_error, h₂⟩
      | ok n =>
        rw [hfinish] at hsettled
        obtain ⟨queue₃, session₃, copies₃, transfers₃, shared₃, hstart, hstarted, h₃⟩ :=
          h₂.start source destination
        exact ⟨.ok (), queue₃, session₃, copies₃, transfers₃, shared₃, hstart,
          hclaimed.bind_ok.trans (hsettled.bind_ok.trans hstarted), h₃⟩

end Mirrors

/-! ### Rewriting -/

namespace Alike

theorem resolve (path : Path) : Alike (AssetTarget.resolve path) (resolveAsset path) := by
  refine (size path).bind fun answer => ?_
  cases answer with
  | ok size => exact .pure _
  | error cause => exact .pure _

theorem read (target : AssetTarget) : Alike target.read (readAsset target) := by
  have hread : readAsset target =
      (Program.request (.read target.path) >>= fun content => pure (content.map (·.1))) >>=
        fun bytes => pure (bytes.mapError (.asset target.path)) := by
    rw [readAsset, bind_assoc]
    refine congrArg _ (funext fun content => ?_)
    cases content <;> rfl
  rw [hread]
  exact (readFile target.path).bind fun bytes => .pure _

end Alike

namespace Mirrors

variable {config : Config}

theorem ofSession {x : StateM Session (Except RewriteError α)} {y : Program (Except RewriteError α)}
    (h : Alike x y) : Mirrors (Copying.ofSession x).run (Collecting.ofProgram y).run := ofAlike h

theorem lift {x : StateM Session α} {y : Program α} (h : Alike x y) :
    Mirrors (liftM x : Copying α).run (liftM y : Collecting α).run :=
  (ofAlike h).bind fun a => .pure (Except.ok a)

theorem noting {x : StateM Journal α} (hx : ∀ journal, (x journal).1 = unnoted x) :
    Mirrors (liftM (Session.noting x) : Copying α).run (pure (unnoted x) : Collecting α).run :=
  noting_bind (f := fun a => (pure a : Copying α).run) hx (.pure _)

theorem relocate (config : Config) (target : AssetTarget) (directory : Path) :
    Mirrors (StylesheetAssets.relocate config target directory).run
      (Parallel.relocate config target directory).run := by
  have hdeliver (hash : Option Digest.ContentHash) :
      Mirrors (deliver config target directory hash).run (do
        Collecting.request target.path (directory.join ⟨target.outputName hash⟩)
        return unnoted (referencePath (directory.join ⟨target.outputName hash⟩) config.cssOutput
          config.workDir) : Collecting String).run := by
    refine say_bind (bindExcept (request _ _) fun _ => noting fun journal => ?_)
    exact (referencePath_fst _ journal).trans (referencePath_fst _ #[]).symm
  unfold StylesheetAssets.relocate Parallel.relocate makeDirectory hashOf
  rw [LawfulMonad.bind_assoc]
  refine bindExcept (lift (.createDirectories directory)) fun created => ?_
  cases created with
  | error cause => exact .pure _
  | ok =>
    dsimp only
    split_ifs
    · rw [LawfulMonad.bind_assoc]
      exact bindExcept (ofSession (.read target)) fun bytes => hdeliver (some (.ofBytes bytes))
    · exact hdeliver none

theorem resolveReference (config : Config) (base : Path) (reference : List Char) :
    Mirrors (StylesheetAssets.resolveReference config base reference).run
      (Parallel.resolveReference config base reference).run := by
  unfold StylesheetAssets.resolveReference Parallel.resolveReference
  dsimp only
  cases config.route? (String.ofList (Url.splitSuffix reference).1) with
  | none => exact say_bind (.pure _)
  | some routed =>
    dsimp only
    refine bindExcept (ofSession (.resolve _)) fun target => ?_
    by_cases hsize : target.size ≤ config.limit
    · rw [if_pos hsize, if_pos hsize]
      exact bindExcept (ofSession (.read target)) fun bytes => say_bind (.pure _)
    · rw [if_neg hsize, if_neg hsize]
      exact say_bind (bindExcept (relocate config target routed.2) fun path => .pure _)

theorem resolveFragment (config : Config) (base : Path) (f : Url.Fragment) :
    Mirrors (StylesheetAssets.resolveFragment config base f).run
      (Parallel.resolveFragment config base f).run := by
  cases f with
  | char c => exact .pure _
  | url o =>
    unfold StylesheetAssets.resolveFragment Parallel.resolveFragment
    dsimp only
    split_ifs
    · refine bindExcept (resolveReference config base o.path) fun resolution => ?_
      cases resolution.text? <;> exact .pure _
    · exact .pure _

theorem mapM {f : α → Copying β} {g : α → Collecting β} (h : ∀ a, Mirrors (f a).run (g a).run)
    (l : List α) : Mirrors (l.mapM f).run (l.mapM g).run := by
  induction l with
  | nil => exact .pure _
  | cons a l ih =>
    rw [List.mapM_cons, List.mapM_cons]
    exact bindExcept (h a) fun b => bindExcept ih fun bs => .pure _

/-- What changes nothing on the disk keeps nobody from going on. -/
theorem quiet_bind {x : StateM Session Unit} (hdisk : ∀ s, (x s).2.disk = s.disk)
    {f : Unit → Copying α} {y : Collecting α} (h : Mirrors (f ()).run y.run) :
    Mirrors ((liftM x : Copying Unit) >>= f).run y.run := by
  intro queue session copies transfers shared hbeside
  exact h ⟨(hdisk session).trans hbeside.disk_eq, hbeside.registry_eq, hbeside.copies_eq,
    hbeside.isMade⟩

theorem rewriteValue (config : Config) (base : Path) (value : String) :
    Mirrors (StylesheetAssets.rewriteValue config base value).run
      (Parallel.rewriteValue config base value).run :=
  quiet_bind (disk_noteForeign _) <|
    bindExcept (mapM (resolveFragment config base) _) fun _ => .pure _

end Mirrors

/-- The same with the counts of a pass. -/
def Counts (x : StylesheetAssets.Rewriting α) (y : Rewriting α) : Prop :=
  ∀ stats, Mirrors (x stats) (y stats)

namespace Counts

open Stylesheet (visitAll)

protected theorem pure (a : α) : Counts (pure a) (pure a) := fun stats => .pure (a, stats)

theorem bind {x : StylesheetAssets.Rewriting α} {y : Rewriting α}
    {f : α → StylesheetAssets.Rewriting β} {g : α → Rewriting β} (h : Counts x y)
    (hf : ∀ a, Counts (f a) (g a)) : Counts (x >>= f) (y >>= g) :=
  fun stats => (h stats).bind fun r => hf r.1 r.2

/-- A step that counts nothing. -/
theorem lift {x : StateT CopyQueue (StateM Session) α} {y : StateT (List Pending) Program α}
    (h : Mirrors x y) : Counts (monadLift x) (monadLift y) :=
  fun stats => h.bind fun a => .pure (a, stats)

theorem visitValue (config : Config) (base : Path) (value : String) :
    Counts (StylesheetAssets.visitValue config base value)
      (Parallel.visitValue config base value) := by
  refine bind (lift (Mirrors.rewriteValue config base value)) fun answer => ?_
  cases answer with
  | ok r => exact fun stats => .pure _
  | error e => exact .pure _

theorem noting_bind {x : StateM Journal β} {f : β → StylesheetAssets.Rewriting α}
    {y : Rewriting α} (hx : ∀ journal, (x journal).1 = unnoted x) (h : Counts (f (unnoted x)) y) :
    Counts (liftM (Session.noting x) >>= f) y :=
  fun stats => Mirrors.noting_bind (f := fun a => f a stats) hx (h stats)

section Visiting

variable {visit : String → StylesheetAssets.Rewriting (Except RewriteError String)}
  {visit' : String → Rewriting (Except RewriteError String)}

mutual

theorem visitValues (h : ∀ value, Counts (visit value) (visit' value)) (node : Node) :
    Counts (node.visitValues visit) (node.visitValues visit') := by
  cases node with
  | declaration property value =>
    rw [Node.visitValues, Node.visitValues]
    refine (h value).bind fun answer => ?_
    cases answer <;> exact .pure _
  | rule selector nodes =>
    rw [Node.visitValues, Node.visitValues]
    exact (visitAll h nodes).bind fun _ => .pure _
  | atBlock name params nodes =>
    rw [Node.visitValues, Node.visitValues]
    exact (visitAll h nodes).bind fun _ => .pure _
  | _ =>
    simp only [Node.visitValues]
    exact .pure _

theorem visitAll (h : ∀ value, Counts (visit value) (visit' value)) (nodes : List Node) :
    Counts (Stylesheet.visitAll visit nodes) (Stylesheet.visitAll visit' nodes) := by
  cases nodes with
  | nil =>
    rw [Stylesheet.visitAll, Stylesheet.visitAll]
    exact .pure _
  | cons node rest =>
    rw [Stylesheet.visitAll, Stylesheet.visitAll]
    refine (visitValues h node).bind fun r => ?_
    obtain ⟨node, failure?⟩ := r
    cases failure? with
    | some failure => exact .pure _
    | none => exact (visitAll h rest).bind fun _ => .pure _

end

end Visiting

/-- By induction on the nodes. -/
theorem rewriteNodes (config : Config) (tracker : Import.Tracker) (index : Nat)
    (nodes : List Node) :
    Counts (StylesheetAssets.rewriteNodes config tracker index nodes)
      (Parallel.rewriteNodes config tracker index nodes) := by
  induction nodes generalizing tracker index with
  | nil => exact .pure _
  | cons node rest ih =>
    rw [StylesheetAssets.rewriteNodes, Parallel.rewriteNodes]
    refine noting_bind (fun journal => ?_) ?_
    · exact (tracker.observe_fst index node journal).trans
        (tracker.observe_fst index node #[]).symm
    · obtain ⟨step, tracker⟩ := unnoted (tracker.observe index node)
      cases step with
      | remove => exact (ih tracker (index + 1)).bind fun _ => .pure _
      | keep => exact (ih tracker (index + 1)).bind fun _ => .pure _
      | scan base =>
        refine (visitValues (visitValue config base) node).bind fun r => ?_
        obtain ⟨node, failure?⟩ := r
        cases failure? with
        | some failure => exact .pure _
        | none => exact (ih tracker (index + 1)).bind fun _ => .pure _

end Counts

/-- A sheet is rewritten by a worker as it is by a session, if nobody comes in between. -/
theorem Mirrors.rewriteSheet (config : Config) (sheet : Sheet) :
    Mirrors (StylesheetAssets.rewriteSheet config sheet) (Parallel.rewriteSheet config sheet) := by
  unfold StylesheetAssets.rewriteSheet Parallel.rewriteSheet
  cases sheet.source with
  | none => exact .pure _
  | some source =>
    dsimp only
    refine noting_bind (x := Journal.detail _ _) (fun _ => rfl) ?_
    refine (Counts.rewriteNodes config _ 0 sheet.nodes {}).bind fun r => ?_
    obtain ⟨⟨nodes, failure?⟩, stats⟩ := r
    cases failure? <;> exact .pure _

end StylesheetAssets.Parallel
