import StylesheetAssets.Proofs.Asset.Naming
import StylesheetAssets.Proofs.Rewrite.Noting
import StylesheetAssets.Proofs.Rewrite.Passage

/-!
Orders of sessions in which a pass over a sheet leads upwards, whether it succeeds or not. It is
enough that the few things do that a pass can do to a session: it notes, it makes output
directories, and it copies to names directly in them. The references do not matter, nor do the
patterns that sort them.
-/
namespace StylesheetAssets

open Stylesheet (Node Sheet visitAll)
open Url (Fragment)

variable {α β : Type} {R : Session → Session → Prop}

/-- An order of sessions in which notes lead upwards. -/
structure Session.NotingOrder (R : Session → Session → Prop) : Prop where
  refl : ∀ s, R s s
  trans : ∀ {s s' s''}, R s s' → R s' s'' → R s s''
  noted : ∀ s {e : Event}, e.written? = none → R s ⟨s.disk, s.journal.push e⟩

/-- An order of sessions in which all leads upwards that a pass does to them. -/
structure Config.PassOrder (config : Config) (R : Session → Session → Prop) : Prop
    extends Session.NotingOrder R where
  made : ∀ s {category : Category} {dir : Path}, config.outputDir? category = some dir →
    R s (Session.createDirectories dir s).2
  copied : ∀ s {category : Category} {dir source : Path} {name : String},
    config.outputDir? category = some dir → (source.fileName? ≠ none → Path.IsName name) →
    R s (Session.copyFile source (dir.join ⟨name⟩) s).2

/-- Steps that lead upwards, whatever they answer. -/
def Session.Upward (R : Session → Session → Prop) (x : StateM Session α) : Prop :=
  ∀ s, R s (x s).2

namespace Session.NotingOrder

theorem upward_record (h : NotingOrder R) {e : Event} (he : e.written? = none) :
    Upward R (record e) := fun s => h.noted s he

theorem upward_bind (h : NotingOrder R) {x : StateM Session α} {f : α → StateM Session β}
    (hx : Upward R x) (hf : ∀ a, Upward R (f a)) : Upward R (x >>= f) :=
  fun s => h.trans (hx s) (hf _ _)

theorem upward_noting (h : NotingOrder R) {x : StateM Journal α} (hx : Journal.Grows x) :
    Upward R (noting x) := by
  intro s
  obtain ⟨events, hjournal, hevents⟩ := hx s.journal
  have hafter : (noting x s).2 = ⟨s.disk, (x s.journal).2⟩ := rfl
  rw [hafter]
  generalize (x s.journal).2 = later at hjournal
  clear hafter
  -- The journal grows by one event after the other.
  induction events generalizing s with
  | nil =>
    rw [List.append_nil, Array.toList_inj] at hjournal
    exact hjournal ▸ h.refl s
  | cons e events ih =>
    obtain ⟨he, hevents⟩ := List.forall_mem_cons.1 hevents
    refine h.trans (h.noted s he) (ih ⟨s.disk, s.journal.push e⟩ hevents ?_)
    rw [hjournal, Array.toList_push, List.append_assoc, List.singleton_append]

end Session.NotingOrder

/-- The same for steps that ask for copies. -/
def Copying.Upward (R : Session → Session → Prop) (x : Copying α) : Prop :=
  ∀ w : CopyQueue × Session, R w.2 (x.exec w).2.2

namespace Copying

/-- What follows leads upwards wherever the first step answers. -/
theorem Upward.bind_of {x : Copying α} {f : α → Copying β} (hR : Session.NotingOrder R)
    (hx : x.Upward R) (hf : ∀ a w w', x.exec w = (.ok a, w') → (f a).Upward R) :
    (x >>= f).Upward R := by
  intro w
  have hfirst := hx w
  rw [exec_bind]
  cases hr : x.exec w with
  | mk r w' =>
    rw [hr] at hfirst
    cases r with
    | error e => exact hfirst
    | ok a => exact hR.trans hfirst (hf a w w' hr w')

theorem Upward.bind {x : Copying α} {f : α → Copying β} (hR : Session.NotingOrder R)
    (hx : x.Upward R) (hf : ∀ a, (f a).Upward R) : (x >>= f).Upward R :=
  hx.bind_of hR fun a _ _ _ => hf a

theorem upward_of_eq {x : Copying α} (hR : Session.NotingOrder R)
    (h : ∀ w, (x.exec w).2.2 = w.2) : x.Upward R := fun w => (h w).symm ▸ hR.refl w.2

theorem upward_pure (hR : Session.NotingOrder R) (a : α) : (pure a : Copying α).Upward R :=
  fun w => hR.refl w.2

theorem upward_liftM {x : StateM Session α} (h : Session.Upward R x) :
    (liftM x : Copying α).Upward R := fun w => h w.2

theorem upward_ofSession {x : StateM Session (Except RewriteError α)} (h : Session.Upward R x) :
    (ofSession x).Upward R := fun w => h w.2

theorem upward_mapM {f : α → Copying β} (hR : Session.NotingOrder R) (h : ∀ a, (f a).Upward R)
    (as : List α) : (as.mapM f).Upward R := by
  induction as with
  | nil => exact upward_pure hR []
  | cons a as ih =>
    rw [List.mapM_cons]
    exact (h a).bind hR fun _ => ih.bind hR fun _ => upward_pure hR _

end Copying

open Copying

namespace Session.NotingOrder

theorem upward_detail (h : NotingOrder R) (topic text : String) :
    (liftM (detail topic text) : Copying Unit).Upward R := upward_liftM (h.upward_record rfl)

theorem upward_read (h : NotingOrder R) (target : AssetTarget) :
    (ofSession target.read).Upward R := upward_ofSession fun s => h.noted s rfl

theorem upward_resolve (h : NotingOrder R) (path : Path) :
    (ofSession (AssetTarget.resolve path)).Upward R := by
  refine upward_ofSession fun s => ?_
  rw [run_resolve]
  exact h.noted s rfl

theorem upward_noteForeign (h : NotingOrder R) (fragments : List Fragment) :
    Upward R (noteForeign fragments) := by
  unfold noteForeign
  induction fragments with
  | nil => exact h.refl
  | cons f fragments ih =>
    rw [List.forM]
    refine h.upward_bind ?_ fun _ => ih
    cases f with
    | char c => exact h.refl
    | url o =>
      dsimp only
      split_ifs
      · exact h.upward_record rfl
      · exact h.refl

/-- Claiming a destination warns of a conflict, or does nothing to the session. -/
theorem upward_claim (h : NotingOrder R) (source destination : Path) :
    (CopyQueue.claim source destination).Upward R := by
  unfold CopyQueue.claim
  refine .bind h (upward_of_eq h fun _ => rfl) fun queue => ?_
  rcases queue.registry.claim source destination with ⟨previous, registry⟩
  refine .bind h (upward_of_eq h fun _ => rfl) fun _ => ?_
  cases previous with
  | some previous => exact upward_liftM (h.upward_record rfl)
  | none => exact upward_pure h ()

/-- A request is a copy, or it is none. -/
theorem upward_request (h : NotingOrder R) {source destination : Path}
    (hcopy : Upward R (copyFile source destination)) :
    (CopyQueue.request source destination).Upward R := by
  have hstart : (CopyQueue.start source destination).Upward R := by
    unfold CopyQueue.start
    exact .bind h (upward_liftM hcopy) fun _ => upward_of_eq h fun _ => rfl
  have hsettle (copy : Copy) (place : Nat) : (CopyQueue.settle copy place).Upward R := by
    unfold CopyQueue.settle
    refine .bind h (upward_of_eq h fun _ => rfl) fun _ => upward_of_eq h fun _ => ?_
    cases copy.finish <;> rfl
  have hclaim := h.upward_claim source destination
  unfold CopyQueue.request
  refine .bind h (upward_of_eq h fun _ => rfl) fun queue => ?_
  cases queue.find? destination with
  | none => exact hclaim.bind h fun _ => hstart
  | some found =>
    dsimp only
    split
    · exact hclaim.bind h fun _ => (hsettle found.1 found.2).bind h fun _ => hstart
    · exact upward_pure h ()

end Session.NotingOrder

/-! ### Values -/

namespace Config.PassOrder

variable {config : Config}

/-- Delivering puts one name into the directory. -/
theorem upward_deliver (h : config.PassOrder R) {category : Category} {directory : Path}
    (hdirectory : config.outputDir? category = some directory) {target : AssetTarget}
    (hextension : target.extension = target.path.extension?.getD "")
    (hash : Option Digest.ContentHash) : (deliver config target directory hash).Upward R := by
  have hR := h.toNotingOrder
  have hcopy : Session.Upward R
      (Session.copyFile target.path (directory.join ⟨target.outputName hash⟩)) :=
    fun s => h.copied s hdirectory fun hname =>
      AssetTarget.isName_outputName_of_fileName? hextension hname hash
  unfold deliver
  refine (hR.upward_detail _ _).bind hR fun _ => ?_
  refine (hR.upward_request hcopy).bind hR fun _ => ?_
  exact upward_liftM (hR.upward_noting (grows_referencePath _ _ _))

/-- Relocating makes the directory and puts one name into it. -/
theorem upward_relocate (h : config.PassOrder R) {category : Category} {directory : Path}
    (hdirectory : config.outputDir? category = some directory) {target : AssetTarget}
    (hextension : target.extension = target.path.extension?.getD "") :
    (relocate config target directory).Upward R := by
  have hR := h.toNotingOrder
  have hdeliver := h.upward_deliver hdirectory hextension
  unfold relocate
  refine Upward.bind hR (x := liftM (Session.createDirectories directory))
    (upward_liftM fun s => h.made s hdirectory) fun created => ?_
  cases created with
  | error cause => exact upward_of_eq hR fun _ => rfl
  | ok =>
    dsimp only
    split
    · exact (hR.upward_read target).bind hR fun bytes => hdeliver (some (.ofBytes bytes))
    · exact hdeliver none

theorem upward_resolveReference (h : config.PassOrder R) (base : Path) (reference : List Char) :
    (resolveReference config base reference).Upward R := by
  have hR := h.toNotingOrder
  unfold resolveReference
  dsimp only
  cases hroute : config.route? (String.ofList (Url.splitSuffix reference).1) with
  | none => exact (hR.upward_detail _ _).bind hR fun _ => upward_pure hR _
  | some routed =>
    obtain ⟨category, directory⟩ := routed
    have hdirectory := Config.outputDir?_of_route? hroute
    dsimp only
    refine (hR.upward_resolve _).bind_of hR fun target w w' hresolve => ?_
    obtain ⟨-, -, htarget⟩ := exec_resolve hresolve
    have hextension : target.extension = target.path.extension?.getD "" := by
      rw [htarget.path_eq, htarget.extension_eq]
    split
    · refine (hR.upward_read target).bind hR fun _ => ?_
      exact (hR.upward_detail _ _).bind hR fun _ => upward_pure hR _
    · refine (hR.upward_detail _ _).bind hR fun _ => ?_
      exact (h.upward_relocate hdirectory hextension).bind hR fun _ => upward_pure hR _

theorem upward_resolveFragment (h : config.PassOrder R) (base : Path) (f : Fragment) :
    (resolveFragment config base f).Upward R := by
  have hR := h.toNotingOrder
  cases f with
  | char c => exact upward_pure hR _
  | url o =>
    unfold resolveFragment
    dsimp only
    split
    · refine (h.upward_resolveReference base o.path).bind hR fun resolution => ?_
      cases resolution.text? with
      | none => exact upward_pure hR _
      | some text => exact upward_pure hR _
    · exact upward_pure hR _

theorem upward_rewriteValue (h : config.PassOrder R) (base : Path) (value : String) :
    (rewriteValue config base value).Upward R := by
  have hR := h.toNotingOrder
  unfold rewriteValue
  refine (upward_liftM (hR.upward_noteForeign _)).bind hR fun _ => ?_
  refine (upward_mapM hR (h.upward_resolveFragment base) _).bind hR fun _ => ?_
  exact upward_pure hR _

end Config.PassOrder

/-! ### Sheets -/

/-- The same for a pass over the values of a sheet. -/
def Rewriting.Upward (R : Session → Session → Prop) (x : Rewriting α) : Prop :=
  ∀ w : RewriteStats × CopyQueue × Session, R w.2.2 (x.exec w).2.2.2

namespace Rewriting

theorem upward_pure (hR : Session.NotingOrder R) (a : α) : (pure a : Rewriting α).Upward R :=
  fun w => hR.refl w.2.2

theorem Upward.bind {x : Rewriting α} {f : α → Rewriting β} (hR : Session.NotingOrder R)
    (hx : x.Upward R) (hf : ∀ a, (f a).Upward R) : (x >>= f).Upward R := by
  intro w
  rw [exec_bind]
  exact hR.trans (hx w) (hf _ _)

end Rewriting

namespace Config.PassOrder

variable {config : Config}

theorem upward_visitValue (h : config.PassOrder R) (base : Path) (value : String) :
    (visitValue config base value).Upward R := by
  have hR := h.toNotingOrder
  unfold visitValue
  refine Rewriting.Upward.bind hR (fun w => h.upward_rewriteValue base value w.2) fun r => ?_
  cases r with
  | ok answer => exact fun w => hR.refl w.2.2
  | error e => exact Rewriting.upward_pure hR _

mutual

theorem upward_visitValues (h : config.PassOrder R) (base : Path) (node : Node) :
    (node.visitValues (visitValue config base)).Upward R := by
  have hR := h.toNotingOrder
  cases node with
  | declaration property value =>
    rw [Node.visitValues]
    refine (h.upward_visitValue base value).bind hR fun r => ?_
    cases r <;> exact Rewriting.upward_pure hR _
  | rule selector nodes =>
    rw [Node.visitValues]
    exact (upward_visitAll h base nodes).bind hR fun _ => Rewriting.upward_pure hR _
  | atBlock name params nodes =>
    rw [Node.visitValues]
    exact (upward_visitAll h base nodes).bind hR fun _ => Rewriting.upward_pure hR _
  | atStatement name params => exact Rewriting.upward_pure hR _
  | comment text => exact Rewriting.upward_pure hR _

theorem upward_visitAll (h : config.PassOrder R) (base : Path) (nodes : List Node) :
    (visitAll (visitValue config base) nodes).Upward R := by
  have hR := h.toNotingOrder
  cases nodes with
  | nil => exact Rewriting.upward_pure hR _
  | cons node rest =>
    rw [visitAll]
    refine (upward_visitValues h base node).bind hR fun r => ?_
    obtain ⟨node', - | failure⟩ := r
    · exact (upward_visitAll h base rest).bind hR fun _ => Rewriting.upward_pure hR _
    · exact Rewriting.upward_pure hR _

end

theorem upward_rewriteNodes (h : config.PassOrder R) (t : Import.Tracker) (index : Nat)
    (nodes : List Node) : (rewriteNodes config t index nodes).Upward R := by
  have hR := h.toNotingOrder
  induction nodes generalizing t index with
  | nil => exact Rewriting.upward_pure hR _
  | cons node rest ih =>
    rw [rewriteNodes]
    refine Rewriting.Upward.bind hR
      (fun w => hR.upward_noting (t.grows_observe index node) w.2.2) fun observed => ?_
    obtain ⟨step, tracker⟩ := observed
    cases step with
    | remove => exact (ih tracker (index + 1)).bind hR fun _ => Rewriting.upward_pure hR _
    | keep => exact (ih tracker (index + 1)).bind hR fun _ => Rewriting.upward_pure hR _
    | scan base =>
      refine (h.upward_visitValues base node).bind hR fun r => ?_
      obtain ⟨node', - | failure⟩ := r
      · exact (ih tracker (index + 1)).bind hR fun _ => Rewriting.upward_pure hR _
      · exact Rewriting.upward_pure hR _

/-- A pass over a sheet leads upwards. -/
theorem upward_rewriteSheet (h : config.PassOrder R) (sheet : Sheet) (queue : CopyQueue)
    (session : Session) : R session (rewriteSheet config sheet queue session).2 := by
  cases hsource : sheet.source with
  | none =>
    unfold rewriteSheet
    rw [hsource]
    exact h.refl session
  | some source =>
    obtain ⟨_, ⟨line, rfl⟩, hrun⟩ := rewriteSheet_run config sheet hsource queue session
    rw [hrun]
    exact h.trans (h.noted session rfl) (h.upward_rewriteNodes _ 0 sheet.nodes ({}, queue, _))

end Config.PassOrder

end StylesheetAssets
