import StylesheetAssets.Proofs.Rewrite.Effect
import StylesheetAssets.Proofs.Rewrite.Orders

/-!
A pass over a sheet as a whole: its orders, one value after the other, and the answers that stand in
the sheet afterwards.
-/
namespace StylesheetAssets

open Stylesheet (Node Sheet visitAll valuesOfAll)
open Import (Tracker)

/-- The files that values refer to, each value with its directory. -/
def Config.assets (config : Config) (values : List (Path × String)) : List Path :=
  values.flatMap fun value => config.valueAssets value.1 value.2

/-- A stretch of a pass that answers values: the orders behind the answers are made on the way, each
for a file that one of the values refers to. -/
def Passage (config : Config) (olds : List (Path × String)) (news : List String)
    (w w' : CopyQueue × Session) : Prop :=
  ∃ orders, Course config w orders w' ∧
    List.Forall₂ (fun old new => ValueAnswered (OrderedAnswer config old.1 orders) old.2 new)
      olds news ∧
    ∀ o ∈ orders, o.target.path ∈ config.assets olds

variable {config : Config} {olds olds' : List (Path × String)} {news news' : List String}

namespace Passage

variable {w w' w'' : CopyQueue × Session}

theorem quiet (h : Course config w [] w') : Passage config [] [] w w' := ⟨[], h, .nil, by simp⟩

theorem refl (w : CopyQueue × Session) : Passage config [] [] w w := .quiet (.refl w)

theorem append (h : Passage config olds news w w') (h' : Passage config olds' news' w' w'') :
    Passage config (olds ++ olds') (news ++ news') w w'' := by
  obtain ⟨orders, hcourse, hanswered, hassets⟩ := h
  obtain ⟨orders', hcourse', hanswered', hassets'⟩ := h'
  refine ⟨orders ++ orders', hcourse.append hcourse', List.rel_append ?_ ?_, fun o ho => ?_⟩
  · exact hanswered.imp fun _ _ h => h.mono fun _ _ => .mono (List.subset_append_left _ _)
  · exact hanswered'.imp fun _ _ h => h.mono fun _ _ => .mono (List.subset_append_right _ _)
  · rw [Config.assets, List.flatMap_append]
    rcases List.mem_append.1 ho with ho | ho
    · exact List.mem_append_left _ (hassets o ho)
    · exact List.mem_append_right _ (hassets' o ho)

theorem before (h : Course config w [] w') (h' : Passage config olds news w' w'') :
    Passage config olds news w w'' := append (.quiet h) h'

theorem advances (h : Passage config olds news w w') : Advances w w' := by
  obtain ⟨orders, hcourse, -⟩ := h
  exact hcourse.advances

end Passage

theorem passage_visitValue {base : Path} {value new : String}
    {w w' : RewriteStats × CopyQueue × Session}
    (h : (visitValue config base value).exec w = (.ok new, w')) :
    Passage config [(base, value)] [new] w.2 w'.2 := by
  unfold visitValue at h
  rw [Rewriting.exec_bind, Rewriting.exec_liftM] at h
  cases hr : (rewriteValue config base value).exec w.2 with
  | mk r later =>
    rw [hr] at h
    cases r with
    | ok answer =>
      cases h
      obtain ⟨orders, hcourse, hanswered, hassets⟩ := course_rewriteValue hr
      exact ⟨orders, hcourse, .cons hanswered .nil, by simpa [Config.assets] using hassets⟩
    | error e => cases h

mutual

theorem passage_visitValues (config : Config) (base : Path) (node : Node)
    (w : RewriteStats × CopyQueue × Session)
    (h : ((node.visitValues (visitValue config base)).exec w).1.2 = none) :
    Passage config (node.values.map (base, ·))
      ((node.visitValues (visitValue config base)).exec w).1.1.values w.2
      ((node.visitValues (visitValue config base)).exec w).2.2 := by
  cases node with
  | declaration property value =>
    simp only [Node.visitValues, Rewriting.exec_bind] at h ⊢
    cases hvisit : (visitValue config base value).exec w with
    | mk r w' =>
      rw [hvisit] at h
      cases r with
      | ok new => exact passage_visitValue hvisit
      | error e => cases h
  | rule selector nodes =>
    simp only [Node.visitValues, Rewriting.exec_bind] at h ⊢
    exact passage_visitAll config base nodes w h
  | atBlock name params nodes =>
    simp only [Node.visitValues, Rewriting.exec_bind] at h ⊢
    exact passage_visitAll config base nodes w h
  | atStatement name params => exact .refl w.2
  | comment text => exact .refl w.2

theorem passage_visitAll (config : Config) (base : Path) (nodes : List Node)
    (w : RewriteStats × CopyQueue × Session)
    (h : ((visitAll (visitValue config base) nodes).exec w).1.2 = none) :
    Passage config ((valuesOfAll nodes).map (base, ·))
      (valuesOfAll ((visitAll (visitValue config base) nodes).exec w).1.1) w.2
      ((visitAll (visitValue config base) nodes).exec w).2.2 := by
  cases nodes with
  | nil => exact .refl w.2
  | cons node rest =>
    have hnode := passage_visitValues config base node w
    simp only [visitAll, Rewriting.exec_bind] at h ⊢
    generalize (node.visitValues (visitValue config base)).exec w = r at h hnode ⊢
    rcases r with ⟨⟨node', _ | e⟩, w'⟩
    · rw [valuesOfAll, List.map_append]
      exact (hnode rfl).append (passage_visitAll config base rest w' h)
    · cases h

end

theorem passage_rewriteNodes (config : Config) (t : Tracker) (index : Nat) (nodes : List Node)
    (w : RewriteStats × CopyQueue × Session)
    (h : ((rewriteNodes config t index nodes).exec w).1.2 = none) :
    Passage config (t.scanned index nodes)
      (((rewriteNodes config t index nodes).exec w).1.1.flatMap (·.1.inner)) w.2
      ((rewriteNodes config t index nodes).exec w).2.2 := by
  induction nodes generalizing t index w with
  | nil => exact .refl w.2
  | cons node rest ih =>
    obtain ⟨later, hobserve, hqueue, hdisk⟩ := exec_observe t index node w
    have hnoted : Course config w.2 [] later := .of_eq hqueue hdisk
    have hrest := ih (t.advance index node).2 (index + 1)
    have hinner (hc : node.children? = none) : node.inner = [] := by
      rw [Node.inner, hc]
      rfl
    simp only [rewriteNodes, Rewriting.exec_bind, hobserve] at h ⊢
    rw [Tracker.scanned]
    rcases t.advance_cases index node with ⟨-, hstep, hc⟩ | ⟨-, hstep, hc⟩ | ⟨-, hstep, hrule⟩
    · simp only [hstep, Rewriting.exec_bind, Rewriting.exec_pure] at h hrest ⊢
      simpa [hinner hc, Import.Step.scanned] using (hrest (w.1, later) h).before hnoted
    · simp only [hstep, Rewriting.exec_bind, Rewriting.exec_pure] at h hrest ⊢
      simpa [hinner hc, Import.Step.scanned] using (hrest (w.1, later) h).before hnoted
    · have hnode := passage_visitValues config t.baseDir node (w.1, later)
      have houtline := (visitValues_exec config t.baseDir node (w.1, later)).1
      have hrule' := (Node.isRule_outline _).symm.trans
        ((congrArg Node.isRule houtline).trans ((Node.isRule_outline node).trans hrule))
      rw [Node.values_of_isRule hrule'] at hnode
      simp only [hstep, Rewriting.exec_bind] at h hrest ⊢
      generalize (node.visitValues (visitValue config t.baseDir)).exec (w.1, later) = r
        at h hnode ⊢
      rcases r with ⟨⟨node', _ | e⟩, w'⟩
      · exact ((hnode rfl).append (hrest w' h)).before hnoted
      · cases h

/-- A pass that succeeds passes over all values between braces. -/
theorem passage_rewriteSheet {sheet sheet' : Sheet} {stats : RewriteStats}
    {queue queue' : CopyQueue} {session session' : Session}
    (h : rewriteSheet config sheet queue session = (((sheet', .ok stats), queue'), session')) :
    Passage config (scannedValues config sheet) (sheet'.nodes.flatMap Node.inner)
      (queue, session) (queue', session') := by
  cases hsource : sheet.source with
  | none =>
    unfold rewriteSheet at h
    rw [hsource] at h
    cases h
  | some source =>
    obtain ⟨later, ⟨line, hlater⟩, hrun⟩ := rewriteSheet_run config sheet hsource queue session
    have hdisk : later.disk = session.disk := by
      rw [hlater]
      rfl
    let t : Tracker := ⟨source.directory.absolutize config.workDir, []⟩
    have hswept := rewriteNodes_exec config t 0 sheet.nodes ({}, queue, later)
    have hpassage := passage_rewriteNodes config t 0 sheet.nodes ({}, queue, later)
    rw [hrun] at h
    rw [scannedValues_of_source hsource]
    dsimp only at h
    generalize (rewriteNodes config t 0 sheet.nodes).exec ({}, queue, later) = r
      at h hswept hpassage
    rcases r with ⟨⟨flagged, _ | e⟩, w'⟩
    · cases h
      rcases hswept.outcome with ⟨-, hflags, -⟩ | ⟨_, he, -⟩
      · have hstart : Course config (queue, session) [] (queue, later) := .of_eq rfl hdisk
        rw [(dropMarkers_frames hswept.frames hflags).2]
        exact (hpassage rfl).before hstart
      · cases he
    · cases h

end StylesheetAssets
