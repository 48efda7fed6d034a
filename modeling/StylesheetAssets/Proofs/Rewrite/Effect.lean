import Mathlib.Data.Prod.Basic
import StylesheetAssets.Proofs.Import.Tracking
import StylesheetAssets.Proofs.Rewrite.Walk

/-!
What a pass over a sheet changes, and what the sheet looks like when the pass fails.
-/
namespace StylesheetAssets

open Stylesheet (Node Sheet)
open Import (Step Tracker isMarker)

namespace Import

/-- The values that are resolved at a top node, each with its directory. -/
def Step.scanned : Step → Node → List (Path × String)
  | .scan base, node => node.values.map (base, ·)
  | _, _ => []

/-- The values that are resolved among top nodes, each with its directory, in the order of the
document. -/
def Tracker.scanned (t : Tracker) (index : Nat) : List Node → List (Path × String)
  | [] => []
  | node :: rest =>
    (t.advance index node).1.scanned node ++ (t.advance index node).2.scanned (index + 1) rest

/-- What stands between braces is scanned, and nothing else. -/
theorem Tracker.map_snd_scanned (t : Tracker) (index : Nat) (nodes : List Node) :
    (t.scanned index nodes).map (·.2) = nodes.flatMap Node.inner := by
  induction nodes generalizing t index with
  | nil => rfl
  | cons node rest ih =>
    rw [scanned, List.map_append, ih, List.flatMap_cons]
    congr 1
    rcases t.advance_cases index node with ⟨-, h, hc⟩ | ⟨-, h, hc⟩ | ⟨-, h, hrule⟩
    · rw [h, Node.inner, hc]
      rfl
    · rw [h, Node.inner, hc]
      rfl
    · rw [h, ← Node.values_of_isRule hrule]
      simp [Step.scanned, Function.comp_def]

end Import

/-- A pass over top nodes, from the state of a tracker and from counts to what it answers. A pass
that passes over all nodes flags the markers and fails only at an import that is still open. -/
structure Swept (config : Config) (t : Tracker) (index : Nat) (nodes : List Node)
    (before : RewriteStats) (flagged : Flagged) (failure : Option RewriteError)
    (after : RewriteStats) : Prop where
  frames : flagged.map (·.1.frame) = nodes.map Node.frame
  outcome :
    (Pass config before (t.scanned index nodes) (flagged.flatMap (·.1.inner)) none after ∧
        flagged.map (·.2) = nodes.map isMarker ∧
        failure = (t.track index nodes).2.unterminated?.map .unterminated) ∨
      ∃ e, failure = some e ∧
        Pass config before (t.scanned index nodes) (flagged.flatMap (·.1.inner)) failure after

namespace Swept

variable {config : Config} {t : Tracker} {index : Nat} {node node' : Node} {rest : List Node}
  {s s' s'' : RewriteStats} {flagged : Flagged} {failure : Option RewriteError}

/-- A node that the pass came by is put in front of those behind it. -/
theorem cons (hframe : node'.frame = node.frame)
    (hnode : Pass config s ((t.advance index node).1.scanned node) node'.inner none s')
    (h : Swept config (t.advance index node).2 (index + 1) rest s' flagged failure s'') :
    Swept config t index (node :: rest) s ((node', isMarker node) :: flagged) failure s'' := by
  refine ⟨congrArg₂ List.cons hframe h.frames, ?_⟩
  rcases h.outcome with ⟨hpass, hflags, hend⟩ | ⟨e, rfl, hpass⟩
  · exact .inl ⟨hnode.append hpass, congrArg (isMarker node :: ·) hflags, hend⟩
  · exact .inr ⟨e, rfl, hnode.append hpass⟩

/-- Nothing happens to a node that is not scanned. -/
theorem cons_unscanned (hnode : (t.advance index node).1.scanned node = [])
    (hchildren : node.children? = none)
    (h : Swept config (t.advance index node).2 (index + 1) rest s flagged failure s') :
    Swept config t index (node :: rest) s ((node, isMarker node) :: flagged) failure s' := by
  refine h.cons rfl ?_
  rw [hnode, Node.inner, hchildren]
  exact .nil config s

theorem cons_stopped {e : RewriteError} (hframe : node'.frame = node.frame)
    (hnode : Pass config s ((t.advance index node).1.scanned node) node'.inner (some e) s') :
    Swept config t index (node :: rest) s ((node', false) :: rest.map (·, false)) (some e) s' := by
  refine ⟨?_, .inr ⟨e, rfl, ?_⟩⟩
  · simpa using hframe
  · have hstopped := hnode.append_stopped ((t.advance index node).2.scanned (index + 1) rest)
    rw [Tracker.map_snd_scanned] at hstopped
    simpa [Tracker.scanned, List.flatMap_map] using hstopped

end Swept

/-- Observing a node notes something, and leaves the counts, the queue and the disk as they are. -/
theorem exec_observe (t : Tracker) (index : Nat) (node : Node)
    (w : RewriteStats × CopyQueue × Session) :
    ∃ later, (liftM (Session.noting (t.observe index node)) : Rewriting (Step × Tracker)).exec w =
        (t.advance index node, w.1, later) ∧ later.1 = w.2.1 ∧ later.2.disk = w.2.2.disk := by
  rw [← t.observe_fst index node w.2.2.journal]
  exact ⟨_, rfl, rfl, rfl⟩

theorem rewriteNodes_exec (config : Config) (t : Tracker) (index : Nat) (nodes : List Node)
    (w : RewriteStats × CopyQueue × Session) :
    Swept config t index nodes w.1 ((rewriteNodes config t index nodes).exec w).1.1
      ((rewriteNodes config t index nodes).exec w).1.2
      ((rewriteNodes config t index nodes).exec w).2.1 := by
  induction nodes generalizing t index w with
  | nil => exact ⟨rfl, .inl ⟨.nil config w.1, rfl, rfl⟩⟩
  | cons node rest ih =>
    obtain ⟨later, hobserve, -⟩ := exec_observe t index node w
    have hrest := ih (t.advance index node).2 (index + 1)
    simp only [rewriteNodes, Rewriting.exec_bind, hobserve]
    rcases t.advance_cases index node with ⟨hmarker, h, hc⟩ | ⟨hmarker, h, hc⟩ | ⟨hmarker, h, hrule⟩
    · simp only [h, Rewriting.exec_bind, Rewriting.exec_pure, ← hmarker]
      exact (hrest (w.1, later)).cons_unscanned (by rw [h]; rfl) hc
    · simp only [h, Rewriting.exec_bind, Rewriting.exec_pure, ← hmarker]
      exact (hrest (w.1, later)).cons_unscanned (by rw [h]; rfl) hc
    · obtain ⟨houtline, hpass⟩ := visitValues_exec config t.baseDir node (w.1, later)
      have hframe := Node.frame_eq_of_outline_eq hrule houtline
      have hrule' := (Node.isRule_outline _).symm.trans
        ((congrArg Node.isRule houtline).trans ((Node.isRule_outline node).trans hrule))
      rw [Node.values_of_isRule hrule'] at hpass
      simp only [h, Rewriting.exec_bind]
      generalize (node.visitValues (visitValue config t.baseDir)).exec (w.1, later) = r
        at hpass hframe ⊢
      rcases r with ⟨⟨node', _ | e⟩, w'⟩
      · simp only [Rewriting.exec_bind, Rewriting.exec_pure, ← hmarker]
        exact (hrest w').cons hframe (by rwa [h])
      · exact Swept.cons_stopped hframe (by rwa [h])

/-- Without its flagged nodes, a list has lost exactly the markers. -/
theorem dropMarkers_frames {nodes : List Node} {flagged : Flagged}
    (hframes : flagged.map (·.1.frame) = nodes.map Node.frame)
    (hflags : flagged.map (·.2) = nodes.map isMarker) :
    (dropMarkers flagged).map Node.frame = (nodes.filter (!isMarker ·)).map Node.frame ∧
      (dropMarkers flagged).flatMap Node.inner = flagged.flatMap (·.1.inner) := by
  induction nodes generalizing flagged with
  | nil =>
    obtain rfl := List.map_eq_nil_iff.1 hflags
    exact ⟨rfl, rfl⟩
  | cons node rest ih =>
    cases flagged with
    | nil => cases hflags
    | cons p flagged =>
      simp only [List.map_cons, List.cons.injEq] at hframes hflags
      obtain ⟨hrest, hinner⟩ := ih hframes.2 hflags.2
      unfold dropMarkers at hrest hinner ⊢
      cases hmarker : isMarker node with
      | true =>
        have hp : p.1.inner = [] :=
          Node.inner_of_frame_eq hframes.1 (Import.children?_of_isMarker hmarker)
        simp [hflags.1, hmarker, hrest, hinner, hp]
      | false => simp [hflags.1, hmarker, hrest, hinner, hframes.1]

/-- The values of a sheet that are resolved, each with its directory. -/
def scannedValues (config : Config) (sheet : Sheet) : List (Path × String) :=
  match sheet.source with
  | some source => Tracker.scanned ⟨source.directory.absolutize config.workDir, []⟩ 0 sheet.nodes
  | none => []

theorem scannedValues_of_source {config : Config} {sheet : Sheet} {source : Path}
    (h : sheet.source = some source) :
    scannedValues config sheet =
      Tracker.scanned ⟨source.directory.absolutize config.workDir, []⟩ 0 sheet.nodes := by
  rw [scannedValues, h]

/-- A pass over a sheet with a source runs over its top nodes, and answers by their outcome. -/
theorem rewriteSheet_run (config : Config) (sheet : Sheet) {source : Path}
    (hsource : sheet.source = some source) (queue : CopyQueue) (session : Session) :
    ∃ later, (∃ line, later = (Session.detail "rewrite" line session).2) ∧
      rewriteSheet config sheet queue session =
        let r := (rewriteNodes config ⟨source.directory.absolutize config.workDir, []⟩ 0
          sheet.nodes).exec ({}, queue, later)
        ((match r.1.2 with
          | some e => ({ sheet with nodes := r.1.1.map (·.1) }, .error e)
          | none => ({ sheet with nodes := dropMarkers r.1.1 }, .ok r.2.1), r.2.2.1), r.2.2.2) := by
  let rootDir := source.directory.absolutize config.workDir
  let later := (Session.detail "rewrite" s!"{source.text} (base {rootDir.text})" session).2
  refine ⟨later, ⟨_, rfl⟩, ?_⟩
  have hrun : rewriteSheet config sheet queue session =
      let r := (rewriteNodes config ⟨rootDir, []⟩ 0 sheet.nodes).exec ({}, queue, later)
      ((match r.1.2 with
        | some e => pure ({ sheet with nodes := r.1.1.map (·.1) }, .error e)
        | none => pure ({ sheet with nodes := dropMarkers r.1.1 }, .ok r.2.1)) :
        StateT CopyQueue (StateM Session) (Sheet × Except RewriteError RewriteStats))
        r.2.2.1 r.2.2.2 := by
    unfold rewriteSheet
    rw [hsource]
    rfl
  rw [hrun]
  dsimp only
  cases ((rewriteNodes config ⟨rootDir, []⟩ 0 sheet.nodes).exec ({}, queue, later)).1.2 <;> rfl

/-- A pass over a sheet with a source is a pass over its top nodes. -/
theorem rewriteSheet_eq (config : Config) (sheet : Sheet) {source : Path}
    (hsource : sheet.source = some source) (queue : CopyQueue) (session : Session) :
    ∃ flagged failure stats,
      Swept config ⟨source.directory.absolutize config.workDir, []⟩ 0 sheet.nodes {} flagged
        failure stats ∧
      (rewriteSheet config sheet queue session).1.1 =
        match failure with
        | some e => ({ sheet with nodes := flagged.map (·.1) }, .error e)
        | none => ({ sheet with nodes := dropMarkers flagged }, .ok stats) := by
  obtain ⟨later, -, hrun⟩ := rewriteSheet_run config sheet hsource queue session
  rw [hrun]
  exact ⟨_, _, _, rewriteNodes_exec config _ 0 sheet.nodes ({}, queue, later), rfl⟩

/-- A pass that succeeds takes out the markers among the top nodes and rewrites every value between
braces, each against the directory of its file. It changes nothing else, and it counts every
reference of these values once. -/
theorem rewriteSheet_ok {config : Config} {sheet sheet' : Sheet} {stats : RewriteStats}
    {queue : CopyQueue} {session : Session}
    (h : (rewriteSheet config sheet queue session).1.1 = (sheet', .ok stats)) :
    sheet'.source = sheet.source ∧
      sheet'.nodes.map Node.frame = (sheet.nodes.filter (!isMarker ·)).map Node.frame ∧
      List.Forall₂ (fun old new => FullyRewritten config old.1 old.2 new)
        (scannedValues config sheet) (sheet'.nodes.flatMap Node.inner) ∧
      stats.total = countReferences ((scannedValues config sheet).map (·.2)) := by
  cases hsource : sheet.source with
  | none =>
    unfold rewriteSheet at h
    rw [hsource] at h
    cases h
  | some source =>
    obtain ⟨flagged, failure, stats', hswept, hrun⟩ :=
      rewriteSheet_eq config sheet hsource queue session
    rw [h] at hrun
    cases failure with
    | some e => cases hrun
    | none =>
      obtain ⟨rfl, rfl⟩ :
          sheet' = { sheet with nodes := dropMarkers flagged } ∧ stats = stats' := by
        simpa using hrun
      rcases hswept.outcome with ⟨hpass, hflags, -⟩ | ⟨e, he, -⟩
      · obtain ⟨hframes, hinner⟩ := dropMarkers_frames hswept.frames hflags
        refine ⟨hsource, hframes, ?_⟩
        rw [scannedValues_of_source hsource, hinner]
        exact ⟨hpass.walked.forall₂, (hpass.total_eq rfl).trans (Nat.zero_add _)⟩
      · cases he

/-- Every path is taken for an image. -/
def imagesOnly : Config :=
  { imageOutput := some ⟨"/site/images"⟩, imagePattern := ⟨"", .empty⟩,
    fontPattern := ⟨"", .empty⟩, workDir := ⟨"/"⟩ }

/-- A sheet with an imported rule and two rules of its own. -/
def importingSheet : Sheet where
  nodes := [
    Import.startNode "lib/a.css",
    .rule ".a" [.declaration "background" "url(x.png) url( data:y )"],
    Import.endNode,
    .atBlock "media" "print" [.rule ".b" [.declaration "background" "url(lib/x.png) url(z.png)"]],
    .rule ".c" [.declaration "color" "red"],
    .declaration "--x" "url(x.png)"]
  source := some ⟨"/site/main.css"⟩

/-- A disk on which only the image of the imported rule lies. -/
def oneImage : Disk where
  entries := [(["site", "lib", "x.png"], .file ⟨#[1]⟩), (["site", "lib"], .directory),
    (["site"], .directory)]

theorem rewriteSheet_ok_importingSheet :
    ∃ sheet',
      (rewriteSheet imagesOnly importingSheet {}
        ⟨oneImage.put ["site", "z.png"] (.file ⟨#[2]⟩), #[]⟩).1.1 = (sheet', .ok ⟨3, 0, 0⟩) ∧
      sheet'.nodes.map Node.frame =
        (importingSheet.nodes.filter (!isMarker ·)).map Node.frame ∧
      List.Forall₂ (fun old new => FullyRewritten imagesOnly old.1 old.2 new)
        (scannedValues imagesOnly importingSheet) (sheet'.nodes.flatMap Node.inner) := by
  have hrun : (rewriteSheet imagesOnly importingSheet {}
      ⟨oneImage.put ["site", "z.png"] (.file ⟨#[2]⟩), #[]⟩).1.1.2 = .ok ⟨3, 0, 0⟩ := by
    decide +kernel
  obtain ⟨-, hframes, hvalues, -⟩ := rewriteSheet_ok (Prod.snd_eq_iff.1 hrun)
  exact ⟨_, Prod.snd_eq_iff.1 hrun, hframes, hvalues⟩

end StylesheetAssets
