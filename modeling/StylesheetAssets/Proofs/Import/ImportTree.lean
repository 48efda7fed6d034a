import Mathlib.Data.List.Forall2
import StylesheetAssets.Import.Flatten
import StylesheetAssets.Proofs.Import.Tracking
import StylesheetAssets.Proofs.Path.Directory

/-!
Trees of imported files, flattened into one list of top nodes. Flattening finds each file by its
own way through normalized paths; the tracker reads the same directories off the markers.
-/
namespace StylesheetAssets.Import

open Stylesheet (Node)

/-- A file: its top nodes in order, and between them the imported files. -/
inductive ImportTree where
  | done
  | node (node : Node) (rest : ImportTree)
  | imported (path : String) (file rest : ImportTree)

/-- Where a node of a flattened stylesheet comes from. -/
inductive Origin where
  | marker
  /-- From the entry file. -/
  | entry
  /-- From an imported file, by the path that it is read from. -/
  | file (target : Path)

namespace ImportTree

/-- The top nodes with every import in its place, each with its origin. The nodes of the file
itself, which is `importer`, are of the given origin. -/
def flattened (origin : Origin) (importer : Path) : ImportTree → List (Node × Origin)
  | done => []
  | node n rest => (n, origin) :: rest.flattened origin importer
  | imported path file rest =>
    let target := targetOf importer path.toList
    (startNode path, .marker) :: file.flattened (.file target) target ++
      (endNode, .marker) :: rest.flattened origin importer

/-- No node is a marker, and every import has a trimmed path with a file name. -/
def WellFormed : ImportTree → Prop
  | done => True
  | node n rest => isMarker n = false ∧ rest.WellFormed
  | imported path file rest =>
    Text.trim path.toList = path.toList ∧ (Path.fileName? ⟨path⟩).isSome ∧
      file.WellFormed ∧ rest.WellFormed

end ImportTree

/-- What the tracker has to answer at a node: markers go; what can hold references is scanned
against the directory of the file that it was written in; all else is kept. -/
def Origin.Answers (entryDir : Path) (node : Node) : Origin → Step → Prop
  | .marker, step => step = .remove
  | .entry, step =>
    if node.isRule then ∃ base, step = .scan base ∧ base.normalize = entryDir.normalize
    else step = .keep
  | .file target, step =>
    if node.children?.isSome then ∃ base, step = .scan base ∧ base.normalize = target.directory
    else step = .keep

/-- A tracker among the nodes of `importer`: its base leads to the directory of that file. -/
structure Tracker.Among (t : Tracker) (entryDir : Path) (origin : Origin) (importer : Path) :
    Prop where
  isAbsolute_root : t.rootDir.isAbsolute = true
  isAbsolute_directory : importer.directory.isAbsolute = true
  normalize_baseDir : t.baseDir.normalize = importer.directory.normalize
  origin_eq :
    (origin = .entry ∧ t.imports = [] ∧ entryDir.normalize = importer.directory.normalize) ∨
      (origin = .file importer ∧ t.imports ≠ [] ∧
        importer.directory.normalize = importer.directory)

namespace Tracker

theorem isAbsolute_baseDir {t : Tracker} (h : t.rootDir.isAbsolute = true) :
    t.baseDir.isAbsolute = true := by
  unfold baseDir
  split
  · exact h
  · exact Path.isAbsolute_join_of_isAbsolute _ h

/-- Entering an import moves the base to the directory of its path. -/
theorem normalize_baseDir_enter {t : Tracker} (h : t.rootDir.isAbsolute = true) (index : Nat)
    (path : String) :
    (t.enter index path).baseDir.normalize =
      (t.baseDir.join (Path.directory ⟨path⟩)).normalize := by
  unfold enter baseDir originOf
  cases t.imports with
  | nil => rfl
  | cons i rest => exact Path.normalize_join_join _ _ h

/-- The invariant of the walk is kept where an imported file begins. -/
theorem Among.enter {t : Tracker} {entryDir importer : Path} {origin : Origin}
    (h : t.Among entryDir origin importer) (index : Nat) {path : String}
    (hname : (Path.fileName? ⟨path⟩).isSome) :
    (t.enter index path).Among entryDir (.file (targetOf importer path.toList))
      (targetOf importer path.toList) := by
  obtain ⟨s, hs⟩ := Option.isSome_iff_exists.1 hname
  have hdir : (targetOf importer path.toList).directory =
      (importer.directory.join (Path.directory ⟨path⟩)).normalize := by
    rw [targetOf, String.ofList_toList, Path.directory_absolutize h.isAbsolute_directory hs]
  have hjoined := Path.isAbsolute_join_of_isAbsolute (Path.directory ⟨path⟩) h.isAbsolute_directory
  refine ⟨h.isAbsolute_root, ?_, ?_, .inr ⟨rfl, by simp [Tracker.enter], ?_⟩⟩
  · rw [hdir]
    exact Path.isAbsolute_normalize hjoined
  · rw [normalize_baseDir_enter h.isAbsolute_root, hdir, Path.normalize_normalize hjoined]
    exact Path.normalize_join_congr _ (isAbsolute_baseDir h.isAbsolute_root) h.isAbsolute_directory
      h.normalize_baseDir
  · rw [hdir, Path.normalize_normalize hjoined]

/-- One step among the nodes of a file is answered as its origin asks. -/
theorem Among.answers {t : Tracker} {entryDir importer : Path} {origin : Origin}
    (h : t.Among entryDir origin importer) (index : Nat) {node : Node}
    (hnode : isMarker node = false) :
    origin.Answers entryDir node (t.advance index node).1 ∧ (t.advance index node).2 = t := by
  rw [t.advance_of_not_isMarker index hnode]
  refine ⟨?_, rfl⟩
  rcases h.origin_eq with ⟨rfl, hopen, hentry⟩ | ⟨rfl, hopen, hnormal⟩
  · have hbase := h.normalize_baseDir.trans hentry.symm
    cases node <;> simp [Origin.Answers, scans, hopen, Node.isRule, Node.commentText?, hbase]
  · have hbase := h.normalize_baseDir.trans hnormal
    cases node <;> simp [Origin.Answers, scans, hopen, Node.children?, Node.commentText?, hbase]

end Tracker

/-- A tracker that walks over a whole tree answers each node as its origin asks, and ends as it
began. -/
theorem track_flattened {entryDir importer : Path} {origin : Origin} {t : Tracker}
    (tree : ImportTree) (htree : tree.WellFormed) (h : t.Among entryDir origin importer)
    (index : Nat) :
    List.Forall₂ (fun n step => n.2.Answers entryDir n.1 step) (tree.flattened origin importer)
        (t.track index ((tree.flattened origin importer).map (·.1))).1 ∧
      (t.track index ((tree.flattened origin importer).map (·.1))).2 = t := by
  induction tree generalizing origin importer t index with
  | done => exact ⟨.nil, rfl⟩
  | node n rest ih =>
    obtain ⟨hn, hrest⟩ := htree
    obtain ⟨hanswer, hsame⟩ := h.answers index hn
    obtain ⟨hanswers, hend⟩ := ih hrest h (index + 1)
    simp only [ImportTree.flattened, List.map_cons, Tracker.track, hsame]
    exact ⟨.cons hanswer hanswers, hend⟩
  | imported path file rest ihfile ihrest =>
    obtain ⟨htrim, hname, hfile, hrest⟩ := htree
    have hinside := ihfile hfile (h.enter index hname) (index + 1)
    simp only [ImportTree.flattened, List.map_append, List.map_cons, List.cons_append,
      Tracker.track, Tracker.advance_startNode t index htrim, Tracker.track_append, hinside.2,
      Tracker.advance_endNode, Tracker.leave_enter]
    obtain ⟨hanswers, hend⟩ := ihrest hrest h
      (index + 1 + ((file.flattened (.file (targetOf importer path.toList))
        (targetOf importer path.toList)).map (·.1)).length + 1)
    exact ⟨.cons rfl (List.rel_append hinside.1 (.cons rfl hanswers)), hend⟩

/-- Flattening and tracking agree on directories. However deep and wide the tree of imports, and
however the paths on the way climb or start anew from the root, the tracker removes the markers,
lets every rule of an imported file be scanned against the directory of the very path that the file
is read from, and has closed every import at the end. -/
theorem observeAll_flattened (tree : ImportTree) (entry root : Path) (journal : Journal)
    (htree : tree.WellFormed) (hdir : entry.directory.isAbsolute = true)
    (hroot : root.isAbsolute = true) (heq : root.normalize = entry.directory.normalize) :
    ∃ steps,
      (Tracker.observeAll ⟨root, []⟩ 0 ((tree.flattened .entry entry).map (·.1)) journal).1 =
        (steps, ⟨root, []⟩) ∧
      List.Forall₂ (fun n step => n.2.Answers root n.1 step) (tree.flattened .entry entry)
        steps := by
  have hamong : Tracker.Among ⟨root, []⟩ root .entry entry :=
    ⟨hroot, hdir, heq, .inl ⟨rfl, rfl, heq⟩⟩
  obtain ⟨hanswers, hend⟩ := track_flattened tree htree hamong 0
  exact ⟨_, (Tracker.observeAll_fst _ _ _ _).trans (Prod.ext rfl hend), hanswers⟩

/-- A file above the entry file imports one from the root, which climbs beyond the root. -/
def climbingTree : ImportTree :=
  .node (.atStatement "charset" "'utf-8'") <|
    .imported "../../lib/./one.css"
      (.imported "/abs/two.css"
        (.imported "../../../three.css" (.node (.rule ".c" []) .done)
          (.node (.rule ".b" []) .done))
        (.node (.atStatement "layer" "x") .done))
      (.node (.rule ".a" [.declaration "color" "red"]) .done)

theorem observeAll_flattened_climbingTree :
    climbingTree.WellFormed ∧
      ∃ steps,
        (Tracker.observeAll ⟨⟨"/site/css"⟩, []⟩ 0
          ((climbingTree.flattened .entry ⟨"/site/css/main.css"⟩).map (·.1)) #[]).1 =
            (steps, ⟨⟨"/site/css"⟩, []⟩) ∧
        List.Forall₂ (fun n step => n.2.Answers ⟨"/site/css"⟩ n.1 step)
          (climbingTree.flattened .entry ⟨"/site/css/main.css"⟩) steps := by
  have htree : climbingTree.WellFormed := by
    refine ⟨by decide, by decide, by decide, ⟨by decide, by decide, ?_, by decide, trivial⟩,
      by decide, trivial⟩
    exact ⟨by decide, by decide, ⟨by decide, trivial⟩, by decide, trivial⟩
  exact ⟨htree, observeAll_flattened climbingTree ⟨"/site/css/main.css"⟩ ⟨"/site/css"⟩ #[] htree
    (by decide) (by decide) (by decide)⟩

end StylesheetAssets.Import
