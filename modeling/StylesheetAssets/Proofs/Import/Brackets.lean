import Mathlib.Data.List.Forall2
import StylesheetAssets.Proofs.Import.Tracking

/-!
The tracker as a matcher of brackets. A stack of start markers that knows nothing of directories
tells, behind any top nodes, all that the tracker knows there. The same holds of a walk that keeps
the innermost import at hand and sets those around it aside, one by one.
-/
namespace StylesheetAssets.Import

open Stylesheet (Node)

/-- What a top node does to a state that start markers and end markers change. -/
def passMarker {σ : Type} (onStart : Nat → String → σ → σ) (onEnd : σ → σ) (s : σ) (node : Node)
    (index : Nat) : σ :=
  match node.commentText? with
  | none => s
  | some text =>
    match startMarkerPath? text.toList with
    | some path => onStart index (String.ofList path) s
    | none => if isEndMarker text.toList then onEnd s else s

/-- The same for top nodes in a row, the first of which has the given number. -/
def passMarkers {σ : Type} (onStart : Nat → String → σ → σ) (onEnd : σ → σ) (s : σ) (index : Nat) :
    List Node → σ
  | [] => s
  | node :: rest =>
    passMarkers onStart onEnd (passMarker onStart onEnd s node index) (index + 1) rest

/-- The start markers among top nodes that no end marker closes, the innermost first. An end marker
closes the innermost open one, and nothing if none is open. -/
def openMarkers (nodes : List Node) : List Unterminated :=
  passMarkers (fun index path stack => ⟨path, index⟩ :: stack) List.tail [] 0 nodes

/-- The directories of the paths of open markers, joined from the outermost to the innermost. -/
def joinedDirectory (stack : List Unterminated) : Path :=
  (stack.reverse.map fun marker => Path.directory ⟨marker.path⟩).foldl Path.join .empty

/-- A walk that keeps the innermost import at hand. -/
structure SpanWalk where
  /-- The innermost import, or none outside of all imports. -/
  state : Option OpenImport := none
  /-- What was at hand when an import began, and was set aside for it; the last one last. -/
  enclosing : List (Option OpenImport) := []
deriving DecidableEq, Repr

namespace SpanWalk

def enter (index : Nat) (path : String) (walk : SpanWalk) : SpanWalk :=
  let directory := Path.directory ⟨path⟩
  let origin :=
    match walk.state with
    | none => directory
    | some i => i.origin.join directory
  { state := some ⟨origin, path, index⟩
    enclosing := if walk.state = none then walk.enclosing else walk.enclosing ++ [walk.state] }

/-- Takes back what was set aside last. -/
def leave (walk : SpanWalk) : SpanWalk :=
  match walk.state with
  | none => walk
  | some _ => ⟨walk.enclosing.getLast?.getD none, walk.enclosing.dropLast⟩

/-- The walk behind top nodes. -/
def behind (nodes : List Node) : SpanWalk := passMarkers enter leave {} 0 nodes

/-- The walk as a stack of markers tells it. -/
structure Mirrors (walk : SpanWalk) (stack : List Unterminated) : Prop where
  state_eq_none_iff : walk.state = none ↔ stack = []
  marker : ∀ i, walk.state = some i → stack.head? = some ⟨i.path, i.start⟩
  origin : ∀ i, walk.state = some i → i.origin = joinedDirectory stack
  enclosing_ne_none : ∀ outer ∈ walk.enclosing, outer ≠ none
  length_enclosing : walk.enclosing.length = stack.length - 1

end SpanWalk

section Passing

variable {σ τ : Type} {start : Nat → String → σ → σ} {finish : σ → σ}
  {start' : Nat → String → τ → τ} {finish' : τ → τ}

/-- States that markers change in the same way stay related behind all top nodes. -/
theorem passMarkers_related {R : σ → τ → Prop}
    (hstart : ∀ index path s t, R s t → R (start index path s) (start' index path t))
    (hfinish : ∀ s t, R s t → R (finish s) (finish' t)) {s : σ} {t : τ} (h : R s t) (index : Nat)
    (nodes : List Node) :
    R (passMarkers start finish s index nodes) (passMarkers start' finish' t index nodes) := by
  induction nodes generalizing s t index with
  | nil => exact h
  | cons node rest ih =>
    apply ih
    unfold passMarker
    cases node.commentText? with
    | none => exact h
    | some text =>
      dsimp only
      cases startMarkerPath? text.toList with
      | some path => exact hstart index _ s t h
      | none =>
        cases isEndMarker text.toList with
        | true => exact hfinish s t h
        | false => exact h

end Passing

namespace Tracker

theorem advance_snd (t : Tracker) (index : Nat) (node : Node) :
    (t.advance index node).2 =
      passMarker (fun index path t => t.enter index path) leave t node index := by
  unfold advance passMarker
  cases node.commentText? with
  | none => rfl
  | some text =>
    dsimp only
    cases startMarkerPath? text.toList with
    | some path => rfl
    | none => cases isEndMarker text.toList <;> rfl

theorem track_snd (t : Tracker) (index : Nat) (nodes : List Node) :
    (t.track index nodes).2 =
      passMarkers (fun index path t => t.enter index path) leave t index nodes := by
  induction nodes generalizing t index with
  | nil => rfl
  | cons node rest ih => rw [track, passMarkers, ← advance_snd, ← ih]

/-- Markers are taken out, and nothing else is. -/
theorem advance_fst_eq_remove_iff (t : Tracker) (index : Nat) (node : Node) :
    (t.advance index node).1 = .remove ↔ isMarker node = true := by
  rcases t.advance_cases index node with ⟨hm, hs, -⟩ | ⟨hm, hs, -⟩ | ⟨hm, hs, -⟩ <;> simp [hm, hs]

theorem track_fst (t : Tracker) (index : Nat) (nodes : List Node) :
    List.Forall₂ (fun node step => step = .remove ↔ isMarker node = true) nodes
      (t.track index nodes).1 := by
  induction nodes generalizing t index with
  | nil => exact .nil
  | cons node rest ih => exact .cons (t.advance_fst_eq_remove_iff index node) (ih _ _)

/-- The open imports with the innermost one at hand and the others set aside. -/
def spanWalk (t : Tracker) : SpanWalk := ⟨t.imports.head?, t.imports.tail.reverse.map some⟩

theorem spanWalk_enter (t : Tracker) (index : Nat) (path : String) :
    (t.enter index path).spanWalk = t.spanWalk.enter index path := by
  unfold enter spanWalk SpanWalk.enter originOf
  cases t.imports with
  | nil => rfl
  | cons i around => simp

theorem spanWalk_leave (t : Tracker) : t.leave.spanWalk = t.spanWalk.leave := by
  unfold leave spanWalk SpanWalk.leave
  cases t.imports with
  | nil => rfl
  | cons i around =>
    cases around with
    | nil => rfl
    | cons j around => simp

end Tracker

theorem empty_join (p : Path) : Path.empty.join p = p := by
  by_cases h : p.isAbsolute = true <;> simp [Path.join, Path.empty, h]

theorem joinedDirectory_cons (marker : Unterminated) (around : List Unterminated) :
    joinedDirectory (marker :: around) =
      (joinedDirectory around).join (Path.directory ⟨marker.path⟩) := by
  simp [joinedDirectory]

/-- The open imports that open markers stand for. -/
def openImports : List Unterminated → List OpenImport
  | [] => []
  | marker :: around =>
    ⟨joinedDirectory (marker :: around), marker.path, marker.start⟩ :: openImports around

theorem length_openImports (stack : List Unterminated) :
    (openImports stack).length = stack.length := by
  induction stack with
  | nil => rfl
  | cons marker around ih => rw [openImports, List.length_cons, ih, List.length_cons]

namespace Tracker

/-- A start marker opens the import that it stands for, among those that are open already. -/
theorem imports_enter {t : Tracker} {stack : List Unterminated}
    (h : t.imports = openImports stack) (index : Nat) (path : String) :
    (t.enter index path).imports = openImports (⟨path, index⟩ :: stack) := by
  have horigin : t.originOf path = joinedDirectory (⟨path, index⟩ :: stack) := by
    rw [joinedDirectory_cons, originOf, h]
    cases stack with
    | nil => exact (empty_join _).symm
    | cons marker around => rfl
  rw [enter, horigin, h, openImports]

theorem imports_leave {t : Tracker} {stack : List Unterminated}
    (h : t.imports = openImports stack) : t.leave.imports = openImports stack.tail := by
  rw [leave, h]
  cases stack <;> rfl

/-- Behind any top nodes the tracker holds the imports that the open markers stand for. -/
theorem track_openMarkers (rootDir : Path) (nodes : List Node) :
    (track ⟨rootDir, []⟩ 0 nodes).2 = ⟨rootDir, openImports (openMarkers nodes)⟩ := by
  let R (t : Tracker) (stack : List Unterminated) : Prop :=
    t.rootDir = rootDir ∧ t.imports = openImports stack
  have hrun : R (track ⟨rootDir, []⟩ 0 nodes).2 (openMarkers nodes) := by
    rw [track_snd]
    refine passMarkers_related (R := R) ?_ ?_ ⟨rfl, rfl⟩ 0 nodes
    · exact fun index path t stack h => ⟨h.1, imports_enter h.2 index path⟩
    · exact fun t stack h => ⟨h.1, imports_leave h.2⟩
  exact congrArg₂ mk hrun.1 hrun.2

/-- The stack and the walk that sets imports aside are changed by markers in the same way. -/
theorem spanWalk_track (rootDir : Path) (nodes : List Node) :
    (track ⟨rootDir, []⟩ 0 nodes).2.spanWalk = .behind nodes := by
  let R (t : Tracker) (walk : SpanWalk) : Prop := t.spanWalk = walk
  rw [track_snd]
  refine passMarkers_related (R := R) ?_ ?_ rfl 0 nodes
  · rintro index path t _ rfl
    exact t.spanWalk_enter index path
  · rintro t _ rfl
    exact t.spanWalk_leave

theorem mirrors_spanWalk (rootDir : Path) (stack : List Unterminated) :
    (spanWalk ⟨rootDir, openImports stack⟩).Mirrors stack := by
  cases stack with
  | nil => exact ⟨by simp [spanWalk, openImports], nofun, nofun, nofun, rfl⟩
  | cons marker around =>
    refine ⟨by simp [spanWalk, openImports], ?_, ?_, ?_, ?_⟩
    · rintro i ⟨⟩
      rfl
    · rintro i ⟨⟩
      rfl
    · simp [spanWalk, openImports]
    · simp [spanWalk, openImports, length_openImports]

theorem unterminated?_openImports (rootDir : Path) (stack : List Unterminated) :
    unterminated? ⟨rootDir, openImports stack⟩ = stack.head? := by
  cases stack <;> rfl

end Tracker

/-- The tracker matches brackets. Behind any top nodes, balanced or not, it holds the open start
markers as one stack, each with the directories up to its own joined; the same stack is told by the
walk that keeps the innermost import at hand and the others aside. An import is found open in the
end exactly if a marker is, and then it is the innermost one. The markers are taken out, and nothing
else is. -/
theorem observeAll_openMarkers (rootDir : Path) (nodes : List Node) (journal : Journal) :
    ∃ steps t, (Tracker.observeAll ⟨rootDir, []⟩ 0 nodes journal).1 = (steps, t) ∧
      t = ⟨rootDir, openImports (openMarkers nodes)⟩ ∧
      t.spanWalk = .behind nodes ∧ (SpanWalk.behind nodes).Mirrors (openMarkers nodes) ∧
      t.unterminated? = (openMarkers nodes).head? ∧
      List.Forall₂ (fun node step => step = .remove ↔ isMarker node = true) nodes steps := by
  have hstack := Tracker.track_openMarkers rootDir nodes
  have hwalk := Tracker.spanWalk_track rootDir nodes
  have hmirrors := Tracker.mirrors_spanWalk rootDir (openMarkers nodes)
  rw [← hstack, hwalk] at hmirrors
  refine ⟨_, _, Tracker.observeAll_fst _ _ _ _, hstack, hwalk, hmirrors, ?_,
    Tracker.track_fst _ _ _⟩
  rw [hstack]
  exact Tracker.unterminated?_openImports rootDir _

/-- A stray end, an import from the root inside another, and one that is opened after both. -/
example :
    openMarkers [endNode, startNode "a/one.css", startNode "/b/two.css", endNode, endNode,
      startNode "c/three.css", startNode "d/four.css"] =
        [⟨"d/four.css", 6⟩, ⟨"c/three.css", 5⟩] := by
  decide +kernel

end StylesheetAssets.Import
