import Mathlib.Data.List.DropRight
import StylesheetAssets.Import.Provenance

/-!
The tracker on a whole list of top nodes. What it notes in the journal has no part in its answers,
which are those of a step function without a journal.
-/
namespace StylesheetAssets

open Stylesheet (Node)

namespace Import

def isMarker (node : Node) : Bool :=
  match node.commentText? with
  | some text => (startMarkerPath? text.toList).isSome || isEndMarker text.toList
  | none => false

theorem children?_of_isMarker {node : Node} (h : isMarker node = true) : node.children? = none := by
  cases node <;> simp_all [isMarker, Node.commentText?, Node.children?]

theorem trim_eq_rdropWhile (s : List Char) :
    Text.trim s = (s.dropWhile Text.isBlank).rdropWhile Text.isBlank := rfl

/-- A trimmed text stays trimmed behind one that is trimmed and not empty. -/
theorem trim_append {s t : List Char} (hne : s ≠ []) (hs : Text.trim s = s) (ht : Text.trim t = t) :
    Text.trim (s ++ t) = s ++ t := by
  have hlast : ∀ {u : List Char}, Text.trim u = u → (hu : u ≠ []) →
      ¬Text.isBlank (u.getLast hu) := by
    intro u htrim hu
    have hdrop : (u.dropWhile Text.isBlank).rdropWhile Text.isBlank ≠ [] := by
      rwa [← trim_eq_rdropWhile, htrim]
    have h := List.rdropWhile_last_not _ _ hdrop
    simpa only [← trim_eq_rdropWhile, htrim] using h
  have hfirst : s.dropWhile Text.isBlank = s := by
    apply List.IsSuffix.eq_of_length_le (List.dropWhile_suffix _)
    have hle := List.rdropWhile_prefix Text.isBlank (s.dropWhile Text.isBlank)
    rw [← trim_eq_rdropWhile, hs] at hle
    exact hle.length_le
  have hhead : (s ++ t).dropWhile Text.isBlank = s ++ t := by
    rw [List.dropWhile_append, hfirst]
    simp [hne]
  rw [trim_eq_rdropWhile, hhead, List.rdropWhile_eq_self_iff]
  intro hst
  cases t with
  | nil => simpa using hlast hs hne
  | cons c t => simpa using hlast ht (List.cons_ne_nil c t)

/-- The comment in front of an imported file, as a node. -/
def startNode (path : String) : Node := .comment (String.ofList (startFlag ++ path.toList))

def endNode : Node := .comment (String.ofList endFlag)

theorem startMarkerPath?_startFlag {path : List Char} (h : Text.trim path = path) :
    startMarkerPath? (startFlag ++ path) = some path := by
  have htrim : Text.trim (startFlag ++ path) = startFlag ++ path :=
    trim_append (by decide) (by decide) h
  rw [startMarkerPath?, htrim, Text.stripStart?_eq_some_iff.2 rfl, Option.map_some, h]

theorem startMarkerPath?_endFlag : startMarkerPath? endFlag = none := by decide

theorem isEndMarker_endFlag : isEndMarker endFlag = true := by decide

namespace Tracker

/-- What is to be done with a top node, and the tracker behind it. -/
def advance (t : Tracker) (index : Nat) (node : Node) : Step × Tracker :=
  match node.commentText? with
  | some text =>
    match startMarkerPath? text.toList with
    | some path => (.remove, t.enter index (String.ofList path))
    | none => if isEndMarker text.toList then (.remove, t.leave) else (.keep, t)
  | none => (if t.scans node then .scan t.baseDir else .keep, t)

theorem observe_fst (t : Tracker) (index : Nat) (node : Node) (journal : Journal) :
    (t.observe index node journal).1 = t.advance index node := by
  unfold observe advance
  cases node.commentText? with
  | none => rfl
  | some text =>
    dsimp only
    cases startMarkerPath? text.toList with
    | some path => rfl
    | none =>
      by_cases hend : isEndMarker text.toList = true
      · by_cases hopen : t.imports.isEmpty = true
        · simp only [hend, hopen, ↓reduceIte]
          rfl
        · simp only [hend, hopen, ↓reduceIte]
          rfl
      · simp only [hend]
        rfl

/-- Passes over top nodes from the given number on: what is to be done with each, and the tracker
behind the last. -/
def observeAll (t : Tracker) (index : Nat) : List Node → StateM Journal (List Step × Tracker)
  | [] => return ([], t)
  | node :: rest => do
    let (step, t) ← t.observe index node
    let (steps, t) ← t.observeAll (index + 1) rest
    return (step :: steps, t)

/-- The same without a journal. -/
def track (t : Tracker) (index : Nat) : List Node → List Step × Tracker
  | [] => ([], t)
  | node :: rest =>
    let behind := (t.advance index node).2.track (index + 1) rest
    ((t.advance index node).1 :: behind.1, behind.2)

theorem observeAll_fst (t : Tracker) (index : Nat) (nodes : List Node) (journal : Journal) :
    (t.observeAll index nodes journal).1 = t.track index nodes := by
  induction nodes generalizing t index journal with
  | nil => rfl
  | cons node rest ih =>
    have hstep := t.observe_fst index node journal
    have hrest := ih (t.advance index node).2 (index + 1) (t.observe index node journal).2
    rw [← hstep] at hrest
    simp only [track, ← hstep, ← hrest]
    rfl

theorem track_append (t : Tracker) (index : Nat) (xs ys : List Node) :
    t.track index (xs ++ ys) =
      ((t.track index xs).1 ++ ((t.track index xs).2.track (index + xs.length) ys).1,
        ((t.track index xs).2.track (index + xs.length) ys).2) := by
  induction xs generalizing t index with
  | nil => rfl
  | cons node xs ih =>
    simp only [List.cons_append, track, ih, List.length_cons]
    rw [Nat.add_right_comm, Nat.add_assoc]

/-! ### Steps by the kind of node -/

theorem advance_startNode (t : Tracker) (index : Nat) {path : String}
    (h : Text.trim path.toList = path.toList) :
    t.advance index (startNode path) = (.remove, t.enter index path) := by
  simp [advance, startNode, Node.commentText?, startMarkerPath?_startFlag h]

theorem advance_endNode (t : Tracker) (index : Nat) :
    t.advance index endNode = (.remove, t.leave) := by
  simp [advance, endNode, Node.commentText?, startMarkerPath?_endFlag, isEndMarker_endFlag]

/-- A node that is no marker leaves the tracker as it is. -/
theorem advance_of_not_isMarker (t : Tracker) (index : Nat) {node : Node}
    (h : isMarker node = false) :
    t.advance index node =
      (if node.commentText?.isNone ∧ t.scans node = true then .scan t.baseDir else .keep, t) := by
  unfold advance
  unfold isMarker at h
  cases hc : node.commentText? with
  | none => simp
  | some text =>
    simp only [hc, Bool.or_eq_false_iff, Option.isSome_eq_false_iff, Option.isNone_iff_eq_none] at h
    simp [h.1, h.2]

/-- Markers are taken out, and what is not scanned has no block. -/
theorem advance_cases (t : Tracker) (index : Nat) (node : Node) :
    (isMarker node = true ∧ (t.advance index node).1 = .remove ∧ node.children? = none) ∨
      (isMarker node = false ∧ (t.advance index node).1 = .keep ∧ node.children? = none) ∨
      (isMarker node = false ∧ (t.advance index node).1 = .scan t.baseDir ∧
        node.isRule = true) := by
  cases hmarker : isMarker node with
  | true =>
    cases node <;> simp_all [isMarker, advance, Node.commentText?, Node.children?, Node.isRule]
    split <;> simp_all
  | false =>
    rw [t.advance_of_not_isMarker index hmarker]
    cases node <;> by_cases hopen : t.imports = [] <;>
      simp [Node.commentText?, Node.children?, Node.isRule, scans, hopen]

theorem leave_enter (t : Tracker) (index : Nat) (path : String) :
    (t.enter index path).leave = t := rfl

end Tracker

end Import

end StylesheetAssets
