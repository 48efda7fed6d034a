import StylesheetAssets.Import.Flatten
import StylesheetAssets.Import.Provenance
import StylesheetAssets.Proofs.Disk.Apart
import StylesheetAssets.Rewrite.Value

/-!
Steps that only note: what they add to the journal, whatever they answer and also where they fail.
-/
namespace StylesheetAssets

variable {α β ε : Type}

/-- A step of the journal that adds events to it, none of which writes. -/
def Journal.Grows (x : StateM Journal α) : Prop :=
  ∀ j : Journal, ∃ events : List Event,
    (x j).2.toList = j.toList ++ events ∧ ∀ e ∈ events, e.written? = none

namespace Journal.Grows

theorem pure (a : α) : Grows (Pure.pure a : StateM Journal α) :=
  fun _ => ⟨[], (List.append_nil _).symm, List.forall_mem_nil _⟩

theorem record {e : Event} (h : e.written? = none) : Grows (Journal.record e) :=
  fun _ => ⟨[e], Array.toList_push, List.forall_mem_singleton.2 h⟩

theorem detail (topic text : String) : Grows (Journal.detail topic text) := record rfl

theorem bind {x : StateM Journal α} {f : α → StateM Journal β} (hx : Grows x)
    (hf : ∀ a, Grows (f a)) : Grows (x >>= f) := by
  intro j
  obtain ⟨events, hjournal, hevents⟩ := hx j
  obtain ⟨more, hjournal', hmore⟩ := hf (x j).1 (x j).2
  refine ⟨events ++ more, ?_, List.forall_mem_append.2 ⟨hevents, hmore⟩⟩
  have hbind : ((x >>= f) j).2 = (f (x j).1 (x j).2).2 := rfl
  rw [hbind, hjournal', hjournal, List.append_assoc]

theorem run_throw (e : ε) : Grows (throw e : ExceptT ε (StateM Journal) α).run :=
  pure (Except.error e)

theorem run_liftM {x : StateM Journal α} (h : Grows x) :
    Grows (liftM x : ExceptT ε (StateM Journal) α).run := bind h fun _ => pure _

/-- A step that fails is the last one. -/
theorem run_bind {x : ExceptT ε (StateM Journal) α} {f : α → ExceptT ε (StateM Journal) β}
    (hx : Grows x.run) (hf : ∀ a, Grows (f a).run) : Grows (x >>= f).run := by
  have hrun : (x >>= f).run = x.run >>= fun r => (ExceptT.bindCont f r).run := rfl
  rw [hrun]
  refine bind hx fun r => ?_
  cases r with
  | ok a => exact hf a
  | error e => exact run_throw e

end Journal.Grows

open Journal (Grows)

/-! ### Imports and markers -/

namespace Import

theorem grows_markFile (code : List Char) (file : Path) : Grows (markFile code file) := by
  unfold markFile
  dsimp only
  split_ifs
  · exact .bind (.detail _ _) fun _ => .pure _
  · exact .pure _

theorem grows_readImport (disk : Disk) (target file : Path) :
    Grows (readImport disk target file).run := by
  unfold readImport
  refine .run_bind (.run_liftM (.record rfl)) fun _ => ?_
  split
  · exact .run_throw _
  · exact .pure _

/-- By the recursion of the flattening, so that imports which fail are included. -/
theorem grows_flattenStatements (disk : Disk) (chain : List Path) (file : Path)
    (statements : List (List Char × Statement)) :
    Grows (flattenStatements disk chain file statements).run := by
  induction chain, file, statements using flattenStatements.induct disk with
  | case1 chain file =>
    rw [flattenStatements]
    exact .pure _
  | case2 chain file before i rest hstays ih =>
    rw [flattenStatements, if_pos hstays]
    exact .run_bind ih fun _ => .pure _
  | case3 chain file before i rest hstays target =>
    rename_i hcycle
    rw [flattenStatements, if_neg hstays]
    dsimp only
    rw [dif_pos hcycle]
    exact .run_throw _
  | case4 chain file before i rest hstays target hnew ihfile =>
    rename_i ihrest
    rw [flattenStatements, if_neg hstays]
    dsimp only
    rw [dif_neg hnew]
    refine .run_bind (grows_readImport disk _ file) fun ⟨text, hread⟩ => ?_
    refine .run_bind (.run_liftM (grows_markFile _ _)) fun marked => ?_
    refine .run_bind (ihfile text hread _) fun inlined => ?_
    refine .run_bind (.run_liftM (.detail _ _)) fun _ => ?_
    exact .run_bind ihrest fun _ => .pure _

theorem grows_flatten (disk : Disk) (code : List Char) (file : Path) :
    Grows (flatten disk code file).run :=
  .run_bind (grows_flattenStatements disk _ file _) fun _ => .pure _

theorem Tracker.grows_observe (t : Tracker) (index : Nat) (node : Stylesheet.Node) :
    Grows (t.observe index node) := by
  unfold Tracker.observe
  cases node.commentText? with
  | none => exact .pure _
  | some text =>
    dsimp only
    cases startMarkerPath? text.toList with
    | some path => exact .bind (.detail _ _) fun _ => .pure _
    | none =>
      dsimp only
      split_ifs
      · exact .bind (.detail _ _) fun _ => .pure _
      · exact .pure _
      · exact .pure _

end Import

theorem grows_referencePath (destination : Path) (cssOutput : Option Path) (workDir : Path) :
    Grows (referencePath destination cssOutput workDir) := by
  unfold referencePath
  cases cssOutput with
  | some directory => exact .pure _
  | none => exact .bind (.detail _ _) fun _ => .pure _

end StylesheetAssets
