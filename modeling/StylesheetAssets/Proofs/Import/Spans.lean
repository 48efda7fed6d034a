import StylesheetAssets.Proofs.Import.Chains
import StylesheetAssets.Proofs.Rewrite.Effect
import StylesheetAssets.Proofs.Stylesheet.Composition

/-!
When rewriting closes every import and takes out all markers. That depends on how the flattened
text reads: a marker in a block is out of reach, and a statement that is not ended takes the marker
behind it with it.
-/
namespace StylesheetAssets

open Stylesheet (Node Sheet Token outlineOfAll parseNodes scanHead Complete)

namespace Import

mutual

/-- Whether a marker stands at a node or below it. -/
def holdsMarker : Node → Bool
  | .rule _ nodes => anyHoldsMarker nodes
  | .atBlock _ _ nodes => anyHoldsMarker nodes
  | node => isMarker node

def anyHoldsMarker : List Node → Bool
  | [] => false
  | node :: rest => holdsMarker node || anyHoldsMarker rest

end

mutual

theorem holdsMarker_outline (node : Node) : holdsMarker node.outline = holdsMarker node := by
  cases node with
  | rule selector nodes => exact anyHoldsMarker_outlineOfAll nodes
  | atBlock name params nodes => exact anyHoldsMarker_outlineOfAll nodes
  | atStatement name params => rfl
  | declaration property value => rfl
  | comment text => rfl

theorem anyHoldsMarker_outlineOfAll (nodes : List Node) :
    anyHoldsMarker (outlineOfAll nodes) = anyHoldsMarker nodes := by
  cases nodes with
  | nil => rfl
  | cons node rest =>
    simp only [outlineOfAll, anyHoldsMarker, holdsMarker_outline node,
      anyHoldsMarker_outlineOfAll rest]

end

theorem holdsMarker_frame (node : Node) : holdsMarker node.frame = holdsMarker node := by
  unfold Node.frame
  split
  · exact holdsMarker_outline node
  · rfl

theorem anyHoldsMarker_eq_any (nodes : List Node) :
    anyHoldsMarker nodes = nodes.any holdsMarker := by
  induction nodes with
  | nil => rfl
  | cons node rest ih => rw [anyHoldsMarker, ih, List.any_cons]

theorem anyHoldsMarker_of_frames {nodes nodes' : List Node}
    (h : nodes'.map Node.frame = nodes.map Node.frame) :
    anyHoldsMarker nodes' = anyHoldsMarker nodes := by
  have hframe (l : List Node) : anyHoldsMarker l = (l.map Node.frame).any holdsMarker := by
    rw [anyHoldsMarker_eq_any, List.any_map]
    exact List.any_congr rfl fun node => (holdsMarker_frame node).symm
  rw [hframe, hframe, h]

/-- How many imports are open behind a top node. An end marker outside of all imports closes
none. -/
def depthBehind (depth : Nat) (node : Node) : Nat :=
  match node.commentText? with
  | some text =>
    if (startMarkerPath? text.toList).isSome then depth + 1
    else if isEndMarker text.toList then depth - 1
    else depth
  | none => depth

/-- How many imports are open behind top nodes. -/
def openBehind (depth : Nat) (nodes : List Node) : Nat := nodes.foldl depthBehind depth

theorem length_imports_advance (t : Tracker) (index : Nat) (node : Node) :
    (t.advance index node).2.imports.length = depthBehind t.imports.length node := by
  unfold Tracker.advance depthBehind
  cases node.commentText? with
  | none => rfl
  | some text =>
    dsimp only
    cases startMarkerPath? text.toList with
    | some path => rfl
    | none =>
      by_cases hend : isEndMarker text.toList = true
      · simp [hend, Tracker.leave]
      · simp [hend]

theorem length_imports_track (t : Tracker) (index : Nat) (nodes : List Node) :
    (t.track index nodes).2.imports.length = openBehind t.imports.length nodes := by
  induction nodes generalizing t index with
  | nil => rfl
  | cons node rest ih =>
    rw [openBehind, List.foldl_cons, ← length_imports_advance t index node]
    exact ih _ _

theorem openBehind_append (depth : Nat) (xs ys : List Node) :
    openBehind depth (xs ++ ys) = openBehind (openBehind depth xs) ys := List.foldl_append

/-- A text whose nodes are no markers opens and closes nothing. -/
theorem openBehind_eq_self {nodes : List Node} (h : ∀ node ∈ nodes, isMarker node = false)
    (depth : Nat) : openBehind depth nodes = depth := by
  induction nodes with
  | nil => rfl
  | cons node rest ih =>
    obtain ⟨hnode, hrest⟩ := List.forall_mem_cons.1 h
    have hdepth : depthBehind depth node = depth := by
      unfold isMarker at hnode
      unfold depthBehind
      cases hc : node.commentText? with
      | none => rfl
      | some text =>
        simp only [hc, Bool.or_eq_false_iff] at hnode
        simp [hnode.1, hnode.2]
    rw [openBehind, List.foldl_cons, hdepth]
    exact ih hrest

def MarkersOnTop (nodes : List Node) : Prop :=
  ∀ node ∈ nodes, isMarker node = false → holdsMarker node = false

theorem markersOnTop_append {xs ys : List Node} :
    MarkersOnTop (xs ++ ys) ↔ MarkersOnTop xs ∧ MarkersOnTop ys := List.forall_mem_append

/-- Top nodes whose markers can all be taken out: in the end all imports are closed, and no marker
stands in a block. -/
structure SpansClose (nodes : List Node) : Prop where
  closed : openBehind 0 nodes = 0
  top : MarkersOnTop nodes

/-- A pass has not stopped at an open import, and leaves no marker in what it answers. -/
def SpansRemoved (sheet' : Sheet) : Except RewriteError RewriteStats → Prop
  | .ok _ => anyHoldsMarker sheet'.nodes = false
  | .error e => ∀ span, e ≠ .unterminated span

theorem anyHoldsMarker_filter (nodes : List Node) :
    anyHoldsMarker (nodes.filter (!isMarker ·)) = false ↔ MarkersOnTop nodes := by
  rw [anyHoldsMarker_eq_any, List.any_eq_false]
  simp [MarkersOnTop]

/-- Unless the disk stops it, a pass over a sheet removes the spans of all imports exactly if they
close. -/
theorem spansRemoved_iff {config : Config} {sheet sheet' : Sheet}
    {r : Except RewriteError RewriteStats} {queue : CopyQueue} {session : Session}
    (h : (rewriteSheet config sheet queue session).1.1 = (sheet', r))
    (hsource : sheet.source.isSome) (hdisk : ∀ e, r = .error e → e.cause? = none) :
    SpansRemoved sheet' r ↔ SpansClose sheet.nodes := by
  obtain ⟨source, hsource⟩ := Option.isSome_iff_exists.1 hsource
  obtain ⟨flagged, failure, stats, hswept, hrun⟩ :=
    rewriteSheet_eq config sheet hsource queue session
  rw [h] at hrun
  let t : Tracker := ⟨source.directory.absolutize config.workDir, []⟩
  have hopen : (t.track 0 sheet.nodes).2.imports.length = openBehind 0 sheet.nodes :=
    length_imports_track t 0 sheet.nodes
  rcases hswept.outcome with ⟨hpass, hflags, hend⟩ | ⟨e, rfl, hpass⟩
  · cases himports : (t.track 0 sheet.nodes).2.imports with
    | nil =>
      obtain rfl : failure = none := by
        rw [hend, Tracker.unterminated?, himports]
        rfl
      obtain ⟨rfl, rfl⟩ : sheet' = { sheet with nodes := dropMarkers flagged } ∧ r = .ok stats := by
        simpa using hrun
      have hdropped := anyHoldsMarker_of_frames (dropMarkers_frames hswept.frames hflags).1
      rw [SpansRemoved, hdropped, anyHoldsMarker_filter]
      rw [himports] at hopen
      exact ⟨fun htop => ⟨hopen.symm, htop⟩, SpansClose.top⟩
    | cons i rest =>
      obtain rfl : failure = some (.unterminated ⟨i.path, i.start⟩) := by
        rw [hend, Tracker.unterminated?, himports]
        rfl
      obtain ⟨-, rfl⟩ : _ ∧ r = .error (.unterminated ⟨i.path, i.start⟩) := by
        simpa using hrun
      rw [himports] at hopen
      refine ⟨fun hremoved => absurd rfl (hremoved _), fun hclose => ?_⟩
      have hclosed := hopen.trans hclose.closed
      cases hclosed
  · obtain ⟨-, rfl⟩ : _ ∧ r = .error e := by
      simpa using hrun
    obtain ⟨_, base, value, _, _, _, _, _, _, _, hrefused⟩ := hpass.walked.exists_stop
    have hcause := (gives_rewriteValue config base value).of_error hrefused
    rw [hdisk e rfl] at hcause
    cases hcause

/-! ### Flattened texts -/

/-- What stays of the text up to the end of an import statement. -/
def keptPiece (p : List Char × Statement) : List Char :=
  if staysInPlace p.2.path then p.1 ++ p.2.text else p.1

/-- The nodes of statements with the text in front of each, where nothing is put in their place. -/
def keptNodes (statements : List (List Char × Statement)) : List Node :=
  statements.flatMap fun p => parseNodes (keptPiece p)

/-- The nodes of a text without its local imports. -/
def ownNodes (code : List Char) : List Node :=
  keptNodes (cutLive code).1 ++ parseNodes (cutLive code).2

/-- A text whose local imports all stand among its top nodes, each behind a complete text. -/
structure Separable (code : List Char) : Prop where
  pieces : ∀ p ∈ (cutLive code).1, Complete (keptPiece p)
  spans : SpansClose (ownNodes code)

/-- A text that can take the place of an import of it: it is complete up to its end, and its own
markers come in pairs. -/
structure Insertable (code : List Char) : Prop extends Separable code where
  finish : Complete (cutLive code).2
  paired : ∀ depth, openBehind depth (ownNodes code) = depth

theorem complete_startMarker {path : List Char} (h : ¬['*', '/'] <:+: startFlag ++ path) :
    Complete (startMarker path) := Stylesheet.complete_comment h

theorem keptNodes_cons (p : List Char × Statement) (statements : List (List Char × Statement)) :
    keptNodes (p :: statements) = parseNodes (keptPiece p) ++ keptNodes statements :=
  List.flatMap_cons

/-- A complete text that opens and closes as many imports as the given nodes do. -/
structure OpensLike (text : List Char) (nodes : List Node) : Prop where
  complete : Complete text
  top : MarkersOnTop (parseNodes text)
  openBehind_eq : ∀ depth, openBehind depth (parseNodes text) = openBehind depth nodes

namespace OpensLike

variable {s t : List Char} {xs ys : List Node}

theorem of_complete (h : Complete s) (htop : MarkersOnTop (parseNodes s)) :
    OpensLike s (parseNodes s) := ⟨h, htop, fun _ => rfl⟩

theorem append (h : OpensLike s xs) (h' : OpensLike t ys) : OpensLike (s ++ t) (xs ++ ys) := by
  refine ⟨h.complete.append h'.complete, ?_, fun depth => ?_⟩
  · rw [h.complete.parseNodes_append]
    exact markersOnTop_append.2 ⟨h.top, h'.top⟩
  · rw [h.complete.parseNodes_append, openBehind_append, openBehind_append, h.openBehind_eq,
      h'.openBehind_eq]

end OpensLike

/-- All files that imports lead to can take the places of their imports. -/
def ImportsInsertable (disk : Disk) (file : Path) (statements : List (List Char × Statement)) :
    Prop :=
  ∀ ps p content, Follows disk file statements (ps ++ [p]) → disk.readText p = .ok content →
    Insertable (mark content.toList)

section ImportsInsertable

variable {disk : Disk} {file : Path} {before : List Char} {i : Statement} {text : String}
  {rest : List (List Char × Statement)}

theorem ImportsInsertable.later (h : ImportsInsertable disk file ((before, i) :: rest)) :
    ImportsInsertable disk file rest :=
  fun ps p content hfollows => h ps p content hfollows.later

/-- The file of the first import, and those that its own imports lead to. -/
theorem ImportsInsertable.into (h : ImportsInsertable disk file ((before, i) :: rest))
    (hstays : staysInPlace i.path = false)
    (hread : disk.readText (targetOf file i.path) = .ok text) :
    Insertable (mark text.toList) ∧
      ImportsInsertable disk (targetOf file i.path) (cutLive (mark text.toList)).1 :=
  ⟨h [] _ text (.single disk hstays) hread,
    fun ps p content hfollows => h (_ :: ps) p content (.into hstays hread hfollows)⟩

end ImportsInsertable

/-- Where the files can take the places of their imports, a text opens and closes what it did
without them. -/
theorem Flattened.opensLike {disk : Disk} {file : Path}
    {statements : List (List Char × Statement)} {text : List Char}
    (h : Flattened disk file statements text) (hfiles : ImportsInsertable disk file statements)
    (hpieces : ∀ p ∈ statements, Complete (keptPiece p))
    (htop : MarkersOnTop (keptNodes statements)) : OpensLike text (keptNodes statements) := by
  induction h with
  | done file =>
    refine ⟨Stylesheet.complete_nil, ?_, fun _ => ?_⟩
    · rw [Stylesheet.parseNodes_nil]
      exact nofun
    · rw [Stylesheet.parseNodes_nil]
      rfl
  | @stays file before after i rest hstays _ ih =>
    rw [keptNodes_cons, markersOnTop_append] at htop
    obtain ⟨hpiece, hrest⟩ := List.forall_mem_cons.1 hpieces
    have hkept : keptPiece (before, i) = before ++ i.text := by simp [keptPiece, hstays]
    rw [keptNodes_cons, ← hkept]
    exact (OpensLike.of_complete hpiece htop.1).append (ih hfiles.later hrest htop.2)
  | @inlined file before inlined after i rest location bytes content hstays hopen hdecode _ _ ihfile
      ihrest =>
    rw [keptNodes_cons, markersOnTop_append] at htop
    obtain ⟨hpiece, hrest⟩ := List.forall_mem_cons.1 hpieces
    have hkept : keptPiece (before, i) = before := by simp [keptPiece, hstays]
    have hfront := OpensLike.of_complete hpiece htop.1
    rw [hkept] at hfront
    have hread : disk.readText (targetOf file i.path) = .ok content :=
      Disk.readText_eq_ok_iff_openFile.2 ⟨location, bytes, hopen, hdecode⟩
    obtain ⟨hfile, hreached⟩ := hfiles.into hstays hread
    obtain ⟨htopKept, htopFinish⟩ := markersOnTop_append.1 hfile.spans.top
    have hinlined := (ihfile hreached hfile.pieces htopKept).append
      (OpensLike.of_complete hfile.finish htopFinish)
    -- The markers of the file are paired, so that behind it as much is open as in front of it.
    have hnothing : OpensLike (inlined ++ (cutLive (mark content.toList)).2) [] :=
      ⟨hinlined.complete, hinlined.top, fun depth =>
        (hinlined.openBehind_eq depth).trans (hfile.paired depth)⟩
    rw [keptNodes_cons, hkept, List.append_assoc before]
    simpa using (hfront.append hnothing).append (ihrest hfiles.later hrest htop.2)

/-- If the entry text is separable and the files that imports lead to can take the places of their
imports, the flattened text has nothing that stays open. -/
theorem spansClose_flatten {disk : Disk} {code text : List Char} {file : Path} {journal : Journal}
    (hflat : ((flatten disk code file).run journal).1 = .ok text)
    (hfiles : ImportsInsertable disk file (cutLive code).1) (hcode : Separable code) :
    SpansClose (parseNodes text) := by
  obtain ⟨inlined, hinlined, rfl⟩ := flattened_of_flatten hflat
  obtain ⟨htop, htopFinish⟩ := markersOnTop_append.1 hcode.spans.top
  have hlike := hinlined.opensLike hfiles hcode.pieces htop
  rw [hlike.complete.parseNodes_append]
  refine ⟨?_, markersOnTop_append.2 ⟨hlike.top, htopFinish⟩⟩
  rw [openBehind_append, hlike.openBehind_eq, ← openBehind_append]
  exact hcode.spans.closed

/-- The markers of a flattened sheet are all taken out exactly if they close in the text as it
reads, the disk aside. They do where no text that imports lead to leaves a statement or a block open
at an import. -/
theorem spansRemoved_flatten {disk : Disk} {config : Config} {code text : List Char} {file : Path}
    {journal : Journal} {queue : CopyQueue} {session : Session} {sheet' : Sheet}
    {r : Except RewriteError RewriteStats}
    (hflat : ((flatten disk (mark code) file).run journal).1 = .ok text)
    (hrun : (rewriteSheet config (Stylesheet.parse (String.ofList text) (some file)) queue
      session).1.1 = (sheet', r)) :
    (SpansRemoved sheet' r ↔
        SpansClose (parseNodes text) ∨ ∃ e, r = .error e ∧ e.cause?.isSome) ∧
      (ImportsInsertable disk file (cutLive (mark code)).1 → Separable (mark code) →
        SpansRemoved sheet' r) := by
  have hiff : SpansRemoved sheet' r ↔
      SpansClose (parseNodes text) ∨ ∃ e, r = .error e ∧ e.cause?.isSome := by
    by_cases hdisk : ∃ e, r = .error e ∧ e.cause?.isSome
    · obtain ⟨e, rfl, hcause⟩ := hdisk
      refine ⟨fun _ => .inr ⟨e, rfl, hcause⟩, fun _ => ?_⟩
      rintro span rfl
      cases hcause
    · have hnone : ∀ e, r = .error e → e.cause? = none := by
        intro e he
        by_contra hsome
        exact hdisk ⟨e, he, Option.isSome_iff_ne_none.2 hsome⟩
      have hclose := spansRemoved_iff hrun rfl hnone
      rw [Stylesheet.parse, String.toList_ofList] at hclose
      exact hclose.trans ⟨.inl, fun h => h.resolve_right hdisk⟩
  exact ⟨hiff, fun hfiles hcode => hiff.2 (.inl (spansClose_flatten hflat hfiles hcode))⟩

def oneFile (content : String) : Disk where
  entries := [(["a.css"], .file content.toByteArray)]

/-- A text that imports this file, marked. -/
def importingText : List Char := "@import \"a.css\";\n.b { color: red }".toList

theorem cutLive_importingText :
    cutLive (mark importingText) =
      ([("/*start cssurl import path:a.css*/".toList,
        ⟨"@import \"a.css\";".toList, "a.css".toList⟩)],
        "/*end cssurl*/\n.b { color: red }".toList) := by
  decide +kernel

/-- The same text with the file in the place of its import. -/
def inlinedText (content : String) : List Char :=
  "/*start cssurl import path:a.css*/".toList ++ content.toList ++
    "/*end cssurl*/\n.b { color: red }".toList

def rewriteInlined (content : String) : Sheet × Except RewriteError RewriteStats :=
  (rewriteSheet imagesOnly (Stylesheet.parse (String.ofList (inlinedText content))
    (some ⟨"/main.css"⟩)) {} ⟨{}, #[]⟩).1.1

theorem flatten_importingText (content : String)
    (hopen : (oneFile content).openFile ⟨"/a.css"⟩ = .ok (["a.css"], content.toByteArray))
    (hdecode : Disk.decode content.toByteArray = .ok content)
    (hcontent : cutLive (mark content.toList) = ([], content.toList)) (journal : Journal) :
    ((flatten (oneFile content) (mark importingText) ⟨"/main.css"⟩).run journal).1 =
      .ok (inlinedText content) := by
  have htarget : targetOf ⟨"/main.css"⟩ "a.css".toList = ⟨"/a.css"⟩ := by decide +kernel
  rw [← htarget] at hopen
  exact flatten_of_single cutLive_importingText (by decide) (by decide +kernel) hopen hdecode
    hcontent journal

theorem complete_layer : Complete "@layer base;".toList := by
  have hlist : "@layer base;".toList = '@' :: "layer base;".toList := by decide
  have hend : (scanHead ('@' :: "layer base;".toList)).2 = [] := by decide
  have hscan : Token.scan "@layer base;".toList = [.statement "@layer base".toList] := by
    decide +kernel
  constructor
  · rw [hlist]
    refine .head (by decide) (by simp) (by decide) ?_
    rw [hend]
    exact .nil
  · rw [hscan]
    trivial

theorem insertable_layer : Insertable (mark "@layer base;".toList) := by
  have hcut : cutLive (mark "@layer base;".toList) = ([], "@layer base;".toList) := by
    decide +kernel
  have hown : ∀ node ∈ ownNodes (mark "@layer base;".toList), isMarker node = false := by
    decide +kernel
  refine ⟨⟨?_, by decide +kernel, by unfold MarkersOnTop; decide +kernel⟩, ?_,
    openBehind_eq_self hown⟩
  · rw [hcut]
    exact nofun
  · rw [hcut]
    exact complete_layer

theorem separable_importingText : Separable (mark importingText) := by
  have hmarker : "/*start cssurl import path:a.css*/".toList = startMarker "a.css".toList := by
    decide
  have hcomplete : Complete "/*start cssurl import path:a.css*/".toList := by
    rw [hmarker]
    exact complete_startMarker (by decide +kernel)
  refine ⟨?_, by decide +kernel, by unfold MarkersOnTop; decide +kernel⟩
  rw [cutLive_importingText]
  simp only [List.mem_singleton, forall_eq]
  exact hcomplete

theorem bytes_of_oneFile {content : String} {p : Path} {location : Location} {bytes : ByteArray}
    (h : (oneFile content).openFile p = .ok (location, bytes)) : bytes = content.toByteArray := by
  have hmem := Disk.mem_entries_of_get? (Disk.get?_of_openFile h)
  simp only [oneFile, List.mem_singleton, Prod.mk.injEq, Entry.file.injEq] at hmem
  exact hmem.2

/-- A file whose last statement has a semicolon leaves no marker; without the semicolon, its end
marker is lost. -/
theorem spansRemoved_flatten_importingText :
    (∃ sheet',
      ((flatten (oneFile "@layer base;") (mark importingText) ⟨"/main.css"⟩).run #[]).1 =
        .ok (inlinedText "@layer base;") ∧
      rewriteInlined "@layer base;" = (sheet', .ok {}) ∧
      SpansRemoved sheet' (.ok {})) ∧
    ∃ sheet',
      ((flatten (oneFile "@layer base") (mark importingText) ⟨"/main.css"⟩).run #[]).1 =
        .ok (inlinedText "@layer base") ∧
      rewriteInlined "@layer base" = (sheet', .error (.unterminated ⟨"a.css", 0⟩)) ∧
      ¬SpansClose (parseNodes (inlinedText "@layer base")) := by
  constructor
  · have hflat := flatten_importingText "@layer base;" (by decide +kernel) (by decide +kernel)
      (by decide +kernel) #[]
    have hrun : (rewriteInlined "@layer base;").2 = .ok {} := by
      decide +kernel
    have hrun := Prod.snd_eq_iff.1 hrun
    refine ⟨_, hflat, hrun, (spansRemoved_flatten hflat hrun).2 ?_ separable_importingText⟩
    intro ps p content _ hread
    obtain ⟨location, bytes, hopen, hdecode⟩ := Disk.readText_eq_ok_iff_openFile.1 hread
    rw [bytes_of_oneFile hopen] at hdecode
    have hlayer : Disk.decode "@layer base;".toByteArray = .ok "@layer base;" := by decide +kernel
    rw [hlayer] at hdecode
    cases hdecode
    exact insertable_layer
  · have hflat := flatten_importingText "@layer base" (by decide +kernel) (by decide +kernel)
      (by decide +kernel) #[]
    have hrun : (rewriteInlined "@layer base").2 = .error (.unterminated ⟨"a.css", 0⟩) := by
      decide +kernel
    have hrun := Prod.snd_eq_iff.1 hrun
    refine ⟨_, hflat, hrun, fun hclose => ?_⟩
    exact (spansRemoved_flatten hflat hrun).1.2 (.inl hclose) _ rfl

end Import

end StylesheetAssets
