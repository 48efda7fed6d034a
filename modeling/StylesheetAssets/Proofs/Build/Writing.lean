import StylesheetAssets.Proofs.Build.Records
import StylesheetAssets.Proofs.Build.Running
import StylesheetAssets.Proofs.Rewrite.PassOrder

/-!
What a build writes for its inputs, apart from copies: the stylesheet of each under the name of the
input, at most once, and in the order of the inputs. Where the building of one fails, it may be
missing; what becomes of the others does not matter to it.
-/
namespace StylesheetAssets

/-! ### Files that are written -/

/-- A later session. The files, copies apart, that were written in between. -/
def Session.Outputs (s s' : Session) (paths : List Path) : Prop :=
  ∃ events, s.Records s' events ∧ events.filterMap Event.output? = paths

namespace Session.Outputs

variable {s s' s'' : Session} {paths paths' : List Path}

theorem trans (h : s.Outputs s' paths) (h' : s'.Outputs s'' paths') :
    s.Outputs s'' (paths ++ paths') := by
  obtain ⟨events, hrecords, rfl⟩ := h
  obtain ⟨events', hrecords', rfl⟩ := h'
  exact ⟨events ++ events', hrecords.trans hrecords', List.filterMap_append⟩

theorem writeFile (s : Session) (p : Path) (bytes : ByteArray) :
    s.Outputs (Session.writeFile p bytes s).2 [p] := ⟨_, .writeFile s p bytes, rfl⟩

theorem notingOrder : NotingOrder fun s s' => s.Outputs s' [] where
  refl s := ⟨[], .refl s, rfl⟩
  trans := trans
  noted s e he := by
    refine ⟨[e], .note s e, ?_⟩
    cases e <;> first | rfl | cases he

/-- A pass over a sheet writes no file but copies. -/
theorem passOrder (config : Config) : config.PassOrder fun s s' => s.Outputs s' [] where
  toNotingOrder := notingOrder
  made s _ dir _ := ⟨_, .createDirectories s dir, rfl⟩
  copied s _ dir source name _ _ := ⟨_, .copyFile s source (dir.join ⟨name⟩), rfl⟩

end Session.Outputs

open Session (NotingOrder Outputs Upward)

theorem Session.NotingOrder.upward_announce {R : Session → Session → Prop} (h : NotingOrder R)
    (sheets : Nat) (outDir : Path) (total : BuildSummary) :
    Upward R (announce sheets outDir total) := by
  have hcounted (topic : String) (n : Nat) (noun after : String) :
      Upward R (sayCounted topic n noun after) := by
    unfold sayCounted
    split_ifs
    · exact h.upward_record rfl
    · exact h.refl
  unfold announce
  refine h.upward_bind (h.upward_record rfl) fun _ => ?_
  refine h.upward_bind (hcounted _ _ _ _) fun _ => h.upward_bind (hcounted _ _ _ _) fun _ => ?_
  exact h.upward_bind (hcounted _ _ _ _) fun _ => h.upward_record rfl

namespace Building

variable {α β ε : Type}

/-- An answer that is no clash of names. -/
def Clashless (r : Except BuildError α) : Prop :=
  ∀ first second name, r ≠ .error (.clash first second name)

theorem Clashless.error {e : BuildError} (h : Clashless (.error e : Except BuildError α)) :
    Clashless (.error e : Except BuildError β) := by
  rintro first second name ⟨⟩
  exact h first second name rfl

/-- What a step answers goes with what it writes. -/
def Writes (x : Building α) (Q : Except BuildError α → List Path → Prop) : Prop :=
  ∀ (registry : CopyRegistry) (session : Session), ∃ paths,
    session.Outputs (x registry session).2 paths ∧ Q (x registry session).1.1 paths

/-- Steps that write nothing but copies. -/
def Silent (x : Building α) : Prop := x.Writes fun r paths => paths = [] ∧ Clashless r

/-- A step and the next one, which is not made if the first one fails. -/
theorem Writes.bind {x : Building α} {f : α → Building β}
    {Q : Except BuildError α → List Path → Prop} {Q' : Except BuildError β → List Path → Prop}
    (hx : x.Writes Q) (herror : ∀ e paths, Q (.error e) paths → Q' (.error e) paths)
    (hok : ∀ a paths, Q (.ok a) paths → (f a).Writes fun r more => Q' r (paths ++ more)) :
    (x >>= f).Writes Q' := by
  intro registry session
  obtain ⟨paths, hwritten, hanswer⟩ := hx registry session
  rw [run_bind]
  cases hr : x registry session with
  | mk r session' =>
    obtain ⟨answer, registry'⟩ := r
    rw [hr] at hwritten hanswer
    cases answer with
    | error e => exact ⟨paths, hwritten, herror e paths hanswer⟩
    | ok a =>
      obtain ⟨more, hmore, hlast⟩ := hok a paths hanswer registry' session'
      exact ⟨paths ++ more, hwritten.trans hmore, hlast⟩

/-- What comes behind a silent step. -/
theorem Silent.before {x : Building α} {f : α → Building β}
    {Q : Except BuildError β → List Path → Prop} (hx : x.Silent)
    (herror : ∀ e, Clashless (.error e : Except BuildError β) → Q (.error e) [])
    (hf : ∀ a, (f a).Writes Q) : (x >>= f).Writes Q := by
  refine Writes.bind hx ?_ ?_
  · rintro e _ ⟨rfl, hclashless⟩
    exact herror e hclashless.error
  · rintro a _ ⟨rfl, -⟩
    exact hf a

theorem Silent.bind {x : Building α} {f : α → Building β} (hx : x.Silent)
    (hf : ∀ a, (f a).Silent) : (x >>= f).Silent := hx.before (fun _ h => ⟨rfl, h⟩) hf

theorem Silent.writes {x : Building α} {Q : Except BuildError α → List Path → Prop} (hx : x.Silent)
    (h : ∀ r, Clashless r → Q r []) : x.Writes Q := by
  intro registry session
  obtain ⟨_, hwritten, rfl, hclashless⟩ := hx registry session
  exact ⟨[], hwritten, h _ hclashless⟩

theorem silent_pure (a : α) : (pure a : Building α).Silent :=
  fun _ s => ⟨[], Outputs.notingOrder.refl s, rfl, nofun⟩

theorem silent_liftM {x : StateM Session α} (h : Upward (Outputs · · []) x) :
    (liftM x : Building α).Silent := fun _ s => ⟨[], h s, rfl, nofun⟩

/-- A step with a place in the build, by what it writes and the place. -/
theorem writes_within {place : ε → BuildError} {x : StateM Session (Except ε α)} {paths : List Path}
    (hplace : ∀ e, Clashless (.error (place e) : Except BuildError α))
    (h : ∀ s : Session, s.Outputs (x s).2 paths) :
    (within place x).Writes fun r more => more = paths ∧ Clashless r := by
  have hlift : (liftM x : Building (Except ε α)).Writes fun r more =>
      more = paths ∧ ∃ a, r = .ok a := fun _ s => ⟨paths, h s, rfl, _, rfl⟩
  unfold within
  refine hlift.bind ?_ ?_
  · rintro e _ ⟨-, _, ⟨⟩⟩
  · rintro (e | a) _ ⟨rfl, -⟩
    · exact fun _ s => ⟨[], Outputs.notingOrder.refl s, List.append_nil _, hplace e⟩
    · exact fun _ s => ⟨[], Outputs.notingOrder.refl s, List.append_nil _, nofun⟩

theorem silent_queueing {x : StateT CopyQueue (StateM Session) α}
    (h : ∀ queue (s : Session), s.Outputs (x queue s).2 []) : (queueing x).Silent :=
  fun _ s => ⟨[], h _ s, rfl, nofun⟩

end Building

open Building

/-! ### One stylesheet -/

variable {config : Config} {outDir input : Path} {inputs : List Path} {registry : CopyRegistry}
  {session : Session}

def ownPaths (outDir : Path) (inputs : List Path) : List Path :=
  inputs.filterMap fun input => (outputPath outDir input).toOption

theorem ownPaths_append (inputs more : List Path) :
    ownPaths outDir (inputs ++ more) = ownPaths outDir inputs ++ ownPaths outDir more :=
  List.filterMap_append

theorem ownPaths_singleton {output : Path} (h : outputPath outDir input = .ok output) :
    ownPaths outDir [input] = [output] := by
  simp [ownPaths, h, Except.toOption]

/-- What was written for inputs is at most their stylesheets, in order. It is all of them if all
were built. No answer is a clash of names. -/
structure Written (outDir : Path) (inputs : List Path)
    (results : List (Except BuildError BuildSummary)) (paths : List Path) : Prop where
  own : paths.Sublist (ownPaths outDir inputs)
  complete : (∀ r ∈ results, ∃ summary, r = .ok summary) → paths = ownPaths outDir inputs
  clashless : ∀ r ∈ results, Clashless r

theorem Written.append {more : List Path} {results results' : List (Except BuildError BuildSummary)}
    {paths paths' : List Path} (h : Written outDir inputs results paths)
    (h' : Written outDir more results' paths') :
    Written outDir (inputs ++ more) (results ++ results') (paths ++ paths') := by
  refine ⟨ownPaths_append inputs more ▸ h.own.append h'.own, fun hall => ?_, ?_⟩
  · obtain ⟨hresults, hresults'⟩ := List.forall_mem_append.1 hall
    rw [ownPaths_append, h.complete hresults, h'.complete hresults']
  · exact List.forall_mem_append.2 ⟨h.clashless, h'.clashless⟩

theorem silent_readFlat (input : Path) : (readFlat input).Silent := by
  have hread (s : Session) : s.Outputs (Session.readText input s).2 [] :=
    Outputs.notingOrder.noted s rfl
  have hmark (code : String) : Upward (Outputs · · [])
      (Session.noting (Import.markFile code.toList input)) :=
    Outputs.notingOrder.upward_noting (Import.grows_markFile _ _)
  unfold readFlat
  refine Silent.bind (writes_within ?_ hread) fun code => ?_
  · exact fun _ => nofun
  refine (silent_liftM (hmark code)).bind fun marked => ?_
  refine Silent.bind (fun _ s => ⟨[], Outputs.notingOrder.refl s, rfl, nofun⟩) fun s => ?_
  refine writes_within ?_
    (Outputs.notingOrder.upward_noting (Import.grows_flatten s.disk marked input))
  exact fun _ => nofun

/-- A stylesheet is written under the name of its input, if that has one, and as the last thing
that can fail but for its copies. -/
theorem writes_buildSheet (config : Config) (outDir input : Path) :
    (buildSheet config outDir input).Writes fun r paths => Written outDir [input] [r] paths := by
  have hfailed (e : BuildError) (he : Clashless (.error e : Except BuildError BuildSummary)) :
      Written outDir [input] [.error e] [] := by
    refine ⟨List.nil_sublist _, fun hall => ?_, by simpa using he⟩
    obtain ⟨summary, h⟩ := hall _ (List.mem_singleton_self _)
    cases h
  have hpass (flat : List Char) : (queueing (rewriteSheet config
      (Stylesheet.parse (String.ofList flat) (some input)))).Silent :=
    silent_queueing ((Outputs.passOrder config).upward_rewriteSheet _)
  have hquiet {α ε : Type} {place : ε → BuildError} (r : Except ε α)
      (hplace : ∀ e, Clashless (.error (place e) : Except BuildError α)) :
      (within place (pure r)).Silent := writes_within hplace Outputs.notingOrder.refl
  unfold buildSheet
  refine (silent_readFlat input).before hfailed fun flat => ?_
  unfold finishSheet
  refine (hpass flat).before hfailed fun ⟨⟨sheet, result⟩, queue⟩ => ?_
  refine (hquiet result ?_).before hfailed fun stats => ?_
  · exact fun _ => nofun
  cases houtput : outputPath outDir input with
  | error e =>
    obtain rfl : e = .noFileName input := by
      unfold outputPath at houtput
      cases hname : input.fileName? <;> simp_all
    exact fun _ s => ⟨[], Outputs.notingOrder.refl s, hfailed _ nofun⟩
  | ok output =>
    have hown := ownPaths_singleton houtput
    have hwritten (r : Except BuildError BuildSummary) (hr : Clashless r) :
        Written outDir [input] [r] [output] :=
      ⟨hown ▸ .refl _, fun _ => hown.symm, by simpa using hr⟩
    have hwrite (s : Session) : s.Outputs
        (Session.writeFile output (Stylesheet.print sheet.nodes).toUTF8 s).2 [output] :=
      .writeFile s output _
    have hplaced : within id (pure (.ok output)) = (pure output : Building Path) := rfl
    rw [hplaced, pure_bind]
    -- The file counts as written from here on, whether the disk lets it be written or not.
    refine (writes_within ?_ hwrite).bind ?_ ?_
    · exact fun _ => nofun
    · rintro e _ ⟨rfl, hclashless⟩
      exact hwritten _ hclashless.error
    · rintro _ _ ⟨rfl, -⟩
      refine Silent.writes ?_ hwritten
      refine (silent_liftM (Outputs.notingOrder.upward_record rfl)).bind fun _ => ?_
      refine (hquiet queue.finish ?_).bind fun copies => silent_pure _
      exact fun _ => nofun

/-- The text that an input is built to, if a build comes to it so. -/
def sheetText (config : Config) (input : Path) : Building String := do
  let flat ← readFlat input
  let sheet := Stylesheet.parse (String.ofList flat) (some input)
  let ((sheet, result), _) ← Building.queueing (rewriteSheet config sheet)
  let _ ← Building.within (.rewrite input) (pure result)
  return Stylesheet.print sheet.nodes

/-- A stylesheet that was built lies where it was written. -/
theorem exists_text_of_buildSheet {summary : BuildSummary}
    (h : (buildSheet config outDir input registry session).1.1 = .ok summary) :
    ∃ output text, outputPath outDir input = .ok output ∧
      (sheetText config input registry session).1.1 = .ok text ∧
      let after := (buildSheet config outDir input registry session).2.disk
      after.get? (after.placeOf output) = some (.file text.toUTF8) := by
  obtain ⟨registry', session', hbuilt⟩ : ∃ registry' session',
      buildSheet config outDir input registry session = ((.ok summary, registry'), session') :=
    ⟨_, _, Prod.ext (Prod.ext h rfl) rfl⟩
  obtain ⟨flat, flattened, rewritten, written, sheet, stats, queue, name, copies, hflat, hpass,
    hname, hwritten, -, -, -, rfl⟩ := buildSheet_eq_ok.1 hbuilt
  rw [hbuilt]
  refine ⟨outDir.join ⟨name⟩, Stylesheet.print sheet.nodes,
    outputPath_eq_ok.2 ⟨name, hname, rfl⟩, ?_, ?_⟩
  · unfold sheetText
    rw [bind_of_ok hflat, bind_of_ok (queueing_eq_ok.2 ⟨hpass, rfl⟩)]
    rfl
  · rw [writeFile_run] at hwritten
    obtain ⟨hok, rfl⟩ := Prod.mk.inj hwritten
    exact Disk.get?_of_writeFile (Prod.ext hok rfl)

/-! ### All stylesheets -/

theorem buildEach_append (config : Config) (outDir : Path) (inputs more : List Path)
    (registry : CopyRegistry) (session : Session) :
    buildEach config outDir (inputs ++ more) registry session =
      let first := buildEach config outDir inputs registry session
      let rest := buildEach config outDir more first.1.2 first.2
      ((first.1.1 ++ rest.1.1, rest.1.2), rest.2) := by
  induction inputs generalizing registry session with
  | nil => rfl
  | cons input inputs ih =>
    rw [List.cons_append, buildEach_cons, buildEach_cons]
    dsimp only
    rw [ih]
    rfl

/-- Every sheet is written under its own name, whatever the sheets before it left. -/
theorem outputs_buildEach (config : Config) (outDir : Path) (inputs : List Path)
    (registry : CopyRegistry) (session : Session) :
    ∃ paths, session.Outputs (buildEach config outDir inputs registry session).2 paths ∧
      Written outDir inputs (buildEach config outDir inputs registry session).1.1 paths := by
  induction inputs generalizing registry session with
  | nil =>
    exact ⟨[], Outputs.notingOrder.refl session, .refl _, fun _ => rfl, List.forall_mem_nil _⟩
  | cons input inputs ih =>
    obtain ⟨paths, hsheet, hwritten⟩ := writes_buildSheet config outDir input registry session
    rw [buildEach_cons]
    generalize buildSheet config outDir input registry session = sheet at hsheet hwritten ⊢
    obtain ⟨more, hrest, hwritten'⟩ :=
      ih sheet.1.2 (Session.record (.progressAdvanced "css") sheet.2).2
    have hadvanced := Outputs.notingOrder.noted sheet.2 (e := .progressAdvanced "css") rfl
    refine ⟨paths ++ more, hsheet.trans (hadvanced.trans hrest), hwritten.append hwritten'⟩

end StylesheetAssets
