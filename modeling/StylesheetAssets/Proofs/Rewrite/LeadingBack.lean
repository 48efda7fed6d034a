import StylesheetAssets.Proofs.Asset.DataUri
import StylesheetAssets.Proofs.Path.Relative
import StylesheetAssets.Proofs.Rewrite.Relocating
import StylesheetAssets.Proofs.Url.Rereading

/-!
Rewritten values, read again: each reference that was relocated is found where it was written, and
leads from the directory of the stylesheet to the copy that was asked for.
-/
namespace StylesheetAssets

open Url (Fragment Occurrence Reference)

/-- References start from `css`, and all directories are absolute. -/
structure Config.Anchored (config : Config) (css : Path) : Prop where
  cssOutput_eq : config.cssOutput = some css
  css_isAbsolute : css.isAbsolute = true
  output_isAbsolute : ∀ category directory, config.outputDir? category = some directory →
    directory.isAbsolute = true

/-- Whether the path of a copy can be written into an occurrence: as text it has the same meaning,
and it is read again, as a reference. -/
def Config.carries (config : Config) (o : Occurrence) (path : Path) : Bool :=
  path.text.toList.all (fun c => c != '\\' && c != '?' && c != '#') &&
    o.admits (config.written path.text o.path).toList &&
    (o.withPath (config.written path.text o.path).toList).isLocal

/-- Whatever copies the references of a value are relocated to, their paths as seen from `css` can
be written into it. -/
def Carried (config : Config) (base css : Path) (value : String) : Prop :=
  ∀ o, .url o ∈ Url.fragments none value.toList → o.isLocal = true →
    ∀ destination, IsDestination config base o.path destination →
      config.carries o (destination.relativeTo css) = true

/-- The text leads from `css` to a copy of the file that the reference named, and the queue was
asked for it. -/
inductive LeadsBack (config : Config) (base css : Path) (queue : CopyQueue)
    (reference text : List Char) : Prop
  | intro {destination : Path} (place : IsDestination config base reference destination)
      (asked : ∃ q ∈ queue.destinations, q.same destination = true)
      (leads : Path.absolutize ⟨String.ofList (Url.splitSuffix text).1⟩ css =
        destination.normalize)

/-- The bytes of a path behind the text `before`, which starts at an offset. -/
def pathSpan (offset : Nat) (before path : List Char) : Span :=
  ⟨offset + Text.byteLength before, offset + Text.byteLength before + Text.byteLength path⟩

/-- A text from the given offsets on, before and after its references were resolved, with the
references that are found in each. What was inlined is no reference any more. Any other reference is
found again, with the path that then stands there. -/
inductive Reread (config : Config) (base css : Path) (queue : CopyQueue) :
    Nat → Nat → List Reference → List Reference → List Char → List Char → Prop
  | done (offset offset' : Nat) (s : List Char) :
      Reread config base css queue offset offset' [] [] s s
  | kept {offset offset' : Nat} {r r' : Reference} {refs refs' : List Reference}
      {before path after after' : List Char} (old : r.path = pathSpan offset before path)
      (new : r'.path = pathSpan offset' before path)
      (resolved : Resolution.skipped.Of config base path)
      (rest : Reread config base css queue r.path.stop r'.path.stop refs refs' after after') :
      Reread config base css queue offset offset' (r :: refs) (r' :: refs')
        (before ++ path ++ after) (before ++ path ++ after')
  | inlined {offset offset' : Nat} {r : Reference} {refs refs' : List Reference} {uri : String}
      {before path after after' : List Char} (old : r.path = pathSpan offset before path)
      (resolved : (Resolution.inlined uri).Of config base path)
      (rest : Reread config base css queue r.path.stop (pathSpan offset' before uri.toList).stop
        refs refs' after after') :
      Reread config base css queue offset offset' (r :: refs) refs'
        (before ++ path ++ after) (before ++ uri.toList ++ after')
  | relocated {offset offset' : Nat} {r r' : Reference} {refs refs' : List Reference}
      {text : String} {before path after after' : List Char}
      (old : r.path = pathSpan offset before path)
      (new : r'.path = pathSpan offset' before text.toList)
      (resolved : (Resolution.relocated text).Of config base path)
      (leads : LeadsBack config base css queue path text.toList)
      (rest : Reread config base css queue r.path.stop r'.path.stop refs refs' after after') :
      Reread config base css queue offset offset' (r :: refs) (r' :: refs')
        (before ++ path ++ after) (before ++ text.toList ++ after')

variable {config : Config} {base css : Path} {queue : CopyQueue}

theorem pathSpan_append (offset : Nat) (front before path : List Char) :
    pathSpan (offset + Text.byteLength front) before path =
      pathSpan offset (front ++ before) path := by
  simp [pathSpan, Nat.add_assoc]

/-- Text without references in front of a text. -/
theorem Reread.append_left {offset offset' : Nat} {refs refs' : List Reference} {s s' : List Char}
    (front : List Char)
    (h : Reread config base css queue (offset + Text.byteLength front)
      (offset' + Text.byteLength front) refs refs' s s') :
    Reread config base css queue offset offset' refs refs' (front ++ s) (front ++ s') := by
  cases h with
  | done => exact .done offset offset' _
  | kept old new resolved rest =>
    rw [pathSpan_append] at old new
    simpa using Reread.kept old new resolved rest
  | inlined old resolved rest =>
    rw [pathSpan_append] at old rest
    simpa using Reread.inlined old resolved rest
  | relocated old new resolved leads rest =>
    rw [pathSpan_append] at old new
    simpa using Reread.relocated old new resolved leads rest

/-- A fragment, and what it was resolved to, which is read as a reference unless it was inlined. -/
inductive FragmentReread (config : Config) (base css : Path) (queue : CopyQueue) :
    Fragment → Fragment → Prop
  | char (c : Char) : FragmentReread config base css queue (.char c) (.char c)
  | foreign {o : Occurrence} (h : o.isLocal = false) :
      FragmentReread config base css queue (.url o) (.url o)
  | kept {o : Occurrence} (h : o.isLocal = true)
      (resolved : Resolution.skipped.Of config base o.path) :
      FragmentReread config base css queue (.url o) (.url o)
  | inlined {o : Occurrence} {uri : String} (h : o.isLocal = true)
      (resolved : (Resolution.inlined uri).Of config base o.path)
      (gone : (o.withPath uri.toList).isLocal = false) :
      FragmentReread config base css queue (.url o) (.url (o.withPath uri.toList))
  | relocated {o : Occurrence} {text : String} (h : o.isLocal = true)
      (resolved : (Resolution.relocated text).Of config base o.path)
      (found : (o.withPath text.toList).isLocal = true)
      (leads : LeadsBack config base css queue o.path text.toList) :
      FragmentReread config base css queue (.url o) (.url (o.withPath text.toList))

theorem path_reference (offset : Nat) (o : Occurrence) :
    (o.reference offset).path = pathSpan offset (o.keyword ++ o.lead) o.path := by
  simp [Occurrence.reference, pathSpan, Nat.add_assoc]

/-- What follows an occurrence starts behind its path and what closes it. -/
theorem add_byteLength_text (offset : Nat) (o : Occurrence) :
    offset + Text.byteLength o.text =
      (pathSpan offset (o.keyword ++ o.lead) o.path).stop + Text.byteLength o.trail := by
  simp [pathSpan, Occurrence.text, Nat.add_assoc]

theorem spell_cons_url (o : Occurrence) (fs : List Fragment) :
    Url.spell (.url o :: fs) = o.keyword ++ o.lead ++ o.path ++ (o.trail ++ Url.spell fs) := by
  simp [Url.spell_cons, Fragment.text, Occurrence.text]

/-- Fragments that are read as they were resolved are references found again. -/
theorem reread_spell {fs gs : List Fragment}
    (h : List.Forall₂ (FragmentReread config base css queue) fs gs) (offset offset' : Nat) :
    Reread config base css queue offset offset' (referencesFrom offset fs)
      (referencesFrom offset' gs) (Url.spell fs) (Url.spell gs) := by
  induction h generalizing offset offset' with
  | nil => exact .done offset offset' []
  | @cons f g fs gs hfg _ ih =>
    cases hfg with
    | char c => exact (ih (offset + c.utf8Size) (offset' + c.utf8Size)).append_left [c]
    | @foreign o hforeign =>
      have hrest := ih (offset + Text.byteLength o.text) (offset' + Text.byteLength o.text)
      rw [referencesFrom_cons_foreign hforeign, referencesFrom_cons_foreign hforeign]
      exact hrest.append_left o.text
    | @kept o hlocal resolved =>
      have hrest := ih (offset + Text.byteLength o.text) (offset' + Text.byteLength o.text)
      rw [referencesFrom_cons_local hlocal, referencesFrom_cons_local hlocal, spell_cons_url,
        spell_cons_url]
      rw [add_byteLength_text, add_byteLength_text, ← path_reference, ← path_reference] at hrest ⊢
      exact .kept (path_reference offset o) (path_reference offset' o) resolved
        (hrest.append_left o.trail)
    | @inlined o uri hlocal resolved gone =>
      have hrest := ih (offset + Text.byteLength o.text)
        (offset' + Text.byteLength (o.withPath uri.toList).text)
      rw [referencesFrom_cons_local hlocal, referencesFrom_cons_foreign gone, spell_cons_url,
        spell_cons_url]
      rw [add_byteLength_text offset, add_byteLength_text offset',
        ← path_reference offset] at hrest ⊢
      exact .inlined (path_reference offset o) resolved (hrest.append_left o.trail)
    | @relocated o text hlocal resolved found leads =>
      have hrest := ih (offset + Text.byteLength o.text)
        (offset' + Text.byteLength (o.withPath text.toList).text)
      rw [referencesFrom_cons_local hlocal, referencesFrom_cons_local found, spell_cons_url,
        spell_cons_url]
      rw [add_byteLength_text offset, add_byteLength_text offset', ← path_reference offset,
        ← path_reference offset'] at hrest ⊢
      exact .relocated (path_reference offset o) (path_reference offset' _) resolved leads
        (hrest.append_left o.trail)

/-! ### What is written into an occurrence -/

theorem isAbsolute_of_isDestination {reference : List Char} {destination : Path}
    (hanchored : config.Anchored css)
    (h : IsDestination config base reference destination) : destination.isAbsolute = true := by
  obtain @⟨category, directory, target, hash, route, -, -⟩ := h
  have hdirectory := Config.outputDir?_of_route? route
  exact Path.isAbsolute_join_of_isAbsolute _ (hanchored.output_isAbsolute _ _ hdirectory)

/-- The suffix of a reference is found again behind another path. -/
theorem splitSuffix_append {path : List Char} (hpath : ∀ c ∈ path, c ≠ '?' ∧ c ≠ '#')
    (reference : List Char) :
    Url.splitSuffix (path ++ (Url.splitSuffix reference).2) =
      (path, (Url.splitSuffix reference).2) :=
  Text.splitAt_eq (fun c hc => by simpa using hpath c hc) fun _ => Text.of_head?_splitAt

theorem exchanged_self {o : Occurrence} (h : o.Formed) : Url.Exchanged (.url o) (.url o) :=
  .url h

theorem ne_nil_of_isLocal {o : Occurrence} (h : o.isLocal = true) : o.path ≠ [] := by
  intro hnil
  rw [Occurrence.isLocal, hnil] at h
  cases h

/-- Where the path of a copy can be written, it leads back to the copy. -/
theorem leadsBack_of_carries {o : Occurrence} {destination : Path} {text : String}
    (hanchored : config.Anchored css)
    (place : IsDestination config base o.path destination)
    (refers : RefersTo config queue destination text)
    (hcarries : config.carries o (destination.relativeTo css) = true) :
    o.admits (config.written text o.path).toList = true ∧
      (o.withPath (config.written text o.path).toList).isLocal = true ∧
      LeadsBack config base css queue o.path (config.written text o.path).toList := by
  simp only [Config.carries, Bool.and_eq_true, List.all_eq_true, bne_iff_ne] at hcarries
  obtain ⟨⟨hplain, hadmits⟩, hlocal⟩ := hcarries
  have htext : text = (destination.relativeTo css).text := by
    rw [refers.text_eq hanchored.cssOutput_eq, Path.toSlash_eq fun c hc => (hplain c hc).1.1]
  rw [← htext] at hadmits hlocal hplain
  refine ⟨hadmits, hlocal, .intro place refers.asked ?_⟩
  have hstart : ∀ c ∈ (if config.slash then "./" else "").toList, c ≠ '?' ∧ c ≠ '#' := by
    cases config.slash <;> simp
  have hpath : ∀ c ∈ ((if config.slash then "./" else "") ++ text).toList, c ≠ '?' ∧ c ≠ '#' := by
    rw [String.toList_append, List.forall_mem_append]
    exact ⟨hstart, fun c hc => ⟨(hplain c hc).1.2, (hplain c hc).2⟩⟩
  rw [Config.written, String.toList_append, String.toList_ofList, splitSuffix_append hpath,
    String.ofList_toList, htext]
  exact Path.absolutize_relativeTo (isAbsolute_of_isDestination hanchored place)
    hanchored.css_isAbsolute config.slash

theorem fragmentReread_of_queued {f g : Fragment} (hanchored : config.Anchored css)
    (hformed : ∀ o, f = .url o → o.Formed)
    (hcarried : ∀ o, f = .url o → o.isLocal = true → ∀ destination,
      IsDestination config base o.path destination →
        config.carries o (destination.relativeTo css) = true)
    (h : FragmentQueued config base queue f g) :
    FragmentReread config base css queue f g ∧ Url.Exchanged f g := by
  cases h with
  | char c => exact ⟨.char c, .char c⟩
  | @foreign o hforeign => exact ⟨.foreign hforeign, exchanged_self (hformed o rfl)⟩
  | @reference o resolution hlocal resolved queued =>
    have ho := hformed o rfl
    cases queued with
    | skipped => exact ⟨.kept hlocal resolved, exchanged_self ho⟩
    | inlined target bytes =>
      -- The scheme `data:` is what takes the reference away.
      have hscheme := target.hasScheme_dataUri bytes
      have hne : (target.dataUri bytes).toList ≠ [] := by
        intro hnil
        rw [hnil] at hscheme
        cases hscheme
      refine ⟨.inlined hlocal resolved ?_, .url (ho.withPath hne ?_)⟩
      · rw [Occurrence.isLocal, Occurrence.withPath, hscheme, Bool.not_true, Bool.and_false]
      · exact ho.admits_of_isPlain (target.isPlain_of_mem_dataUri bytes)
    | relocated place refers =>
      obtain ⟨hadmits, hfound, hleads⟩ := leadsBack_of_carries hanchored place refers
        (hcarried o rfl hlocal _ place)
      exact ⟨.relocated hlocal resolved hfound hleads,
        .url (ho.withPath (ne_nil_of_isLocal hfound) hadmits)⟩

/-- A value that was rewritten has, when it is read again, each relocated reference where it was
written, and there it leads back to the copy. -/
theorem reread_rewriteValue {value new : String} {stats : RewriteStats} {w w' : CopyQueue × Session}
    (hanchored : config.Anchored css) (hcarried : Carried config base css value)
    (hquotes : Url.quotesRead none (Url.fragments none value.toList) = true)
    (h : (rewriteValue config base value).exec w = (.ok (new, stats), w')) :
    Reread config base css w'.1 0 0 (Url.references value.toList) (Url.references new.toList)
      value.toList new.toList := by
  obtain ⟨-, gs, rfl, hqueued⟩ := exec_rewriteValue h
  have hfragments : List.Forall₂
      (fun f g => FragmentReread config base css w'.1 f g ∧ Url.Exchanged f g)
      (Url.fragments none value.toList) gs := by
    refine ((List.forall₂_and_left _ _).2 ⟨fun f hf => hf, hqueued⟩).imp fun f g hfg => ?_
    refine fragmentReread_of_queued hanchored ?_ ?_ hfg.2
    · rintro o rfl
      exact Url.formed_of_mem_fragments hfg.1
    · rintro o rfl
      exact hcarried o hfg.1
  have hread : Url.fragments none (Url.spell gs) = gs :=
    Url.fragments_exchanged (hfragments.imp fun _ _ => And.right) hquotes
  have hspelled := reread_spell (hfragments.imp fun _ _ => And.left) 0 0
  rw [Url.spell_fragments] at hspelled
  have hreferences : Url.references (Url.spell gs) = referencesFrom 0 gs := by
    rw [Url.references, hread]
    rfl
  rw [String.toList_ofList, hreferences]
  exact hspelled

/-- Without a hash there is one place for the copy, which bears the name of the file. -/
theorem IsDestination.eq_join {reference : List Char} {destination directory : Path}
    {category : Category} (h : IsDestination config base reference destination)
    (hhash : config.hash = false)
    (hroute : config.route? (String.ofList (Url.splitSuffix reference).1) =
      some (category, directory)) :
    destination = directory.join
      ⟨(Path.absolutize ⟨String.ofList (Url.splitSuffix reference).1⟩ base).fileName?.getD ""⟩ := by
  obtain @⟨category', directory', target, hash, route, found, named⟩ := h
  obtain ⟨-, rfl⟩ := Prod.mk.inj (Option.some.inj (route.symm.trans hroute))
  obtain rfl : hash = none := by simpa [hhash] using named
  rw [← found.path_eq]
  rfl

/-- Every image is copied into a directory beside that of the stylesheets. -/
def besideSheets : Config :=
  { imageOutput := some ⟨"/site/images"⟩, cssOutput := some ⟨"/site/css"⟩, limit := 0,
    imagePattern := ⟨"", .empty⟩, fontPattern := ⟨"", .empty⟩, workDir := ⟨"/site"⟩ }

def siteDisk : Disk where
  entries := [(["site", "x.png"], .file ⟨#[1]⟩), (["site"], .directory)]

def twoReferences : String := "url(x.png#a), url( 'x.png' )"

theorem anchored_besideSheets : besideSheets.Anchored ⟨"/site/css"⟩ := by
  refine ⟨rfl, by decide, fun category directory hdirectory => ?_⟩
  cases category with
  | image =>
    cases hdirectory
    decide
  | font => cases hdirectory
  | unsupported => cases hdirectory

theorem fragments_twoReferences :
    Url.fragments none twoReferences.toList =
      [.url ⟨"url(".toList, [], "x.png#a".toList, [')'], false⟩, .char ',', .char ' ',
        .url ⟨"url(".toList, " '".toList, "x.png".toList, "' )".toList, true⟩] := by
  decide +kernel

theorem carried_besideSheets :
    Carried besideSheets ⟨"/site"⟩ ⟨"/site/css"⟩ twoReferences := by
  have hroute : besideSheets.route? "x.png" = some (.image, ⟨"/site/images"⟩) := by
    decide +kernel
  intro o ho _ destination hdestination
  rw [fragments_twoReferences] at ho
  simp only [List.mem_cons, List.not_mem_nil, or_false, reduceCtorEq, false_or,
    Fragment.url.injEq] at ho
  rcases ho with rfl | rfl
  · obtain rfl := hdestination.eq_join rfl hroute
    decide +kernel
  · obtain rfl := hdestination.eq_join rfl hroute
    decide +kernel

theorem reread_rewriteValue_besideSheets :
    ∃ new w',
      (rewriteValue besideSheets ⟨"/site"⟩ twoReferences).exec ({}, ⟨siteDisk, #[]⟩) =
        (.ok (new, ⟨0, 2, 0⟩), w') ∧
      w'.1.destinations = [⟨"/site/images/x.png"⟩] ∧
      new = "url(../images/x.png#a), url( '../images/x.png' )" ∧
      Reread besideSheets ⟨"/site"⟩ ⟨"/site/css"⟩ w'.1 0 0 (Url.references twoReferences.toList)
        (Url.references new.toList) twoReferences.toList new.toList := by
  have hanswer : ((rewriteValue besideSheets ⟨"/site"⟩ twoReferences).exec
      ({}, ⟨siteDisk, #[]⟩)).1 =
        .ok ("url(../images/x.png#a), url( '../images/x.png' )", ⟨0, 2, 0⟩) := by
    decide +kernel
  have hdestinations : ((rewriteValue besideSheets ⟨"/site"⟩ twoReferences).exec
      ({}, ⟨siteDisk, #[]⟩)).2.1.destinations = [⟨"/site/images/x.png"⟩] := by
    decide +kernel
  have hquotes : Url.quotesRead none (Url.fragments none twoReferences.toList) = true := by
    rw [fragments_twoReferences]
    decide
  generalize hrun : (rewriteValue besideSheets ⟨"/site"⟩ twoReferences).exec
      ({}, ⟨siteDisk, #[]⟩) = r at hanswer hdestinations
  obtain ⟨answer, w'⟩ := r
  obtain rfl : answer = _ := hanswer
  exact ⟨_, w', rfl, hdestinations, rfl,
    reread_rewriteValue anchored_besideSheets carried_besideSheets hquotes hrun⟩

end StylesheetAssets
