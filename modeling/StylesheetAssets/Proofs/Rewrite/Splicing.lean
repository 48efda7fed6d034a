import StylesheetAssets.Proofs.Rewrite.Resolving
import StylesheetAssets.Url.Reference

/-!
A rewritten value against the value it was: the paths of references, found by their offsets in
bytes, are exchanged, and every other character stays in its place.
-/
namespace StylesheetAssets

open Url (Fragment Occurrence Reference)

def RewriteStats.total (s : RewriteStats) : Nat := s.inlined + s.copied + s.skipped

theorem RewriteStats.total_merge (a b : RewriteStats) :
    (a.merge b).total = a.total + b.total := by
  simp only [total, merge]
  omega

namespace Resolution

/-- What stands where the path of a reference stood. -/
def newText (resolution : Resolution) (path : List Char) : List Char :=
  (resolution.text?.map String.toList).getD path

theorem total_stats (resolution : Resolution) : resolution.stats.total = 1 := by
  cases resolution <;> rfl

end Resolution

/-- A text from the given offset on, before and after its references were resolved against `base`.
The text in front of each path and behind the last is the same in both. -/
inductive Spliced (config : Config) (base : Path) :
    Nat → List Reference → List Resolution → List Char → List Char → Prop
  | done (offset : Nat) (s : List Char) : Spliced config base offset [] [] s s
  | next {offset : Nat} {r : Reference} {refs : List Reference} {resolution : Resolution}
      {resolutions : List Resolution} {before path after after' : List Char}
      (start : r.path.start = offset + Text.byteLength before)
      (stop : r.path.stop = r.path.start + Text.byteLength path)
      (resolved : resolution.Of config base path)
      (rest : Spliced config base r.path.stop refs resolutions after after') :
      Spliced config base offset (r :: refs) (resolution :: resolutions)
        (before ++ path ++ after) (before ++ resolution.newText path ++ after')

/-- `new` is `old` with every reference resolved that has somewhere to go. -/
def FullyRewritten (config : Config) (base : Path) (old new : String) : Prop :=
  ∃ resolutions, Spliced config base 0 (Url.references old.toList) resolutions old.toList new.toList

variable {config : Config} {base : Path}

/-- Text without references in front of a text. -/
theorem Spliced.append_left {offset : Nat} {refs : List Reference} {resolutions : List Resolution}
    {s s' : List Char} (before : List Char)
    (h : Spliced config base (offset + Text.byteLength before) refs resolutions s s') :
    Spliced config base offset refs resolutions (before ++ s) (before ++ s') := by
  cases h with
  | done => exact .done offset _
  | @next _ _ _ _ _ front path after after' start stop resolved rest =>
    have hstart := start
    rw [Nat.add_assoc, ← Text.byteLength_append] at hstart
    simpa using Spliced.next hstart stop resolved rest

/-- The references among fragments that start at an offset. -/
def referencesFrom (offset : Nat) (fs : List Fragment) : List Reference :=
  (Url.locate offset fs).filterMap fun (start, o) =>
    if o.isLocal then some (o.reference start) else none

theorem referencesFrom_cons_local {o : Occurrence} (h : o.isLocal = true) (offset : Nat)
    (fs : List Fragment) :
    referencesFrom offset (.url o :: fs) =
      o.reference offset :: referencesFrom (offset + Text.byteLength o.text) fs := by
  simp [referencesFrom, Url.locate, h]

theorem referencesFrom_cons_foreign {o : Occurrence} (h : o.isLocal = false) (offset : Nat)
    (fs : List Fragment) :
    referencesFrom offset (.url o :: fs) = referencesFrom (offset + Text.byteLength o.text) fs := by
  simp [referencesFrom, Url.locate, h]

inductive FragmentResolved (config : Config) (base : Path) :
    Fragment → Fragment × RewriteStats → Prop
  | char (c : Char) : FragmentResolved config base (.char c) (.char c, {})
  | foreign {o : Occurrence} (h : o.isLocal = false) :
      FragmentResolved config base (.url o) (.url o, {})
  | reference {o : Occurrence} {resolution : Resolution} (h : o.isLocal = true)
      (resolved : resolution.Of config base o.path) :
      FragmentResolved config base (.url o)
        (.url (o.withPath (resolution.newText o.path)), resolution.stats)

theorem gives_resolveFragment (config : Config) (base : Path) (f : Fragment) :
    (resolveFragment config base f).Gives (FragmentResolved config base f) := by
  cases f with
  | char c => exact Copying.gives_pure (.char c)
  | url o =>
    unfold resolveFragment
    dsimp only
    by_cases hlocal : o.isLocal = true
    · rw [if_pos hlocal]
      refine (gives_resolveReference config base o.path).bind fun resolution hresolved => ?_
      have hdone := FragmentResolved.reference hlocal hresolved
      cases resolution with
      | skipped => exact Copying.gives_pure hdone
      | inlined uri => exact Copying.gives_pure hdone
      | relocated reference => exact Copying.gives_pure hdone
    · rw [if_neg hlocal]
      exact Copying.gives_pure (.foreign (by simpa using hlocal))

/-- Resolving fragments one by one splices the text that they spell. -/
theorem spliced_spell {fs : List Fragment} {rs : List (Fragment × RewriteStats)}
    (h : List.Forall₂ (FragmentResolved config base) fs rs) (offset : Nat) :
    ∃ resolutions, Spliced config base offset (referencesFrom offset fs) resolutions
      (Url.spell fs) (Url.spell (rs.map (·.1))) := by
  induction h generalizing offset with
  | nil => exact ⟨[], .done offset []⟩
  | @cons f r fs rs hr _ ih =>
    cases hr with
    | char c =>
      obtain ⟨resolutions, hrest⟩ := ih (offset + c.utf8Size)
      exact ⟨resolutions, hrest.append_left [c]⟩
    | @foreign o hforeign =>
      obtain ⟨resolutions, hrest⟩ := ih (offset + Text.byteLength o.text)
      rw [referencesFrom_cons_foreign hforeign]
      exact ⟨resolutions, hrest.append_left o.text⟩
    | @reference o resolution hlocal hresolved =>
      obtain ⟨resolutions, hrest⟩ := ih (offset + Text.byteLength o.text)
      have hstop : (o.reference offset).path.stop + Text.byteLength o.trail =
          offset + Text.byteLength o.text := by
        simp only [Occurrence.reference, Occurrence.text, Text.byteLength_append]
        omega
      rw [referencesFrom_cons_local hlocal]
      rw [← hstop] at hrest ⊢
      have hstart : (o.reference offset).path.start =
          offset + Text.byteLength (o.keyword ++ o.lead) := by
        simp [Occurrence.reference, Nat.add_assoc]
      have hnext := Spliced.next hstart rfl hresolved (hrest.append_left o.trail)
      refine ⟨resolution :: resolutions, ?_⟩
      simpa [Url.spell, Fragment.text, Occurrence.text, Occurrence.withPath] using hnext

/-- Each reference is counted once. -/
theorem total_foldl_merge {fs : List Fragment} {rs : List (Fragment × RewriteStats)}
    (h : List.Forall₂ (FragmentResolved config base) fs rs) (offset : Nat) (s : RewriteStats) :
    (rs.foldl (fun stats r => stats.merge r.2) s).total =
      s.total + (referencesFrom offset fs).length := by
  induction h generalizing offset s with
  | nil => rfl
  | @cons f r fs rs hr _ ih =>
    cases hr with
    | char c =>
      rw [List.foldl_cons, ih (offset + c.utf8Size), RewriteStats.total_merge]
      rfl
    | @foreign o hforeign =>
      rw [List.foldl_cons, ih (offset + Text.byteLength o.text), RewriteStats.total_merge,
        referencesFrom_cons_foreign hforeign]
      rfl
    | @reference o resolution hlocal _ =>
      rw [List.foldl_cons, ih (offset + Text.byteLength o.text), RewriteStats.total_merge,
        Resolution.total_stats, referencesFrom_cons_local hlocal, List.length_cons]
      omega

/-- A value whose rewriting succeeds is fully rewritten, and each of its references is counted. -/
theorem gives_rewriteValue (config : Config) (base : Path) (value : String) :
    (rewriteValue config base value).Gives fun r =>
      FullyRewritten config base value r.1 ∧
        r.2.total = (Url.references value.toList).length := by
  unfold rewriteValue
  dsimp only
  refine (Copying.gives_liftM _).bind fun _ _ => ?_
  refine (Copying.Gives.mapM fun f _ => gives_resolveFragment config base f).bind fun rs hrs => ?_
  apply Copying.gives_pure
  obtain ⟨resolutions, hspliced⟩ := spliced_spell hrs 0
  rw [Url.spell_fragments] at hspliced
  refine ⟨⟨resolutions, by rwa [String.toList_ofList]⟩, ?_⟩
  rw [total_foldl_merge hrs 0]
  exact Nat.zero_add _

end StylesheetAssets
