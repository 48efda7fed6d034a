import StylesheetAssets.Proofs.Rewrite.Orders

/-!
What resolving references leaves behind: copies in the queue, each for a reference that was
relocated, and a disk that has changed only where they were made.
-/
namespace StylesheetAssets

open Url (Fragment Occurrence)

variable {config : Config} {base : Path} {w w' : CopyQueue × Session}

/-- A text by which a stylesheet refers to a copy that the queue was asked for. -/
structure RefersTo (config : Config) (queue : CopyQueue) (destination : Path) (text : String) :
    Prop where
  asked : ∃ q ∈ queue.destinations, q.same destination = true
  text_eq : ∀ {css : Path}, config.cssOutput = some css →
    text = (destination.relativeTo css).toSlash

/-- A place that a reference may have its file copied to. -/
inductive IsDestination (config : Config) (base : Path) (reference : List Char) : Path → Prop
  | intro {category : Category} {directory : Path} {target : AssetTarget}
      {hash : Option Digest.ContentHash}
      (route : config.route? (String.ofList (Url.splitSuffix reference).1) =
        some (category, directory))
      (found : IsTarget (Path.absolutize ⟨String.ofList (Url.splitSuffix reference).1⟩ base) target)
      (named : hash.isSome = config.hash) :
      IsDestination config base reference (directory.join ⟨target.outputName hash⟩)

/-- What the resolver answers, against the queue behind it: a relocated reference starts from the
directory of the stylesheet and keeps its suffix. -/
inductive Resolution.Queued (config : Config) (base : Path) (queue : CopyQueue)
    (reference : List Char) : Resolution → Prop
  | skipped : Queued config base queue reference .skipped
  | inlined (target : AssetTarget) (bytes : ByteArray) :
      Queued config base queue reference (.inlined (target.dataUri bytes))
  | relocated {destination : Path} {text : String}
      (place : IsDestination config base reference destination)
      (refers : RefersTo config queue destination text) :
      Queued config base queue reference (.relocated (config.written text reference))

/-- What was ordered is in the queue. -/
theorem Course.queued {orders : List (Order config)} {reference : List Char}
    {resolution : Resolution} (h : Course config w orders w')
    (hordered : resolution.Ordered config base orders reference) :
    resolution.Queued config base w'.1 reference := by
  cases hordered with
  | skipped => exact .skipped
  | inlined target bytes => exact .inlined target bytes
  | @relocated category o route path_eq mem =>
    have hfound : IsTarget (assetPath base reference) o.target :=
      ⟨path_eq, path_eq ▸ o.extension_eq⟩
    refine .relocated (.intro route hfound ?_) ⟨h.asked o mem, fun hcss => ?_⟩
    · rw [Option.isSome_map, o.hashed]
    · rw [Config.referenceTo, hcss]
      rfl

/-- A fragment and what it was resolved to, against the queue behind it. -/
inductive FragmentQueued (config : Config) (base : Path) (queue : CopyQueue) :
    Fragment → Fragment → Prop
  | char (c : Char) : FragmentQueued config base queue (.char c) (.char c)
  | foreign {o : Occurrence} (h : o.isLocal = false) :
      FragmentQueued config base queue (.url o) (.url o)
  | reference {o : Occurrence} {resolution : Resolution} (h : o.isLocal = true)
      (resolved : resolution.Of config base o.path)
      (queued : resolution.Queued config base queue o.path) :
      FragmentQueued config base queue (.url o) (.url (o.withPath (resolution.newText o.path)))

theorem Course.fragmentQueued {orders : List (Order config)} {f g : Fragment}
    (h : Course config w orders w')
    (hfg : FragmentAnswered (OrderedAnswer config base orders) f g) :
    FragmentQueued config base w'.1 f g := by
  cases hfg with
  | char c => exact .char c
  | foreign hforeign => exact .foreign hforeign
  | reference hlocal answer => exact .reference hlocal answer.1 (h.queued answer.2)

theorem exec_rewriteValue {value new : String} {stats : RewriteStats}
    (h : (rewriteValue config base value).exec w = (.ok (new, stats), w')) :
    Advances w w' ∧ ∃ fs, new = String.ofList (Url.spell fs) ∧
      List.Forall₂ (FragmentQueued config base w'.1) (Url.fragments none value.toList) fs := by
  obtain ⟨orders, hcourse, ⟨fs, hnew, hfs⟩, -⟩ := course_rewriteValue h
  exact ⟨hcourse.advances, fs, hnew, hfs.imp fun _ _ => hcourse.fragmentQueued⟩

end StylesheetAssets
