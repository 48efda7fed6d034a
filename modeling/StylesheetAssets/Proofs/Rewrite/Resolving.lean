import StylesheetAssets.Proofs.Rewrite.Running

/-!
What the resolver of references answers, and that it fails only where the disk refuses.
-/
namespace StylesheetAssets

open Copying

theorem isSome_cause_of_mapError {α : Type} {r : Except DiskError α}
    {f : DiskError → RewriteError} {e : RewriteError} (hf : ∀ c, (f c).cause?.isSome)
    (h : r.mapError f = .error e) : e.cause?.isSome := by
  cases r with
  | ok a => cases h
  | error c =>
    cases h
    exact hf c

theorem gives_read (t : AssetTarget) : (Copying.ofSession t.read).Gives fun _ => True := by
  apply gives_ofSession
  intro s e h
  exact isSome_cause_of_mapError (r := ((Session.readFile t.path) s).1) (fun _ => rfl) h

/-- A file as it is found. -/
def AssetTarget.found (path : Path) (size : Nat) : AssetTarget :=
  ⟨path, size, path.extension?.getD ""⟩

theorem run_resolve (path : Path) (s : Session) :
    AssetTarget.resolve path s =
      (((s.disk.size path).map (AssetTarget.found path)).mapError (.asset path),
        (Session.size path s).2) := by
  have hbind (f : Except DiskError Nat → StateM Session (Except RewriteError AssetTarget)) :
      (Session.size path >>= f) s = f (s.disk.size path) (Session.size path s).2 := rfl
  rw [AssetTarget.resolve, hbind]
  cases s.disk.size path <;> rfl

theorem exists_found_of_resolve {path : Path} {s : Session} {target : AssetTarget}
    (h : (AssetTarget.resolve path s).1 = .ok target) :
    ∃ size, target = AssetTarget.found path size := by
  rw [run_resolve] at h
  cases hsize : s.disk.size path with
  | error cause =>
    rw [hsize] at h
    cases h
  | ok size =>
    rw [hsize] at h
    cases h
    exact ⟨size, rfl⟩

theorem gives_resolve (p : Path) :
    (Copying.ofSession (AssetTarget.resolve p)).Gives fun _ => True := by
  apply gives_ofSession
  intro s e h
  rw [run_resolve] at h
  exact isSome_cause_of_mapError (fun _ => rfl) h

namespace CopyQueue

theorem gives_claim (source destination : Path) :
    (claim source destination).Gives fun _ => True := by
  unfold claim
  refine Gives.bind (P := fun _ => True) ⟨fun _ => trivial⟩ fun q _ => ?_
  refine Gives.bind (P := fun _ => True) ⟨fun _ => trivial⟩ fun _ _ => ?_
  split
  · exact ⟨fun _ => trivial⟩
  · exact ⟨fun _ => trivial⟩

theorem gives_settle (copy : Copy) (place : Nat) : (settle copy place).Gives fun _ => True := by
  unfold settle
  refine Gives.bind (P := fun _ => True) ⟨fun _ => trivial⟩ fun _ _ => ?_
  split
  · exact gives_pure trivial
  · next e he => exact gives_throw (isSome_cause_of_mapError (fun _ => rfl) he)

theorem gives_start (source destination : Path) :
    (start source destination).Gives fun _ => True := ⟨fun _ => trivial⟩

theorem gives_request (source destination : Path) :
    (request source destination).Gives fun _ => True := by
  unfold request
  refine Gives.bind (P := fun _ => True) ⟨fun _ => trivial⟩ fun q _ => ?_
  split
  · split
    · refine (gives_claim _ _).bind fun _ _ => ?_
      exact (gives_settle _ _).bind fun _ _ => gives_start _ _
    · exact gives_pure trivial
  · exact (gives_claim _ _).bind fun _ _ => gives_start _ _

end CopyQueue

/-- What is left of relocating once the directory is there and the name of the copy is known. -/
def deliver (config : Config) (target : AssetTarget) (directory : Path)
    (hash : Option Digest.ContentHash) : Copying String := do
  let destination := directory.join ⟨target.outputName hash⟩
  Session.detail "copy" s!"{target.path.text} -> {destination.text}"
  CopyQueue.request target.path destination
  Session.noting (referencePath destination config.cssOutput config.workDir)

theorem gives_deliver (config : Config) (target : AssetTarget) (directory : Path)
    (hash : Option Digest.ContentHash) :
    (deliver config target directory hash).Gives fun _ => True := by
  unfold deliver
  refine (gives_liftM _).bind fun _ _ => ?_
  exact (CopyQueue.gives_request _ _).bind fun _ _ => gives_liftM _

theorem gives_relocate (config : Config) (target : AssetTarget) (directory : Path) :
    (relocate config target directory).Gives fun _ => True := by
  unfold relocate
  refine Gives.bind (P := fun _ => True) ⟨fun _ => trivial⟩ fun created _ => ?_
  dsimp only
  cases created with
  | error cause => exact (gives_throw (P := fun _ => False) rfl).bind fun _ h => h.elim
  | ok =>
    dsimp only
    by_cases hhash : config.hash = true
    · rw [if_pos hhash]
      exact (gives_read target).bind fun bytes _ => gives_deliver config target directory _
    · rw [if_neg hhash]
      exact gives_deliver config target directory none

/-- Only a kind of assets with an output directory is routed, and to that directory. -/
theorem Config.outputDir?_of_route? {config : Config} {path : String} {category : Category}
    {directory : Path} (h : config.route? path = some (category, directory)) :
    config.outputDir? category = some directory := by
  obtain ⟨dir, hdir, heq⟩ := Option.map_eq_some_iff.1 h
  cases heq
  exact hdir

/-- An answer of the resolver to the path of a reference. It leaves the reference alone exactly if
there is no output directory for its kind. -/
structure Resolution.Of (config : Config) (base : Path) (path : List Char)
    (resolution : Resolution) : Prop where
  answered : ∃ w w', (resolveReference config base path).exec w = (.ok resolution, w')
  skipped_iff :
    resolution = .skipped ↔ config.route? (String.ofList (Url.splitSuffix path).1) = none

theorem gives_skipped_iff (config : Config) (base : Path) (path : List Char) :
    (resolveReference config base path).Gives fun resolution =>
      resolution = .skipped ↔ config.route? (String.ofList (Url.splitSuffix path).1) = none := by
  unfold resolveReference
  dsimp only
  cases hroute : config.route? (String.ofList (Url.splitSuffix path).1) with
  | none =>
    dsimp only
    exact (gives_liftM _).bind fun _ _ => gives_pure (by simp)
  | some routed =>
    dsimp only
    refine (gives_resolve _).bind fun target _ => ?_
    by_cases hsize : target.size ≤ config.limit
    · rw [if_pos hsize]
      refine (gives_read target).bind fun bytes _ => ?_
      exact (gives_liftM _).bind fun _ _ => gives_pure (by simp)
    · rw [if_neg hsize]
      refine (gives_liftM _).bind fun _ _ => (gives_relocate _ _ _).bind fun path _ => ?_
      exact gives_pure (by simp)

theorem gives_resolveReference (config : Config) (base : Path) (path : List Char) :
    (resolveReference config base path).Gives (Resolution.Of config base path) :=
  (gives_skipped_iff config base path).answered.mono fun _ h => ⟨h.2, h.1⟩

end StylesheetAssets
