import StylesheetAssets.Proofs.Asset.Payload
import StylesheetAssets.Proofs.Rewrite.Confinement

/-!
What becomes of a reference, and what has happened to the queue and the disk by then, also where
the resolver fails on the way.
-/
namespace StylesheetAssets

open Copying
open Url (Fragment)

/-! ### References and their suffixes -/

/-- A reference cut in front of its first `?` or `#`. -/
structure Url.Cut (reference file suffix : List Char) : Prop where
  append : file ++ suffix = reference
  file : ∀ c ∈ file, c ≠ '?' ∧ c ≠ '#'
  suffix : ∀ c ∈ suffix.head?, c = '?' ∨ c = '#'

theorem Url.cut_splitSuffix (reference : List Char) :
    Url.Cut reference (Url.splitSuffix reference).1 (Url.splitSuffix reference).2 := by
  refine ⟨Text.splitAt_append _ reference, fun c hc => ?_, fun c hc => ?_⟩
  · simpa using List.mem_takeWhile_imp hc
  · simpa using Text.of_head?_splitAt hc

/-- There is one such cut. -/
theorem Url.Cut.splitSuffix_eq {reference file suffix : List Char}
    (h : Url.Cut reference file suffix) : Url.splitSuffix reference = (file, suffix) := by
  rw [← h.append]
  exact Text.splitAt_eq (fun c hc => by simpa using h.file c hc) fun c hc => by
    simpa using h.suffix c hc

/-! ### Steps with all their outcomes -/

structure Undisturbed (w w' : CopyQueue × Session) : Prop where
  queue : w'.1 = w.1
  disk : w'.2.disk = w.2.disk

variable {config : Config} {base directory : Path} {target : AssetTarget}
  {w w' w'' : CopyQueue × Session}

theorem Undisturbed.trans (h : Undisturbed w w') (h' : Undisturbed w' w'') : Undisturbed w w'' :=
  ⟨h'.queue.trans h.queue, h'.disk.trans h.disk⟩

theorem exec_detail (topic text : String) (w : CopyQueue × Session) :
    ∃ w', (liftM (Session.detail topic text) : Copying Unit).exec w = (.ok (), w') ∧
      Undisturbed w w' :=
  ⟨_, rfl, rfl, rfl⟩

theorem exec_find (path : Path) (w : CopyQueue × Session) :
    ∃ w', (ofSession (AssetTarget.resolve path)).exec w =
        (((w.2.disk.size path).map (AssetTarget.found path)).mapError (.asset path), w') ∧
      Undisturbed w w' := by
  have hrun : (ofSession (AssetTarget.resolve path)).exec w =
      ((AssetTarget.resolve path w.2).1, w.1, (AssetTarget.resolve path w.2).2) := rfl
  rw [hrun, run_resolve]
  exact ⟨_, rfl, rfl, rfl⟩

theorem exec_readTarget (target : AssetTarget) (w : CopyQueue × Session) :
    ∃ w', (ofSession target.read).exec w =
        ((w.2.disk.readFile target.path).mapError (.asset target.path), w') ∧ Undisturbed w w' :=
  ⟨_, rfl, rfl, rfl⟩

theorem exec_makeDirectories (directory : Path) (w : CopyQueue × Session) :
    ∃ w', (liftM (Session.createDirectories directory) : Copying (Except DiskError Unit)).exec w =
        (.ok (w.2.disk.createDirectories directory).1, w') ∧
      w'.1 = w.1 ∧ w'.2.disk = (w.2.disk.createDirectories directory).2 :=
  ⟨_, rfl, rfl, rfl⟩

theorem exec_refer (config : Config) (destination : Path) (w : CopyQueue × Session) :
    ∃ w', (liftM (Session.noting (referencePath destination config.cssOutput config.workDir)) :
        Copying String).exec w = (.ok (config.referenceTo destination), w') ∧ Undisturbed w w' := by
  refine ⟨_, Prod.ext ?_ rfl, rfl, rfl⟩
  exact congrArg Except.ok (referencePath_fst destination w.2.journal)

/-! ### Relocating -/

/-- The directory was made, or was there, and nothing was copied. -/
structure MadeDirectory (directory : Path) (w w' : CopyQueue × Session) : Prop where
  made : w.2.disk.createDirectories directory = (.ok (), w'.2.disk)
  queue : w'.1 = w.1

/-- The bytes that the name of a copy holds the hash of. -/
structure NamedBy (config : Config) (target : AssetTarget) (disk : Disk)
    (content? : Option ByteArray) : Prop where
  hashed : content?.isSome = config.hash
  read : ∀ bytes ∈ content?, disk.readFile target.path = .ok bytes

/-- Every way in which relocating can end. The disk is left with the directory as far as it could be
made, and the queue is as it was until the copy is asked for. -/
inductive Relocated (config : Config) (target : AssetTarget) (directory : Path)
    (w : CopyQueue × Session) : Except RewriteError String × CopyQueue × Session → Prop
  | blocked {cause : DiskError} {w' : CopyQueue × Session}
      (refused : w.2.disk.createDirectories directory = (.error cause, w'.2.disk))
      (queue : w'.1 = w.1) :
      Relocated config target directory w (.error (.outputDirectory directory cause), w')
  | unread {cause : DiskError} {w' : CopyQueue × Session} (made : MadeDirectory directory w w')
      (hash : config.hash = true) (refused : w'.2.disk.readFile target.path = .error cause) :
      Relocated config target directory w (.error (.asset target.path cause), w')
  | asked {content? : Option ByteArray} {r : Except RewriteError Unit}
      {w₁ w₂ w' : CopyQueue × Session} (made : MadeDirectory directory w w₁)
      (named : NamedBy config target w₁.2.disk content?)
      (asked : (CopyQueue.request target.path
        (directory.join ⟨target.outputName (content?.map .ofBytes)⟩)).exec w₁ = (r, w₂))
      (same : Undisturbed w₂ w') :
      Relocated config target directory w
        (r.map fun _ =>
          config.referenceTo (directory.join ⟨target.outputName (content?.map .ofBytes)⟩), w')

theorem MadeDirectory.undisturbed (h : MadeDirectory directory w w') (hsame : Undisturbed w' w'') :
    MadeDirectory directory w w'' :=
  ⟨by rw [hsame.disk]; exact h.made, hsame.queue.trans h.queue⟩

/-- Both ways to the name of a copy end in the same request. -/
theorem relocated_deliver {content? : Option ByteArray} (made : MadeDirectory directory w w')
    (named : NamedBy config target w'.2.disk content?) :
    Relocated config target directory w
      ((deliver config target directory (content?.map .ofBytes)).exec w') := by
  unfold deliver
  dsimp only
  obtain ⟨w₁, hdetail, hnoted⟩ := exec_detail "copy" s!"{target.path.text} -> {(directory.join
    ⟨target.outputName (content?.map .ofBytes)⟩).text}" w'
  have hmade := made.undisturbed hnoted
  rw [← hnoted.disk] at named
  rw [exec_bind, hdetail]
  dsimp only
  rw [exec_bind]
  cases hasked : (CopyQueue.request target.path
      (directory.join ⟨target.outputName (content?.map .ofBytes)⟩)).exec w₁ with
  | mk r w₂ =>
    cases r with
    | error e => exact .asked hmade named hasked ⟨rfl, rfl⟩
    | ok u =>
      obtain ⟨w₃, hrefer, hsame⟩ := exec_refer config
        (directory.join ⟨target.outputName (content?.map .ofBytes)⟩) w₂
      dsimp only
      rw [hrefer]
      exact .asked hmade named hasked hsame

theorem relocated_relocate (config : Config) (target : AssetTarget) (directory : Path)
    (w : CopyQueue × Session) :
    Relocated config target directory w ((relocate config target directory).exec w) := by
  unfold relocate
  obtain ⟨w₁, hmake, hqueue, hdisk⟩ := exec_makeDirectories directory w
  rw [exec_bind, hmake]
  dsimp only
  cases hcreated : (w.2.disk.createDirectories directory).1 with
  | error cause => exact .blocked (Prod.ext hcreated hdisk.symm) hqueue
  | ok =>
    have hmade : MadeDirectory directory w w₁ := ⟨Prod.ext hcreated hdisk.symm, hqueue⟩
    dsimp only
    by_cases hhash : config.hash = true
    · rw [if_pos hhash, exec_bind]
      obtain ⟨w₂, hread, hsame⟩ := exec_readTarget target w₁
      rw [hread]
      cases hbytes : w₁.2.disk.readFile target.path with
      | error cause => exact .unread (hmade.undisturbed hsame) hhash (by rw [hsame.disk, hbytes])
      | ok bytes =>
        have hnamed : NamedBy config target w₂.2.disk (some bytes) := by
          refine ⟨hhash.symm, ?_⟩
          rintro _ ⟨⟩
          rw [hsame.disk, hbytes]
        have hdone := relocated_deliver (hmade.undisturbed hsame) hnamed
        exact hdone
    · rw [if_neg hhash]
      have hnamed : NamedBy config target w₁.2.disk none :=
        ⟨(eq_false_of_ne_true hhash).symm, nofun⟩
      have hdone := relocated_deliver hmade hnamed
      exact hdone

theorem Relocated.of_undisturbed {r : Except RewriteError String × CopyQueue × Session}
    (h : Relocated config target directory w' r) (hsame : Undisturbed w w') :
    Relocated config target directory w r := by
  have hmade {w₁ : CopyQueue × Session} (h : MadeDirectory directory w' w₁) :
      MadeDirectory directory w w₁ :=
    ⟨by rw [← hsame.disk]; exact h.made, h.queue.trans hsame.queue⟩
  cases h with
  | blocked refused queue =>
    rw [hsame.disk] at refused
    exact .blocked refused (queue.trans hsame.queue)
  | unread made hash refused => exact .unread (hmade made) hash refused
  | asked made named asked same => exact .asked (hmade made) named asked same

/-- A directory that was made on the way to a path. -/
theorem Disk.get?_of_createDirectories {d : Disk} {p : Path} {l : Location}
    (h : (d.createDirectories p).2.get? l = some .directory) :
    d.get? l = some .directory ∨ d.get? l = none ∧ ∃ q ∈ Disk.ancestors p, d.placeOf q = l := by
  cases hold : d.get? l with
  | some e =>
    have hkept := (Disk.extends_createDirectories d p).kept hold
    exact .inl (hkept.symm.trans h)
  | none =>
    refine .inr ⟨rfl, ?_⟩
    by_contra hnone
    have hsame : (d.createDirectories p).2.get? l = d.get? l :=
      Disk.get?_createAll d fun q hq hplace => hnone ⟨q, hq, hplace⟩
    rw [hsame, hold] at h
    cases h

/-- A request for a copy makes no directory. -/
theorem CopyQueue.directory_of_request {source destination : Path} {u : Unit} {l : Location}
    (h : (CopyQueue.request source destination).exec w = (.ok u, w'))
    (hl : w'.2.disk.get? l = some .directory) : w.2.disk.get? l = some .directory := by
  rcases CopyQueue.request_cases h with ⟨rfl, -⟩ | ⟨-, -, outcome, -, -, -, -, hcopy⟩
  · exact hl
  · have hdisk : w'.2.disk = (w.2.disk.copyFile source destination).2 := by rw [hcopy]
    rw [hdisk] at hl
    exact Disk.get?_of_copyFile_directory hl

/-- What relocating leaves behind: the directory is there, nothing but it and what was missing above
it was made, and a copy was asked for under the name of the file. -/
structure Placed (config : Config) (target : AssetTarget) (directory : Path)
    (w w' : CopyQueue × Session) (text : String) : Prop where
  reaches : w'.2.disk.Reaches directory
  directories : ∀ l, w'.2.disk.get? l = some .directory → w.2.disk.get? l = some .directory ∨
    w.2.disk.get? l = none ∧ ∃ p ∈ Disk.ancestors directory, w.2.disk.placeOf p = l
  asked : ∃ (content? : Option ByteArray) (w₁ w₂ : CopyQueue × Session),
    MadeDirectory directory w w₁ ∧ NamedBy config target w₁.2.disk content? ∧
      (CopyQueue.request target.path
        (directory.join ⟨target.outputName (content?.map .ofBytes)⟩)).exec w₁ = (.ok (), w₂) ∧
      Undisturbed w₂ w' ∧
      text = config.referenceTo (directory.join ⟨target.outputName (content?.map .ofBytes)⟩)

theorem Relocated.placed {text : String}
    (h : Relocated config target directory w (.ok text, w')) :
    Placed config target directory w w' text := by
  generalize hr : (Except.ok text, w') = r at h
  cases h with
  | blocked => cases hr
  | unread => cases hr
  | @asked content? r w₁ w₂ w' made named asked same =>
    cases r with
    | error e => cases hr
    | ok u =>
      cases hr
      have hadvances := (CopyQueue.exec_request asked).1
      refine ⟨?_, fun l hl => ?_, content?, w₁, w₂, made, named, asked, same, rfl⟩
      · have hmade := Disk.reaches_of_createDirectories made.made
        rw [same.disk]
        exact hmade.later hadvances.workDir hadvances.directories
      · rw [same.disk] at hl
        have hafter := CopyQueue.directory_of_request asked hl
        apply Disk.get?_of_createDirectories
        rw [made.made]
        exact hafter

/-! ### Deciding -/

/-- Every way in which resolving can end, for a reference that is cut into a path and a suffix. -/
inductive Decided (config : Config) (base : Path) (file suffix : List Char)
    (w : CopyQueue × Session) : Except RewriteError Resolution × CopyQueue × Session → Prop
  | skipped {w' : CopyQueue × Session} (unrouted : config.route? (String.ofList file) = none)
      (same : Undisturbed w w') : Decided config base file suffix w (.ok .skipped, w')
  | unfound {routed : Category × Path} {cause : DiskError} {w' : CopyQueue × Session}
      (route : config.route? (String.ofList file) = some routed)
      (refused : w.2.disk.size (Path.absolutize ⟨String.ofList file⟩ base) = .error cause)
      (same : Undisturbed w w') :
      Decided config base file suffix w
        (.error (.asset (Path.absolutize ⟨String.ofList file⟩ base) cause), w')
  | small {routed : Category × Path} {size : Nat} {target : AssetTarget}
      {w' : CopyQueue × Session} (route : config.route? (String.ofList file) = some routed)
      (found : w.2.disk.size target.path = .ok size)
      (target_eq : target = .found (Path.absolutize ⟨String.ofList file⟩ base) size)
      (fits : size ≤ config.limit) (same : Undisturbed w w') :
      Decided config base file suffix w
        (((w.2.disk.readFile target.path).map fun bytes =>
          .inlined (target.dataUri bytes)).mapError (.asset target.path), w')
  | large {routed : Category × Path} {size : Nat} {target : AssetTarget}
      {r : Except RewriteError String} {w' : CopyQueue × Session}
      (route : config.route? (String.ofList file) = some routed)
      (found : w.2.disk.size target.path = .ok size)
      (target_eq : target = .found (Path.absolutize ⟨String.ofList file⟩ base) size)
      (exceeds : config.limit < size) (relocated : Relocated config target routed.2 w (r, w')) :
      Decided config base file suffix w
        (r.map fun text => .relocated
          ((if config.slash then "./" else "") ++ text ++ String.ofList suffix), w')

section Found

variable {file suffix : List Char} {routed : Category × Path} {size : Nat}

/-- A file within the limit is read. -/
theorem decided_inline (note : String) (route : config.route? (String.ofList file) = some routed)
    (found : w.2.disk.size target.path = .ok size)
    (target_eq : target = .found (Path.absolutize ⟨String.ofList file⟩ base) size)
    (fits : size ≤ config.limit) (same : Undisturbed w w') :
    Decided config base file suffix w ((do
      let bytes ← ofSession target.read
      liftM (Session.detail "inline" note)
      return .inlined (target.dataUri bytes) : Copying Resolution).exec w') := by
  obtain ⟨w₁, hread, hread_same⟩ := exec_readTarget target w'
  have hdone {w₂ : CopyQueue × Session} (hsame : Undisturbed w w₂) :
      Decided config base file suffix w
        (((w.2.disk.readFile target.path).map fun bytes =>
          .inlined (target.dataUri bytes)).mapError (.asset target.path), w₂) :=
    .small route found target_eq fits hsame
  rw [exec_bind, hread, same.disk]
  cases hbytes : w.2.disk.readFile target.path with
  | error cause =>
    rw [hbytes] at hdone
    exact hdone (same.trans hread_same)
  | ok bytes =>
    obtain ⟨w₂, hdetail, hnoted⟩ := exec_detail "inline" note w₁
    rw [hbytes] at hdone
    dsimp only [Except.mapError]
    rw [exec_bind, hdetail]
    exact hdone (same.trans (hread_same.trans hnoted))

/-- A file beyond the limit is relocated. -/
theorem decided_copy (note : String) (route : config.route? (String.ofList file) = some routed)
    (found : w.2.disk.size target.path = .ok size)
    (target_eq : target = .found (Path.absolutize ⟨String.ofList file⟩ base) size)
    (exceeds : config.limit < size) (same : Undisturbed w w') :
    Decided config base file suffix w ((do
      liftM (Session.detail "copy" note)
      let path ← relocate config target routed.2
      let start := if config.slash then "./" else ""
      return .relocated (start ++ path ++ String.ofList suffix) : Copying Resolution).exec w') := by
  obtain ⟨w₁, hdetail, hnoted⟩ := exec_detail "copy" note w'
  have hrelocated := (relocated_relocate config target routed.2 w₁).of_undisturbed
    (same.trans hnoted)
  rw [exec_bind, hdetail]
  dsimp only
  rw [exec_bind]
  cases hmoved : (relocate config target routed.2).exec w₁ with
  | mk r w₂ =>
    rw [hmoved] at hrelocated
    have hdone : Decided config base file suffix w
        (r.map fun text => .relocated ((if config.slash then "./" else "") ++ text ++
          String.ofList suffix), w₂) :=
      .large route found target_eq exceeds hrelocated
    cases r <;> exact hdone

end Found

theorem decided_resolveReference (config : Config) (base : Path) (reference : List Char)
    (w : CopyQueue × Session) :
    Decided config base (Url.splitSuffix reference).1 (Url.splitSuffix reference).2 w
      ((resolveReference config base reference).exec w) := by
  unfold resolveReference
  dsimp only
  cases hroute : config.route? (String.ofList (Url.splitSuffix reference).1) with
  | none =>
    obtain ⟨w₁, hdetail, hsame⟩ := exec_detail "skip" s!"{String.ofList reference} (no output for {(
      config.categoryOf (String.ofList (Url.splitSuffix reference).1)).name})" w
    dsimp only
    rw [exec_bind, hdetail]
    exact .skipped hroute hsame
  | some routed =>
    obtain ⟨w₁, hfind, hfound⟩ :=
      exec_find (Path.absolutize ⟨String.ofList (Url.splitSuffix reference).1⟩ base) w
    dsimp only
    rw [exec_bind, hfind]
    cases hsize :
        w.2.disk.size (Path.absolutize ⟨String.ofList (Url.splitSuffix reference).1⟩ base) with
    | error cause => exact .unfound hroute hsize hfound
    | ok size =>
      dsimp only [Except.map, Except.mapError]
      split
      · next hfits => exact decided_inline _ hroute hsize rfl hfits hfound
      · next hexceeds => exact decided_copy _ hroute hsize rfl (Nat.lt_of_not_le hexceeds) hfound

namespace Decided

variable {file suffix : List Char} {answer : Except RewriteError Resolution}
  {routed : Category × Path} {path : Path} {size : Nat} {cause : DiskError}

theorem unrouted (h : Decided config base file suffix w (answer, w'))
    (hroute : config.route? (String.ofList file) = none) :
    answer = .ok .skipped ∧ Undisturbed w w' := by
  cases h with
  | skipped _ same => exact ⟨rfl, same⟩
  | unfound route => cases hroute.symm.trans route
  | small route => cases hroute.symm.trans route
  | large route => cases hroute.symm.trans route

theorem missing (h : Decided config base file suffix w (answer, w'))
    (hroute : config.route? (String.ofList file) = some routed)
    (hpath : path = Path.absolutize ⟨String.ofList file⟩ base)
    (hsize : w.2.disk.size path = .error cause) :
    answer = .error (.asset path cause) ∧ Undisturbed w w' := by
  subst hpath
  cases h with
  | skipped unrouted => cases hroute.symm.trans unrouted
  | unfound _ refused same =>
    cases hsize.symm.trans refused
    exact ⟨rfl, same⟩
  | small _ found target_eq =>
    subst target_eq
    cases hsize.symm.trans found
  | large _ found target_eq =>
    subst target_eq
    cases hsize.symm.trans found

theorem inlined (h : Decided config base file suffix w (answer, w'))
    (hroute : config.route? (String.ofList file) = some routed)
    (hpath : path = Path.absolutize ⟨String.ofList file⟩ base)
    (hsize : w.2.disk.size path = .ok size) (hfits : size ≤ config.limit) :
    answer = ((w.2.disk.readFile path).map fun bytes =>
        .inlined ((AssetTarget.found path size).dataUri bytes)).mapError (.asset path) ∧
      Undisturbed w w' := by
  subst hpath
  cases h with
  | skipped unrouted => cases hroute.symm.trans unrouted
  | unfound _ refused => cases hsize.symm.trans refused
  | small _ found target_eq _ same =>
    subst target_eq
    cases hsize.symm.trans found
    exact ⟨rfl, same⟩
  | large _ found target_eq exceeds =>
    subst target_eq
    cases hsize.symm.trans found
    exact absurd hfits (Nat.not_le_of_lt exceeds)

theorem placed {resolution : Resolution}
    (h : Decided config base file suffix w (.ok resolution, w'))
    (hroute : config.route? (String.ofList file) = some routed)
    (hpath : path = Path.absolutize ⟨String.ofList file⟩ base)
    (hsize : w.2.disk.size path = .ok size) (hexceeds : config.limit < size) :
    ∃ text, Placed config (.found path size) routed.2 w w' text ∧
      resolution = .relocated
        ((if config.slash then "./" else "") ++ text ++ String.ofList suffix) := by
  subst hpath
  generalize hr : (Except.ok resolution, w') = r at h
  cases h with
  | skipped unrouted => cases hroute.symm.trans unrouted
  | unfound _ refused => cases hsize.symm.trans refused
  | small _ found target_eq fits =>
    subst target_eq
    cases hsize.symm.trans found
    exact absurd fits (Nat.not_le_of_lt hexceeds)
  | @large routed' size' target r w' route found target_eq _ relocated =>
    subst target_eq
    cases hsize.symm.trans found
    cases hroute.symm.trans route
    cases r with
    | error e => cases hr
    | ok text =>
      cases hr
      exact ⟨text, relocated.placed, rfl⟩

end Decided

/-- What a reference gets, by where its path leads and by the size of the file there. -/
structure Disposed (config : Config) (base : Path) (file suffix : List Char)
    (w : CopyQueue × Session) (answer : Except RewriteError Resolution)
    (w' : CopyQueue × Session) : Prop where
  /-- A path without an output directory for its kind stays as it is. -/
  unrouted : config.route? (String.ofList file) = none →
    answer = .ok .skipped ∧ Undisturbed w w'
  missing : ∀ routed path cause, config.route? (String.ofList file) = some routed →
    path = Path.absolutize ⟨String.ofList file⟩ base → w.2.disk.size path = .error cause →
    answer = .error (.asset path cause) ∧ Undisturbed w w'
  /-- A file within the limit is read, and its bytes take the place of the reference. -/
  small : ∀ routed path size, config.route? (String.ofList file) = some routed →
    path = Path.absolutize ⟨String.ofList file⟩ base → w.2.disk.size path = .ok size →
    size ≤ config.limit →
    Undisturbed w w' ∧
      (∀ cause, w.2.disk.readFile path = .error cause → answer = .error (.asset path cause)) ∧
      ∀ bytes, w.2.disk.readFile path = .ok bytes →
        ∃ payload, Base64.decode? payload = some bytes ∧
          answer = .ok (.inlined ("data:" ++
            MediaType.ofExtension (path.extension?.map Text.lowerAscii) ++ ";base64," ++ payload))
  /-- For a file beyond the limit the reference leads to a copy, and keeps its suffix. -/
  large : ∀ category directory path size resolution,
    config.route? (String.ofList file) = some (category, directory) →
    path = Path.absolutize ⟨String.ofList file⟩ base → w.2.disk.size path = .ok size →
    config.limit < size → answer = .ok resolution →
    ∃ text, Placed config (.found path size) directory w w' text ∧
      resolution = .relocated ((if config.slash then "./" else "") ++ text ++ String.ofList suffix)

theorem Decided.disposed {file suffix : List Char} {answer : Except RewriteError Resolution}
    (h : Decided config base file suffix w (answer, w')) :
    Disposed config base file suffix w answer w' where
  unrouted := h.unrouted
  missing _ _ _ hroute hpath := h.missing hroute hpath
  small routed path size hroute hpath hsize hfits := by
    obtain ⟨rfl, hsame⟩ := h.inlined hroute hpath hsize hfits
    refine ⟨hsame, fun cause hcause => ?_, fun bytes hbytes => ?_⟩
    · rw [hcause]
      rfl
    · rw [hbytes]
      exact ⟨Base64.encode bytes, Base64.decode?_encode bytes, rfl⟩
  large _ _ _ _ _ hroute hpath hsize hexceeds hanswer := by
    subst hanswer
    exact h.placed hroute hpath hsize hexceeds

/-! ### Counting -/

/-- The path of a fragment that is a reference. -/
def Url.Fragment.localPath? : Fragment → Option (List Char)
  | .url o => if o.isLocal then some o.path else none
  | .char _ => none

/-- The paths of the references of a value, in order. -/
def Url.localPaths (value : String) : List (List Char) :=
  (Url.fragments none value.toList).filterMap Url.Fragment.localPath?

/-- The counts behind a value whose references are resolved one after the other: each resolution is
counted, unless a reference fails. The counts of a pass that fails are seen by nobody, those of the
references in front of the failure included. -/
inductive Counted (config : Config) (base : Path) (value : String) (counts : RewriteStats)
    (w : CopyQueue × Session) :
    Except RewriteError String × RewriteStats × CopyQueue × Session → Prop
  | failed {e : RewriteError} {w₁ w' : CopyQueue × Session} (same : Undisturbed w w₁)
      (resolved : ((Url.localPaths value).mapM (resolveReference config base)).exec w₁ =
        (.error e, w')) :
      Counted config base value counts w (.error e, counts, w')
  | rewritten {resolutions : List Resolution} {w₁ w' : CopyQueue × Session} (new : String)
      (same : Undisturbed w w₁)
      (resolved : ((Url.localPaths value).mapM (resolveReference config base)).exec w₁ =
        (.ok resolutions, w')) :
      Counted config base value counts w
        (.ok new, counts.merge (resolutions.foldl (fun stats r => stats.merge r.stats) {}), w')

/-- Fragments and references that were resolved alike, with the same counts. -/
inductive CountedAlike :
    Except RewriteError (List (Fragment × RewriteStats)) × CopyQueue × Session →
    Except RewriteError (List Resolution) × CopyQueue × Session → Prop
  | failed (e : RewriteError) (w : CopyQueue × Session) : CountedAlike (.error e, w) (.error e, w)
  | counted {rs : List (Fragment × RewriteStats)} {resolutions : List Resolution}
      {w : CopyQueue × Session}
      (counts : ∀ s : RewriteStats, rs.foldl (fun stats r => stats.merge r.2) s =
        resolutions.foldl (fun stats r => stats.merge r.stats) s) :
      CountedAlike (.ok rs, w) (.ok resolutions, w)

theorem exec_resolveFragment_of_isLocal {o : Url.Occurrence} (h : o.isLocal = true)
    (w : CopyQueue × Session) :
    (resolveFragment config base (.url o)).exec w =
      (((resolveReference config base o.path).exec w).1.map fun resolution =>
          (.url (o.withPath (resolution.newText o.path)), resolution.stats),
        ((resolveReference config base o.path).exec w).2) := by
  unfold resolveFragment
  dsimp only
  rw [if_pos h, exec_bind]
  cases (resolveReference config base o.path).exec w with
  | mk r w₁ =>
    cases r with
    | error e => rfl
    | ok resolution => cases resolution <;> rfl

theorem exec_resolveFragment_of_foreign {o : Url.Occurrence} (h : o.isLocal = false)
    (w : CopyQueue × Session) :
    (resolveFragment config base (.url o)).exec w = (.ok (.url o, {}), w) := by
  unfold resolveFragment
  dsimp only
  rw [h]
  rfl

/-- A fragment that is no reference counts for nothing. -/
theorem CountedAlike.cons_idle {f g : Fragment} {fs : List Fragment} {w : CopyQueue × Session}
    {y : Except RewriteError (List Resolution) × CopyQueue × Session}
    (hf : (resolveFragment config base f).exec w = (.ok (g, {}), w))
    (h : CountedAlike ((fs.mapM (resolveFragment config base)).exec w) y) :
    CountedAlike (((f :: fs).mapM (resolveFragment config base)).exec w) y := by
  rw [List.mapM_cons, exec_bind, hf]
  dsimp only
  rw [exec_bind]
  generalize (fs.mapM (resolveFragment config base)).exec w = x at h ⊢
  cases h with
  | failed e w => exact .failed e w
  | counted counts => exact .counted fun s => counts s

theorem countedAlike_mapM (config : Config) (base : Path) (fs : List Fragment)
    (w : CopyQueue × Session) :
    CountedAlike ((fs.mapM (resolveFragment config base)).exec w)
      (((fs.filterMap Url.Fragment.localPath?).mapM (resolveReference config base)).exec w) := by
  induction fs generalizing w with
  | nil => exact .counted fun _ => rfl
  | cons f fs ih =>
    cases f with
    | char c => exact .cons_idle rfl (ih w)
    | url o =>
      by_cases hlocal : o.isLocal = true
      · have hpath : (Fragment.url o).localPath? = some o.path := by
          rw [Url.Fragment.localPath?, if_pos hlocal]
        rw [List.filterMap_cons_some hpath, List.mapM_cons, List.mapM_cons, exec_bind, exec_bind,
          exec_resolveFragment_of_isLocal hlocal]
        cases (resolveReference config base o.path).exec w with
        | mk r w₁ =>
          cases r with
          | error e => exact .failed e w₁
          | ok resolution =>
            have hrest := ih w₁
            dsimp only [Except.map]
            rw [exec_bind, exec_bind]
            generalize (fs.mapM (resolveFragment config base)).exec w₁ = x at hrest ⊢
            generalize ((fs.filterMap Url.Fragment.localPath?).mapM
              (resolveReference config base)).exec w₁ = y at hrest ⊢
            cases hrest with
            | failed e w => exact .failed e w
            | counted counts => exact .counted fun s => counts (s.merge resolution.stats)
      · have hpath : (Fragment.url o).localPath? = none := by
          rw [Url.Fragment.localPath?, if_neg hlocal]
        rw [List.filterMap_cons_none hpath]
        exact .cons_idle (exec_resolveFragment_of_foreign (by simpa using hlocal) w) (ih w)

theorem counted_visitValue (config : Config) (base : Path) (value : String)
    (w : RewriteStats × CopyQueue × Session) :
    Counted config base value w.1 w.2 ((visitValue config base value).exec w) := by
  obtain ⟨w₁, hnote, hsame⟩ : ∃ w₁, (liftM (noteForeign (Url.fragments none value.toList)) :
      Copying Unit).exec w.2 = (.ok (), w₁) ∧ Undisturbed w.2 w₁ :=
    ⟨_, rfl, rfl, disk_noteForeign _ _⟩
  have halike := countedAlike_mapM config base (Url.fragments none value.toList) w₁
  generalize hpaths : (((Url.fragments none value.toList).filterMap
    Url.Fragment.localPath?).mapM (resolveReference config base)).exec w₁ = y at halike
  unfold visitValue
  rw [Rewriting.exec_bind, Rewriting.exec_liftM]
  unfold rewriteValue
  dsimp only
  rw [exec_bind, hnote]
  dsimp only
  rw [exec_bind]
  generalize ((Url.fragments none value.toList).mapM (resolveFragment config base)).exec w₁ = x
    at halike ⊢
  cases halike with
  | failed e w' => exact .failed hsame hpaths
  | @counted rs resolutions w' counts =>
    have hdone : Counted config base value w.1 w.2
        (.ok (String.ofList (Url.spell (rs.map (·.1)))), w.1.merge _, w') :=
      .rewritten _ hsame hpaths
    rwa [← counts] at hdone

/-- Where a reference leads and the size of its file decide what becomes of it: it stays, its file
takes its place, or the path of a copy does. Each answer comes with what has changed by then, and
answers are what is counted. -/
theorem resolveReference_disposed (config : Config) (base : Path) (reference : List Char)
    (w : CopyQueue × Session) :
    (∃ file suffix, Url.Cut reference file suffix ∧
      Disposed config base file suffix w ((resolveReference config base reference).exec w).1
        ((resolveReference config base reference).exec w).2) ∧
      ∀ (value : String) (counts : RewriteStats),
        Counted config base value counts w ((visitValue config base value).exec (counts, w)) := by
  have hdecided := decided_resolveReference config base reference w
  refine ⟨⟨_, _, Url.cut_splitSuffix reference, hdecided.disposed⟩, ?_⟩
  intro value counts
  exact counted_visitValue config base value (counts, w)

/-- An image beyond the limit, whose reference has a query and a fragment. -/
theorem resolveReference_disposed_oneImage :
    let config := { imagesOnly with limit := 0, hash := true, slash := true }
    let w : CopyQueue × Session := ({}, ⟨oneImage, #[]⟩)
    ∃ w' text, (resolveReference config ⟨"/site/lib"⟩ "../lib/x.png?v#a".toList).exec w =
        (.ok (.relocated ("./" ++ text ++ "?v#a")), w') ∧
      Placed config (.found ⟨"/site/lib/x.png"⟩ 1) ⟨"/site/images"⟩ w w' text := by
  intro config w
  obtain ⟨⟨file, suffix, hcut, hdisposed⟩, -⟩ :=
    resolveReference_disposed config ⟨"/site/lib"⟩ "../lib/x.png?v#a".toList w
  have hsplit : Url.splitSuffix "../lib/x.png?v#a".toList =
      ("../lib/x.png".toList, "?v#a".toList) := by decide +kernel
  obtain ⟨rfl, rfl⟩ := Prod.mk.inj (hcut.splitSuffix_eq.symm.trans hsplit)
  cases hrun : (resolveReference config ⟨"/site/lib"⟩ "../lib/x.png?v#a".toList).exec w with
  | mk answer w' =>
    rw [hrun] at hdisposed
    obtain ⟨resolution, rfl⟩ : ∃ resolution, answer = .ok resolution := by
      have hok : ((resolveReference config ⟨"/site/lib"⟩
          "../lib/x.png?v#a".toList).exec w).1.isOk = true := by decide +kernel
      rw [hrun] at hok
      cases answer with
      | error e => cases hok
      | ok resolution => exact ⟨resolution, rfl⟩
    obtain ⟨text, hplaced, rfl⟩ := hdisposed.large .image ⟨"/site/images"⟩ ⟨"/site/lib/x.png"⟩ 1
      resolution (by decide +kernel) (by decide +kernel) (by decide +kernel) (by decide) rfl
    exact ⟨w', text, rfl, hplaced⟩

end StylesheetAssets
