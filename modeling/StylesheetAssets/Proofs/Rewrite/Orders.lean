import StylesheetAssets.Proofs.Copy.Advancing
import StylesheetAssets.Proofs.Rewrite.Splicing

/-!
A pass as a sequence of orders for copies, one for each reference that it relocates. Between two
orders it only makes directories.
-/
namespace StylesheetAssets

open Copying
open Url (Fragment Occurrence)

/-- What relocating a reference asks of the queue. -/
structure Order (config : Config) where
  directory : Path
  target : AssetTarget
  /-- What the file held when its copy was named, where names hold a hash. -/
  content? : Option ByteArray
  extension_eq : target.extension = target.path.extension?.getD ""
  hashed : content?.isSome = config.hash

def Order.destination {config : Config} (o : Order config) : Path :=
  o.directory.join ⟨o.target.outputName (o.content?.map .ofBytes)⟩

/-- A stretch of a pass, with its orders in turn. -/
inductive Course (config : Config) :
    CopyQueue × Session → List (Order config) → CopyQueue × Session → Prop
  | quiet {w w' : CopyQueue × Session} (copies : w'.1.copies = w.1.copies)
      (disk : w.2.disk.Extends w'.2.disk) : Course config w [] w'
  | order {w w' : CopyQueue × Session} (o : Order config)
      (read : ∀ bytes ∈ o.content?, w.2.disk.readFile o.target.path = .ok bytes)
      (asked : (CopyQueue.request o.target.path o.destination).exec w = (.ok (), w')) :
      Course config w [o] w'
  | append {w w' w'' : CopyQueue × Session} {orders orders' : List (Order config)}
      (first : Course config w orders w') (rest : Course config w' orders' w'') :
      Course config w (orders ++ orders') w''

variable {config : Config} {base : Path} {w w' w'' : CopyQueue × Session}
  {orders orders' : List (Order config)}

namespace Course

theorem refl (w : CopyQueue × Session) : Course config w [] w := .quiet rfl (.refl _)

theorem of_eq (queue : w'.1 = w.1) (disk : w'.2.disk = w.2.disk) : Course config w [] w' :=
  .quiet (congrArg CopyQueue.copies queue) (disk ▸ Disk.Extends.refl _)

theorem before (h : Course config w [] w') (h' : Course config w' orders w'') :
    Course config w orders w'' := .append h h'

theorem after (h : Course config w orders w') (h' : Course config w' [] w'') :
    Course config w orders w'' := by
  simpa using Course.append h h'

theorem advances (h : Course config w orders w') : Advances w w' := by
  induction h with
  | quiet copies disk => exact .of_extends copies disk
  | order o read asked => exact (CopyQueue.exec_request asked).1
  | append _ _ ih ih' => exact ih.trans ih'

/-- The queue knows of every order in the end. -/
theorem asked (h : Course config w orders w') :
    ∀ o ∈ orders, ∃ q ∈ w'.1.destinations, q.same o.destination = true := by
  induction h with
  | quiet => simp
  | order o read asked => simpa using (CopyQueue.exec_request asked).2
  | append _ rest ih ih' =>
    intro o ho
    rcases List.mem_append.1 ho with ho | ho
    · obtain ⟨p, hp, hsame⟩ := ih o ho
      obtain ⟨q, hq, hqp⟩ := rest.advances.asked p hp
      exact ⟨q, hq, same_trans hqp hsame⟩
    · exact ih' o ho

end Course

/-! ### What the steps of a pass order -/

theorem course_liftM {α : Type} {x : StateM Session α} {a : α}
    (hdisk : (x w.2).2.disk = w.2.disk) (h : (liftM x : Copying α).exec w = (.ok a, w')) :
    Course config w [] w' := by
  cases h
  exact .of_eq rfl hdisk

theorem course_ofSession {α : Type} {x : StateM Session (Except RewriteError α)} {a : α}
    (hdisk : (x w.2).2.disk = w.2.disk) (h : (ofSession x).exec w = (.ok a, w')) :
    Course config w [] w' := by
  obtain rfl : (w.1, (x w.2).2) = w' := congrArg Prod.snd h
  exact .of_eq rfl hdisk

/-- A file found at a path. -/
structure IsTarget (path : Path) (target : AssetTarget) : Prop where
  path_eq : target.path = path
  extension_eq : target.extension = path.extension?.getD ""

theorem exec_resolve {path : Path} {target : AssetTarget}
    (h : (ofSession (AssetTarget.resolve path)).exec w = (.ok target, w')) :
    w'.1 = w.1 ∧ w'.2.disk = w.2.disk ∧ IsTarget path target := by
  have hrun : (ofSession (AssetTarget.resolve path)).exec w =
      ((AssetTarget.resolve path w.2).1, w.1, (AssetTarget.resolve path w.2).2) := rfl
  rw [hrun] at h
  obtain ⟨hok, rfl⟩ := Prod.mk.inj h
  obtain ⟨size, rfl⟩ := exists_found_of_resolve hok
  refine ⟨rfl, ?_, rfl, rfl⟩
  rw [run_resolve]
  rfl

/-- Reading a file finds what is on the disk and leaves it there. -/
theorem exec_read {target : AssetTarget} {bytes : ByteArray}
    (h : (ofSession target.read).exec w = (.ok bytes, w')) :
    w'.1 = w.1 ∧ w'.2.disk = w.2.disk ∧ w'.2.disk.readFile target.path = .ok bytes := by
  have hrun : (ofSession target.read).exec w =
      ((w.2.disk.readFile target.path).mapError (.asset target.path), w.1,
        (target.read w.2).2) := rfl
  rw [hrun] at h
  cases hread : w.2.disk.readFile target.path with
  | error e =>
    rw [hread] at h
    cases h
  | ok bytes' =>
    rw [hread] at h
    cases h
    exact ⟨rfl, rfl, hread⟩

/-- The path by which a stylesheet refers to a copy. -/
def Config.referenceTo (config : Config) (destination : Path) : String :=
  (referencePath destination config.cssOutput config.workDir #[]).1

/-- What was noted before does not matter to that path. -/
theorem referencePath_fst (destination : Path) (journal : Journal) :
    (referencePath destination config.cssOutput config.workDir journal).1 =
      config.referenceTo destination := by
  unfold Config.referenceTo referencePath
  cases config.cssOutput <;> rfl

theorem exec_referencePath {destination : Path} {text : String}
    (h : (liftM (Session.noting (referencePath destination config.cssOutput config.workDir)) :
      Copying String).exec w = (.ok text, w')) :
    Course config w [] w' ∧ text = config.referenceTo destination := by
  refine ⟨course_liftM rfl h, ?_⟩
  cases h
  exact referencePath_fst destination w.2.journal

/-- Delivering is one order, and the answer is the path of its copy. -/
theorem exec_deliver {o : Order config} {text : String}
    (hread : ∀ bytes ∈ o.content?, w.2.disk.readFile o.target.path = .ok bytes)
    (h : (deliver config o.target o.directory (o.content?.map .ofBytes)).exec w =
      (.ok text, w')) :
    Course config w [o] w' ∧ text = config.referenceTo o.destination := by
  unfold deliver at h
  obtain ⟨_, w₁, hdetail, h⟩ := exec_bind_eq_ok.1 h
  obtain ⟨_, w₂, hrequest, h⟩ := exec_bind_eq_ok.1 h
  obtain ⟨hnoted, htext⟩ := exec_referencePath h
  have hdisk : w₁.2.disk = w.2.disk := by
    cases hdetail
    rfl
  refine ⟨(course_liftM rfl hdetail).before (.after (.order o ?_ hrequest) hnoted), htext⟩
  rwa [hdisk]

/-- Relocating is one order, and the answer is the path of its copy. -/
theorem exec_relocate {target : AssetTarget} {directory : Path} {text : String}
    (hextension : target.extension = target.path.extension?.getD "")
    (h : (relocate config target directory).exec w = (.ok text, w')) :
    ∃ o : Order config, o.directory = directory ∧ o.target = target ∧
      Course config w [o] w' ∧ text = config.referenceTo o.destination := by
  unfold relocate at h
  obtain ⟨created, w₁, h₁, h⟩ := exec_bind_eq_ok.1 h
  have hcreated : Course config w [] w₁ := by
    cases h₁
    exact .quiet rfl (Disk.extends_createDirectories _ _)
  dsimp only at h
  cases created with
  | error cause =>
    obtain ⟨_, _, h₂, _⟩ := exec_bind_eq_ok.1 h
    cases h₂
  | ok =>
    dsimp only at h
    by_cases hhash : config.hash = true
    · rw [if_pos hhash] at h
      obtain ⟨bytes, w₂, hread, h⟩ := exec_bind_eq_ok.1 h
      obtain ⟨hqueue, hdisk, hbytes⟩ := exec_read hread
      let o : Order config := ⟨directory, target, some bytes, hextension, hhash.symm⟩
      obtain ⟨hcourse, htext⟩ := exec_deliver (o := o) (by simpa [o] using hbytes) h
      have hquiet : Course config w₁ [] w₂ := .of_eq hqueue hdisk
      exact ⟨o, rfl, rfl, hcreated.before (hquiet.before hcourse), htext⟩
    · rw [if_neg hhash] at h
      let o : Order config :=
        ⟨directory, target, none, hextension, (eq_false_of_ne_true hhash).symm⟩
      obtain ⟨hcourse, htext⟩ := exec_deliver (o := o) (by simp [o]) h
      exact ⟨o, rfl, rfl, hcreated.before hcourse, htext⟩

/-- The file that a reference leads to from a directory. -/
def assetPath (base : Path) (reference : List Char) : Path :=
  Path.absolutize ⟨String.ofList (Url.splitSuffix reference).1⟩ base

/-- How the path to a copy is written in the place of a reference, whose suffix it keeps. -/
def Config.written (config : Config) (path : String) (reference : List Char) : String :=
  (if config.slash then "./" else "") ++ path ++ String.ofList (Url.splitSuffix reference).2

/-- What the resolver answers, against the orders made: a relocated reference is answered by the
path of a copy that was ordered. -/
inductive Resolution.Ordered (config : Config) (base : Path) (orders : List (Order config))
    (reference : List Char) : Resolution → Prop
  | skipped : Ordered config base orders reference .skipped
  | inlined (target : AssetTarget) (bytes : ByteArray) :
      Ordered config base orders reference (.inlined (target.dataUri bytes))
  | relocated {category : Category} {o : Order config}
      (route : config.route? (String.ofList (Url.splitSuffix reference).1) =
        some (category, o.directory))
      (path_eq : o.target.path = assetPath base reference) (mem : o ∈ orders) :
      Ordered config base orders reference
        (.relocated (config.written (config.referenceTo o.destination) reference))

theorem Resolution.Ordered.mono {reference : List Char} {resolution : Resolution}
    (h : resolution.Ordered config base orders reference) (hsub : orders ⊆ orders') :
    resolution.Ordered config base orders' reference := by
  cases h with
  | skipped => exact .skipped
  | inlined target bytes => exact .inlined target bytes
  | relocated route path_eq mem => exact .relocated route path_eq (hsub mem)

/-- The file of a reference, if there is an output directory for its kind. -/
def Config.asset? (config : Config) (base : Path) (reference : List Char) : Option Path :=
  if (config.route? (String.ofList (Url.splitSuffix reference).1)).isSome then
    some (assetPath base reference)
  else none

theorem exec_resolveReference {reference : List Char} {resolution : Resolution}
    (h : (resolveReference config base reference).exec w = (.ok resolution, w')) :
    ∃ orders, Course config w orders w' ∧ resolution.Ordered config base orders reference ∧
      ∀ o ∈ orders, o.target.path ∈ config.asset? base reference := by
  unfold resolveReference at h
  dsimp only at h
  cases hroute : config.route? (String.ofList (Url.splitSuffix reference).1) with
  | none =>
    rw [hroute] at h
    obtain ⟨_, w₁, hdetail, h⟩ := exec_bind_eq_ok.1 h
    cases h
    exact ⟨[], course_liftM rfl hdetail, .skipped, by simp⟩
  | some routed =>
    rw [hroute] at h
    obtain ⟨target, w₁, hresolve, h⟩ := exec_bind_eq_ok.1 h
    obtain ⟨hqueue, hdisk, htarget⟩ := exec_resolve hresolve
    have hfound : Course config w [] w₁ := .of_eq hqueue hdisk
    by_cases hsize : target.size ≤ config.limit
    · rw [if_pos hsize] at h
      obtain ⟨bytes, w₂, hread, h⟩ := exec_bind_eq_ok.1 h
      obtain ⟨_, w₃, hdetail, h⟩ := exec_bind_eq_ok.1 h
      cases h
      exact ⟨[], hfound.before ((course_ofSession rfl hread).before (course_liftM rfl hdetail)),
        .inlined target bytes, by simp⟩
    · rw [if_neg hsize] at h
      obtain ⟨_, w₂, hdetail, h⟩ := exec_bind_eq_ok.1 h
      obtain ⟨text, w₃, hrelocate, h⟩ := exec_bind_eq_ok.1 h
      cases h
      have hextension : target.extension = target.path.extension?.getD "" := by
        rw [htarget.path_eq, htarget.extension_eq]
      obtain ⟨o, hdirectory, rfl, hcourse, rfl⟩ := exec_relocate hextension hrelocate
      have hpath : o.target.path = assetPath base reference := htarget.path_eq
      refine ⟨[o], hfound.before ((course_liftM rfl hdetail).before hcourse),
        .relocated (by rw [hroute, hdirectory]) hpath (by simp), ?_⟩
      simp [Config.asset?, hroute, hpath]

/-- A fragment, and the same with the answer to its reference in the place of the path. -/
inductive FragmentAnswered (answers : List Char → Resolution → Prop) : Fragment → Fragment → Prop
  | char (c : Char) : FragmentAnswered answers (.char c) (.char c)
  | foreign {o : Occurrence} (h : o.isLocal = false) :
      FragmentAnswered answers (.url o) (.url o)
  | reference {o : Occurrence} {resolution : Resolution} (h : o.isLocal = true)
      (answer : answers o.path resolution) :
      FragmentAnswered answers (.url o) (.url (o.withPath (resolution.newText o.path)))

theorem FragmentAnswered.mono {P Q : List Char → Resolution → Prop} {f g : Fragment}
    (h : FragmentAnswered P f g) (hPQ : ∀ path resolution, P path resolution → Q path resolution) :
    FragmentAnswered Q f g := by
  cases h with
  | char c => exact .char c
  | foreign h => exact .foreign h
  | reference h answer => exact .reference h (hPQ _ _ answer)

/-- A value, and the same with the answers to its references in the place of their paths. -/
def ValueAnswered (answers : List Char → Resolution → Prop) (old new : String) : Prop :=
  ∃ fs, new = String.ofList (Url.spell fs) ∧
    List.Forall₂ (FragmentAnswered answers) (Url.fragments none old.toList) fs

theorem ValueAnswered.mono {P Q : List Char → Resolution → Prop} {old new : String}
    (h : ValueAnswered P old new) (hPQ : ∀ path resolution, P path resolution → Q path resolution) :
    ValueAnswered Q old new := by
  obtain ⟨fs, hnew, hfs⟩ := h
  exact ⟨fs, hnew, hfs.imp fun _ _ hfg => hfg.mono hPQ⟩

/-- An answer of the resolver, for which the orders were made. -/
def OrderedAnswer (config : Config) (base : Path) (orders : List (Order config)) (path : List Char)
    (resolution : Resolution) : Prop :=
  resolution.Of config base path ∧ resolution.Ordered config base orders path

theorem OrderedAnswer.mono {path : List Char} {resolution : Resolution} (hsub : orders ⊆ orders')
    (h : OrderedAnswer config base orders path resolution) :
    OrderedAnswer config base orders' path resolution :=
  ⟨h.1, h.2.mono hsub⟩

/-- The file that a fragment leads to, if there is an output directory for its kind. -/
def Config.fragmentAsset? (config : Config) (base : Path) : Fragment → Option Path
  | .url o => if o.isLocal then config.asset? base o.path else none
  | .char _ => none

theorem exec_resolveFragment {f : Fragment} {r : Fragment × RewriteStats}
    (h : (resolveFragment config base f).exec w = (.ok r, w')) :
    ∃ orders, Course config w orders w' ∧
      FragmentAnswered (OrderedAnswer config base orders) f r.1 ∧
      ∀ o ∈ orders, o.target.path ∈ config.fragmentAsset? base f := by
  cases f with
  | char c =>
    cases h
    exact ⟨[], .refl w, .char c, by simp⟩
  | url o =>
    unfold resolveFragment at h
    dsimp only at h
    by_cases hlocal : o.isLocal = true
    · rw [if_pos hlocal] at h
      obtain ⟨resolution, w₁, hresolve, h⟩ := exec_bind_eq_ok.1 h
      have hof := (gives_resolveReference config base o.path).of_ok hresolve
      obtain ⟨orders, hcourse, hordered, hassets⟩ := exec_resolveReference hresolve
      have hanswer : OrderedAnswer config base orders o.path resolution := ⟨hof, hordered⟩
      rw [Config.fragmentAsset?, if_pos hlocal]
      cases resolution with
      | skipped =>
        cases h
        exact ⟨orders, hcourse, .reference hlocal hanswer, hassets⟩
      | inlined uri =>
        cases h
        exact ⟨orders, hcourse, .reference hlocal hanswer, hassets⟩
      | relocated reference =>
        cases h
        exact ⟨orders, hcourse, .reference hlocal hanswer, hassets⟩
    · rw [if_neg hlocal] at h
      cases h
      exact ⟨[], .refl w, .foreign (by simpa using hlocal), by simp⟩

def Config.fragmentAssets (config : Config) (base : Path) (fs : List Fragment) : List Path :=
  fs.filterMap (config.fragmentAsset? base)

/-- The orders of fragments are made one fragment after the other. -/
theorem exec_mapM_resolveFragment {fs : List Fragment} {rs : List (Fragment × RewriteStats)}
    (h : (fs.mapM (resolveFragment config base)).exec w = (.ok rs, w')) :
    ∃ orders, Course config w orders w' ∧
      List.Forall₂ (FragmentAnswered (OrderedAnswer config base orders)) fs (rs.map (·.1)) ∧
      ∀ o ∈ orders, o.target.path ∈ config.fragmentAssets base fs := by
  induction fs generalizing rs w with
  | nil =>
    cases h
    exact ⟨[], .refl w, .nil, by simp⟩
  | cons f fs ih =>
    rw [List.mapM_cons] at h
    obtain ⟨r, w₁, hf, h⟩ := exec_bind_eq_ok.1 h
    obtain ⟨rs', w₂, hfs, h⟩ := exec_bind_eq_ok.1 h
    cases h
    obtain ⟨orders, hcourse, hanswered, hassets⟩ := exec_resolveFragment hf
    obtain ⟨orders', hcourse', hanswered', hassets'⟩ := ih hfs
    refine ⟨orders ++ orders', hcourse.append hcourse', .cons ?_ (hanswered'.imp ?_), ?_⟩
    · exact hanswered.mono fun _ _ => .mono (List.subset_append_left _ _)
    · exact fun _ _ hfg => hfg.mono fun _ _ => .mono (List.subset_append_right _ _)
    · simp only [Config.fragmentAssets, List.mem_filterMap] at hassets' ⊢
      intro o ho
      rcases List.mem_append.1 ho with ho | ho
      · exact ⟨f, List.mem_cons_self, hassets o ho⟩
      · obtain ⟨g, hg, hpath⟩ := hassets' o ho
        exact ⟨g, List.mem_cons_of_mem f hg, hpath⟩

theorem disk_noteForeign (fs : List Fragment) (s : Session) :
    (noteForeign fs s).2.disk = s.disk := by
  unfold noteForeign
  induction fs generalizing s with
  | nil => rfl
  | cons f fs ih =>
    rw [List.forM]
    cases f with
    | char c => exact ih s
    | url o =>
      dsimp only
      split_ifs
      · exact ih _
      · exact ih s

def Config.valueAssets (config : Config) (base : Path) (value : String) : List Path :=
  config.fragmentAssets base (Url.fragments none value.toList)

/-- A value is rewritten by one order for each reference that is relocated. -/
theorem course_rewriteValue {value new : String} {stats : RewriteStats}
    (h : (rewriteValue config base value).exec w = (.ok (new, stats), w')) :
    ∃ orders, Course config w orders w' ∧
      ValueAnswered (OrderedAnswer config base orders) value new ∧
      ∀ o ∈ orders, o.target.path ∈ config.valueAssets base value := by
  unfold rewriteValue at h
  dsimp only at h
  obtain ⟨_, w₁, hnoted, h⟩ := exec_bind_eq_ok.1 h
  obtain ⟨rs, w₂, hrs, h⟩ := exec_bind_eq_ok.1 h
  cases h
  obtain ⟨orders, hcourse, hanswered, hassets⟩ := exec_mapM_resolveFragment hrs
  exact ⟨orders, (course_liftM (disk_noteForeign _ _) hnoted).before hcourse,
    ⟨_, rfl, hanswered⟩, hassets⟩

end StylesheetAssets
