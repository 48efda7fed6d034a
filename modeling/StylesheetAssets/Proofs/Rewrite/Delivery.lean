import StylesheetAssets.Proofs.Asset.Naming
import StylesheetAssets.Proofs.Disk.Holding
import StylesheetAssets.Proofs.Rewrite.Passage

/-!
Copies with hashed names: behind a pass whose copies were all made, each relocated reference has a
copy that holds what its file held. Orders for one place are orders for one content, so it does not
matter which of them wrote it last.
-/
namespace StylesheetAssets

open Stylesheet (Sheet Node)
open Digest (ContentHash)

/-- Files whose copies have different names where their contents differ. -/
structure ToldApart (disk : Disk) (assets : List Path) : Prop where
  names : ∀ p ∈ assets, ∀ name, p.fileName? = some name → name.toList.getLast? ≠ some '.'
  fingerprints : ∀ p ∈ assets, ∀ q ∈ assets, ∀ x y, disk.Holds p x → disk.Holds q y →
    (ContentHash.ofBytes x).fingerprint = (ContentHash.ofBytes y).fingerprint → x = y

/-- An order for one of the files, which held these bytes at the start. -/
structure Order.Carries {config : Config} (o : Order config) (start : Disk) (assets : List Path)
    (bytes : ByteArray) : Prop where
  asset : o.target.path ∈ assets
  content_eq : o.content? = some bytes
  held : start.Holds o.target.path bytes

variable {config : Config} {assets : List Path} {start w w' : CopyQueue × Session}

/-- Orders for one place carry one content. -/
theorem Order.Carries.content_unique {o o' : Order config} {x y : ByteArray} {d disk : Disk}
    (htold : ToldApart disk assets) (ho : o.Carries disk assets x) (ho' : o'.Carries disk assets y)
    (hplace : d.placeOf o.destination = d.placeOf o'.destination) : x = y := by
  have hname : o.target.outputName (some (.ofBytes x)) =
      o'.target.outputName (some (.ofBytes y)) := by
    rw [Order.destination, Order.destination, ho.content_eq, ho'.content_eq, Option.map_some,
      Option.map_some, d.placeOf_join _ (AssetTarget.isName_outputName o.extension_eq _),
      d.placeOf_join _ (AssetTarget.isName_outputName o'.extension_eq _)] at hplace
    have hlast := congrArg List.getLast? hplace
    rw [List.getLast?_concat, List.getLast?_concat] at hlast
    exact Option.some.inj hlast
  exact htold.fingerprints _ ho.asset _ ho'.asset x y ho.held ho'.held
    (AssetTarget.fingerprint_eq_of_outputName_eq o.extension_eq o'.extension_eq
      (htold.names _ ho.asset) (htold.names _ ho'.asset) hname)

/-- No copy lies where one of the files lay at the start. -/
def Clear (start : Disk) (assets : List Path) (w : CopyQueue × Session) : Prop :=
  ∀ p ∈ assets, ∀ q ∈ w.1.destinations, start.placeOf q ≠ start.placeOf p

theorem Clear.earlier {d : Disk} (h : Clear d assets w') (hadvances : Advances w w') :
    Clear d assets w :=
  fun p hp => hadvances.clear (h p hp)

/-- What one of the files holds is what it held at the start. -/
theorem held_of_holds {p : Path} {bytes : ByteArray} (hadvances : Advances start w)
    (hclear : Clear start.2.disk assets w) (hp : p ∈ assets) (h : w.2.disk.Holds p bytes) :
    start.2.disk.Holds p bytes := by
  rw [Disk.Holds, Disk.placeOf_congr hadvances.workDir] at h
  exact hadvances.filed h (hclear p hp)

/-- Every copy that was made can be read, and has the content of an order for its place. -/
def Sound (config : Config) (start : Disk) (assets : List Path) (w : CopyQueue × Session) : Prop :=
  ∀ c ∈ w.1.copies, ∀ n, c.outcome = .ok n → ∃ (o : Order config) (bytes : ByteArray),
    o.Carries start assets bytes ∧ c.destination = o.destination ∧
      w.2.disk.readFile c.destination = .ok bytes

theorem Sound.of_extends (h : Sound config start.2.disk assets w)
    (copies : w'.1.copies = w.1.copies) (disk : w.2.disk.Extends w'.2.disk) :
    Sound config start.2.disk assets w' := by
  intro c hc n hn
  rw [copies] at hc
  obtain ⟨o, bytes, ho, hdestination, hread⟩ := h c hc n hn
  obtain ⟨l, hresolve⟩ := Disk.readFile_eq_ok.1 hread
  exact ⟨o, bytes, ho, hdestination, Disk.readFile_later (fun _ => disk.kept)
    (disk.kept (Disk.get?_of_resolve hresolve)) disk.workDir hresolve⟩

theorem Order.exists_carries {o : Order config} (hhash : config.hash = true)
    (hadvances : Advances start w) (hclear : Clear start.2.disk assets w)
    (hasset : o.target.path ∈ assets)
    (hread : ∀ bytes ∈ o.content?, w.2.disk.readFile o.target.path = .ok bytes) :
    ∃ bytes, o.Carries start.2.disk assets bytes := by
  obtain ⟨bytes, hcontent⟩ := Option.isSome_iff_exists.1 (o.hashed.trans hhash)
  have hholds := Disk.holds_of_readFile (hread bytes hcontent)
  exact ⟨bytes, hasset, hcontent, held_of_holds hadvances hclear hasset hholds⟩

/-- An order leaves sound copies: what it writes over had the same content. -/
theorem Sound.order {o : Order config} {bytes : ByteArray}
    (hsound : Sound config start.2.disk assets w) (htold : ToldApart start.2.disk assets)
    (hadvances : Advances start w) (hclear : Clear start.2.disk assets w')
    (ho : o.Carries start.2.disk assets bytes)
    (hread : w.2.disk.readFile o.target.path = .ok bytes)
    (h : (CopyQueue.request o.target.path o.destination).exec w = (.ok (), w')) :
    Sound config start.2.disk assets w' := by
  rcases CopyQueue.request_cases h with ⟨rfl, -⟩ |
    ⟨replaced, left, outcome, hleft, -, -, hcopies, hcopy⟩
  · exact hsound
  have hrequested := (CopyQueue.exec_request h).1
  have hapart : w.2.disk.placeOf o.target.path ≠ w.2.disk.placeOf o.destination := by
    rw [Disk.placeOf_congr hadvances.workDir, Disk.placeOf_congr hadvances.workDir]
    exact (hclear _ ho.asset _ (by simp [CopyQueue.destinations, hcopies])).symm
  have hholds := Disk.holds_of_readFile hread
  intro c hc n hn
  rw [hcopies] at hc
  rcases List.mem_append.1 hc with hc | hc
  · obtain ⟨o', bytes', ho', hdestination, hread'⟩ :=
      hsound c (hleft.mem_iff.2 (List.mem_append_right _ hc)) n hn
    refine ⟨o', bytes', ho', hdestination, Disk.readFile_of_holds hread' hrequested.workDir
      hrequested.directories ?_⟩
    refine (Disk.holds_of_readFile hread').copyFile hcopy hholds hapart fun hplace => ?_
    rw [hdestination] at hplace
    exact ho'.content_unique htold ho hplace
  · obtain rfl := List.mem_singleton.1 hc
    obtain rfl : outcome = .ok n := hn
    exact ⟨o, bytes, ho, rfl, Disk.readFile_copyFile hcopy hholds hapart⟩

/-- A pass keeps its copies sound, and its orders carry what the files held at the start. -/
theorem Course.sound {orders : List (Order config)} (h : Course config w orders w')
    (hhash : config.hash = true) (htold : ToldApart start.2.disk assets)
    (hadvances : Advances start w) (hsound : Sound config start.2.disk assets w)
    (hclear : Clear start.2.disk assets w') (hassets : ∀ o ∈ orders, o.target.path ∈ assets) :
    Sound config start.2.disk assets w' ∧
      ∀ o ∈ orders, ∃ bytes, o.Carries start.2.disk assets bytes := by
  induction h with
  | quiet copies disk => exact ⟨hsound.of_extends copies disk, by simp⟩
  | order o read asked =>
    have hearlier := hclear.earlier (CopyQueue.exec_request asked).1
    have hasset : o.target.path ∈ assets := by simpa using hassets
    obtain ⟨bytes, ho⟩ := Order.exists_carries hhash hadvances hearlier hasset read
    refine ⟨hsound.order htold hadvances hclear ho (read bytes ho.content_eq) asked, ?_⟩
    simpa using ⟨bytes, ho⟩
  | append first rest ih ih' =>
    simp only [List.forall_mem_append] at hassets ⊢
    obtain ⟨hmiddle, hfirst⟩ := ih hadvances hsound (hclear.earlier rest.advances) hassets.1
    obtain ⟨hend, hrest⟩ := ih' (hadvances.trans first.advances) hmiddle hclear hassets.2
    exact ⟨hend, hfirst, hrest⟩

/-- A queue that finishes well holds no copy that was refused. -/
theorem CopyQueue.outcome_of_finish {q : CopyQueue} {n : Nat} (h : q.finish = .ok n) :
    ∀ c ∈ q.copies, ∃ m, c.outcome = .ok m := by
  unfold finish at h
  generalize q.copies = copies, 0 = written at h
  induction copies generalizing written with
  | nil => simp
  | cons c copies ih =>
    rw [List.foldlM_cons] at h
    cases hc : c.outcome with
    | error e =>
      rw [Copy.finish, hc] at h
      cases h
    | ok m =>
      rw [Copy.finish, hc] at h
      simpa [hc] using ih _ h

/-- A reference was given the path of a copy that can be read and holds what the file held that the
reference named, when the pass started. -/
inductive Delivered (config : Config) (base : Path) (start : Disk) (w : CopyQueue × Session)
    (reference : List Char) : String → Prop
  | intro {category : Category} {directory destination : Path} {target : AssetTarget}
      {bytes : ByteArray}
      (route : config.route? (String.ofList (Url.splitSuffix reference).1) =
        some (category, directory))
      (found : IsTarget (assetPath base reference) target)
      (held : start.Holds target.path bytes)
      (destination_eq : destination = directory.join ⟨target.outputName (some (.ofBytes bytes))⟩)
      (holds : w.2.disk.Holds destination bytes)
      (read : ∃ q ∈ w.1.destinations, q.same destination = true ∧
        w.2.disk.readFile q = .ok bytes) :
      Delivered config base start w reference
        (config.written (config.referenceTo destination) reference)

/-- The answer of the resolver to a reference. If the reference was relocated, its copy has been
delivered. -/
def AnsweredByDelivery (config : Config) (base : Path) (start : Disk) (w : CopyQueue × Session)
    (reference : List Char) (resolution : Resolution) : Prop :=
  resolution.Of config base reference ∧
    ∀ text, resolution = .relocated text → Delivered config base start w reference text

/-- Every order has been carried out, once no copy was refused. -/
theorem Order.Carries.delivered {o : Order config} {bytes : ByteArray} {disk : Disk} {n : Nat}
    (ho : o.Carries disk assets bytes) (htold : ToldApart disk assets)
    (hsound : Sound config disk assets w) (hfinish : w.1.finish = .ok n)
    (hasked : ∃ q ∈ w.1.destinations, q.same o.destination = true) :
    ∃ q ∈ w.1.destinations, q.same o.destination = true ∧ w.2.disk.readFile q = .ok bytes := by
  obtain ⟨q, hq, hsame⟩ := hasked
  obtain ⟨c, hc, rfl⟩ := List.mem_map.1 hq
  obtain ⟨m, hm⟩ := CopyQueue.outcome_of_finish hfinish c hc
  obtain ⟨o', bytes', ho', hdestination, hread⟩ := hsound c hc m hm
  have hplace := w.2.disk.placeOf_eq_of_same hsame
  rw [hdestination] at hplace
  obtain rfl := ho'.content_unique htold ho hplace
  exact ⟨_, hq, hsame, hread⟩

/-- With hashed names, behind a pass that succeeds and whose copies were all made, the copy that a
relocated reference was given the path of holds exactly what its file held: if different contents
have different fingerprints, no file name ends in a dot, and no copy lies where one of the files
lies. -/
theorem rewriteSheet_delivers {sheet sheet' : Sheet} {stats : RewriteStats}
    {queue queue' : CopyQueue} {session session' : Session} {n : Nat}
    (hhash : config.hash = true) (hempty : queue.copies = [])
    (h : rewriteSheet config sheet queue session = (((sheet', .ok stats), queue'), session'))
    (hfinish : queue'.finish = .ok n)
    (htold : ToldApart session.disk (config.assets (scannedValues config sheet)))
    (hclear : ∀ asset ∈ config.assets (scannedValues config sheet), ∀ q ∈ queue'.destinations,
      session.disk.placeOf q ≠ session.disk.placeOf asset) :
    List.Forall₂
      (fun old new => ValueAnswered
        (AnsweredByDelivery config old.1 session.disk (queue', session')) old.2 new)
      (scannedValues config sheet) (sheet'.nodes.flatMap Node.inner) := by
  obtain ⟨orders, hcourse, hanswered, hassets⟩ := passage_rewriteSheet h
  have hstart : Sound config session.disk (config.assets (scannedValues config sheet))
      (queue, session) := by
    intro c hc
    rw [hempty] at hc
    cases hc
  have hadvances : Advances (queue, session) (queue, session) := .refl _
  obtain ⟨hsound, hcarried⟩ := hcourse.sound hhash htold hadvances hstart hclear hassets
  refine hanswered.imp fun old new hvalue => hvalue.mono fun path resolution hanswer => ?_
  obtain ⟨hof, hordered⟩ := hanswer
  refine ⟨hof, fun text htext => ?_⟩
  cases hordered with
  | skipped => cases htext
  | inlined target bytes => cases htext
  | @relocated category o route path_eq mem =>
    obtain rfl := Resolution.relocated.inj htext
    obtain ⟨bytes, ho⟩ := hcarried o mem
    obtain ⟨q, hq, hsame, hread⟩ := ho.delivered htold hsound hfinish (hcourse.asked o mem)
    have hholds := (Disk.holds_of_readFile hread).congr (session'.disk.placeOf_eq_of_same hsame)
    refine .intro route ⟨path_eq, path_eq ▸ o.extension_eq⟩ ho.held ?_ hholds ⟨q, hq, hsame, hread⟩
    rw [Order.destination, ho.content_eq, Option.map_some]

/-- Every image is copied into the root directory, under a hashed name. -/
def hashingImages : Config :=
  { imagesOnly with
    imageOutput := some ⟨"/"⟩, limit := 0, cssOutput := some ⟨"/site"⟩, hash := true }

/-- A sheet that refers to three images of one name. -/
def namesakesSheet : Sheet where
  nodes := [
    Import.startNode "lib/a.css",
    .rule ".a" [.declaration "background" "url(x.png)"],
    Import.endNode,
    .rule ".b" [.declaration "background" "url(x.png) url(alt/x.png)"]]
  source := some ⟨"/site/main.css"⟩

/-- Of the three images two have the same content. -/
def namesakes : Disk where
  entries := [
    (["site", "lib", "x.png"], .file ⟨#[1]⟩), (["site", "x.png"], .file ⟨#[2]⟩),
    (["site", "alt", "x.png"], .file ⟨#[1]⟩), (["site", "lib"], .directory),
    (["site", "alt"], .directory), (["site"], .directory)]

theorem toldApart_namesakes :
    ToldApart namesakes (hashingImages.assets (scannedValues hashingImages namesakesSheet)) := by
  have hnames : ∀ p ∈ hashingImages.assets (scannedValues hashingImages namesakesSheet),
      p.fileName? = some "x.png" := by
    decide +kernel
  have hcontents : ∀ p ∈ hashingImages.assets (scannedValues hashingImages namesakesSheet),
      namesakes.get? (namesakes.placeOf p) = some (.file ⟨#[1]⟩) ∨
        namesakes.get? (namesakes.placeOf p) = some (.file ⟨#[2]⟩) := by
    decide +kernel
  have hdiffer : (ContentHash.ofBytes ⟨#[1]⟩).fingerprint ≠
      (ContentHash.ofBytes ⟨#[2]⟩).fingerprint := by
    decide +kernel
  have heither {p : Path} {x : ByteArray}
      (hp : p ∈ hashingImages.assets (scannedValues hashingImages namesakesSheet))
      (hx : namesakes.Holds p x) : x = ⟨#[1]⟩ ∨ x = ⟨#[2]⟩ :=
    (hcontents p hp).imp hx.unique hx.unique
  refine ⟨fun p hp name hname => ?_, fun p hp q hq x y hx hy heq => ?_⟩
  · obtain rfl := Option.some.inj ((hnames p hp).symm.trans hname)
    decide
  · rcases heither hp hx with rfl | rfl <;> rcases heither hq hy with rfl | rfl
    · rfl
    · exact absurd heq hdiffer
    · exact absurd heq.symm hdiffer
    · rfl

theorem rewriteSheet_delivers_namesakes :
    ∃ sheet' queue' session',
      rewriteSheet hashingImages namesakesSheet {} ⟨namesakes, #[]⟩ =
        (((sheet', .ok ⟨0, 3, 0⟩), queue'), session') ∧
      queue'.finish = .ok 2 ∧
      List.Forall₂
        (fun old new => ValueAnswered
          (AnsweredByDelivery hashingImages old.1 namesakes (queue', session')) old.2 new)
        (scannedValues hashingImages namesakesSheet) (sheet'.nodes.flatMap Node.inner) := by
  -- One evaluation, since each would compute the hashes anew.
  obtain ⟨hstats, hfinish, hclear⟩ :
      (rewriteSheet hashingImages namesakesSheet {} ⟨namesakes, #[]⟩).1.1.2 = .ok ⟨0, 3, 0⟩ ∧
      (rewriteSheet hashingImages namesakesSheet {} ⟨namesakes, #[]⟩).1.2.finish = .ok 2 ∧
      ∀ asset ∈ hashingImages.assets (scannedValues hashingImages namesakesSheet),
        ∀ q ∈ (rewriteSheet hashingImages namesakesSheet {} ⟨namesakes, #[]⟩).1.2.destinations,
          namesakes.placeOf q ≠ namesakes.placeOf asset := by
    decide +kernel
  generalize hrun : rewriteSheet hashingImages namesakesSheet {} ⟨namesakes, #[]⟩ = r
    at hstats hfinish hclear
  obtain ⟨⟨⟨sheet', result⟩, queue'⟩, session'⟩ := r
  obtain rfl : result = .ok ⟨0, 3, 0⟩ := hstats
  exact ⟨sheet', queue', session', rfl, hfinish,
    rewriteSheet_delivers rfl rfl hrun hfinish toldApart_namesakes hclear⟩

end StylesheetAssets
