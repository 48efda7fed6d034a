import Mathlib.Data.List.Chain
import Mathlib.Data.List.Perm.Subperm
import StylesheetAssets.Proofs.Copy.Advancing
import StylesheetAssets.Proofs.Import.Flattening

/-!
Chains of imports, from a text through the files that it imports, and those that they import in
turn. Flattening succeeds if no chain comes back to a path that it holds already and each path on
it can be read. Otherwise it answers such a chain.
-/
namespace StylesheetAssets

/-- No two of the paths are the same. -/
def Path.Distinct (ps : List Path) : Prop := ps.Pairwise fun p q => p.same q = false

theorem Path.distinct_singleton (p : Path) : Path.Distinct [p] := List.pairwise_singleton _ _

theorem Path.distinct_concat {ps : List Path} {p : Path} :
    Path.Distinct (ps ++ [p]) ↔ Path.Distinct ps ∧ ps.any p.same = false := by
  have hany : ps.any p.same = false ↔ ∀ q ∈ ps, q.same p = false := by
    rw [List.any_eq_false]
    refine forall₂_congr fun q _ => ?_
    rw [Bool.not_eq_true, Path.same, Path.same, decide_eq_false_iff_not, decide_eq_false_iff_not,
      eq_comm]
  rw [hany, Path.Distinct, Path.Distinct, List.pairwise_append]
  simp

namespace Import

open StylesheetAssets.Path (Distinct)

/-! ### Chains -/

/-- The files that the local ones among some statements name. -/
def targetsOf (file : Path) (statements : List (List Char × Statement)) : List Path :=
  (statements.filter (!staysInPlace ·.2.path)).map (targetOf file ·.2.path)

/-- The text of `p`, once it is marked, has a local import of `q`. -/
def Imports (disk : Disk) (p q : Path) : Prop :=
  ∃ text, disk.readText p = .ok text ∧ q ∈ targetsOf p (cutLive (mark text.toList)).1

/-- Paths that import each other in turn, the first of them imported by statements of `file`. -/
structure Follows (disk : Disk) (file : Path) (statements : List (List Char × Statement))
    (ps : List Path) : Prop where
  first : ∀ p ∈ ps.head?, p ∈ targetsOf file statements
  turns : ps.IsChain (Imports disk)

def IsImportChain (disk : Disk) (code : List Char) (file : Path) (chain : List Path) : Prop :=
  ∃ ps, chain = file.normalize :: ps ∧ Follows disk file (cutLive code).1 ps

theorem targetsOf_cons_stays {file : Path} {before : List Char} {i : Statement}
    {rest : List (List Char × Statement)} (h : staysInPlace i.path = true) :
    targetsOf file ((before, i) :: rest) = targetsOf file rest := by
  simp [targetsOf, h]

theorem targetsOf_cons_local {file : Path} {before : List Char} {i : Statement}
    {rest : List (List Char × Statement)} (h : staysInPlace i.path = false) :
    targetsOf file ((before, i) :: rest) = targetOf file i.path :: targetsOf file rest := by
  simp [targetsOf, h]

section Following

variable {disk : Disk} {file : Path} {before : List Char} {i : Statement} {ps : List Path}
  {rest : List (List Char × Statement)} {text : String}

theorem Follows.later (h : Follows disk file rest ps) :
    Follows disk file ((before, i) :: rest) ps := by
  refine ⟨fun p hp => ?_, h.turns⟩
  cases hstays : staysInPlace i.path with
  | true =>
    rw [targetsOf_cons_stays hstays]
    exact h.first p hp
  | false =>
    rw [targetsOf_cons_local hstays]
    exact List.mem_cons_of_mem _ (h.first p hp)

theorem Follows.single (disk : Disk) (hstays : staysInPlace i.path = false) :
    Follows disk file ((before, i) :: rest) [targetOf file i.path] := by
  refine ⟨fun p hp => ?_, .singleton _⟩
  obtain rfl := Option.some.inj hp
  rw [targetsOf_cons_local hstays]
  exact List.mem_cons_self

/-- From an import on a chain goes on in its file. -/
theorem Follows.into (hstays : staysInPlace i.path = false)
    (hread : disk.readText (targetOf file i.path) = .ok text)
    (h : Follows disk (targetOf file i.path) (cutLive (mark text.toList)).1 ps) :
    Follows disk file ((before, i) :: rest) (targetOf file i.path :: ps) := by
  exact ⟨(Follows.single disk hstays).first,
    List.isChain_cons.2 ⟨fun q hq => ⟨text, hread, h.first q hq⟩, h.turns⟩⟩

theorem Follows.tail {p : Path} {statements : List (List Char × Statement)}
    (hread : disk.readText p = .ok text) (h : Follows disk file statements (p :: ps)) :
    Follows disk p (cutLive (mark text.toList)).1 ps := by
  obtain ⟨hnext, hturns⟩ := List.isChain_cons.1 h.turns
  refine ⟨fun q hq => ?_, hturns⟩
  obtain ⟨text', hread', hq'⟩ := hnext q hq
  obtain rfl : text = text' := Except.ok.inj (hread.symm.trans hread')
  exact hq'

end Following

/-! ### Answers -/

/-- What is answered for some statements of `file`, while the paths of `chain` are being read. -/
inductive Answers (disk : Disk) :
    List Path → Path → List (List Char × Statement) → Except FlattenError (List Char) → Prop
  | done (chain : List Path) (file : Path) : Answers disk chain file [] (.ok [])
  | stays {chain : List Path} {file : Path} {before : List Char} {i : Statement}
      {rest : List (List Char × Statement)} {r : Except FlattenError (List Char)}
      (hstays : staysInPlace i.path = true) (hrest : Answers disk chain file rest r) :
      Answers disk chain file ((before, i) :: rest) (r.map (before ++ i.text ++ ·))
  | cycle {chain : List Path} {file : Path} {before : List Char} {i : Statement}
      {rest : List (List Char × Statement)} (hstays : staysInPlace i.path = false)
      (hcycle : chain.any (targetOf file i.path).same = true) :
      Answers disk chain file ((before, i) :: rest)
        (.error (.cycle (chain ++ [targetOf file i.path])))
  | unreadable {chain : List Path} {file : Path} {before : List Char} {i : Statement}
      {rest : List (List Char × Statement)} {cause : DiskError}
      (hstays : staysInPlace i.path = false)
      (hnew : chain.any (targetOf file i.path).same = false)
      (hread : disk.readText (targetOf file i.path) = .error cause) :
      Answers disk chain file ((before, i) :: rest)
        (.error (.unreadable (targetOf file i.path) file cause))
  | failed {chain : List Path} {file : Path} {before : List Char} {i : Statement}
      {rest : List (List Char × Statement)} {text : String} {e : FlattenError}
      (hstays : staysInPlace i.path = false)
      (hnew : chain.any (targetOf file i.path).same = false)
      (hread : disk.readText (targetOf file i.path) = .ok text)
      (hfile : Answers disk (chain ++ [targetOf file i.path]) (targetOf file i.path)
        (cutLive (mark text.toList)).1 (.error e)) :
      Answers disk chain file ((before, i) :: rest) (.error e)
  | inlined {chain : List Path} {file : Path} {before inlined : List Char} {i : Statement}
      {rest : List (List Char × Statement)} {text : String} {r : Except FlattenError (List Char)}
      (hstays : staysInPlace i.path = false)
      (hnew : chain.any (targetOf file i.path).same = false)
      (hread : disk.readText (targetOf file i.path) = .ok text)
      (hfile : Answers disk (chain ++ [targetOf file i.path]) (targetOf file i.path)
        (cutLive (mark text.toList)).1 (.ok inlined))
      (hrest : Answers disk chain file rest r) :
      Answers disk chain file ((before, i) :: rest)
        (r.map (before ++ inlined ++ (cutLive (mark text.toList)).2 ++ ·))

/-- A first step that fails ends the run, and otherwise the next one goes on from it. -/
theorem run_bind_elim {α β : Type} {P : Except FlattenError β → Prop}
    {x : ExceptT FlattenError (StateM Journal) α} {f : α → ExceptT FlattenError (StateM Journal) β}
    {journal : Journal} (herror : ∀ e, (x.run journal).1 = .error e → P (.error e))
    (hok : ∀ a, (x.run journal).1 = .ok a → P ((f a).run (x.run journal).2).1) :
    P ((x >>= f).run journal).1 := by
  rw [run_bind]
  cases hx : (x.run journal).1 with
  | error e => exact herror e hx
  | ok a => exact hok a hx

theorem run_bind_pure {x : ExceptT FlattenError (StateM Journal) (List Char)} {journal : Journal}
    (f : List Char → List Char) :
    ((x >>= fun text => pure (f text)).run journal).1 = (x.run journal).1.map f := by
  refine run_bind_elim (P := (· = (x.run journal).1.map f)) (fun e he => ?_) fun text htext => ?_
  · rw [he]
    rfl
  · rw [htext]
    rfl

theorem answers_flattenStatements (disk : Disk) (chain : List Path) (file : Path)
    (statements : List (List Char × Statement)) (journal : Journal) :
    Answers disk chain file statements
      ((flattenStatements disk chain file statements).run journal).1 := by
  induction chain, file, statements using flattenStatements.induct disk generalizing journal with
  | case1 chain file =>
    rw [flattenStatements]
    exact .done chain file
  | case2 chain file before i rest hstays ih =>
    rw [flattenStatements, if_pos hstays, run_bind_pure]
    exact .stays hstays (ih journal)
  | case3 chain file before i rest hstays target =>
    rename_i hcycle
    rw [flattenStatements_of_cycle hstays hcycle]
    exact .cycle (by simpa using hstays) hcycle
  | case4 chain file before i rest hstays target hnew ihfile =>
    rename_i ihrest
    have hstays' : staysInPlace i.path = false := by simpa using hstays
    have hnew' : chain.any (targetOf file i.path).same = false := eq_false_of_ne_true hnew
    rw [flattenStatements, if_neg hstays]
    dsimp only
    rw [dif_neg hnew]
    refine run_bind_elim (P := Answers disk chain file ((before, i) :: rest)) ?_ ?_
    · intro e he
      rcases run_readImport disk (targetOf file i.path) file journal with
        ⟨text, hread, hrun⟩ | ⟨cause, hread, hrun⟩
      · rw [hrun] at he
        cases he
      · obtain rfl := Except.error.inj (he.symm.trans hrun)
        exact .unreadable hstays' hnew' hread
    · rintro ⟨text, hread⟩ -
      dsimp only
      rw [run_bind_of_ok (run_markFile _ _ _)]
      refine run_bind_elim (P := Answers disk chain file ((before, i) :: rest)) ?_ ?_
      · intro e he
        exact .failed hstays' hnew' hread (he ▸ ihfile text hread _ _)
      · intro inlined hinlined
        rw [run_bind_of_ok (a := ()) rfl, run_bind_pure]
        exact .inlined hstays' hnew' hread (hinlined ▸ ihfile text hread _ _) (ihrest _)

/-! ### Chains that are followed -/

theorem map_eq_ok {r : Except FlattenError (List Char)} {f : List Char → List Char}
    {text : List Char} (h : .ok text = r.map f) : ∃ after, .ok after = r := by
  cases r with
  | error e => cases h
  | ok after => exact ⟨after, rfl⟩

theorem map_eq_error {r : Except FlattenError (List Char)} {f : List Char → List Char}
    {e : FlattenError} (h : .error e = r.map f) : .error e = r := by
  cases r with
  | error e' =>
    cases h
    rfl
  | ok after => cases h

section Runs

variable {disk : Disk} {chain : List Path} {file : Path} {statements : List (List Char × Statement)}

/-- Where statements are put in place, every chain from them on has come to its end. -/
theorem Answers.followed {text : List Char}
    (h : Answers disk chain file statements (.ok text)) (hdistinct : Distinct chain)
    {ps : List Path} (hps : Follows disk file statements ps) :
    Distinct (chain ++ ps) ∧ ∀ p ∈ ps, ∃ text, disk.readText p = .ok text := by
  generalize hr : Except.ok text = r at h
  induction h generalizing text ps with
  | done chain file =>
    cases ps with
    | nil => exact ⟨by rwa [List.append_nil], nofun⟩
    | cons p ps => cases hps.first p rfl
  | stays hstays _ ih =>
    obtain ⟨after, hafter⟩ := map_eq_ok hr
    exact ih hdistinct ⟨targetsOf_cons_stays hstays ▸ hps.first, hps.turns⟩ hafter
  | cycle => cases hr
  | unreadable => cases hr
  | failed => cases hr
  | @inlined chain file before inlined i rest read r hstays hnew hread _ _ ihfile ihrest =>
    obtain ⟨after, hafter⟩ := map_eq_ok hr
    cases ps with
    | nil => exact ⟨by rwa [List.append_nil], nofun⟩
    | cons p ps =>
      have hp := hps.first p rfl
      rw [targetsOf_cons_local hstays] at hp
      rcases List.mem_cons.1 hp with rfl | hp
      · -- The chain goes on in the file that is put in place here.
        have hnext := Path.distinct_concat.2 ⟨hdistinct, hnew⟩
        obtain ⟨hdistinct', hreadable⟩ := ihfile hnext (hps.tail hread) rfl
        rw [List.append_assoc] at hdistinct'
        exact ⟨hdistinct', List.forall_mem_cons.2 ⟨⟨read, hread⟩, hreadable⟩⟩
      · refine ihrest hdistinct ⟨fun q hq => ?_, hps.turns⟩ hafter
        obtain rfl := Option.some.inj hq
        exact hp

/-- A failure is at the end of a chain of new paths. The last path is being read already, or cannot
be read by the file in front of it. -/
theorem Answers.error_spec {e : FlattenError} (h : Answers disk chain file statements (.error e))
    (hdistinct : Distinct chain) :
    ∃ ps last, Follows disk file statements (ps ++ [last]) ∧ Distinct (chain ++ ps) ∧
      ((e = .cycle (chain ++ ps ++ [last]) ∧ (chain ++ ps).any last.same = true) ∨
        ∃ importer cause, e = .unreadable last importer cause ∧
          (file :: ps).getLast? = some importer ∧ (chain ++ ps).any last.same = false ∧
          disk.readText last = .error cause) := by
  generalize hr : Except.error e = r at h
  induction h with
  | done => cases hr
  | stays hstays _ ih =>
    obtain ⟨ps, last, hps, hends⟩ := ih hdistinct (map_eq_error hr)
    exact ⟨ps, last, hps.later, hends⟩
  | @cycle chain file before i rest hstays hcycle =>
    cases hr
    refine ⟨[], targetOf file i.path, .single disk hstays, ?_⟩
    rw [List.append_nil]
    exact ⟨hdistinct, .inl ⟨rfl, hcycle⟩⟩
  | @unreadable chain file before i rest cause hstays hnew hread =>
    cases hr
    refine ⟨[], targetOf file i.path, .single disk hstays, ?_⟩
    rw [List.append_nil]
    exact ⟨hdistinct, .inr ⟨file, cause, rfl, rfl, hnew, hread⟩⟩
  | @failed chain file before i rest text e' hstays hnew hread _ ih =>
    obtain ⟨ps, last, hps, hends⟩ := ih (Path.distinct_concat.2 ⟨hdistinct, hnew⟩) hr
    refine ⟨targetOf file i.path :: ps, last, hps.into hstays hread, ?_⟩
    rw [List.getLast?_cons_cons]
    simpa using hends
  | inlined _ _ _ _ _ _ ih =>
    obtain ⟨ps, last, hps, hends⟩ := ih hdistinct (map_eq_error hr)
    exact ⟨ps, last, hps.later, hends⟩

end Runs

/-! ### The length of chains -/

/-- A path from the root in its normal form. -/
def IsPlaced (p : Path) : Prop :=
  ∃ names : List String, (∀ s ∈ names, Path.IsName s) ∧ p = Path.ofComponents (Path.place names)

theorem isPlaced_normalize {p : Path} (h : p.isAbsolute = true) : IsPlaced p.normalize :=
  ⟨p.trail, fun _ => Path.isName_of_mem_trail, Path.normalize_of_isAbsolute h⟩

theorem isPlaced_of_mem_targetsOf {file p : Path} {statements : List (List Char × Statement)}
    (hfile : file.directory.isAbsolute = true) (h : p ∈ targetsOf file statements) :
    IsPlaced p := by
  obtain ⟨s, -, rfl⟩ := List.mem_map.1 h
  exact isPlaced_normalize (Path.isAbsolute_join_of_isAbsolute _ hfile)

theorem placeOf_ofComponents (disk : Disk) {names : List String}
    (h : ∀ s ∈ names, Path.IsName s) :
    disk.placeOf (Path.ofComponents (Path.place names)) = names.reverse := by
  have htrail := Path.trail_ofComponents_place h
  rw [Disk.placeOf, Disk.startOf, if_pos (Path.isAbsolute_ofComponents_place h)]
  exact congrArg List.reverse htrail

theorem IsPlaced.placeOf_inj {p q : Path} (hp : IsPlaced p) (hq : IsPlaced q) {disk : Disk}
    (h : disk.placeOf p = disk.placeOf q) : p = q := by
  obtain ⟨names, hnames, rfl⟩ := hp
  obtain ⟨names', hnames', rfl⟩ := hq
  rw [placeOf_ofComponents disk hnames, placeOf_ofComponents disk hnames', List.reverse_inj] at h
  rw [h]

variable {disk : Disk} {p q : Path} {text : String}

theorem get?_placeOf (h : disk.readText p = .ok text) :
    ∃ bytes, disk.get? (disk.placeOf p) = some (.file bytes) := by
  obtain ⟨location, bytes, hopen, -⟩ := Disk.readText_eq_ok_iff_openFile.1 h
  have hplace : location = disk.placeOf p := Disk.place_of_resolve (Disk.openFile_eq_ok.1 hopen)
  exact ⟨bytes, hplace ▸ Disk.get?_of_openFile hopen⟩

theorem placeOf_mem_files (h : disk.readText p = .ok text) : disk.placeOf p ∈ disk.files := by
  obtain ⟨bytes, hget⟩ := get?_placeOf h
  exact List.mem_filterMap.2 ⟨_, Disk.mem_entries_of_get? hget, rfl⟩

/-- The root is a directory, and each other path has one above it. -/
theorem IsPlaced.directory (hp : IsPlaced p) (h : disk.readText p = .ok text) :
    p.directory.isAbsolute = true := by
  obtain ⟨names, hnames, rfl⟩ := hp
  cases names with
  | nil =>
    obtain ⟨bytes, hget⟩ := get?_placeOf h
    rw [placeOf_ofComponents disk hnames] at hget
    cases hget
  | cons s names =>
    rw [Path.directory_ofComponents_place hnames]
    exact Path.isAbsolute_ofComponents_place fun t ht => hnames t (List.mem_cons_of_mem s ht)

theorem IsPlaced.next (hp : IsPlaced p) (h : Imports disk p q) : IsPlaced q := by
  obtain ⟨text, hread, hq⟩ := h
  exact isPlaced_of_mem_targetsOf (hp.directory hread) hq

theorem isPlaced_of_isChain {ps : List Path} (hturns : ps.IsChain (Imports disk))
    (hfirst : ∀ p ∈ ps.head?, IsPlaced p) : ∀ p ∈ ps, IsPlaced p := by
  induction ps with
  | nil => nofun
  | cons p ps ih =>
    obtain ⟨hnext, hrest⟩ := List.isChain_cons.1 hturns
    have hp := hfirst p rfl
    exact List.forall_mem_cons.2 ⟨hp, ih hrest fun q hq => hp.next (hnext q hq)⟩

/-- What imports another path can be read. -/
theorem readable_of_isChain {ps : List Path} (hturns : ps.IsChain (Imports disk)) :
    ∀ p ∈ ps.dropLast, ∃ text, disk.readText p = .ok text := by
  induction ps with
  | nil => nofun
  | cons p ps ih =>
    cases ps with
    | nil => nofun
    | cons q ps =>
      obtain ⟨⟨text, hread, -⟩, hrest⟩ := List.isChain_cons_cons.1 hturns
      rw [List.dropLast_cons_cons]
      exact List.forall_mem_cons.2 ⟨⟨text, hread⟩, ih hrest⟩

/-- Paths that import each other and are not the same are no more than there are files, but for the
last, which need not be one. -/
theorem length_le_of_isChain {ps : List Path} (hturns : ps.IsChain (Imports disk))
    (hfirst : ∀ p ∈ ps.head?, IsPlaced p) (hdistinct : Distinct ps) :
    ps.length ≤ disk.files.length + 1 := by
  have hplaced := isPlaced_of_isChain hturns hfirst
  have hnodup : (ps.map disk.placeOf).Nodup := by
    refine List.pairwise_map.2 (hdistinct.imp_of_mem fun {p q} hp hq hsame heq => ?_)
    rw [(hplaced p hp).placeOf_inj (hplaced q hq) heq, same_refl] at hsame
    cases hsame
  have hsub : ps.dropLast.map disk.placeOf ⊆ disk.files := by
    intro l hl
    obtain ⟨p, hp, rfl⟩ := List.mem_map.1 hl
    obtain ⟨text, hread⟩ := readable_of_isChain hturns p hp
    exact placeOf_mem_files hread
  have hle := (List.subperm_of_subset
    (hnodup.sublist ((List.dropLast_sublist ps).map disk.placeOf)) hsub).length_le
  rw [List.length_map, List.length_dropLast] at hle
  omega

/-- From a path to a file, an import chain is no longer than the files are many, but for the entry
and the last path. -/
theorem IsImportChain.length_le {code : List Char} {file : Path} {chain : List Path}
    (h : IsImportChain disk code file chain) (habs : file.isAbsolute = true)
    (hname : file.fileName? ≠ none) (hdistinct : Distinct chain) :
    chain.length ≤ disk.files.length + 2 := by
  obtain ⟨ps, rfl, hps⟩ := h
  obtain ⟨s, hs⟩ := Option.ne_none_iff_exists'.1 hname
  have hdirectory : file.directory.isAbsolute = true := (Path.directory_spec hs).1.trans habs
  have hle := length_le_of_isChain hps.turns
    (fun p hp => isPlaced_of_mem_targetsOf hdirectory (hps.first p hp)) hdistinct.of_cons
  rw [List.length_cons]
  omega

/-! ### Flattening -/

section Entry

variable {disk : Disk} {code : List Char} {file : Path} {r : Except FlattenError (List Char)}

/-- No file but the entry is being read when its statements are put in place. -/
theorem exists_answers (disk : Disk) (code : List Char) (file : Path) (journal : Journal) :
    ∃ r, Answers disk [file.normalize] file (cutLive code).1 r ∧
      ((flatten disk code file).run journal).1 = r.map (· ++ (cutLive code).2) :=
  ⟨_, answers_flattenStatements disk _ file _ journal, run_bind_pure (· ++ (cutLive code).2)⟩

/-- A cycle that is answered for the entry is an import chain. -/
theorem Answers.isImportChain_cycle {chain : List Path}
    (h : Answers disk [file.normalize] file (cutLive code).1 (.error (.cycle chain))) :
    IsImportChain disk code file chain ∧ Distinct chain.dropLast ∧
      ∃ last, chain.getLast? = some last ∧ chain.dropLast.any last.same = true := by
  obtain ⟨ps, last, hps, hdistinct, ⟨heq, hlast⟩ | ⟨_, _, ⟨⟩, _⟩⟩ :=
    h.error_spec (Path.distinct_singleton _)
  cases heq
  rw [List.dropLast_concat, List.getLast?_concat]
  exact ⟨⟨ps ++ [last], by simp, hps⟩, hdistinct, last, rfl, hlast⟩

/-- A file that is answered as unreadable for the entry is the last of an import chain. -/
theorem Answers.isImportChain_unreadable {p importer : Path} {cause : DiskError}
    (h : Answers disk [file.normalize] file (cutLive code).1
      (.error (.unreadable p importer cause))) :
    disk.readText p = .error cause ∧ ∃ ps, (file :: ps).getLast? = some importer ∧
      IsImportChain disk code file (file.normalize :: ps ++ [p]) ∧
      Distinct (file.normalize :: ps ++ [p]) := by
  obtain ⟨ps, last, hps, hdistinct, ⟨⟨⟩, _⟩ | ⟨_, _, heq, himporter, hnew, hread⟩⟩ :=
    h.error_spec (Path.distinct_singleton _)
  cases heq
  exact ⟨hread, ps, himporter, ⟨ps ++ [p], by simp, hps⟩,
    Path.distinct_concat.2 ⟨hdistinct, hnew⟩⟩

/-- The entry's statements are put in place unless an import chain fails. -/
theorem Answers.isOk_iff (h : Answers disk [file.normalize] file (cutLive code).1 r) :
    (∃ text, r = .ok text) ↔ ∀ chain, IsImportChain disk code file chain →
      Distinct chain ∧ ∀ p ∈ chain.tail, ∃ text, disk.readText p = .ok text := by
  constructor
  · rintro ⟨text, rfl⟩ chain ⟨ps, rfl, hps⟩
    exact h.followed (Path.distinct_singleton _) hps
  · intro hchains
    cases r with
    | ok text => exact ⟨text, rfl⟩
    | error e =>
      exfalso
      obtain ⟨ps, last, hps, -, hends⟩ := h.error_spec (Path.distinct_singleton _)
      obtain ⟨hdistinct, hreadable⟩ := hchains _ ⟨ps ++ [last], rfl, hps⟩
      rcases hends with ⟨-, hlast⟩ | ⟨importer, cause, -, -, -, hread⟩
      · rw [← List.cons_append, Path.distinct_concat] at hdistinct
        exact Bool.false_ne_true (hdistinct.2.symm.trans hlast)
      · obtain ⟨text, hread'⟩ := hreadable last (by simp)
        rw [hread] at hread'
        cases hread'

end Entry

/-- Flattening succeeds if and only if no chain of imports comes back to a path on it, and all paths
on them can be read. The text then has each local import replaced by its file's text, with the
imports of that in place. Otherwise the answer is such a chain, or the last path of one with
the reason why it cannot be read. From a path to a file, no chain without a repetition is longer
than the files are many, the entry and an unreadable end aside. -/
theorem flatten_exact (disk : Disk) (code : List Char) (file : Path) (journal : Journal) :
    ∃ answer, ((flatten disk code file).run journal).1 = answer ∧
      ((∃ text, answer = .ok text) ↔ ∀ chain, IsImportChain disk code file chain →
        Distinct chain ∧ ∀ p ∈ chain.tail, ∃ text, disk.readText p = .ok text) ∧
      (∀ text, answer = .ok text → ∃ inlined, Flattened disk file (cutLive code).1 inlined ∧
        text = inlined ++ (cutLive code).2) ∧
      (∀ chain, answer = .error (.cycle chain) → IsImportChain disk code file chain ∧
        Distinct chain.dropLast ∧ ∃ last, chain.getLast? = some last ∧
          chain.dropLast.any last.same = true) ∧
      (∀ p importer cause, answer = .error (.unreadable p importer cause) →
        disk.readText p = .error cause ∧ ∃ ps, (file :: ps).getLast? = some importer ∧
          IsImportChain disk code file (file.normalize :: ps ++ [p]) ∧
          Distinct (file.normalize :: ps ++ [p])) ∧
      (file.isAbsolute = true → file.fileName? ≠ none → ∀ chain,
        IsImportChain disk code file chain → Distinct chain →
        chain.length ≤ disk.files.length + 2) := by
  obtain ⟨r, hanswers, hrun⟩ := exists_answers disk code file journal
  have herror (e : FlattenError) (h : ((flatten disk code file).run journal).1 = .error e) :
      Answers disk [file.normalize] file (cutLive code).1 (.error e) := by
    rw [hrun] at h
    exact map_eq_error h.symm ▸ hanswers
  have hok : (∃ text, ((flatten disk code file).run journal).1 = .ok text) ↔
      ∃ text, r = .ok text := by
    rw [hrun]
    constructor
    · rintro ⟨text, htext⟩
      obtain ⟨inlined, hinlined⟩ := map_eq_ok htext.symm
      exact ⟨inlined, hinlined.symm⟩
    · rintro ⟨inlined, rfl⟩
      exact ⟨_, rfl⟩
  exact ⟨_, rfl, hok.trans hanswers.isOk_iff, fun text htext => flattened_of_flatten htext,
    fun chain hchain => (herror _ hchain).isImportChain_cycle,
    fun p importer cause hfailed => (herror _ hfailed).isImportChain_unreadable,
    fun habs hname chain hchain hdistinct => hchain.length_le habs hname hdistinct⟩

end Import

end StylesheetAssets
