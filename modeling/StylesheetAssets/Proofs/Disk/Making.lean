import StylesheetAssets.Proofs.Disk.Walking

/-!
Directories that are made together with those that are missing above them.
-/
namespace StylesheetAssets.Disk

variable {d d' : Disk} {here l : Location} {entry e : Entry} {pieces ps qs : List String}
  {target : Target} {s : String}

/-- Whoever comes to the end of a walk has passed all of its pieces. -/
theorem short_of_walk (h : d.walk here entry pieces = .ok target) :
    ∀ s ∈ pieces, s.utf8ByteSize ≤ maxName := by
  fun_induction walk d here entry pieces with
  | case1 => simp
  | case2 => cases h
  | case3 here piece rest hidle ih =>
    refine List.forall_mem_cons.2 ⟨?_, ih h⟩
    rcases hidle with rfl | rfl <;> decide
  | case4 here rest _ ih => exact List.forall_mem_cons.2 ⟨by decide, ih h⟩
  | case5 => cases h
  | case6 here piece rest _ _ hshort next entry _ ih =>
    exact List.forall_mem_cons.2 ⟨Nat.not_lt.1 hshort, ih h⟩
  | case7 here piece rest _ _ hshort next _ hend =>
    refine List.forall_mem_cons.2 ⟨Nat.not_lt.1 hshort, fun s hs => ?_⟩
    obtain rfl : s = "" := by simpa using List.all_eq_true.1 hend s hs
    decide
  | case8 => cases h

/-- The first part of a walk leads to something that exists, unless nothing but separators
follows. -/
theorem walk_append_cases (h : d.walk here entry (ps ++ qs) = .ok target) :
    (∃ l e, d.walk here entry ps = .ok (.found l e) ∧ d.walk l e qs = .ok target) ∨
      (∀ s ∈ qs, s = "") ∧ ∃ l asDirectory, target = .vacant l asDirectory := by
  fun_induction walk d here entry ps with
  | case1 here entry => exact .inl ⟨here, entry, rfl, h⟩
  | case2 => cases h
  | case3 here piece rest hidle ih =>
    rw [List.cons_append, walk, if_pos hidle] at h
    exact ih h
  | case4 here rest hidle ih =>
    rw [List.cons_append, walk, if_neg hidle, if_pos rfl] at h
    exact ih h
  | case5 here piece rest hidle hparent hlong =>
    rw [List.cons_append, walk, if_neg hidle, if_neg hparent, if_pos hlong] at h
    cases h
  | case6 here piece rest hidle hparent hshort next entry hget ih =>
    rw [List.cons_append, walk, if_neg hidle, if_neg hparent, if_neg hshort] at h
    have hnext : d.get? (here ++ [piece]) = some entry := hget
    simp only [hnext] at h
    exact ih h
  | case7 here piece rest hidle hparent hshort next hnone _ =>
    rw [List.cons_append, walk, if_neg hidle, if_neg hparent, if_neg hshort] at h
    have hnext : d.get? (here ++ [piece]) = none := hnone
    simp only [hnext] at h
    split at h
    · next hend =>
      cases h
      rw [List.all_append, Bool.and_eq_true, List.all_eq_true, List.all_eq_true] at hend
      exact .inr ⟨fun s hs => by simpa using hend.2 s hs, _, _, rfl⟩
    · cases h
  | case8 here piece rest hidle hparent hshort next hnone hend =>
    rw [List.cons_append, walk, if_neg hidle, if_neg hparent, if_neg hshort] at h
    have hnext : d.get? (here ++ [piece]) = none := hnone
    have hrest : ¬(rest ++ qs).all (· = "") = true := by
      rw [List.all_append, Bool.and_eq_true]
      exact fun hall => hend hall.1
    simp only [hnext, if_neg hrest] at h
    cases h

/-- A final separator is passed only behind a directory. -/
theorem walk_of_concat_empty (h : d.walk here entry (ps ++ [""]) = .ok (.found l e)) :
    d.walk here entry ps = .ok (.found l e) := by
  rcases walk_append_cases h with ⟨l', e', hwalk, hend⟩ | ⟨-, l', asDirectory, hvacant⟩
  · cases e' with
    | directory =>
      cases hend
      exact hwalk
    | file => cases hend
  · cases hvacant

theorem pieces_of_isName (h : Path.IsName s) : Path.pieces ⟨s⟩ = [s.toList] := by
  have hpieces := Path.pieces_joinWith (List.cons_ne_nil s.toList []) (by simpa using h.2.2.2)
  simpa [Text.joinWith] using hpieces

/-- The way to a name below a directory is a way to the directory, also to that of the empty path,
and then the name. -/
theorem exists_pieces_join (d : Disk) (dir : Path) (hs : Path.IsName s) :
    ∃ ps : List String, (dir.join ⟨s⟩).pieces.map String.ofList = ps ++ [s] ∧
      ∀ l, d.walk (d.startOf dir) .directory ps = .ok (.found l .directory) ↔
        d.walk (d.startOf dir) .directory (dir.pieces.map String.ofList) =
          .ok (.found l .directory) := by
  have hrelative : Path.isAbsolute ⟨s⟩ = false := Path.isAbsolute_of_isName hs
  rcases Path.pieces_join (p := dir) hrelative with ⟨hempty, heq⟩ | ⟨front, hfront, heq⟩ | heq
  · refine ⟨[], by simp [heq, pieces_of_isName hs], fun l => ?_⟩
    have hpath : dir = ⟨""⟩ := congrArg Path.mk hempty
    rw [hpath]
    exact Iff.rfl
  · refine ⟨front.map String.ofList, by simp [heq, pieces_of_isName hs], fun l => ?_⟩
    rw [hfront, List.map_append]
    constructor
    · intro h
      rw [walk_append h]
      rfl
    · exact walk_of_concat_empty
  · exact ⟨dir.pieces.map String.ofList, by simp [heq, pieces_of_isName hs], fun _ => Iff.rfl⟩

/-- From where a path leads it is one step to a name. -/
theorem resolve_join_of_walk {dir : Path} (hs : Path.IsName s)
    (hdir : d.walk (d.startOf dir) .directory (dir.pieces.map String.ofList) =
      .ok (.found l .directory))
    (hjoin : d'.resolve (dir.join ⟨s⟩) = .ok target) (hworkDir : d.workDir = d'.workDir) :
    d.resolve (dir.join ⟨s⟩) = .ok (d.openTarget (l ++ [s])) := by
  have hstart : d'.startOf (dir.join ⟨s⟩) = d.startOf dir := by
    rw [startOf_join d' dir (Path.isAbsolute_of_isName hs), startOf, startOf, hworkDir]
  obtain ⟨ps, hps, hto⟩ := exists_pieces_join d dir hs
  have hshort : s.utf8ByteSize ≤ maxName :=
    short_of_walk (walk_of_resolve hjoin) s (by rw [hps]; simp)
  have hidle : ¬(s = "" ∨ s = ".") := by
    rintro (rfl | rfl)
    · exact hs.1 rfl
    · exact hs.2.1 rfl
  rw [resolve_eq_walk hjoin hworkDir, hps, hstart, walk_append ((hto l).2 hdir),
    walk_last hidle hs.2.2.1 (Nat.not_lt.2 hshort)]

theorem resolve_join {dir : Path} (hs : Path.IsName s)
    (hdir : d.resolve dir = .ok (.found l .directory))
    (hjoin : d'.resolve (dir.join ⟨s⟩) = .ok target) (hworkDir : d.workDir = d'.workDir) :
    d.resolve (dir.join ⟨s⟩) = .ok (d.openTarget (l ++ [s])) :=
  resolve_join_of_walk hs (walk_of_resolve hdir) hjoin hworkDir

/-! ### Canonical paths -/

theorem walk_idle (h : ∀ s ∈ pieces, s = "" ∨ s = ".") :
    d.walk here .directory pieces = .ok (.found here .directory) := by
  induction pieces with
  | nil => rfl
  | cons s pieces ih =>
    obtain ⟨hs, hpieces⟩ := List.forall_mem_cons.1 h
    rw [walk, if_pos hs]
    exact ih hpieces

/-- Where nothing that the walk comes to is a file, it gets as far as the directories go. -/
theorem walk_apart {final : Disk} (hfinal : final.walk here .directory pieces = .ok (.found l e))
    (he : e = .directory)
    (hapart : ∀ k bytes, d.get? k = some (.file bytes) → final.get? k ≠ some .directory) :
    d.walk here .directory pieces = .ok (.found l .directory) ∨
      (∃ asDirectory, d.walk here .directory pieces = .ok (.vacant l asDirectory)) ∨
      d.walk here .directory pieces = .error .notFound := by
  generalize hentry : Entry.directory = entry at hfinal ⊢
  fun_induction walk final here entry pieces with
  | case1 here entry =>
    cases hfinal
    exact .inl (by rw [he]; rfl)
  | case2 => cases hentry
  | case3 here piece rest hidle ih =>
    rw [walk, if_pos hidle]
    exact ih rfl hfinal
  | case4 here rest hidle ih =>
    rw [walk, if_neg hidle, if_pos rfl]
    exact ih rfl hfinal
  | case5 => cases hfinal
  | case6 here piece rest hidle hparent hshort next entry hget ih =>
    rw [walk, if_neg hidle, if_neg hparent, if_neg hshort]
    cases entry with
    | file bytes =>
      obtain ⟨-, -, hfile⟩ := walk_file hfinal
      rw [he] at hfile
      cases hfile
    | directory =>
      rcases hd : d.get? (here ++ [piece]) with - | (bytes | -)
      · simp only [hd]
        split
        · next hend =>
          have hempty : ∀ s ∈ rest, s = "" := by simpa using hend
          have hnext : final.walk next .directory rest = .ok (.found next .directory) :=
            walk_idle fun s hs => .inl (hempty s hs)
          obtain ⟨rfl, -⟩ : next = l ∧ Entry.directory = e := by simpa [hnext] using hfinal
          exact .inr (.inl ⟨_, rfl⟩)
        · exact .inr (.inr rfl)
      · exact absurd hget (hapart _ bytes hd)
      · simp only [hd]
        exact ih rfl hfinal
  | case7 => cases hfinal
  | case8 => cases hfinal

theorem resolve_apart {final : Disk} {p : Path}
    (hfinal : final.resolve p = .ok (.found l .directory)) (hworkDir : d.workDir = final.workDir)
    (hapart : ∀ k bytes, d.get? k = some (.file bytes) → final.get? k ≠ some .directory) :
    d.resolve p = .ok (.found l .directory) ∨
      (∃ asDirectory, d.resolve p = .ok (.vacant l asDirectory)) ∨
      d.resolve p = .error .notFound := by
  rw [resolve_eq_walk hfinal hworkDir]
  exact walk_apart (walk_of_resolve hfinal) rfl hapart

theorem get?_createDirectory {k : Location} {p : Path} (h : d.placeOf p ≠ k) :
    (d.createDirectory p).2.get? k = d.get? k := by
  unfold createDirectory
  split
  · rfl
  · next hvacant =>
    have hplace := place_of_resolve hvacant
    exact get?_put_of_ne _ fun hk => h (hplace.symm.trans hk.symm)
  · rfl

/-- Only the directories of the list are made. -/
theorem get?_createAll {k : Location} (d : Disk) {above : List Path}
    (h : ∀ p ∈ above, d.placeOf p ≠ k) : (d.createAll above).2.get? k = d.get? k := by
  have hkept {d d' : Disk} {p : Path} {r : Except DiskError Unit}
      (hmade : d.createDirectory p = (r, d')) (hp : d.placeOf p ≠ k) :
      d'.get? k = d.get? k ∧ d'.workDir = d.workDir := by
    have hplace := get?_createDirectory hp
    rw [hmade] at hplace
    exact ⟨hplace, (extends_of_createDirectory hmade).workDir⟩
  have hbelow {d d₁ : Disk} {p : Path} {above : List Path} {r : Except DiskError Unit}
      (hmade : d.createDirectory p = (r, d₁)) (h : ∀ q ∈ p :: above, d.placeOf q ≠ k)
      (ih : (∀ q ∈ above, d₁.placeOf q ≠ k) → (d₁.createAll above).2.get? k = d₁.get? k) :
      (d₁.createAll above).2.get? k = d.get? k ∧ (d₁.createAll above).2.placeOf p ≠ k := by
    obtain ⟨hp, habove⟩ := List.forall_mem_cons.1 h
    obtain ⟨hfirst, hworkDir⟩ := hkept hmade hp
    have hworkDir' := (extends_createAll d₁ above).workDir.trans hworkDir
    refine ⟨(ih fun q hq => ?_).trans hfirst, by rwa [placeOf_congr hworkDir']⟩
    rw [placeOf_congr hworkDir]
    exact habove q hq
  fun_induction createAll d above with
  | case1 => rfl
  | case2 => rfl
  | case3 d p above _ d₁ hmade => exact (hkept hmade (h p List.mem_cons_self)).1
  | case4 d p above _ d₁ hmissing e d₂ hfailed ih =>
    have hmiddle := (hbelow hmissing h ih).1
    rwa [hfailed] at hmiddle
  | case5 d p above _ d₁ hmissing d₂ hrest d₃ hmade ih =>
    obtain ⟨hmiddle, hlast⟩ := hbelow hmissing h ih
    rw [hrest] at hmiddle hlast
    exact (hkept hmade hlast).1.trans hmiddle
  | case6 d p above _ d₁ hmissing d₂ hrest e d₃ hfailed ih =>
    obtain ⟨hmiddle, hlast⟩ := hbelow hmissing h ih
    rw [hrest] at hmiddle hlast
    exact (hkept hfailed hlast).1.trans hmiddle
  | case7 d p above _ e d₁ _ hfailed => exact (hkept hfailed (h p List.mem_cons_self)).1

open StylesheetAssets.Path (ofComponents place IsName)

variable {names : List String}

theorem parent?_ofComponents_place (h : ∀ t ∈ s :: names, IsName t) :
    (ofComponents (place (s :: names))).parent? = some (ofComponents (place names)) := by
  have hdirectory := Path.directory_ofComponents_place h
  unfold Path.directory at hdirectory
  cases hparent : (ofComponents (place (s :: names))).parent? with
  | some q => rw [← hdirectory, hparent, Option.getD_some]
  | none =>
    have habs := Path.isAbsolute_ofComponents_place fun t ht => h t (List.mem_cons_of_mem s ht)
    rw [← hdirectory, hparent] at habs
    cases habs

theorem ancestors_root : ancestors (ofComponents (place [])) = [ofComponents (place [])] := rfl

theorem ancestors_cons (h : ∀ t ∈ s :: names, IsName t) :
    ancestors (ofComponents (place (s :: names))) =
      ofComponents (place (s :: names)) :: ancestors (ofComponents (place names)) := by
  have hlength {names : List String} (h : ∀ t ∈ names, IsName t) :
      (ofComponents (place names)).components.length = names.length + 1 := by
    rw [(Path.isCanonical_ofComponents h).components_eq, Path.trail_ofComponents_place h]
    simp [place]
  rw [ancestors, hlength h, List.length_cons, ancestors.go, parent?_ofComponents_place h,
    ancestors, hlength fun t ht => h t (List.mem_cons_of_mem s ht)]

/-! ### Making a canonical path -/

/-- A directory that exists is not made again. -/
theorem createAll_of_found {p : Path} {above : List Path}
    (h : d.resolve p = .ok (.found l .directory)) : d.createAll (p :: above) = (.ok (), d) := by
  have hmade : d.createDirectory p = (.error .alreadyExists, d) := by rw [createDirectory, h]
  have hthere : d.leadsToDirectory p = true := by rw [leadsToDirectory, h]
  rw [createAll]
  split_ifs
  · rfl
  · simp only [hmade, hthere]
    rfl

theorem resolve_root (d : Disk) :
    d.resolve (ofComponents (place [])) = .ok (.found [] .directory) := by
  rfl

theorem Followable.of_join {dir p : Path} (h : d.Followable (dir.join p)) (hdir : dir.text ≠ "")
    (hp : p.isAbsolute = false) : d.Followable dir := by
  obtain ⟨rest, hrest⟩ : ∃ rest, (dir.join p).text = dir.text ++ rest := by
    unfold Path.join
    rw [if_neg (by simp [hp])]
    split_ifs
    · exact ⟨p.text, rfl⟩
    · exact ⟨"/" ++ p.text, String.append_assoc ..⟩
  refine ⟨fun hnul => h.plain ?_, hdir, le_trans ?_ h.short, ?_⟩
  · rw [hrest, String.toList_append]
    exact List.mem_append_left _ hnul
  · rw [hrest, String.utf8ByteSize_append]
    exact Nat.le_add_right _ _
  · rw [← Path.isAbsolute_join (p := dir) hp]
    exact h.started

/-- The way to a name leads through its directory. -/
theorem resolve_of_join {dir : Path} (hdir : dir.text ≠ "") (hs : IsName s)
    (h : d.resolve (dir.join ⟨s⟩) = .ok target) :
    ∃ l, d.resolve dir = .ok (.found l .directory) := by
  have hrelative : Path.isAbsolute ⟨s⟩ = false := Path.isAbsolute_of_isName hs
  have hfollowable := (followable_of_resolve h).of_join hdir hrelative
  obtain ⟨ps, hps, hto⟩ := exists_pieces_join d dir hs
  have hwalk := walk_of_resolve h
  rw [hps, startOf_join d dir hrelative] at hwalk
  rcases walk_append_cases hwalk with ⟨l, e, hfound, hlast⟩ | ⟨hempty, -⟩
  · cases e with
    | directory => exact ⟨l, by rw [hfollowable.resolve_eq, (hto l).1 hfound]⟩
    | file => cases hlast
  · have hnone := hempty s (List.mem_singleton_self s)
    exact absurd (by rw [hnone]; rfl) hs.1

/-- A directory lies below a directory. -/
theorem resolve_directory_of_join {dir : Path} (hdir : dir.text ≠ "") (hs : IsName s)
    (h : d.resolve (dir.join ⟨s⟩) = .ok (.found l .directory)) :
    ∃ above, d.resolve dir = .ok (.found above .directory) ∧ l = above ++ [s] ∧
      d.get? l = some .directory := by
  obtain ⟨above, habove⟩ := resolve_of_join hdir hs h
  have htarget := resolve_join hs habove h rfl
  rw [h, openTarget] at htarget
  refine ⟨above, habove, ?_⟩
  cases hget : d.get? (above ++ [s]) with
  | none =>
    rw [hget] at htarget
    cases htarget
  | some e =>
    rw [hget] at htarget
    cases htarget
    exact ⟨rfl, hget⟩

/-- A directory that is missing below another one is made. -/
theorem createDirectory_join {dir : Path} {above : Location} (hs : IsName s)
    (hdir : d.resolve dir = .ok (.found above .directory))
    (hjoin : d'.resolve (dir.join ⟨s⟩) = .ok target) (hworkDir : d.workDir = d'.workDir)
    (hnone : d.get? (above ++ [s]) = none) :
    d.createDirectory (dir.join ⟨s⟩) = (.ok (), d.put (above ++ [s]) .directory) ∧
      (d.put (above ++ [s]) .directory).resolve (dir.join ⟨s⟩) =
        .ok (.found (above ++ [s]) .directory) := by
  have hvacant := resolve_join hs hdir hjoin hworkDir
  rw [openTarget, hnone] at hvacant
  have hmade : d.createDirectory (dir.join ⟨s⟩) = (.ok (), d.put (above ++ [s]) .directory) := by
    rw [createDirectory, hvacant]
  have hextends := extends_of_createDirectory hmade
  have hdir' := resolve_directory hextends.workDir (fun _ => hextends.kept) hdir
  have hthere := resolve_join hs hdir' hjoin (hextends.workDir.trans hworkDir)
  rw [openTarget, get?_put_self _ (by simp)] at hthere
  exact ⟨hmade, hthere⟩

/-- What lies on the way to a directory is a directory. -/
theorem get?_of_resolve_place (h : ∀ t ∈ names, IsName t)
    (hd : d.resolve (ofComponents (place names)) = .ok (.found l .directory)) :
    ∀ k, k <+: names.reverse → d.get? k = some .directory := by
  induction names generalizing l with
  | nil =>
    intro k hk
    rw [List.prefix_nil.1 hk]
    exact d.get?_nil
  | cons s names ih =>
    have hnames : ∀ t ∈ names, IsName t := fun t ht => h t (List.mem_cons_of_mem s ht)
    have hplace : l = (s :: names).reverse := by
      have hplace : l = d.placeOf (ofComponents (place (s :: names))) := place_of_resolve hd
      rw [hplace, (Path.isCanonical_ofComponents h).placeOf_eq, Path.trail_ofComponents_place h]
    rw [Path.ofComponents_place_cons] at hd
    have htext := Path.text_ne_of_isAbsolute (Path.isAbsolute_ofComponents_place hnames)
    obtain ⟨above, habove, -, hthere⟩ :=
      resolve_directory_of_join htext (h s List.mem_cons_self) hd
    intro k hk
    rw [List.reverse_cons, List.prefix_concat_iff, ← List.reverse_cons] at hk
    rcases hk with rfl | hk
    · rwa [← hplace]
    · exact ih hnames habove k hk

theorem directories_of_resolve {p : Path} (hp : p.IsCanonical)
    (h : d.resolve p = .ok (.found l .directory)) {k : Location} (hk : k <+: d.placeOf p) :
    d.get? k = some .directory := by
  rw [hp.placeOf_eq] at hk
  rw [hp.eq] at h
  exact get?_of_resolve_place (fun _ => Path.isName_of_mem_trail) h k hk

/-- A directory that is missing below one that exists is all that is made. -/
theorem createAll_of_vacant {dir : Path} {above : List Path} {asDirectory : Bool}
    (hdir : dir.text ≠ "") (hs : IsName s) (hne : ¬(dir.join ⟨s⟩).same .empty = true)
    (h : d.resolve (dir.join ⟨s⟩) = .ok (.vacant l asDirectory)) :
    ∃ d', d.createAll (dir.join ⟨s⟩ :: above) = (.ok (), d') ∧
      d'.resolve (dir.join ⟨s⟩) = .ok (.found l .directory) := by
  obtain ⟨k, hd⟩ := resolve_of_join hdir hs h
  have hto := resolve_join hs hd h rfl
  rw [h, openTarget] at hto
  cases hnone : d.get? (k ++ [s]) with
  | some e =>
    rw [hnone] at hto
    cases hto
  | none =>
    rw [hnone] at hto
    cases hto
    obtain ⟨hmade, hresolve⟩ := createDirectory_join hs hd h rfl hnone
    rw [createAll, if_neg hne]
    simp only [hmade]
    exact ⟨_, rfl, hresolve⟩

/-- Where the directory above is missing too, it is made first. That may have made the path itself
already. -/
theorem createAll_of_missing {final d₁ : Disk} {dir : Path} {above : List Path}
    (hs : IsName s) (hne : ¬(dir.join ⟨s⟩).same .empty = true)
    (hfinal : final.resolve (dir.join ⟨s⟩) = .ok target) (hworkDir : d.workDir = final.workDir)
    (hfile : ∀ bytes, d.get? (l ++ [s]) ≠ some (.file bytes))
    (h : d.resolve (dir.join ⟨s⟩) = .error .notFound)
    (habove : d.createAll above = (.ok (), d₁))
    (hdir : d₁.resolve dir = .ok (.found l .directory)) :
    ∃ d', d.createAll (dir.join ⟨s⟩ :: above) = (.ok (), d') ∧
      d'.resolve (dir.join ⟨s⟩) = .ok (.found (l ++ [s]) .directory) := by
  have hrefused : d.createDirectory (dir.join ⟨s⟩) = (.error .notFound, d) := by
    rw [createDirectory, h]
  have hextends : d.Extends d₁ := by
    have hall := extends_createAll d above
    rwa [habove] at hall
  have hworkDir₁ := hextends.workDir.trans hworkDir
  rw [createAll, if_neg hne]
  simp only [hrefused, habove]
  rcases hl : d₁.get? (l ++ [s]) with - | (bytes | -)
  · obtain ⟨hmade, hresolve⟩ := createDirectory_join hs hdir hfinal hworkDir₁ hl
    simp only [hmade]
    exact ⟨_, rfl, hresolve⟩
  · exact absurd (hextends.filed hl) (hfile bytes)
  · have hresolve := resolve_join hs hdir hfinal hworkDir₁
    rw [openTarget, hl] at hresolve
    have hmade : d₁.createDirectory (dir.join ⟨s⟩) = (.error .alreadyExists, d₁) := by
      rw [createDirectory, hresolve]
    have hleads : d₁.leadsToDirectory (dir.join ⟨s⟩) = true := by
      rw [leadsToDirectory, hresolve]
    simp only [hmade, hleads]
    exact ⟨d₁, rfl, hresolve⟩

/-- A canonical path can be made wherever it leads to a directory on a disk that has none where a
file lies. -/
theorem createAll_canonical {final : Disk} {l : Location} (h : ∀ t ∈ names, IsName t)
    (hfinal : final.resolve (ofComponents (place names)) = .ok (.found l .directory))
    (hworkDir : d.workDir = final.workDir)
    (hapart : ∀ k bytes, d.get? k = some (.file bytes) → final.get? k ≠ some .directory) :
    ∃ d', d.createAll (ancestors (ofComponents (place names))) = (.ok (), d') ∧
      d'.resolve (ofComponents (place names)) = .ok (.found l .directory) := by
  induction names generalizing l with
  | nil =>
    have hroot := resolve_root final
    rw [hfinal] at hroot
    cases hroot
    exact ⟨d, by rw [ancestors_root, createAll_of_found (resolve_root d)], resolve_root d⟩
  | cons s names ih =>
    have hs : IsName s := h s List.mem_cons_self
    have hnames : ∀ t ∈ names, IsName t := fun t ht => h t (List.mem_cons_of_mem s ht)
    set dir := ofComponents (place names) with hdir
    have hpath : ofComponents (place (s :: names)) = dir.join ⟨s⟩ :=
      Path.ofComponents_place_cons s names
    have htext := Path.text_ne_of_isAbsolute (Path.isAbsolute_ofComponents_place hnames)
    have hnotEmpty : ¬(dir.join ⟨s⟩).same .empty = true := by
      rw [← hpath, Path.same, decide_eq_true_iff,
        (Path.isCanonical_ofComponents h).components_eq]
      exact List.cons_ne_nil _ _
    rw [hpath] at hfinal
    rw [ancestors_cons h, ← hdir, hpath]
    obtain ⟨above, habove, rfl, hthere⟩ := resolve_directory_of_join htext hs hfinal
    rcases resolve_apart hfinal hworkDir hapart with hfound | ⟨asDirectory, hvacant⟩ | hmissing
    · exact ⟨d, createAll_of_found hfound, hfound⟩
    · exact createAll_of_vacant htext hs hnotEmpty hvacant
    · obtain ⟨d₁, hrest, hd₁⟩ := ih hnames habove
      have hfile (bytes : ByteArray) : d.get? (above ++ [s]) ≠ some (.file bytes) :=
        fun hbytes => hapart _ bytes hbytes hthere
      exact createAll_of_missing hs hnotEmpty hfinal hworkDir hfile hmissing hrest hd₁

/-- The same for the path itself. Nothing changes but on the way to it. -/
theorem createDirectories_canonical {final : Disk} {p : Path} {l : Location} (hp : p.IsCanonical)
    (hfinal : final.resolve p = .ok (.found l .directory)) (hworkDir : d.workDir = final.workDir)
    (hapart : ∀ k bytes, d.get? k = some (.file bytes) → final.get? k ≠ some .directory) :
    (d.createDirectories p).1 = .ok () ∧
      (d.createDirectories p).2.resolve p = .ok (.found l .directory) := by
  rw [createDirectories, hp.eq]
  rw [hp.eq] at hfinal
  obtain ⟨d', hmade, hresolve⟩ :=
    createAll_canonical (fun _ => Path.isName_of_mem_trail) hfinal hworkDir hapart
  rw [hmade]
  exact ⟨rfl, hresolve⟩

theorem mem_ancestors {q : Path} (h : ∀ t ∈ names, IsName t)
    (hq : q ∈ ancestors (ofComponents (place names))) :
    ∃ above, above <:+ names ∧ q = ofComponents (place above) := by
  induction names with
  | nil =>
    rw [ancestors_root] at hq
    exact ⟨[], List.suffix_refl [], List.mem_singleton.1 hq⟩
  | cons s names ih =>
    rw [ancestors_cons h] at hq
    rcases List.mem_cons.1 hq with rfl | hq
    · exact ⟨_, List.suffix_refl _, rfl⟩
    · obtain ⟨above, hsuffix, rfl⟩ := ih (fun t ht => h t (List.mem_cons_of_mem s ht)) hq
      exact ⟨above, hsuffix.trans (List.suffix_cons s names), rfl⟩

/-- Directories are made only on the way to the path. -/
theorem get?_createDirectories {p : Path} {k : Location} (hp : p.IsCanonical)
    (hk : ¬k <+: d.placeOf p) : (d.createDirectories p).2.get? k = d.get? k := by
  refine get?_createAll d fun q hq hplace => hk ?_
  rw [hp.eq] at hq
  have hnames : ∀ t ∈ p.trail, IsName t := fun _ => Path.isName_of_mem_trail
  obtain ⟨above, hsuffix, rfl⟩ := mem_ancestors hnames hq
  have hcanonical := Path.isCanonical_ofComponents fun t ht => hnames t (hsuffix.subset ht)
  rw [← hplace, hcanonical.placeOf_eq, hp.placeOf_eq, List.reverse_prefix,
    Path.trail_ofComponents_place fun t ht => hnames t (hsuffix.subset ht)]
  exact hsuffix

end StylesheetAssets.Disk
