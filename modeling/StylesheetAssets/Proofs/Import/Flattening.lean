import Mathlib.Tactic.SplitIfs
import StylesheetAssets.Import.Flatten
import StylesheetAssets.Proofs.Disk.Place

/-!
What a successful flattening has put together, by the files that it came from.
-/
namespace StylesheetAssets

namespace Import

/-- The statements of `file`, each with the text in front of it, become `text`: local imports are
replaced by the texts of their files, marked and with their own imports in place. -/
inductive Flattened (disk : Disk) : Path → List (List Char × Statement) → List Char → Prop
  | done (file : Path) : Flattened disk file [] []
  | stays {file : Path} {before after : List Char} {i : Statement}
      {rest : List (List Char × Statement)} (h : staysInPlace i.path = true)
      (hrest : Flattened disk file rest after) :
      Flattened disk file ((before, i) :: rest) (before ++ i.text ++ after)
  | inlined {file : Path} {before inlined after : List Char} {i : Statement}
      {rest : List (List Char × Statement)} {location : Location} {bytes : ByteArray}
      {text : String} (h : staysInPlace i.path = false)
      (hopen : disk.openFile (targetOf file i.path) = .ok (location, bytes))
      (hdecode : Disk.decode bytes = .ok text)
      (hfile : Flattened disk (targetOf file i.path) (cutLive (mark text.toList)).1 inlined)
      (hrest : Flattened disk file rest after) :
      Flattened disk file ((before, i) :: rest)
        (before ++ inlined ++ (cutLive (mark text.toList)).2 ++ after)

variable {α β : Type}

theorem run_bind (x : ExceptT FlattenError (StateM Journal) α)
    (f : α → ExceptT FlattenError (StateM Journal) β) (journal : Journal) :
    (x >>= f).run journal = (ExceptT.bindCont f (x.run journal).1).run (x.run journal).2 := rfl

theorem run_bind_eq_ok {x : ExceptT FlattenError (StateM Journal) α}
    {f : α → ExceptT FlattenError (StateM Journal) β} {journal : Journal} {b : β}
    (h : ((x >>= f).run journal).1 = .ok b) :
    ∃ a later, x.run journal = (.ok a, later) ∧ ((f a).run later).1 = .ok b := by
  rw [run_bind] at h
  cases hx : x.run journal with
  | mk r later =>
    rw [hx] at h
    cases r with
    | error e => cases h
    | ok a => exact ⟨a, later, rfl, h⟩

theorem run_bind_of_eq {x : ExceptT FlattenError (StateM Journal) α} {a : α}
    {journal later : Journal} (h : x.run journal = (.ok a, later))
    (f : α → ExceptT FlattenError (StateM Journal) β) :
    (x >>= f).run journal = (f a).run later := by
  rw [run_bind, h]
  rfl

theorem run_bind_of_ok {x : ExceptT FlattenError (StateM Journal) α} {a : α} {journal : Journal}
    (h : (x.run journal).1 = .ok a) (f : α → ExceptT FlattenError (StateM Journal) β) :
    ((x >>= f).run journal).1 = ((f a).run (x.run journal).2).1 :=
  congrArg Prod.fst (run_bind_of_eq (Prod.ext h rfl) f)

theorem markFile_fst (code : List Char) (file : Path) (journal : Journal) :
    (markFile code file journal).1 = mark code := by
  unfold markFile
  dsimp only
  split <;> rfl

theorem run_readImport (disk : Disk) (target file : Path) (journal : Journal) :
    (∃ text, ∃ h : disk.readText target = .ok text,
        ((readImport disk target file).run journal).1 = .ok ⟨text, h⟩) ∨
      ∃ cause, disk.readText target = .error cause ∧
        ((readImport disk target file).run journal).1 = .error (.unreadable target file cause) := by
  unfold readImport
  rw [run_bind_of_ok (a := ()) rfl]
  split
  · next cause hread => exact .inr ⟨cause, hread, rfl⟩
  · next text hread => exact .inl ⟨text, hread, rfl⟩

theorem run_markFile (text : List Char) (target : Path) (journal : Journal) :
    ((liftM (markFile text target) : ExceptT FlattenError (StateM Journal) (List Char)).run
      journal).1 = .ok (mark text) :=
  congrArg Except.ok (markFile_fst text target journal)

theorem flattenStatements_of_cycle {disk : Disk} {chain : List Path} {file : Path}
    {before : List Char} {i : Statement} {rest : List (List Char × Statement)}
    (hstays : ¬staysInPlace i.path = true)
    (hcycle : chain.any (targetOf file i.path).same = true) :
    flattenStatements disk chain file ((before, i) :: rest) =
      throw (.cycle (chain ++ [targetOf file i.path])) := by
  rw [flattenStatements, if_neg hstays]
  dsimp only
  rw [dif_pos hcycle]

/-- An import is put in place if its file is readable and not being read already. -/
theorem flattenStatements_inlined {disk : Disk} {chain : List Path} {file : Path}
    (before : List Char) {inlined after : List Char} {i : Statement}
    {rest : List (List Char × Statement)} {text : String} (hstays : staysInPlace i.path = false)
    (hchain : chain.any (targetOf file i.path).same = false)
    (hread : disk.readText (targetOf file i.path) = .ok text)
    (hfile : ∀ journal, ((flattenStatements disk (chain ++ [targetOf file i.path])
      (targetOf file i.path) (cutLive (mark text.toList)).1).run journal).1 = .ok inlined)
    (hrest : ∀ journal, ((flattenStatements disk chain file rest).run journal).1 = .ok after)
    (journal : Journal) :
    ((flattenStatements disk chain file ((before, i) :: rest)).run journal).1 =
      .ok (before ++ inlined ++ (cutLive (mark text.toList)).2 ++ after) := by
  obtain ⟨read, hread', hrun⟩ :
      ∃ read, ∃ h : disk.readText (targetOf file i.path) = .ok read,
        ((readImport disk (targetOf file i.path) file).run journal).1 = .ok ⟨read, h⟩ := by
    refine (run_readImport disk (targetOf file i.path) file journal).resolve_right ?_
    rintro ⟨cause, herror, -⟩
    rw [hread] at herror
    cases herror
  obtain rfl : text = read := Except.ok.inj (hread.symm.trans hread')
  rw [flattenStatements, if_neg (by simp [hstays])]
  dsimp only
  rw [dif_neg (by simp [hchain]), run_bind_of_ok hrun]
  dsimp only
  rw [run_bind_of_ok (run_markFile _ _ _), run_bind_of_ok (hfile _),
    run_bind_of_ok (a := ()) rfl, run_bind_of_ok (hrest _)]
  rfl

/-- A text with one import, of a file without imports. -/
theorem flatten_of_single {disk : Disk} {code before finish : List Char} {i : Statement}
    {file : Path} {location : Location} {bytes : ByteArray} {content : String}
    (hcode : cutLive code = ([(before, i)], finish)) (hstays : staysInPlace i.path = false)
    (hcycle : (targetOf file i.path).same file.normalize = false)
    (hopen : disk.openFile (targetOf file i.path) = .ok (location, bytes))
    (hdecode : Disk.decode bytes = .ok content)
    (hcontent : cutLive (mark content.toList) = ([], content.toList)) (journal : Journal) :
    ((flatten disk code file).run journal).1 = .ok (before ++ content.toList ++ finish) := by
  have hnone (chain : List Path) (file : Path) (journal : Journal) :
      ((flattenStatements disk chain file []).run journal).1 = .ok [] := by
    rw [flattenStatements]
    rfl
  have hchain : [file.normalize].any (targetOf file i.path).same = false := by
    rw [List.any_cons, hcycle]
    rfl
  have hread := Disk.readText_eq_ok_iff_openFile.2 ⟨location, bytes, hopen, hdecode⟩
  have hinlined := flattenStatements_inlined before hstays hchain hread
    (by rw [hcontent]; exact hnone _ _) (hnone _ _) journal
  unfold flatten
  rw [hcode, run_bind_of_ok hinlined, hcontent]
  simp only [List.append_nil]
  rfl

/-- What was put in place of an import that does not stay there. -/
theorem exists_inlined_of_flattenStatements {disk : Disk} {chain : List Path} {file : Path}
    {before text : List Char} {i : Statement} {rest : List (List Char × Statement)}
    {journal : Journal} (hstays : ¬staysInPlace i.path = true)
    (hnew : ¬chain.any (targetOf file i.path).same = true)
    (h : ((flattenStatements disk chain file ((before, i) :: rest)).run journal).1 = .ok text) :
    ∃ read noted inlined behind after, disk.readText (targetOf file i.path) = .ok read ∧
      ((flattenStatements disk (chain ++ [targetOf file i.path]) (targetOf file i.path)
        (cutLive (mark read.toList)).1).run noted).1 = .ok inlined ∧
      ((flattenStatements disk chain file rest).run behind).1 = .ok after ∧
      text = before ++ inlined ++ (cutLive (mark read.toList)).2 ++ after := by
  rw [flattenStatements, if_neg hstays] at h
  dsimp only at h
  rw [dif_neg hnew] at h
  obtain ⟨⟨read, hread⟩, later, -, h⟩ := run_bind_eq_ok h
  dsimp only at h
  obtain ⟨marked, noted, hmarked, h⟩ := run_bind_eq_ok h
  obtain rfl : mark read.toList = marked :=
    Except.ok.inj ((run_markFile _ _ _).symm.trans (congrArg Prod.fst hmarked))
  obtain ⟨inlined, _, hinlined, h⟩ := run_bind_eq_ok h
  obtain ⟨-, behind, -, h⟩ := run_bind_eq_ok h
  obtain ⟨after, _, hafter, hdone⟩ := run_bind_eq_ok h
  cases hdone
  exact ⟨read, noted, inlined, behind, after, hread, congrArg Prod.fst hinlined,
    congrArg Prod.fst hafter, rfl⟩

theorem flattened_of_flattenStatements {disk : Disk} {chain : List Path} {file : Path}
    {statements : List (List Char × Statement)} {journal : Journal} {text : List Char}
    (h : ((flattenStatements disk chain file statements).run journal).1 = .ok text) :
    Flattened disk file statements text := by
  induction chain, file, statements using flattenStatements.induct disk
    generalizing journal text with
  | case1 chain file =>
    rw [flattenStatements] at h
    cases h
    exact .done file
  | case2 chain file before i rest hstays ih =>
    rw [flattenStatements, if_pos hstays] at h
    obtain ⟨after, later, hafter, hdone⟩ := run_bind_eq_ok h
    cases hdone
    exact .stays hstays (ih (congrArg Prod.fst hafter))
  | case3 chain file before i rest hstays target =>
    rename_i hcycle
    rw [flattenStatements_of_cycle hstays hcycle] at h
    cases h
  | case4 chain file before i rest hstays target hcycle ihfile =>
    rename_i ihrest
    obtain ⟨read, _, inlined, _, after, hread, hinlined, hafter, rfl⟩ :=
      exists_inlined_of_flattenStatements hstays hcycle h
    obtain ⟨location, bytes, hopen, hdecode⟩ := Disk.readText_eq_ok_iff_openFile.1 hread
    exact .inlined (by simpa using hstays) hopen hdecode (ihfile _ hread _ hinlined)
      (ihrest hafter)

theorem flattened_of_flatten {disk : Disk} {code text : List Char} {file : Path}
    {journal : Journal} (h : ((flatten disk code file).run journal).1 = .ok text) :
    ∃ inlined, Flattened disk file (cutLive code).1 inlined ∧
      text = inlined ++ (cutLive code).2 := by
  obtain ⟨inlined, later, hinlined, hdone⟩ := run_bind_eq_ok h
  cases hdone
  exact ⟨inlined, flattened_of_flattenStatements (congrArg Prod.fst hinlined), rfl⟩

end Import

end StylesheetAssets
