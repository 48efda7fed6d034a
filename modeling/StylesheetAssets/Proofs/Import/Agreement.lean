import Mathlib.Data.List.Nodup
import StylesheetAssets.Proofs.Import.Marking
import StylesheetAssets.Proofs.Stylesheet.AtRules

/-!
The import statements that are marked, and those that are read as at-rules. Two scans of one text
decide which they are: they part at escapes outside of strings, at strings over more than one line,
and where a statement in a comment or a string is found that reaches out of it.
-/
namespace StylesheetAssets.Import

open Stylesheet (HeadState HeadMode AtRule atRules)
open Text (Within)

/-! ### Places of statements -/

/-- `out` is the text `code` behind `front`, with markers around the statements at `places`. -/
inductive Wraps : (front code out : List Char) → (places : List (List Char × Statement)) → Prop
  | nil {front : List Char} : Wraps front [] [] []
  | keep {front code out : List Char} {places : List (List Char × Statement)} (c : Char)
      (h : Wraps (front ++ [c]) code out places) : Wraps front (c :: code) (c :: out) places
  | wrap {front code out : List Char} {places : List (List Char × Statement)} (i : Statement)
      (h : Wraps (front ++ i.text) code out places) :
      Wraps front (i.text ++ code) (i.marked ++ out) ((front, i) :: places)

/-- The statements that marking wraps, each with the text in front of it. -/
def wrapped (code : List Char) : List (List Char × Statement) :=
  Text.picked Piece.text Piece.statement? [] (livePieces code)

theorem wraps_flatMap (front : List Char) (ps : List Piece) :
    Wraps front (ps.flatMap Piece.text) (ps.flatMap Piece.markedText)
      (Text.picked Piece.text Piece.statement? front ps) := by
  induction ps generalizing front with
  | nil => exact .nil
  | cons p ps ih =>
    cases p with
    | char c => exact .keep c (ih (front ++ [c]))
    | statement i => exact .wrap i (ih (front ++ i.text))

/-- Marking wraps those statements and changes nothing else. -/
theorem wraps_mark (code : List Char) : Wraps [] code (mark code) (wrapped code) := by
  have hwraps := wraps_flatMap [] (livePieces code)
  rwa [flatMap_text_livePieces, ← mark_eq_flatMap] at hwraps

theorem picked_map_char (front s : List Char) (ps : List Piece) :
    Text.picked Piece.text Piece.statement? front (s.map .char ++ ps) =
      Text.picked Piece.text Piece.statement? (front ++ s) ps := by
  induction s generalizing front with
  | nil => rw [List.append_nil]; rfl
  | cons c s ih =>
    rw [List.append_cons front c s]
    exact ih (front ++ [c])

/-- The statements that stay are those that start outside of comments and strings. -/
theorem picked_quietFrom (front : List Char) (ps : List Piece) :
    Text.picked Piece.text Piece.statement? front (quietFrom (Region.outside.after front) ps) =
      (Text.picked Piece.text Piece.statement? front ps).filter
        fun p => !(Region.outside.after p.1).inside := by
  induction ps generalizing front with
  | nil => rfl
  | cons p ps ih =>
    cases p with
    | char c =>
      have hbehind := ih (front ++ [c])
      rw [Region.after_append] at hbehind
      exact hbehind
    | statement i =>
      have hbehind := ih (front ++ i.text)
      rw [Region.after_append] at hbehind
      have hfound : Text.picked Piece.text Piece.statement? front (.statement i :: ps) =
          (front, i) :: Text.picked Piece.text Piece.statement? (front ++ i.text) ps := rfl
      rw [quietFrom, hfound]
      cases hinside : (Region.outside.after front).inside with
      | true =>
        rw [if_pos rfl, picked_map_char, hbehind, List.filter_cons_of_neg (by simp [hinside])]
      | false =>
        rw [List.filter_cons_of_pos (by simp [hinside]), ← hbehind]
        rfl

/-- The statements that are found in a text, wherever they stand. -/
def found (code : List Char) : List (List Char × Statement) :=
  Text.picked Piece.text Piece.statement? [] (pieces code)

theorem wrapped_eq_filter (code : List Char) :
    wrapped code = (found code).filter fun p => !(Region.outside.after p.1).inside := by
  rw [wrapped, livePieces_eq_quietFrom]
  exact picked_quietFrom [] (pieces code)

theorem statement?_eq_some_iff (piece : Piece) (i : Statement) :
    piece.statement? = some i ↔ piece = .statement i := by
  cases piece <;> simp [Piece.statement?]

theorem mem_found {code : List Char} {p : List Char × Statement} :
    p ∈ found code ↔ (p.1, .statement p.2) ∈ Text.placed Piece.text [] (pieces code) :=
  Text.mem_picked_iff statement?_eq_some_iff

theorem Statement.Written.text_ne_nil {i : Statement} (h : i.Written) : i.text ≠ [] := by
  obtain ⟨t, ht⟩ := h.exists_text
  rw [ht]
  exact List.cons_ne_nil _ _

/-- No statement is wrapped twice. -/
theorem nodup_wrapped (code : List Char) : (wrapped code).Nodup := by
  rw [wrapped_eq_filter]
  refine (Text.nodup_picked fun piece hpiece => ?_).filter _
  cases piece with
  | char c => exact List.cons_ne_nil c []
  | statement i => exact (written_of_mem_pieces hpiece).text_ne_nil

theorem written_of_mem_found {code : List Char} {p : List Char × Statement}
    (h : p ∈ found code) : p.2.Written :=
  written_of_mem_pieces (Text.mem_of_mem_placed (mem_found.1 h))

theorem pieces_eq_cons {s : List Char} {piece : Piece} {ps : List Piece}
    (h : pieces s = piece :: ps) : ∃ rest, piece.text ++ rest = s ∧ pieces rest = ps := by
  cases s with
  | nil =>
    rw [pieces] at h
    cases h
  | cons c s =>
    cases hmatch : matchStatement (c :: s) with
    | none =>
      rw [pieces_of_none hmatch] at h
      obtain ⟨rfl, hrest⟩ := List.cons.inj h
      exact ⟨s, rfl, hrest⟩
    | some read =>
      obtain ⟨i, rest⟩ := read
      have hs := matchStatement_append hmatch
      rw [← hs, (written_of_matchStatement hmatch).pieces_append] at h
      obtain ⟨rfl, hrest⟩ := List.cons.inj h
      exact ⟨rest, hs, hrest⟩

/-- What the search for statements goes on with behind its first pieces. -/
theorem pieces_eq_append {s : List Char} {before behind : List Piece}
    (h : pieces s = before ++ behind) :
    ∃ rest, before.flatMap Piece.text ++ rest = s ∧ behind = pieces rest := by
  induction before generalizing s with
  | nil => exact ⟨s, rfl, h.symm⟩
  | cons piece before ih =>
    obtain ⟨more, rfl, hmore⟩ := pieces_eq_cons h
    obtain ⟨rest, rfl, hbehind⟩ := ih hmore
    exact ⟨rest, by rw [List.flatMap_cons, List.append_assoc], hbehind⟩

/-- The place behind `front` lies within a statement that is found. -/
def Swallowed (code front : List Char) : Prop := ∃ p ∈ found code, Within front p.1 p.2.text

/-- A statement is found where it is written, unless its place lies within another one. -/
theorem mem_found_iff {code front rest : List Char} {i : Statement} (hi : i.Written)
    (hcode : front ++ (i.text ++ rest) = code) :
    (front, i) ∈ found code ↔ ¬Swallowed code front := by
  constructor
  · rintro h ⟨p, hp, hwithin⟩
    exact Text.not_within_of_mem_placed (mem_found.1 h) (mem_found.1 hp) hwithin
  · intro h
    have hrest : i.text ++ rest ≠ [] := fun hnil =>
      hi.text_ne_nil (List.append_eq_nil_iff.1 hnil).1
    obtain ⟨before, piece, behind, hpieces, hplace⟩ :=
      Text.exists_placed (hcode.trans (flatMap_text_pieces code).symm) hrest
    have hmem : (before.flatMap Piece.text, piece) ∈ Text.placed Piece.text [] (pieces code) :=
      Text.mem_placed.2 ⟨before, behind, hpieces, rfl⟩
    rcases hplace with rfl | hwithin
    · obtain ⟨rest', hcode', hbehind⟩ := pieces_eq_append hpieces
      obtain rfl := List.append_cancel_left (hcode'.trans hcode.symm)
      rw [hi.pieces_append] at hbehind
      obtain ⟨rfl, -⟩ := List.cons.inj hbehind
      exact mem_found.2 hmem
    · cases piece with
      | char c =>
        have hlength := hwithin.length_lt
        simp only [Piece.text, List.length_cons, List.length_nil] at hlength
        omega
      | statement j => exact absurd ⟨(before.flatMap Piece.text, j), mem_found.2 hmem, hwithin⟩ h

/-- A statement is wrapped once if it starts outside of comments and strings, as the search for
statements takes them, and not within another statement; otherwise it is not wrapped. -/
theorem count_wrapped_iff {code front rest : List Char} {i : Statement} (hi : i.Written)
    (hcode : front ++ (i.text ++ rest) = code) :
    (wrapped code).count (front, i) = 1 ↔
      (Region.outside.after front).inside = false ∧ ¬Swallowed code front := by
  rw [← mem_found_iff hi hcode]
  constructor
  · intro h
    have hmem := List.count_pos_iff.1 (h ▸ Nat.one_pos)
    rw [wrapped_eq_filter, List.mem_filter] at hmem
    exact ⟨by simpa using hmem.2, hmem.1⟩
  · rintro ⟨hinside, hfound⟩
    refine List.count_eq_one_of_mem (nodup_wrapped code) ?_
    rw [wrapped_eq_filter]
    exact List.mem_filter.2 ⟨hfound, by simp [hinside]⟩

/-! ### The two scans side by side -/

/-- What comes next is taken for one thing by the parser and for another one by the search for
statements: an escaped quote or an escaped start of a comment, or the end of a line in a string. -/
def parts (mode : HeadMode) (rest : List Char) : Bool :=
  match mode, rest with
  | .escape, '"' :: _ => true
  | .escape, '\'' :: _ => true
  | .escape, '/' :: '*' :: _ => true
  | .string _, '\n' :: _ => true
  | _, _ => false

/-- Nothing in a text sets the two scans apart. -/
def keepsPace (s : HeadState) : List Char → Bool
  | [] => true
  | c :: rest => !parts s.mode (c :: rest) && keepsPace (s.step c) rest

/-- Where both scans stand in front of `rest`. -/
inductive Alike : (mode : HeadMode) → (region : Region) → (rest : List Char) → Prop
  | plain {rest : List Char} : Alike .plain .outside rest
  /-- Behind an escaped slash. -/
  | slashed {rest : List Char} (h : ∀ more, rest ≠ '*' :: more) : Alike .plain .slash rest
  | escape {rest : List Char} : Alike .escape .outside rest
  | slash {rest : List Char} : Alike .slash .slash rest
  | comment {rest : List Char} : Alike .comment .comment rest
  | star {rest : List Char} : Alike .star .star rest
  | string {q : Char} {rest : List Char} : Alike (.string q) (.string q) rest
  | escaped {q : Char} {rest : List Char} : Alike (.stringEscape q) (.escaped q) rest

theorem Alike.inside_eq {s : HeadState} {r : Region} {rest : List Char}
    (h : Alike s.mode r rest) : r.inside = s.isHidden := by
  obtain ⟨mode, depth⟩ := s
  cases h <;> rfl

theorem alike_stepPlain (depth : Nat) (c : Char) (rest : List Char) :
    Alike (HeadState.stepPlain depth c).mode (Region.stepOutside c) rest := by
  unfold HeadState.stepPlain Region.stepOutside
  by_cases hslash : c = '/'
  · subst hslash
    exact .slash
  · rw [if_neg hslash, if_neg hslash]
    split_ifs
    · exact .string
    · exact .escape
    · exact .plain
    · exact .plain
    · exact .plain

/-- The scans go on alike over a character that does not set them apart. -/
theorem Alike.step {s : HeadState} {r : Region} {c : Char} {rest : List Char}
    (h : Alike s.mode r (c :: rest)) (hparts : parts s.mode (c :: rest) = false) :
    Alike (s.step c).mode (r.step c) rest := by
  obtain ⟨mode, depth⟩ := s
  cases h with
  | plain => exact alike_stepPlain depth c rest
  | slashed hstar =>
    have hc : c ≠ '*' := fun hc => hstar rest (by rw [hc])
    rw [Region.step, if_neg hc]
    exact alike_stepPlain depth c rest
  | escape =>
    by_cases hslash : c = '/'
    · subst hslash
      refine .slashed fun more hmore => ?_
      subst hmore
      cases hparts
    · have hquote : ¬(c = '"' ∨ c = '\'') := by
        rintro (rfl | rfl) <;> cases hparts
      rw [Region.step, Region.stepOutside, if_neg hslash, if_neg hquote]
      exact .plain
  | slash =>
    simp only [HeadState.step, Region.step]
    split_ifs
    · exact .comment
    · exact alike_stepPlain depth c rest
  | comment =>
    simp only [HeadState.step, Region.step]
    split_ifs
    · exact .star
    · exact .comment
  | star =>
    simp only [HeadState.step, Region.step]
    split_ifs
    · exact .plain
    · exact .star
    · exact .comment
  | @string q =>
    have hline : c ≠ '\n' := by
      rintro rfl
      cases hparts
    simp only [HeadState.step, Region.step, hline, or_false]
    split_ifs
    · exact .escaped
    · exact .plain
    · exact .string
  | escaped => exact .string

theorem Alike.after {s : HeadState} {r : Region} {front : List Char} (h : Alike s.mode r front)
    (hpace : keepsPace s front = true) : Alike (s.after front).mode (r.after front) [] := by
  induction front generalizing s r with
  | nil => exact h
  | cons c front ih =>
    simp only [keepsPace, Bool.and_eq_true, Bool.not_eq_true'] at hpace
    exact ih (h.step hpace.1) hpace.2

/-- Behind a text that sets nothing apart both scans tell the same. -/
theorem inside_after_eq {front : List Char} (h : keepsPace {} front = true) :
    (Region.outside.after front).inside = (HeadState.after {} front).isHidden :=
  (Alike.after .plain h).inside_eq

/-- An at sign within a statement that starts outside of comments and strings is in its path, which
is a string for the parser as well. -/
theorem isHidden_within_written {s : HeadState} (hs : s.isHidden = false) {i : Statement}
    (hi : i.Written) {mid tail : List Char} (htext : i.text = mid ++ '@' :: tail)
    (hmid : mid ≠ []) : (s.after mid).isHidden = true := by
  obtain ⟨hq, hne, hblank, hpath, hfinish⟩ := hi
  rename_i blank path finish q
  have hat : q ≠ '@' := by rcases hq with rfl | rfl <;> decide
  have hblanks {blanks : List Char} (h : ∀ c ∈ blanks, Text.isBlank c = true) : '@' ∉ blanks :=
    fun hmem => absurd (h '@' hmem) (by decide)
  have hlead : '@' ∉ (keyword ++ blank ++ [q]).tail := by
    have hkeyword : '@' ∉ keyword.tail := by decide
    rw [List.append_assoc, List.tail_append_of_ne_nil (by decide)]
    simp [hkeyword, hblanks hblank, hat.symm]
  have htrail : '@' ∉ q :: (finish ++ [';']) := by simp [hblanks hfinish, hat.symm]
  have hparts : (keyword ++ blank ++ [q]) ++ (path ++ q :: (finish ++ [';'])) =
      mid ++ '@' :: tail := by
    rw [← htext]
    simp
  obtain ⟨more, rest, rfl, hmore⟩ := Text.exists_middle hparts hlead htrail hmid
  have hkeyword : keyword.all Stylesheet.isFiller = true := rfl
  have hgap : Stylesheet.IsGap (keyword ++ blank) := by
    refine ⟨by simp [keyword], fun c hc => ?_⟩
    rcases List.mem_append.1 hc with hc | hc
    · exact List.all_eq_true.1 hkeyword c hc
    · exact Stylesheet.isFiller_of_isBlank (hblank c hc)
  have hopen : (s.after (keyword ++ blank ++ [q])).mode = .string q := by
    rw [HeadState.after_append]
    exact HeadState.mode_step_quote (HeadState.mode_after_gap hs hgap) hq
  -- The statement may run over the end of that string, but its path does not.
  rw [HeadState.after_append]
  refine (HeadState.InString.after (.inl hopen) fun c hc => (hpath c ?_).1).isHidden
  rw [hmore]
  exact List.mem_append_left _ hc

/-- Nothing in front of a place keeps the search for statements from what the parser reads there:
the two scans keep pace, and no statement that is found in a comment or a string reaches over the
place. -/
structure ReadsAlike (code front : List Char) : Prop where
  paced : keepsPace {} front = true
  contained : ∀ p ∈ found code, (HeadState.after {} p.1).isHidden = true →
    ¬Within front p.1 p.2.text

instance (code front : List Char) : Decidable (ReadsAlike code front) :=
  decidable_of_iff (keepsPace {} front = true ∧ ∀ p ∈ found code,
      (HeadState.after {} p.1).isHidden = true → ¬Within front p.1 p.2.text)
    ⟨fun h => ⟨h.1, h.2⟩, fun h => ⟨h.paced, h.contained⟩⟩

theorem ReadsAlike.not_swallowed {code front rest : List Char} (h : ReadsAlike code front)
    (hfront : (HeadState.after {} front).isHidden = false) (hcode : front ++ '@' :: rest = code) :
    ¬Swallowed code front := by
  rintro ⟨p, hp, hwithin⟩
  cases hhidden : (HeadState.after {} p.1).isHidden with
  | true => exact h.contained p hp hhidden hwithin
  | false =>
    -- The place would be in the path of that statement, and so in a string.
    obtain ⟨mid, tail, rfl, htext, hmid, htail⟩ := hwithin
    obtain ⟨behind, hplace⟩ := Text.append_of_mem_placed (mem_found.1 hp)
    obtain ⟨c, tail, rfl⟩ := List.exists_cons_of_ne_nil htail
    rw [flatMap_text_pieces, List.nil_append] at hplace
    have hsame : p.1 ++ (mid ++ c :: (tail ++ behind)) = p.1 ++ (mid ++ '@' :: rest) := by
      rw [← List.append_assoc p.1 mid ('@' :: rest), hcode, ← hplace]
      simp [Piece.text, htext]
    obtain ⟨rfl, -⟩ := List.cons.inj (List.append_cancel_left (List.append_cancel_left hsame))
    have hinside := isHidden_within_written hhidden (written_of_mem_found hp) htext hmid
    rw [← HeadState.after_append, hfront] at hinside
    cases hinside

/-- Marking and reading agree where nothing sets the two scans apart. Marking wraps statements at
their places, none of them twice, and changes nothing else. The at-rules of the tree, at any depth
and in order, stand at places of the text, each with a text that alone reads as that at-rule. Such
a text of the form of an import is wrapped once exactly if the search for statements takes its place
to be outside of comments and strings, and finds no statement that has the place within; and so it
is if the text is read alike up to there. -/
theorem wrapped_atRules (code : String) (file : Option Path) :
    (Wraps [] code.toList (mark code.toList) (wrapped code.toList) ∧ (wrapped code.toList).Nodup) ∧
      (atRules code.toList).map (fun p => (p.2.name, p.2.params)) =
        Stylesheet.atStatementsOfAll (Stylesheet.parse code file).nodes ∧
      ∀ p ∈ atRules code.toList,
        (∃ rest, p.1 ++ (p.2.text ++ rest) = code.toList) ∧
        Stylesheet.parseNodes p.2.text = [.atStatement p.2.name p.2.params] ∧
        ∀ i : Statement, i.Written → i.text = p.2.text →
          ((wrapped code.toList).count (p.1, i) = 1 ↔
            (Region.outside.after p.1).inside = false ∧ ¬Swallowed code.toList p.1) ∧
          (ReadsAlike code.toList p.1 → (wrapped code.toList).count (p.1, i) = 1) := by
  refine ⟨⟨wraps_mark _, nodup_wrapped _⟩, Stylesheet.map_atRules _, fun p hp => ?_⟩
  obtain ⟨rest, hcode⟩ := Stylesheet.append_of_mem_atRules hp
  refine ⟨⟨rest, hcode⟩, Stylesheet.parseNodes_of_mem_atRules hp, fun i hi htext => ?_⟩
  rw [← htext] at hcode
  refine ⟨count_wrapped_iff hi hcode, fun h => (count_wrapped_iff hi hcode).2 ⟨?_, ?_⟩⟩
  · rw [inside_after_eq h.paced]
    exact (Stylesheet.atRest_of_mem_atRules hp).isHidden
  · obtain ⟨t, ht⟩ := hi.exists_text
    rw [ht, List.cons_append] at hcode
    exact h.not_swallowed (Stylesheet.atRest_of_mem_atRules hp).isHidden hcode

/-- Imports on top and in a block, behind others in a comment and in a string with a quote. -/
def nestedImports : String :=
  "/*@import 'a';*/b\x7bc:\"\\\"@import 'd';\"\x7d@media x\x7b@import \"e\";\x7d\n@import 'f' ;"

theorem wrapped_atRules_nestedImports :
    ∃ p ∈ atRules nestedImports.toList, ∃ i : Statement, i.Written ∧ i.text = p.2.text ∧
      ReadsAlike nestedImports.toList p.1 ∧ (wrapped nestedImports.toList).count (p.1, i) = 1 := by
  let i : Statement := ⟨"@import \"e\";".toList, ['e']⟩
  let p : List Char × AtRule := (nestedImports.toList.take 46, ⟨i.text, "import", "\"e\""⟩)
  have hp : p ∈ atRules nestedImports.toList := by decide +kernel
  have hmatch : matchStatement i.text = some (i, []) := by decide +kernel
  have hi : i.Written := written_of_matchStatement hmatch
  have hreads : ReadsAlike nestedImports.toList p.1 := by decide +kernel
  exact ⟨p, hp, i, hi, rfl, hreads,
    (((wrapped_atRules nestedImports none).2.2 p hp).2.2 i hi rfl).2 hreads⟩

/-- An import behind a string over two lines. -/
def openLine : String := "a\x7bb:\"\n\"\x7d@import \"x\";"

/-- The search for statements ends a string with its line, so that the quote on the next line opens
one, and the import in it goes unmarked. -/
theorem unmarked_openLine :
    ∃ p ∈ atRules openLine.toList, p.2.name = "import" ∧ ∃ i : Statement, i.Written ∧
      i.text = p.2.text ∧ i.path = ['x'] ∧ (wrapped openLine.toList).count (p.1, i) = 0 ∧
      mark openLine.toList = openLine.toList := by
  let i : Statement := ⟨"@import \"x\";".toList, ['x']⟩
  have hp : (openLine.toList.take 8, ⟨i.text, "import", "\"x\""⟩) ∈ atRules openLine.toList := by
    decide +kernel
  have hmatch : matchStatement i.text = some (i, []) := by decide +kernel
  exact ⟨_, hp, rfl, i, written_of_matchStatement hmatch, rfl, rfl, by decide +kernel,
    by decide +kernel⟩

/-- Others that go unmarked: within a statement that starts in a comment, and behind an escaped
quote or an escaped slash. -/
example : ∀ s ∈ ["/*@import '*/@import \"x\";/*';*/", ".a\\\"b\x7b\x7d@import \"x\";",
      "\\/*\x7b\x7d@import \"x\";"],
    (atRules s.toList).map (·.2.text) = ["@import \"x\";".toList] ∧ wrapped s.toList = [] := by
  decide +kernel

end StylesheetAssets.Import
