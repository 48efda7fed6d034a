import Mathlib.Data.List.DropRight
import StylesheetAssets.Import.Marker
import StylesheetAssets.Proofs.Import.Regions
import StylesheetAssets.Proofs.Stylesheet.Boundary
import StylesheetAssets.Proofs.Text.Splitting

/-!
Texts with markers around their import statements, read again: the same statements are live, each
between its own markers.
-/
namespace StylesheetAssets.Import

/-! ### Statements as they are written -/

theorem forall_mem_of_matchPath {q : Char} {s path after : List Char}
    (h : matchPath q s = some (path, after)) : ∀ c ∈ path, c ≠ q ∧ c ≠ '\n' := by
  unfold matchPath at h
  split at h
  · next path' closing after' hsplit =>
    split at h
    · cases h
      intro c hc
      have hpath : (Text.splitAt (fun c => c == q || c == '\n') s).1 = path := by rw [hsplit]
      rw [← hpath] at hc
      simpa using List.mem_takeWhile_imp hc
    · cases h
  · cases h

theorem exists_blank_of_matchEnd {s finish rest : List Char}
    (h : matchEnd s = some (finish, rest)) :
    ∃ blank, finish = blank ++ [';'] ∧ ∀ c ∈ blank, Text.isBlank c = true := by
  unfold matchEnd at h
  split at h
  · cases h
    exact ⟨_, rfl, fun c hc => List.mem_takeWhile_imp hc⟩
  · cases h

theorem matchPath_eq {q : Char} {path : List Char} (h : ∀ c ∈ path, c ≠ q ∧ c ≠ '\n')
    (after : List Char) : matchPath q (path ++ q :: after) = some (path, after) := by
  have hsplit : Text.splitAt (fun c => c == q || c == '\n') (path ++ q :: after) =
      (path, q :: after) := by
    apply Text.splitAt_eq
    · intro c hc
      simp [h c hc]
    · simp
  rw [matchPath, hsplit]
  exact if_pos rfl

theorem takeWhile_blank {blank : List Char} (h : ∀ c ∈ blank, Text.isBlank c = true) {c : Char}
    (hc : Text.isBlank c = false) (rest : List Char) :
    (blank ++ c :: rest).takeWhile Text.isBlank = blank := by
  rw [List.takeWhile_append_of_pos h, List.takeWhile_cons_of_neg (by simp [hc]), List.append_nil]

theorem dropWhile_blank {blank : List Char} (h : ∀ c ∈ blank, Text.isBlank c = true) {c : Char}
    (hc : Text.isBlank c = false) (rest : List Char) :
    (blank ++ c :: rest).dropWhile Text.isBlank = c :: rest := by
  rw [List.dropWhile_append_of_pos h, List.dropWhile_cons_of_neg (by simp [hc])]

theorem matchEnd_eq {blank : List Char} (h : ∀ c ∈ blank, Text.isBlank c = true)
    (rest : List Char) : matchEnd (blank ++ ';' :: rest) = some (blank ++ [';'], rest) := by
  have hc : Text.isBlank ';' = false := by decide
  rw [matchEnd, dropWhile_blank h hc, takeWhile_blank h hc]
  rfl

/-- The form of the statements that are found in texts. -/
inductive Statement.Written : Statement → Prop
  | intro {blank path finish : List Char} {q : Char} (hq : q = '"' ∨ q = '\'') (hne : blank ≠ [])
      (hblank : ∀ c ∈ blank, Text.isBlank c = true) (hpath : ∀ c ∈ path, c ≠ q ∧ c ≠ '\n')
      (hfinish : ∀ c ∈ finish, Text.isBlank c = true) :
      Written ⟨keyword ++ blank ++ q :: path ++ q :: (finish ++ [';']), path⟩

theorem written_of_matchStatement {s rest : List Char} {i : Statement}
    (h : matchStatement s = some (i, rest)) : i.Written := by
  unfold matchStatement at h
  dsimp only at h
  split at h
  · cases h
  · split at h
    · cases h
    · split at h
      · next hform =>
        split at h
        · cases h
        · next path afterPath hpath =>
          split at h
          · cases h
          · next finish rest' hend =>
            cases h
            obtain ⟨blank, rfl, hblank⟩ := exists_blank_of_matchEnd hend
            exact .intro hform.2 hform.1 (fun c hc => List.mem_takeWhile_imp hc)
              (forall_mem_of_matchPath hpath) hblank
      · cases h

/-- A statement is found where it is written, whatever follows it. -/
theorem Statement.Written.matchStatement_append {i : Statement} (h : i.Written)
    (rest : List Char) : matchStatement (i.text ++ rest) = some (i, rest) := by
  obtain ⟨hq, hne, hblank, hpath, hfinish⟩ := h
  rename_i blank path finish q
  have hquote : Text.isBlank q = false := by rcases hq with rfl | rfl <;> decide
  have hkeyword : Text.stripStart? keyword
      (keyword ++ (blank ++ q :: (path ++ q :: (finish ++ ';' :: rest)))) =
        some (blank ++ q :: (path ++ q :: (finish ++ ';' :: rest))) :=
    Text.stripStart?_eq_some_iff.2 rfl
  simp only [List.append_assoc, List.cons_append, List.nil_append]
  simp only [matchStatement, hkeyword, takeWhile_blank hblank hquote, dropWhile_blank hblank hquote,
    matchPath_eq hpath, matchEnd_eq hfinish]
  simp [hne, hq]

theorem Statement.Written.exists_text {i : Statement} (h : i.Written) :
    ∃ t, i.text = '@' :: t := by
  obtain ⟨hq, hne, hblank, hpath, hfinish⟩ := h
  exact ⟨_, rfl⟩

/-- What is found as a statement in a text has the form of one. -/
theorem written_of_mem_pieces {s : List Char} {i : Statement}
    (h : Piece.statement i ∈ pieces s) : i.Written := by
  fun_induction pieces s with
  | case1 => cases h
  | case2 c rest j after hmatch _ ih =>
    rcases List.mem_cons.1 h with hi | hi
    · cases hi
      exact written_of_matchStatement hmatch
    · exact ih hi
  | case3 c rest hmatch ih =>
    rcases List.mem_cons.1 h with hi | hi
    · cases hi
    · exact ih hi

/-- The live pieces of a text, from the regions of their places. -/
theorem livePieces_eq_quietFrom (code : List Char) :
    livePieces code = quietFrom .outside (pieces code) := by
  have hstart : StartAt (pieces code) := fun i hi => (written_of_mem_pieces hi).exists_text
  have hquiet := quietPieces_eq_quietFrom hstart []
  rw [List.nil_append, flatMap_text_pieces] at hquiet
  exact hquiet

/-! ### Texts with something put in between -/

/-- A text that does not matter to a statement: it starts with a slash, and holds no quote, no line
end and no at sign. -/
structure IsInsert (t : List Char) : Prop where
  head : ∃ more, t = '/' :: more
  quiet : ∀ c ∈ t, c ≠ '"' ∧ c ≠ '\'' ∧ c ≠ '\n' ∧ c ≠ '@'

/-- A text, with inserts in some places, and without them. -/
inductive Interspersed : List Char → List Char → Prop
  | nil : Interspersed [] []
  | cons (c : Char) {s s' : List Char} (h : Interspersed s s') : Interspersed (c :: s) (c :: s')
  | insert {t s s' : List Char} (ht : IsInsert t) (h : Interspersed s s') :
      Interspersed (t ++ s) s'

namespace Interspersed

theorem append_left {s s' : List Char} (t : List Char) (h : Interspersed s s') :
    Interspersed (t ++ s) (t ++ s') := by
  induction t with
  | nil => exact h
  | cons c t ih => exact .cons c ih

/-- What cannot be the start of an insert stands in both texts. -/
theorem peel_char {c : Char} (hc : c ≠ '/') {s s' : List Char} (h : Interspersed (c :: s) s') :
    ∃ rest, s' = c :: rest ∧ Interspersed s rest := by
  generalize hs : c :: s = u at h
  cases h with
  | nil => cases hs
  | cons d h =>
    cases hs
    exact ⟨_, rfl, h⟩
  | insert ht h =>
    obtain ⟨more, rfl⟩ := ht.head
    exact absurd (List.cons.inj hs).1 hc

theorem peel {t : List Char} (ht : '/' ∉ t) {s s' : List Char} (h : Interspersed (t ++ s) s') :
    ∃ rest, s' = t ++ rest ∧ Interspersed s rest := by
  induction t generalizing s' with
  | nil => exact ⟨s', rfl, h⟩
  | cons c t ih =>
    rw [List.mem_cons, not_or] at ht
    obtain ⟨rest, rfl, hrest⟩ := peel_char (Ne.symm ht.1) h
    obtain ⟨rest', rfl, hrest'⟩ := ih ht.2 hrest
    exact ⟨rest', rfl, hrest'⟩

/-- A quoted text stays one when the inserts are taken out of it. -/
theorem peel_quoted {q : Char} (hq : q = '"' ∨ q = '\'') {path s s' : List Char}
    (hpath : ∀ c ∈ path, c ≠ q ∧ c ≠ '\n') (h : Interspersed (path ++ q :: s) s') :
    ∃ path' rest, s' = path' ++ q :: rest ∧ (∀ c ∈ path', c ≠ q ∧ c ≠ '\n') ∧
      Interspersed s rest := by
  generalize hu : path ++ q :: s = u at h
  induction h generalizing path with
  | nil => simp at hu
  | @cons c u u' hrest ih =>
    cases path with
    | nil =>
      cases hu
      exact ⟨[], u', rfl, by simp, hrest⟩
    | cons d path =>
      obtain ⟨rfl, htail⟩ := List.cons.inj hu
      rw [List.forall_mem_cons] at hpath
      obtain ⟨path', rest, rfl, hpath', hs⟩ := ih hpath.2 htail
      exact ⟨d :: path', rest, rfl, List.forall_mem_cons.2 ⟨hpath.1, hpath'⟩, hs⟩
  | @insert t u u' ht hrest ih =>
    rcases List.append_eq_append_iff.1 hu with ⟨more, ht', hmore⟩ | ⟨more, hpath', hmore⟩
    · cases more with
      | nil =>
        rw [List.append_nil] at ht'
        subst ht'
        have hnone : ∀ c ∈ ([] : List Char), c ≠ q ∧ c ≠ '\n' := by simp
        exact ih hnone hmore
      | cons d more =>
        obtain ⟨rfl, -⟩ := List.cons.inj hmore
        have hquiet := ht.quiet q (by rw [ht']; simp)
        rcases hq with rfl | rfl
        · exact absurd rfl hquiet.1
        · exact absurd rfl hquiet.2.1
    · subst hpath'
      exact ih (fun c hc => hpath c (List.mem_append_right t hc)) hmore.symm

/-- Where a statement is found among inserts, one is found without them. -/
theorem matchStatement_isSome {s s' : List Char} (h : Interspersed s s')
    (hs : (matchStatement s).isSome) : (matchStatement s').isSome := by
  obtain ⟨⟨i, rest⟩, hmatch⟩ := Option.isSome_iff_exists.1 hs
  have hwritten := written_of_matchStatement hmatch
  have htext := matchStatement_append hmatch
  obtain ⟨hq, hne, hblank, hpath, hfinish⟩ := hwritten
  rename_i blank path finish q
  have hslash {t : List Char} (ht : ∀ c ∈ t, Text.isBlank c = true) : '/' ∉ t := fun hmem =>
    absurd (ht '/' hmem) (by decide)
  have hquote : q ≠ '/' := by rcases hq with rfl | rfl <;> decide
  simp only [List.append_assoc, List.cons_append, List.nil_append] at htext
  rw [← htext] at h
  obtain ⟨s₁, rfl, h₁⟩ := h.peel (by decide)
  obtain ⟨s₂, rfl, h₂⟩ := h₁.peel (hslash hblank)
  obtain ⟨s₃, rfl, h₃⟩ := h₂.peel_char hquote
  obtain ⟨path', s₄, rfl, hpath', h₄⟩ := h₃.peel_quoted hq hpath
  obtain ⟨s₅, rfl, h₅⟩ := h₄.peel (hslash hfinish)
  obtain ⟨s₆, rfl, h₆⟩ := h₅.peel_char (by decide)
  have hfound := (Statement.Written.intro hq hne hblank hpath' hfinish).matchStatement_append s₆
  simp only [List.append_assoc, List.cons_append, List.nil_append] at hfound
  rw [hfound]
  rfl

end Interspersed

/-! ### Pieces of marked texts -/

/-- A path that a marker can carry unseen. -/
structure IsPlainPath (path : List Char) : Prop where
  noEnd : ¬['*', '/'] <:+: path
  noQuote : ∀ c ∈ path, c ≠ '"' ∧ c ≠ '\''
  noAt : '@' ∉ path

/-- The text of a piece, with the markers around it if it is a statement. -/
def Piece.markedText : Piece → List Char
  | .char c => [c]
  | .statement i => i.marked

/-- A piece between the pieces of its markers. -/
def Piece.surrounded : Piece → List Piece
  | .char c => [.char c]
  | .statement i =>
    (startMarker i.path).map .char ++ .statement i :: endMarker.map .char

theorem mark_eq_flatMap (code : List Char) :
    mark code = (livePieces code).flatMap Piece.markedText :=
  flatMap_cut (f := Piece.markedText) (fun _ => rfl) (livePieces code)

theorem pieces_of_none {c : Char} {s : List Char} (h : matchStatement (c :: s) = none) :
    pieces (c :: s) = .char c :: pieces s := by
  rw [pieces]
  split
  · next hsome =>
    rw [h] at hsome
    cases hsome
  · rfl

theorem Statement.Written.pieces_append {i : Statement} (h : i.Written) (s : List Char) :
    pieces (i.text ++ s) = .statement i :: pieces s := by
  have hmatch := h.matchStatement_append s
  obtain ⟨t, ht⟩ := h.exists_text
  rw [ht, List.cons_append] at hmatch ⊢
  rw [pieces]
  split
  · next hsome =>
    rw [hmatch] at hsome
    cases hsome
    rfl
  · next hnone =>
    rw [hmatch] at hnone
    cases hnone

/-- A text without an at sign has no statement. -/
theorem pieces_append {t : List Char} (h : '@' ∉ t) (s : List Char) :
    pieces (t ++ s) = t.map .char ++ pieces s := by
  induction t with
  | nil => rfl
  | cons c t ih =>
    rw [List.mem_cons, not_or] at h
    have hkeyword : Text.stripStart? keyword (c :: (t ++ s)) = none := if_neg h.1
    rw [List.cons_append, pieces_of_none (by rw [matchStatement, hkeyword]), ih h.2]
    rfl

/-- The pieces of a text that is marked from a region on: markers around the statements that are
live, and every statement as it was. -/
def surroundFrom (r : Region) : List Piece → List Piece
  | [] => []
  | .char c :: rest => .char c :: surroundFrom (r.step c) rest
  | .statement i :: rest =>
    (if r.inside then [.statement i] else (Piece.statement i).surrounded) ++
      surroundFrom (r.after i.text) rest

/-- Every statement among the pieces has a path that a marker can carry. -/
def PlainPaths (ps : List Piece) : Prop := ∀ i, Piece.statement i ∈ ps → IsPlainPath i.path

theorem isInsert_comment {text : List Char}
    (h : ∀ c ∈ text, c ≠ '"' ∧ c ≠ '\'' ∧ c ≠ '\n' ∧ c ≠ '@') : IsInsert (comment text) where
  head := ⟨_, rfl⟩
  quiet := by
    intro c hc
    simp only [comment, List.cons_append, List.mem_cons, List.mem_append, List.not_mem_nil,
      or_false] at hc
    rcases hc with rfl | rfl | hc | rfl | rfl
    · decide
    · decide
    · exact h c hc
    · decide
    · decide

/-- What an insert may hold, as a check of its characters one by one. -/
theorem forall_quiet_of_all {t : List Char}
    (h : (t.all fun c => c != '"' && c != '\'' && c != '\n' && c != '@') = true) :
    ∀ c ∈ t, c ≠ '"' ∧ c ≠ '\'' ∧ c ≠ '\n' ∧ c ≠ '@' := by
  intro c hc
  simpa [and_assoc] using List.all_eq_true.1 h c hc

theorem isInsert_endMarker : IsInsert endMarker :=
  isInsert_comment (forall_quiet_of_all (by decide))

theorem Statement.Written.ne_newline {i : Statement} (h : i.Written) :
    ∀ c ∈ i.path, c ≠ '\n' := by
  obtain ⟨hq, hne, hblank, hpath, hfinish⟩ := h
  intro c hc
  exact (hpath c hc).2

theorem isInsert_startMarker {i : Statement} (h : i.Written) (hpath : IsPlainPath i.path) :
    IsInsert (startMarker i.path) := by
  have hflag : ∀ c ∈ startFlag, c ≠ '"' ∧ c ≠ '\'' ∧ c ≠ '\n' ∧ c ≠ '@' :=
    forall_quiet_of_all (by decide)
  apply isInsert_comment
  rw [List.forall_mem_append]
  refine ⟨hflag, ?_⟩
  intro c hc
  exact ⟨(hpath.noQuote c hc).1, (hpath.noQuote c hc).2, h.ne_newline c hc,
    fun hat => hpath.noAt (hat ▸ hc)⟩

theorem IsInsert.noAt {t : List Char} (h : IsInsert t) : '@' ∉ t := fun hat =>
  (h.quiet '@' hat).2.2.2 rfl

theorem flatMap_markedText_map_char (s : List Char) :
    (s.map Piece.char).flatMap Piece.markedText = s := by
  rw [List.flatMap_map]
  exact List.flatMap_singleton' s

theorem flatMap_markedText_dead {r : Region} (hr : r.inside = true) (i : Statement)
    (rest : List Piece) :
    (quietFrom r (.statement i :: rest)).flatMap Piece.markedText =
      i.text ++ (quietFrom (r.after i.text) rest).flatMap Piece.markedText := by
  rw [quietFrom, if_pos hr, List.flatMap_append, flatMap_markedText_map_char]

theorem flatMap_markedText_live {r : Region} (hr : r.inside = false) (i : Statement)
    (rest : List Piece) :
    (quietFrom r (.statement i :: rest)).flatMap Piece.markedText =
      startMarker i.path ++ (i.text ++ (endMarker ++
        (quietFrom (r.after i.text) rest).flatMap Piece.markedText)) := by
  simp [quietFrom, hr, Piece.markedText, Statement.marked]

theorem flatMap_markedText_char (r : Region) (c : Char) (rest : List Piece) :
    (quietFrom r (.char c :: rest)).flatMap Piece.markedText =
      c :: (quietFrom (r.step c) rest).flatMap Piece.markedText := by
  rw [quietFrom, List.flatMap_cons, Piece.markedText, List.singleton_append]

theorem PlainPaths.of_char {r : Region} {c : Char} {rest : List Piece}
    (h : PlainPaths (quietFrom r (.char c :: rest))) : PlainPaths (quietFrom (r.step c) rest) :=
  fun i hi => h i (List.mem_cons_of_mem _ hi)

theorem PlainPaths.of_statement {r : Region} {i : Statement} {rest : List Piece}
    (h : PlainPaths (quietFrom r (.statement i :: rest))) :
    PlainPaths (quietFrom (r.after i.text) rest) :=
  fun j hj => h j (List.mem_append_right _ hj)

theorem PlainPaths.head {r : Region} {i : Statement} {rest : List Piece}
    (h : PlainPaths (quietFrom r (.statement i :: rest))) (hr : r.inside = false) :
    IsPlainPath i.path := by
  apply h i
  simp [quietFrom, hr]

/-- A marked text is the text itself with markers in between. -/
theorem interspersed_marked {r : Region} {ps : List Piece}
    (hwritten : ∀ i, Piece.statement i ∈ ps → i.Written) (hplain : PlainPaths (quietFrom r ps)) :
    Interspersed ((quietFrom r ps).flatMap Piece.markedText) (ps.flatMap Piece.text) := by
  induction ps generalizing r with
  | nil => exact .nil
  | cons p rest ih =>
    have hrest : ∀ i, Piece.statement i ∈ rest → i.Written := fun i hi =>
      hwritten i (List.mem_cons_of_mem p hi)
    cases p with
    | char c =>
      rw [flatMap_markedText_char]
      exact .cons c (ih hrest hplain.of_char)
    | statement i =>
      have hbehind := ih hrest hplain.of_statement
      cases hr : r.inside with
      | true =>
        rw [flatMap_markedText_dead hr]
        exact hbehind.append_left i.text
      | false =>
        have hmarker := isInsert_startMarker (hwritten i List.mem_cons_self) (hplain.head hr)
        have htext := (Interspersed.insert isInsert_endMarker hbehind).append_left i.text
        rw [flatMap_markedText_live hr]
        exact .insert hmarker htext

/-- Marking puts pieces between those of the text, and neither makes a statement nor breaks one. -/
theorem pieces_marked {r : Region} (s : List Char) (hplain : PlainPaths (quietFrom r (pieces s))) :
    pieces ((quietFrom r (pieces s)).flatMap Piece.markedText) = surroundFrom r (pieces s) := by
  fun_induction pieces s generalizing r with
  | case1 => rw [quietFrom, List.flatMap_nil, pieces, surroundFrom]
  | case2 c rest i after hmatch _ ih =>
    have hi := written_of_matchStatement hmatch
    rw [surroundFrom, ← ih hplain.of_statement]
    cases hr : r.inside with
    | true =>
      rw [flatMap_markedText_dead hr, hi.pieces_append]
      rfl
    | false =>
      have hmarker := isInsert_startMarker hi (hplain.head hr)
      rw [flatMap_markedText_live hr, pieces_append hmarker.noAt, hi.pieces_append,
        pieces_append isInsert_endMarker.noAt]
      simp [Piece.surrounded]
  | case3 c rest hmatch ih =>
    have hrest := interspersed_marked (fun i hi => written_of_mem_pieces hi) hplain.of_char
    rw [flatMap_text_pieces] at hrest
    have hnone : matchStatement
        (c :: (quietFrom (r.step c) (pieces rest)).flatMap Piece.markedText) = none := by
      by_contra hne
      have hsome := (Interspersed.cons c hrest).matchStatement_isSome
        (Option.isSome_iff_ne_none.2 hne)
      rw [hmatch] at hsome
      cases hsome
    rw [flatMap_markedText_char, surroundFrom, pieces_of_none hnone, ih hplain.of_char]

/-! ### Regions of marked texts -/

/-- A comment ends with its first end. -/
theorem after_comment_of_not_isInfix {text : List Char} (h : ¬['*', '/'] <:+: text) :
    Region.comment.after (text ++ ['*', '/']) = .outside := by
  induction text with
  | nil => rfl
  | cons c text ih =>
    have htext : ¬['*', '/'] <:+: text := fun htext =>
      h (htext.trans (List.suffix_cons c text).isInfix)
    rw [List.cons_append, Region.after_cons]
    by_cases hc : c = '*'
    · subst hc
      rw [Region.step, if_pos rfl, Region.after_star _ (by simp), ih htext]
      intro more hmore
      cases text with
      | nil => cases hmore
      | cons d text =>
        obtain ⟨rfl, -⟩ := List.cons.inj hmore
        exact h ⟨[], text, rfl⟩
    · rw [Region.step, if_neg hc, ih htext]

/-- A comment between two places that are not opaque leaves nothing behind. -/
theorem after_comment {text : List Char} (h : ¬['*', '/'] <:+: text) {r : Region}
    (hr : r.inside = false) : r.after (comment text) = .outside := by
  have hopen : (r.step '/').step '*' = .comment := by
    rw [Region.step_of_not_inside hr (by decide)]
    rfl
  rw [comment, List.cons_append, List.cons_append, Region.after_cons, Region.after_cons, hopen,
    after_comment_of_not_isInfix h]

theorem after_startMarker {path : List Char} (h : ¬['*', '/'] <:+: path) {r : Region}
    (hr : r.inside = false) : r.after (startMarker path) = .outside :=
  after_comment (Import.not_isInfix_startFlag_append h) hr

/-- The regions that a live statement can leave behind: none, or a string that its path has opened
for good. -/
def Region.Resting (r : Region) : Prop := r = .outside ∨ r = .string '"' ∨ r = .string '\''

theorem Region.Resting.after_endMarker {r : Region} (h : r.Resting) :
    r.after endMarker = r := by
  rcases h with rfl | rfl | rfl <;> decide

/-- White space and semicolons end at most a string. -/
theorem Region.Resting.after_finish {finish : List Char}
    (h : ∀ c ∈ finish, Text.isBlank c = true ∨ c = ';') {r : Region} (hr : r.Resting) :
    (r.after finish).Resting := by
  induction finish generalizing r with
  | nil => exact hr
  | cons c finish ih =>
    rw [List.forall_mem_cons] at h
    have hc : c ≠ '/' ∧ c ≠ '"' ∧ c ≠ '\'' ∧ c ≠ '\\' := by
      rcases h.1 with hblank | rfl
      · refine ⟨?_, ?_, ?_, ?_⟩ <;> rintro rfl <;> revert hblank <;> decide
      · decide
    apply ih h.2
    obtain ⟨hslash, hdouble, hsingle, hbackslash⟩ := hc
    rcases hr with rfl | rfl | rfl
    · simp [step, stepOutside, hslash, hdouble, hsingle, Resting]
    · by_cases hline : c = '\n' <;> simp [step, hdouble, hbackslash, hline, Resting]
    · by_cases hline : c = '\n' <;> simp [step, hsingle, hbackslash, hline, Resting]

theorem Region.after_outside_blank {blank : List Char}
    (h : ∀ c ∈ blank, Text.isBlank c = true) : Region.outside.after blank = .outside := by
  induction blank with
  | nil => rfl
  | cons c blank ih =>
    rw [List.forall_mem_cons] at h
    have hc : c ≠ '/' ∧ c ≠ '"' ∧ c ≠ '\'' := by
      refine ⟨?_, ?_, ?_⟩ <;> rintro rfl <;> exact absurd h.1 (by decide)
    rw [after_cons, step, stepOutside, if_neg hc.1, if_neg (by simp [hc.2]), ih h.2]

/-- A text without its quote and without a line end stays in the string that it stands in. -/
theorem Region.after_quoted {q : Char} {path : List Char} (h : ∀ c ∈ path, c ≠ q ∧ c ≠ '\n')
    {r : Region} (hr : r = .string q ∨ r = .escaped q) :
    r.after path = .string q ∨ r.after path = .escaped q := by
  induction path generalizing r with
  | nil => exact hr
  | cons c path ih =>
    rw [List.forall_mem_cons] at h
    apply ih h.2
    rcases hr with rfl | rfl
    · by_cases hc : c = '\\' <;> simp [step, hc, h.1]
    · exact .inl rfl

theorem Statement.Written.after_text {i : Statement} (h : i.Written) {r : Region}
    (hr : r.inside = false) : r.after i.text = Region.outside.after i.text := by
  obtain ⟨t, ht⟩ := h.exists_text
  rw [ht, Region.after_cons, Region.after_cons, Region.step_of_not_inside hr (by decide),
    Region.step_of_not_inside rfl (by decide)]

theorem Statement.Written.resting_after_text {i : Statement} (h : i.Written) :
    (Region.outside.after i.text).Resting := by
  obtain ⟨hq, hne, hblank, hpath, hfinish⟩ := h
  rename_i blank path finish q
  have hkeyword : Region.outside.after keyword = .outside := by decide
  have hopen : Region.outside.step q = .string q := by rcases hq with rfl | rfl <;> decide
  have hclosed : (((Region.string q).after path).step q).Resting := by
    rcases Region.after_quoted hpath (.inl rfl) with hafter | hafter
    · rw [hafter]
      rcases hq with rfl | rfl <;> exact .inl (by decide)
    · rw [hafter]
      rcases hq with rfl | rfl
      · exact .inr (.inl rfl)
      · exact .inr (.inr rfl)
  have hend : ∀ c ∈ finish ++ [';'], Text.isBlank c = true ∨ c = ';' := by
    intro c hc
    rcases List.mem_append.1 hc with hc | hc
    · exact .inl (hfinish c hc)
    · exact .inr (List.mem_singleton.1 hc)
  have htext : Region.outside.after (keyword ++ blank ++ q :: path ++ q :: (finish ++ [';'])) =
      (((Region.string q).after path).step q).after (finish ++ [';']) := by
    simp only [Region.after_append, Region.after_cons, hkeyword,
      Region.after_outside_blank hblank, hopen]
  rw [htext]
  exact hclosed.after_finish hend

/-! ### Marked texts read again -/

theorem flatMap_surrounded_map_char (s : List Char) :
    (s.map Piece.char).flatMap Piece.surrounded = s.map .char := by
  rw [List.flatMap_map, List.map_eq_flatMap]
  rfl

/-- The live pieces behind a region are the same whether the text is marked or not, but for the
markers around the statements. -/
theorem quietFrom_surroundFrom {r : Region} {ps : List Piece}
    (hwritten : ∀ i, Piece.statement i ∈ ps → i.Written) (hplain : PlainPaths (quietFrom r ps)) :
    quietFrom r (surroundFrom r ps) = (quietFrom r ps).flatMap Piece.surrounded := by
  induction ps generalizing r with
  | nil => rfl
  | cons p rest ih =>
    have hrest : ∀ i, Piece.statement i ∈ rest → i.Written := fun i hi =>
      hwritten i (List.mem_cons_of_mem p hi)
    cases p with
    | char c =>
      rw [surroundFrom, quietFrom, quietFrom, ih hrest hplain.of_char]
      rfl
    | statement i =>
      have hbehind := ih hrest hplain.of_statement
      have hi := hwritten i List.mem_cons_self
      cases hr : r.inside with
      | true =>
        simp only [surroundFrom, quietFrom, hr, if_true, List.singleton_append,
          List.flatMap_append, flatMap_surrounded_map_char, hbehind]
      | false =>
        have hstart : r.after (startMarker i.path) = .outside :=
          after_startMarker (hplain.head hr).noEnd hr
        have hfinish : (Region.outside.after i.text).after endMarker = r.after i.text := by
          rw [hi.after_text hr]
          exact hi.resting_after_text.after_endMarker
        calc quietFrom r (surroundFrom r (.statement i :: rest))
            = quietFrom r ((startMarker i.path).map .char ++ .statement i ::
                (endMarker.map .char ++ surroundFrom (r.after i.text) rest)) := by
              simp [surroundFrom, hr, Piece.surrounded]
          _ = (startMarker i.path).map .char ++ .statement i :: (endMarker.map .char ++
                quietFrom (r.after i.text) (surroundFrom (r.after i.text) rest)) := by
              rw [quietFrom_map_char, hstart, quietFrom, quietFrom_map_char, hfinish]
              rfl
          _ = (quietFrom r (.statement i :: rest)).flatMap Piece.surrounded := by
              simp [quietFrom, hr, hbehind, Piece.surrounded]

/-- The live pieces of a marked text are those of the text itself, with its markers around each
statement. -/
theorem livePieces_mark {code : List Char} (h : PlainPaths (livePieces code)) :
    livePieces (mark code) = (livePieces code).flatMap Piece.surrounded := by
  rw [livePieces_eq_quietFrom] at h
  rw [mark_eq_flatMap, livePieces_eq_quietFrom, livePieces_eq_quietFrom code, pieces_marked code h,
    quietFrom_surroundFrom (fun i hi => written_of_mem_pieces hi) h]

def Piece.statement? : Piece → Option Statement
  | .char _ => none
  | .statement i => some i

theorem map_snd_cut (ps : List Piece) : (cut ps).1.map (·.2) = ps.filterMap Piece.statement? := by
  induction ps with
  | nil => rfl
  | cons p rest ih =>
    cases p with
    | statement i => simp [cut, ih, Piece.statement?]
    | char c =>
      rw [List.filterMap_cons_none rfl, ← ih, cut]
      split <;> next h => simp [h]

theorem mem_liveStatements {code : List Char} {i : Statement} :
    i ∈ liveStatements code ↔ Piece.statement i ∈ livePieces code := by
  rw [liveStatements, cutLive, map_snd_cut, List.mem_filterMap]
  constructor
  · rintro ⟨p, hp, hi⟩
    cases p with
    | char c => cases hi
    | statement j =>
      cases hi
      exact hp
  · intro h
    exact ⟨_, h, rfl⟩

theorem filterMap_surrounded (ps : List Piece) :
    (ps.flatMap Piece.surrounded).filterMap Piece.statement? = ps.filterMap Piece.statement? := by
  have hchars (s : List Char) : (s.map Piece.char).filterMap Piece.statement? = [] := by
    induction s with
    | nil => rfl
    | cons c s ih => rw [List.map_cons, List.filterMap_cons_none rfl, ih]
  induction ps with
  | nil => rfl
  | cons p rest ih =>
    rw [List.flatMap_cons, List.filterMap_append, ih]
    cases p with
    | char c => rfl
    | statement i => simp [Piece.surrounded, hchars, Piece.statement?]

theorem exists_of_map_char_append {s : List Char} {ps before behind : List Piece} {i : Statement}
    (h : s.map Piece.char ++ ps = before ++ .statement i :: behind) :
    ∃ before', before = s.map .char ++ before' ∧ ps = before' ++ .statement i :: behind := by
  induction s generalizing before with
  | nil => exact ⟨before, rfl, h⟩
  | cons c s ih =>
    cases before with
    | nil => cases h
    | cons p before =>
      obtain ⟨rfl, htail⟩ := List.cons.inj h
      obtain ⟨before', rfl, hps⟩ := ih htail
      exact ⟨before', rfl, hps⟩

/-- Every statement stands between its markers. -/
theorem markers_around {ps before behind : List Piece} {i : Statement}
    (h : ps.flatMap Piece.surrounded = before ++ .statement i :: behind) :
    startMarker i.path <:+ before.flatMap Piece.text ∧
      endMarker <+: behind.flatMap Piece.text := by
  induction ps generalizing before with
  | nil => simp at h
  | cons p rest ih =>
    rw [List.flatMap_cons] at h
    cases p with
    | char c =>
      obtain ⟨before', rfl, hrest⟩ := exists_of_map_char_append (s := [c]) h
      rw [List.flatMap_append]
      exact ⟨(ih hrest).1.trans (List.suffix_append _ _), (ih hrest).2⟩
    | statement j =>
      rw [Piece.surrounded, List.append_assoc, List.cons_append] at h
      obtain ⟨before', rfl, hstatement⟩ := exists_of_map_char_append h
      rw [List.flatMap_append, flatMap_text_map_char]
      cases before' with
      | nil =>
        obtain ⟨hij, hbehind⟩ := List.cons.inj hstatement
        cases hij
        rw [← hbehind, List.flatMap_append, flatMap_text_map_char, List.flatMap_nil,
          List.append_nil]
        exact ⟨List.suffix_refl _, List.prefix_append _ _⟩
      | cons p before' =>
        obtain ⟨rfl, hbehind⟩ := List.cons.inj hstatement
        obtain ⟨before'', rfl, hrest⟩ := exists_of_map_char_append hbehind
        rw [List.flatMap_cons, List.flatMap_append]
        refine ⟨(ih hrest).1.trans ?_, (ih hrest).2⟩
        exact ((List.suffix_append _ _).trans (List.suffix_append _ _)).trans
          (List.suffix_append _ _)

/-! ### Taking the markers out -/

/-- The statements with the text in front of each, and the text at the end, put together without
their markers. `front` is the length of the end marker that the first of these texts starts with. -/
def withoutMarkers (front : Nat) : List (List Char × Statement) → List Char → List Char
  | [], finish => finish.drop front
  | (before, i) :: rest, finish =>
    (before.drop front).rdrop (startMarker i.path).length ++ i.text ++
      withoutMarkers endMarker.length rest finish

/-- A marked text without the markers around its live statements. -/
def unmark (code : List Char) : List Char := withoutMarkers 0 (cutLive code).1 (cutLive code).2

theorem cut_map_char (s : List Char) : cut (s.map .char) = ([], s) := by
  induction s with
  | nil => rfl
  | cons c s ih => rw [List.map_cons, cut, ih]

theorem cut_map_char_statement (s : List Char) (i : Statement) (ps : List Piece) :
    cut (s.map .char ++ .statement i :: ps) = ((s, i) :: (cut ps).1, (cut ps).2) := by
  induction s with
  | nil => rfl
  | cons c s ih => rw [List.map_cons, List.cons_append, cut, ih]

theorem rdrop_append (s t : List Char) : (s ++ t).rdrop t.length = s := by
  rw [List.rdrop, List.length_append, Nat.add_sub_cancel, List.take_left]

theorem withoutMarkers_surrounded (front middle : List Char) (ps : List Piece) :
    withoutMarkers front.length
        (cut ((front ++ middle).map .char ++ ps.flatMap Piece.surrounded)).1
        (cut ((front ++ middle).map .char ++ ps.flatMap Piece.surrounded)).2 =
      middle ++ ps.flatMap Piece.text := by
  induction ps generalizing front middle with
  | nil =>
    rw [List.flatMap_nil, List.flatMap_nil, List.append_nil, List.append_nil, cut_map_char,
      withoutMarkers, List.drop_left]
  | cons p rest ih =>
    rw [List.flatMap_cons]
    cases p with
    | char c =>
      have hchar := ih front (middle ++ [c])
      simp only [List.map_append, List.map_cons, List.map_nil, List.append_assoc,
        List.singleton_append] at hchar
      simpa [Piece.surrounded, Piece.text] using hchar
    | statement i =>
      have hbehind := ih endMarker []
      rw [List.append_nil, List.nil_append] at hbehind
      have hcut : cut ((front ++ middle).map .char ++
          ((Piece.statement i).surrounded ++ rest.flatMap Piece.surrounded)) =
          ((front ++ middle ++ startMarker i.path, i) ::
            (cut (endMarker.map .char ++ rest.flatMap Piece.surrounded)).1,
            (cut (endMarker.map .char ++ rest.flatMap Piece.surrounded)).2) := by
        rw [← cut_map_char_statement]
        simp [Piece.surrounded]
      rw [hcut, withoutMarkers, hbehind, List.append_assoc front, List.drop_left, rdrop_append]
      simp [Piece.text]

/-- Marking and flattening see the same imports. In a marked text the live statements are those of
the text itself, in the same order; each stands between the start marker of its own path and an end
marker; and without these markers the text is what it was. -/
theorem liveStatements_mark {code : List Char}
    (h : ∀ i ∈ liveStatements code, ¬['*', '/'] <:+: i.path ∧
      (∀ c ∈ i.path, c ≠ '"' ∧ c ≠ '\'') ∧ '@' ∉ i.path) :
    liveStatements (mark code) = liveStatements code ∧
      (∀ before i behind, livePieces (mark code) = before ++ .statement i :: behind →
        startMarker i.path <:+ before.flatMap Piece.text ∧
          endMarker <+: behind.flatMap Piece.text) ∧
      unmark (mark code) = code := by
  have hplain : PlainPaths (livePieces code) := by
    intro i hi
    obtain ⟨hend, hquote, hat⟩ := h i (mem_liveStatements.2 hi)
    exact ⟨hend, hquote, hat⟩
  have hlive := livePieces_mark hplain
  refine ⟨?_, ?_, ?_⟩
  · rw [liveStatements, liveStatements, cutLive, cutLive, map_snd_cut, map_snd_cut, hlive,
      filterMap_surrounded]
  · intro before i behind hpieces
    rw [hlive] at hpieces
    exact markers_around hpieces
  · have hunmark := withoutMarkers_surrounded [] [] (livePieces code)
    rw [flatMap_text_livePieces] at hunmark
    rw [unmark, cutLive, hlive]
    exact hunmark

/-- A path that ends in a backslash, an import behind a slash, and one in a comment. -/
def awkwardText : List Char :=
  "@import \"a\\\";\n/@import 'b.css';/* @import \"no.css\"; */".toList

theorem liveStatements_mark_awkwardText :
    (liveStatements awkwardText).map (·.path) = ["a\\".toList, "b.css".toList] ∧
      liveStatements (mark awkwardText) = liveStatements awkwardText ∧
      (∀ before i behind, livePieces (mark awkwardText) = before ++ .statement i :: behind →
        startMarker i.path <:+ before.flatMap Piece.text ∧
          endMarker <+: behind.flatMap Piece.text) ∧
      unmark (mark awkwardText) = awkwardText := by
  have hpaths : (liveStatements awkwardText).map (·.path) = ["a\\".toList, "b.css".toList] := by
    decide +kernel
  refine ⟨hpaths, liveStatements_mark fun i hi => ?_⟩
  have hpath : i.path ∈ (liveStatements awkwardText).map (·.path) := List.mem_map_of_mem hi
  rw [hpaths] at hpath
  simp only [List.mem_cons, List.not_mem_nil, or_false] at hpath
  rcases hpath with h | h
  · rw [h]
    exact ⟨by decide +kernel, by simp, by decide +kernel⟩
  · rw [h]
    exact ⟨by decide +kernel, by simp, by decide +kernel⟩

end StylesheetAssets.Import
