import StylesheetAssets.Import.Region

/-!
The `@import` statements of a text.

A text is cut into import statements and single characters between them, from left to right. A
statement is live unless it starts in a comment or a string; the dead ones count as plain text, but
what they consumed stays consumed.
-/
namespace StylesheetAssets.Import

/-- An `@import "path";` as it stands in the text. -/
structure Statement where
  text : List Char
  path : List Char
deriving DecidableEq, Repr

def keyword : List Char := ['@', 'i', 'm', 'p', 'o', 'r', 't']

/-- Reads the path of a statement from behind its opening quote up to the closing one, which stands
on the same line. -/
def matchPath (quote : Char) (s : List Char) : Option (List Char × List Char) :=
  match Text.splitAt (fun c => c == quote || c == '\n') s with
  | (path, closing :: after) => if closing = quote then some (path, after) else none
  | _ => none

/-- Reads the end of a statement: white space and a semicolon. -/
def matchEnd (s : List Char) : Option (List Char × List Char) :=
  match s.dropWhile Text.isBlank with
  | ';' :: rest => some (s.takeWhile Text.isBlank ++ [';'], rest)
  | _ => none

/-- Reads a statement at the start of a text: the keyword, white space, a quoted path, an end. -/
def matchStatement (s : List Char) : Option (Statement × List Char) :=
  match Text.stripStart? keyword s with
  | none => none
  | some afterKeyword =>
    let blank := afterKeyword.takeWhile Text.isBlank
    match afterKeyword.dropWhile Text.isBlank with
    | [] => none
    | quote :: inside =>
      if blank ≠ [] ∧ (quote = '"' ∨ quote = '\'') then
        match matchPath quote inside with
        | none => none
        | some (path, afterPath) =>
          match matchEnd afterPath with
          | none => none
          | some (finish, rest) =>
            some (⟨keyword ++ blank ++ quote :: path ++ quote :: finish, path⟩, rest)
      else none

theorem matchPath_append {quote : Char} {s path after : List Char}
    (h : matchPath quote s = some (path, after)) : path ++ quote :: after = s := by
  unfold matchPath at h
  split at h
  · next path' closing after' hs =>
    split at h
    · next hc =>
      cases h
      have := Text.splitAt_append (fun c => c == quote || c == '\n') s
      rw [hs] at this
      rw [← this, hc]
    · cases h
  · cases h

theorem matchEnd_append {s finish rest : List Char} (h : matchEnd s = some (finish, rest)) :
    finish ++ rest = s := by
  unfold matchEnd at h
  split at h
  · next rest' hs =>
    cases h
    have := List.takeWhile_append_dropWhile (p := Text.isBlank) (l := s)
    rw [hs] at this
    simpa using this
  · cases h

/-- The statement and the rest make up the text. -/
theorem matchStatement_append {s rest : List Char} {i : Statement}
    (h : matchStatement s = some (i, rest)) : i.text ++ rest = s := by
  unfold matchStatement at h
  split at h
  · cases h
  · next afterKeyword hk =>
    dsimp only at h
    split at h
    · cases h
    · next quote inside hq =>
      split at h
      · split at h
        · cases h
        · next path afterPath hp =>
          split at h
          · cases h
          · next finish rest' he =>
            cases h
            have hb := List.takeWhile_append_dropWhile (p := Text.isBlank) (l := afterKeyword)
            rw [hq, ← matchPath_append hp, ← matchEnd_append he] at hb
            rw [Text.stripStart?_eq_some_iff.1 hk]
            generalize afterKeyword.takeWhile Text.isBlank = blank at hb
            simp [← hb]
      · cases h

theorem text_ne_nil_of_matchStatement {s rest : List Char} {i : Statement}
    (h : matchStatement s = some (i, rest)) : i.text ≠ [] := by
  unfold matchStatement at h
  dsimp only at h
  split at h
  · cases h
  · split at h
    · cases h
    · split at h
      · split at h
        · cases h
        · split at h
          · cases h
          · cases h
            simp
      · cases h

theorem length_of_matchStatement {s rest : List Char} {i : Statement}
    (h : matchStatement s = some (i, rest)) : rest.length < s.length := by
  have hlen := congrArg List.length (matchStatement_append h)
  have := List.length_pos_iff.2 (text_ne_nil_of_matchStatement h)
  simp only [List.length_append] at hlen
  omega

inductive Piece where
  | char (c : Char)
  | statement (i : Statement)
deriving DecidableEq, Repr

def Piece.text : Piece → List Char
  | .char c => [c]
  | .statement i => i.text

theorem flatMap_text_map_char (s : List Char) : (s.map Piece.char).flatMap Piece.text = s := by
  rw [List.flatMap_map]
  exact List.flatMap_singleton' s

/-- All statements of a text, live or dead, and the characters between them. -/
def pieces : List Char → List Piece
  | [] => []
  | c :: rest =>
    match h : matchStatement (c :: rest) with
    | some (i, after) =>
      have : after.length < rest.length + 1 := length_of_matchStatement h
      .statement i :: pieces after
    | none => .char c :: pieces rest
termination_by s => s.length

/-- The pieces of a text spell it. -/
theorem flatMap_text_pieces (s : List Char) : (pieces s).flatMap Piece.text = s := by
  fun_induction pieces s with
  | case1 => rfl
  | case2 c rest i after h _ ih =>
    rw [List.flatMap_cons, ih]
    exact matchStatement_append h
  | case3 c rest h ih => simp [Piece.text, ih]

/-- Turns the statements that start in an opaque span into plain text. -/
def quietPieces (spans : List Span) (offset : Nat) : List Piece → List Piece
  | [] => []
  | .char c :: rest => .char c :: quietPieces spans (offset + c.utf8Size) rest
  | .statement i :: rest =>
    (if isOpaque spans offset then i.text.map .char else [.statement i]) ++
      quietPieces spans (offset + Text.byteLength i.text) rest

theorem flatMap_text_quietPieces (spans : List Span) (offset : Nat) (ps : List Piece) :
    (quietPieces spans offset ps).flatMap Piece.text = ps.flatMap Piece.text := by
  fun_induction quietPieces spans offset ps with
  | case1 => rfl
  | case2 offset c rest ih => simp [ih]
  | case3 offset i rest ih =>
    rw [List.flatMap_append, ih, List.flatMap_cons]
    split <;> simp [flatMap_text_map_char, Piece.text]

/-- The live statements of a text, and the characters between them. -/
def livePieces (code : List Char) : List Piece := quietPieces (opaqueSpans 0 code) 0 (pieces code)

/-- The live pieces of a text spell it. -/
theorem flatMap_text_livePieces (code : List Char) :
    (livePieces code).flatMap Piece.text = code := by
  rw [livePieces, flatMap_text_quietPieces, flatMap_text_pieces]

/-- The statements among the pieces, each with the text in front of it, and the text at the end. -/
def cut : List Piece → List (List Char × Statement) × List Char
  | [] => ([], [])
  | .statement i :: rest => (([], i) :: (cut rest).1, (cut rest).2)
  | .char c :: rest =>
    match cut rest with
    | ([], text) => ([], c :: text)
    | ((before, i) :: more, text) => ((c :: before, i) :: more, text)

/-- Cutting loses nothing, whatever is written in place of the statements. -/
theorem flatMap_cut {f : Piece → List Char} (hchar : ∀ c, f (.char c) = [c]) (ps : List Piece) :
    (cut ps).1.flatMap (fun p => p.1 ++ f (.statement p.2)) ++ (cut ps).2 = ps.flatMap f := by
  induction ps with
  | nil => rfl
  | cons p rest ih =>
    cases p with
    | statement i => simp [cut, ← ih]
    | char c =>
      rw [List.flatMap_cons, hchar, ← ih, cut]
      split <;> next h => simp [h]

/-- The live statements of a text, each with the text in front of it, and the text at the end. -/
def cutLive (code : List Char) : List (List Char × Statement) × List Char := cut (livePieces code)

def liveStatements (code : List Char) : List Statement := (cutLive code).1.map (·.2)

end StylesheetAssets.Import
