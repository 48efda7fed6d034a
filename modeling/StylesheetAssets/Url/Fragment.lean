import StylesheetAssets.Text

/-!
Declaration values as a sequence of `url()` occurrences and single characters between them.

An occurrence is read in its quoted form if it has one, otherwise in its unquoted form. What has
neither is no occurrence, and its characters stand for themselves. The fragments of a value spell
the value.
-/
namespace StylesheetAssets.Url

/-! ### Schemes and suffixes of references -/

/-- A character that may follow the first letter of a scheme. -/
def isSchemeChar (c : Char) : Bool := c.isAlphanum || c == '+' || c == '-' || c == '.'

/-- Whether `s` starts with a scheme: a letter, at least one scheme character, and a colon.
A single letter is a drive, not a scheme. -/
def startsWithScheme : List Char → Bool
  | [] => false
  | c :: rest =>
    c.isAlpha && !(rest.takeWhile isSchemeChar).isEmpty &&
      (rest.dropWhile isSchemeChar).head? = some ':'

/-- Whether the reference leaves the file system: it has a scheme, or starts with `//`. -/
def hasScheme (reference : List Char) : Bool :=
  let s := reference.dropWhile Text.isBlank
  ['/', '/'].isPrefixOf s || startsWithScheme s

/-- The path of a reference, and the rest from its first `?` or `#` on. -/
def splitSuffix (reference : List Char) : List Char × List Char :=
  Text.splitAt (fun c => c == '?' || c == '#') reference

/-! ### Occurrences -/

/-- One `url()` in a value, cut at the ends of its path. -/
structure Occurrence where
  /-- The characters `url(`, in the case in which they stand. -/
  keyword : List Char
  /-- White space before the path, and the opening quote. -/
  lead : List Char
  path : List Char
  /-- The closing quote, white space, and the closing parenthesis. -/
  trail : List Char
  quoted : Bool
deriving DecidableEq, Repr

namespace Occurrence

def text (o : Occurrence) : List Char := o.keyword ++ o.lead ++ o.path ++ o.trail

def withPath (o : Occurrence) (path : List Char) : Occurrence := { o with path := path }

/-- Whether the path names a file: it is not empty and has no scheme. -/
def isLocal (o : Occurrence) : Bool := !o.path.isEmpty && !hasScheme o.path

end Occurrence

/-- A character of a longer word: `url(` right after one is not the start of an occurrence. -/
def isWordChar (c : Char) : Bool := c.isAlphanum || c == '-' || c == '_'

/-- The characters up to the closing quote `q`, and those after it. A backslash takes the next
character with it. -/
def splitQuoted (q : Char) : List Char → Option (List Char × List Char)
  | [] => none
  | '\\' :: c :: rest => (splitQuoted q rest).map fun (body, after) => ('\\' :: c :: body, after)
  | c :: rest =>
    if c = q then some ([], rest)
    else (splitQuoted q rest).map fun (body, after) => (c :: body, after)

theorem splitQuoted_append {q : Char} {s body after : List Char}
    (h : splitQuoted q s = some (body, after)) : body ++ q :: after = s := by
  fun_induction splitQuoted q s generalizing body after with
  | case1 => simp at h
  | case2 c rest ih =>
    obtain ⟨⟨b, a⟩, hb, heq⟩ := Option.map_eq_some_iff.1 h
    cases heq
    simp [ih hb]
  | case3 rest _ => simp_all
  | case4 c rest _ hc ih =>
    obtain ⟨⟨b, a⟩, hb, heq⟩ := Option.map_eq_some_iff.1 h
    cases heq
    simp [ih hb]

/-- Reads `url( "path" )` from behind the parenthesis. -/
def matchQuoted (keyword s : List Char) : Option (Occurrence × List Char) :=
  match s.dropWhile Text.isAsciiBlank with
  | [] => none
  | q :: inside =>
    if q = '"' ∨ q = '\'' then
      match splitQuoted q inside with
      | none => none
      | some (path, after) =>
        match after.dropWhile Text.isAsciiBlank with
        | ')' :: rest =>
          some (⟨keyword, s.takeWhile Text.isAsciiBlank ++ [q], path,
            q :: after.takeWhile Text.isAsciiBlank ++ [')'], true⟩, rest)
        | _ => none
    else none

/-- Reads `url( path )` from behind the parenthesis; the path holds no quotes. -/
def matchUnquoted (keyword s : List Char) : Option (Occurrence × List Char) :=
  match Text.splitAt (· == ')') s with
  | (inner, ')' :: rest) =>
    if inner.any (fun c => c == '"' || c == '\'') then none
    else
      let body := (inner.dropWhile Text.isAsciiBlank).reverse
      some (⟨keyword, inner.takeWhile Text.isAsciiBlank,
        (body.dropWhile Text.isAsciiBlank).reverse,
        (body.takeWhile Text.isAsciiBlank).reverse ++ [')'], false⟩, rest)
  | _ => none

def matchOccurrence : List Char → Option (Occurrence × List Char)
  | u :: r :: l :: '(' :: s =>
    if u.toLower = 'u' ∧ r.toLower = 'r' ∧ l.toLower = 'l' then
      let keyword := [u, r, l, '(']
      (matchQuoted keyword s).or (matchUnquoted keyword s)
    else none
  | _ => none

theorem matchQuoted_append {keyword s rest : List Char} {o : Occurrence}
    (h : matchQuoted keyword s = some (o, rest)) : o.text ++ rest = keyword ++ s := by
  unfold matchQuoted at h
  split at h
  · cases h
  · next q inside hs =>
    split at h
    · split at h
      · cases h
      · next path after hp =>
        split at h
        · next rest' ha =>
          cases h
          have h₁ := List.takeWhile_append_dropWhile (p := Text.isAsciiBlank) (l := s)
          have h₂ := List.takeWhile_append_dropWhile (p := Text.isAsciiBlank) (l := after)
          have h₃ := splitQuoted_append hp
          rw [hs] at h₁
          rw [ha] at h₂
          simp [Occurrence.text, h₂, h₃, h₁]
        · cases h
    · cases h

theorem matchUnquoted_append {keyword s rest : List Char} {o : Occurrence}
    (h : matchUnquoted keyword s = some (o, rest)) : o.text ++ rest = keyword ++ s := by
  unfold matchUnquoted at h
  split at h
  · next inner rest' hs =>
    split at h
    · cases h
    · cases h
      have h₁ := Text.splitAt_append (· == ')') s
      rw [hs] at h₁
      have h₂ := List.takeWhile_append_dropWhile (p := Text.isAsciiBlank) (l := inner)
      have h₃ := List.takeWhile_append_dropWhile (p := Text.isAsciiBlank)
        (l := (inner.dropWhile Text.isAsciiBlank).reverse)
      have h₄ := congrArg List.reverse h₃
      simp only [List.reverse_append, List.reverse_reverse] at h₄
      calc _ = keyword ++ (inner.takeWhile Text.isAsciiBlank ++
            ((((inner.dropWhile Text.isAsciiBlank).reverse.dropWhile Text.isAsciiBlank).reverse ++
            ((inner.dropWhile Text.isAsciiBlank).reverse.takeWhile Text.isAsciiBlank).reverse)) ++
            ')' :: rest) := by simp [Occurrence.text]
        _ = keyword ++ s := by rw [h₄, h₂]; exact congrArg (keyword ++ ·) h₁
  · cases h

theorem matchOccurrence_append {s rest : List Char} {o : Occurrence}
    (h : matchOccurrence s = some (o, rest)) : o.text ++ rest = s := by
  unfold matchOccurrence at h
  split at h
  · split at h
    · rcases Option.or_eq_some_iff.1 h with h | ⟨_, h⟩
      · simpa using matchQuoted_append h
      · simpa using matchUnquoted_append h
    · cases h
  · cases h

theorem keyword_of_matchQuoted {keyword s rest : List Char} {o : Occurrence}
    (h : matchQuoted keyword s = some (o, rest)) : o.keyword = keyword := by
  unfold matchQuoted at h
  split at h
  · cases h
  · split at h
    · split at h
      · cases h
      · split at h
        · cases h; rfl
        · cases h
    · cases h

theorem keyword_of_matchUnquoted {keyword s rest : List Char} {o : Occurrence}
    (h : matchUnquoted keyword s = some (o, rest)) : o.keyword = keyword := by
  unfold matchUnquoted at h
  split at h
  · split at h
    · cases h
    · cases h; rfl
  · cases h

theorem keyword_ne_nil_of_matchOccurrence {s rest : List Char} {o : Occurrence}
    (h : matchOccurrence s = some (o, rest)) : o.keyword ≠ [] := by
  unfold matchOccurrence at h
  split at h
  · split at h
    · rcases Option.or_eq_some_iff.1 h with h | ⟨_, h⟩
      · simp [keyword_of_matchQuoted h]
      · simp [keyword_of_matchUnquoted h]
    · cases h
  · cases h

theorem length_of_matchOccurrence {s rest : List Char} {o : Occurrence}
    (h : matchOccurrence s = some (o, rest)) : rest.length < s.length := by
  have hkey : o.keyword ≠ [] := keyword_ne_nil_of_matchOccurrence h
  have hlen := congrArg List.length (matchOccurrence_append h)
  have := List.length_pos_iff.2 hkey
  simp only [Occurrence.text, List.length_append] at hlen
  omega

inductive Fragment where
  | char (c : Char)
  | url (occurrence : Occurrence)
deriving DecidableEq, Repr

def Fragment.text : Fragment → List Char
  | .char c => [c]
  | .url o => o.text

/-- The fragments of a value that follows the character `previous`. -/
def fragments (previous : Option Char) : List Char → List Fragment
  | [] => []
  | c :: rest =>
    if previous.any isWordChar then .char c :: fragments (some c) rest
    else
      match h : matchOccurrence (c :: rest) with
      | some (o, after) =>
        have : after.length < rest.length + 1 := length_of_matchOccurrence h
        .url o :: fragments (some ')') after
      | none => .char c :: fragments (some c) rest
termination_by s => s.length

def spell (fs : List Fragment) : List Char := fs.flatMap Fragment.text

/-- Nothing is lost: the fragments of a value spell it. -/
theorem spell_fragments (previous : Option Char) (s : List Char) :
    spell (fragments previous s) = s := by
  fun_induction fragments previous s with
  | case1 => rfl
  | case2 previous c rest _ ih => simpa [spell, Fragment.text] using ih
  | case3 previous c rest _ o after h _ ih =>
    simp only [spell, List.flatMap_cons, Fragment.text] at ih ⊢
    rw [ih]
    exact matchOccurrence_append h
  | case4 previous c rest _ h ih => simpa [spell, Fragment.text] using ih

end StylesheetAssets.Url
