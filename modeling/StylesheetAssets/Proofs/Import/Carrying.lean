import StylesheetAssets.Proofs.Stylesheet.Boundary
import StylesheetAssets.Proofs.Stylesheet.Substance
import StylesheetAssets.Proofs.Stylesheet.Terminated
import StylesheetAssets.Proofs.Text.Trimming

/-!
What a start marker carries. The path is put into the comment as it is, so that the comment ends
within a path that holds the end of one; and it is trimmed when it is read.
-/
namespace StylesheetAssets.Import

open Stylesheet (splitComment parse parseNodes)

/-- What of a path stands in the comment of its marker. -/
def carried (path : List Char) : List Char := (splitComment path).1

/-- What of a marker is left over behind its comment. -/
def leftOver (path : List Char) : List Char :=
  match (splitComment path).2 with
  | none => []
  | some behind => behind ++ ['*', '/']

theorem splitComment_of_noEnd {path : List Char} (h : ¬['*', '/'] <:+: path) :
    splitComment path = (path, none) := Stylesheet.splitComment_eq_none_iff.2 ⟨rfl, h⟩

/-- The comment of a marker ends with what it carries of the path. -/
theorem splitComment_marker (path rest : List Char) :
    splitComment (startFlag ++ (path ++ '*' :: '/' :: rest)) =
      (startFlag ++ carried path, some (leftOver path ++ rest)) := by
  have hpath : splitComment (path ++ '*' :: '/' :: rest) =
      (carried path, some (leftOver path ++ rest)) := by
    unfold carried leftOver
    cases hsplit : splitComment path with
    | mk body after? =>
      cases after? with
      | some after => simpa using Stylesheet.splitComment_append hsplit ('*' :: '/' :: rest)
      | none =>
        obtain ⟨rfl, hend⟩ := Stylesheet.splitComment_eq_none_iff.1 hsplit
        rw [Stylesheet.splitComment_of_not_isInfix hend]
        rfl
  have hjoin : startFlag.getLast? ≠ some '*' := by decide
  rw [Stylesheet.splitComment_append_of_noEnd (by decide) _ (absurd · hjoin), hpath]

theorem parseNodes_of_splitComment {s body after : List Char}
    (h : splitComment s = (body, some after)) :
    parseNodes ('/' :: '*' :: s) =
      .comment (String.ofList (Text.trim body)) :: parseNodes after := by
  rw [parseNodes, Stylesheet.scan_comment h]
  rfl

/-- A marker reads as one comment, in front of what is left over. -/
theorem parseNodes_startMarker_append (path rest : List Char) :
    parseNodes (startMarker path ++ rest) =
      .comment (String.ofList (Text.trim (startFlag ++ carried path))) ::
        parseNodes (leftOver path ++ rest) := by
  have htext : startMarker path ++ rest =
      '/' :: '*' :: (startFlag ++ (path ++ '*' :: '/' :: rest)) := by
    simp [startMarker, comment]
  rw [htext, parseNodes_of_splitComment (splitComment_marker path rest)]

/-- The flag has no blank at its ends, so that only the path behind it is trimmed. -/
theorem trim_startFlag_append (s : List Char) :
    Text.trim (startFlag ++ s) = startFlag ++ s.rdropWhile Text.isBlank := by
  have hflag : Text.trim startFlag = startFlag := by decide
  have hkept : Text.trim (startFlag ++ s.rdropWhile Text.isBlank) =
      startFlag ++ s.rdropWhile Text.isBlank := by
    by_cases hs : s.rdropWhile Text.isBlank = []
    · rw [hs, List.append_nil, hflag]
    · exact Text.trimBy_append (Text.dropWhile_eq_self_of_trimBy hflag) (by decide)
        (List.rdropWhile_idempotent _ s) hs
  have hback : ∀ c ∈ s.rtakeWhile Text.isBlank, Text.isBlank c = true := fun c =>
    List.mem_rtakeWhile_imp
  have hpad := @Text.trimBy_pad Text.isBlank _ [] _ nofun hback hkept
  rw [List.nil_append, List.append_assoc, List.rdropWhile_append_rtakeWhile] at hpad
  exact hpad

/-- Behind the flag the path is read, without blanks around it. -/
theorem startMarkerPath?_trim (s : List Char) :
    startMarkerPath? (Text.trim (startFlag ++ s)) = some (Text.trim s) := by
  have htrim : Text.trim (Text.trim (startFlag ++ s)) = Text.trim (startFlag ++ s) :=
    Text.trimBy_trimBy _ _
  rw [startMarkerPath?, htrim, trim_startFlag_append, Text.stripStart?_eq_some_iff.2 rfl]
  exact congrArg some (Text.trimBy_rdropWhile _ s)

/-- A marker carries a path unchanged exactly if the path ends no comment and is trimmed. -/
theorem trim_carried_eq_self_iff {path : List Char} :
    Text.trim (carried path) = path ↔ ¬['*', '/'] <:+: path ∧ Text.trim path = path := by
  constructor
  · intro h
    have hprefix : carried path <+: path := ⟨_, (Stylesheet.splitComment_spec path).1.symm⟩
    have hle : path.length ≤ (carried path).length := by
      conv_lhs => rw [← h]
      exact Text.length_trimBy_le _ _
    have hall : carried path = path := hprefix.eq_of_length_le hle
    have hend : ¬['*', '/'] <:+: carried path := (Stylesheet.splitComment_spec path).2
    rw [hall] at h hend
    exact ⟨hend, h⟩
  · rintro ⟨hend, htrim⟩
    rwa [carried, splitComment_of_noEnd hend]

theorem leftOver_of_noEnd {path : List Char} (h : ¬['*', '/'] <:+: path) : leftOver path = [] := by
  rw [leftOver, splitComment_of_noEnd h]

/-- A start marker in front of any text reads as a comment that tells a path, in front of the rest
of the marker and the text. The path is the very one that the marker was made for, and the nodes
behind it are those of the text alone, exactly if that path holds no `*/` and no white space around
it; of all other paths the marker tells what stands in front of the first `*/`, trimmed. -/
theorem parse_startMarker (path : String) (file : Option Path) :
    (∀ rest : String, ∃ text,
      (parse (String.ofList (startMarker path.toList) ++ rest) file).nodes =
          .comment text :: parseNodes (leftOver path.toList ++ rest.toList) ∧
        startMarkerPath? text.toList = some (Text.trim (carried path.toList))) ∧
    ((∀ rest : String, ∃ text,
      (parse (String.ofList (startMarker path.toList) ++ rest) file).nodes =
          .comment text :: (parse rest file).nodes ∧
        startMarkerPath? text.toList = some path.toList) ↔
      ¬['*', '/'] <:+: path.toList ∧ Text.trim path.toList = path.toList) := by
  have hnodes (rest : String) :
      (parse (String.ofList (startMarker path.toList) ++ rest) file).nodes =
        .comment (String.ofList (Text.trim (startFlag ++ carried path.toList))) ::
          parseNodes (leftOver path.toList ++ rest.toList) := by
    simp only [parse, String.toList_append, String.toList_ofList]
    exact parseNodes_startMarker_append _ _
  have hpath : startMarkerPath?
      (String.ofList (Text.trim (startFlag ++ carried path.toList))).toList =
        some (Text.trim (carried path.toList)) := by
    rw [String.toList_ofList]
    exact startMarkerPath?_trim _
  refine ⟨fun rest => ⟨_, hnodes rest, hpath⟩, ?_⟩
  rw [← trim_carried_eq_self_iff]
  constructor
  · intro h
    obtain ⟨text, htext, hread⟩ := h ""
    rw [hnodes] at htext
    obtain ⟨hcomment, -⟩ := List.cons.inj htext
    rw [← Stylesheet.Node.comment.inj hcomment, hpath] at hread
    exact Option.some.inj hread
  · intro h rest
    have hend := (trim_carried_eq_self_iff.1 h).1
    refine ⟨_, ?_, hpath.trans (congrArg some h)⟩
    rw [hnodes, leftOver_of_noEnd hend]
    rfl

/-- A path that ends its own marker. -/
example : carried "a */b.css".toList = "a ".toList ∧
    leftOver "a */b.css".toList = "b.css*/".toList := by
  decide +kernel

end StylesheetAssets.Import
