import StylesheetAssets.Proofs.Text.Encoding
import StylesheetAssets.Proofs.Url.Rereading
import StylesheetAssets.Url.Reference

/-!
The scan of a value, told by the bytes of its encoding: from left to right, each `url(` that starts
a word is read in its quoted form or else in its bare form, and reading goes on behind what was
read. The references of a value are what this scan meets, but for paths that name no file.
-/
namespace StylesheetAssets.Url

open Text (bytes charOf isAsciiBlank IsAscii isAscii_isAsciiBlank isAscii_eq drop_bytes take_bytes)

/-! ### The scan -/

/-- At the place stand the bytes `url(`, in any case, and no word goes on there. -/
structure TokenAt (text : List UInt8) (i : Nat) : Prop where
  keyword : ((text.drop i).take 4).map (fun b => (charOf b).toLower) = ['u', 'r', 'l', '(']
  apart : (text.take i).getLast?.any (fun b => isWordChar (charOf b)) = false

/-- Bytes that stay within the quotes `q`. A backslash takes the next byte with it. -/
inductive QuotedBody (q : UInt8) : List UInt8 → Prop
  | nil : QuotedBody q []
  | escaped {slash b : UInt8} {rest : List UInt8} (hslash : charOf slash = '\\')
      (hrest : QuotedBody q rest) : QuotedBody q (slash :: b :: rest)
  | plain {b : UInt8} {rest : List UInt8} (hslash : charOf b ≠ '\\') (hq : b ≠ q)
      (hrest : QuotedBody q rest) : QuotedBody q (b :: rest)

/-- What may stand in front of a quoted path, the path itself, and what may close it. -/
inductive QuotedForm : List UInt8 → List UInt8 → List UInt8 → Prop
  | intro {blanks path blanks' : List UInt8} {q close : UInt8}
      (hblanks : ∀ b ∈ blanks, isAsciiBlank (charOf b) = true)
      (hq : charOf q = '"' ∨ charOf q = '\'') (hpath : QuotedBody q path)
      (hblanks' : ∀ b ∈ blanks', isAsciiBlank (charOf b) = true) (hclose : charOf close = ')') :
      QuotedForm (blanks ++ [q]) path (q :: blanks' ++ [close])

/-- The same for a path without quotes. It is trimmed, and if nothing is left of it, it stands right
in front of the parenthesis. -/
inductive BareForm : List UInt8 → List UInt8 → List UInt8 → Prop
  | intro {blanks path blanks' : List UInt8} {close : UInt8}
      (hblanks : ∀ b ∈ blanks, isAsciiBlank (charOf b) = true)
      (hpath : ∀ b ∈ path, endsBare (charOf b) = false)
      (hfront : path.head?.any (fun b => isAsciiBlank (charOf b)) = false)
      (hback : path.getLast?.any (fun b => isAsciiBlank (charOf b)) = false)
      (hblanks' : ∀ b ∈ blanks', isAsciiBlank (charOf b) = true) (hempty : path = [] → blanks' = [])
      (hclose : charOf close = ')') : BareForm blanks path (blanks' ++ [close])

/-- The reference at a place, by the lengths of what follows its `url(`. -/
def referenceAt (i : Nat) (lead path trail : List UInt8) (quoted : Bool) : Reference :=
  let opened := i + 4 + lead.length
  let closed := opened + path.length
  ⟨⟨i, closed + trail.length⟩, ⟨opened, closed⟩, quoted⟩

/-- What is read at a token: the quoted form, failing that the bare form. -/
inductive MatchAt (text : List UInt8) (i : Nat) : Reference → Prop
  | quoted {lead path trail rest : List UInt8}
      (htext : text.drop (i + 4) = lead ++ path ++ trail ++ rest)
      (form : QuotedForm lead path trail) : MatchAt text i (referenceAt i lead path trail true)
  | bare {lead path trail rest : List UInt8}
      (htext : text.drop (i + 4) = lead ++ path ++ trail ++ rest)
      (form : BareForm lead path trail)
      (unquoted : ∀ lead path trail rest, text.drop (i + 4) = lead ++ path ++ trail ++ rest →
        ¬QuotedForm lead path trail) : MatchAt text i (referenceAt i lead path trail false)

/-- The first token from a cursor on. -/
structure NextToken (text : List UInt8) (cursor i : Nat) : Prop where
  token : TokenAt text i
  le : cursor ≤ i
  first : ∀ k, cursor ≤ k → k < i → ¬TokenAt text k

/-- The scan from a cursor on, with what it meets and the number of its turns. A token that is not
read is passed over. -/
inductive Scans (text : List UInt8) : Nat → List Reference → Nat → Prop
  | done {cursor : Nat} (h : ∀ i, cursor ≤ i → ¬TokenAt text i) : Scans text cursor [] 1
  | read {cursor i turns : Nat} {r : Reference} {rs : List Reference}
      (next : NextToken text cursor i) (hread : MatchAt text i r)
      (rest : Scans text r.span.stop rs turns) : Scans text cursor (r :: rs) (turns + 1)
  | passed {cursor i turns : Nat} {rs : List Reference} (next : NextToken text cursor i)
      (hread : ∀ r, ¬MatchAt text i r) (rest : Scans text (i + 4) rs turns) :
      Scans text cursor rs (turns + 1)

/-! ### Kinds of characters -/

theorem isAscii_endsBare : IsAscii endsBare := by
  intro c h
  simp only [endsBare, Bool.or_eq_true, beq_iff_eq] at h
  rcases h with (rfl | rfl) | rfl <;> decide

theorem isAlpha_iff {c : Char} :
    c.isAlpha = true ↔ (65 ≤ c.toNat ∧ c.toNat ≤ 90) ∨ (97 ≤ c.toNat ∧ c.toNat ≤ 122) := by
  delta Char.isAlpha Char.isUpper Char.isLower
  simp only [Bool.or_eq_true, Bool.and_eq_true, decide_eq_true_eq, ge_iff_le,
    UInt32.le_iff_toNat_le]
  exact Iff.rfl

theorem isAscii_isWordChar : IsAscii isWordChar := by
  intro c h
  simp only [isWordChar, Char.isAlphanum, Char.isDigit, Bool.or_eq_true, Bool.and_eq_true,
    decide_eq_true_eq, beq_iff_eq, ge_iff_le, UInt32.le_iff_toNat_le, isAlpha_iff] at h
  rcases h with (((⟨-, h⟩ | ⟨-, h⟩) | ⟨-, h⟩) | rfl) | rfl
  · omega
  · omega
  · exact Nat.lt_of_le_of_lt h (by decide)
  · decide
  · decide

theorem isAscii_toLower {d : Char} (hd : d.toNat < 128) : IsAscii (·.toLower == d) := by
  intro c h
  rw [beq_iff_eq] at h
  subst h
  unfold Char.toLower at hd
  split at hd
  · next hupper => exact Nat.lt_of_le_of_lt hupper.2 (by decide)
  · exact hd

theorem toLower_eq_paren {c : Char} : c.toLower = '(' ↔ c = '(' := by
  constructor
  · intro h
    unfold Char.toLower at h
    split at h
    · next hupper =>
      have hval := congrArg (·.val.toNat) h
      have hle : 65 ≤ c.toNat := UInt32.le_iff_toNat_le.1 hupper.1
      have hge : c.toNat ≤ 90 := UInt32.le_iff_toNat_le.1 hupper.2
      simp [UInt32.toNat_add] at hval
      omega
    · exact h
  · rintro rfl
    rfl

/-! ### Tokens -/

/-- The characters `url(` in any case, in front of a text. -/
inductive StartsToken : List Char → Prop
  | intro {u r l : Char} (hurl : u.toLower = 'u' ∧ r.toLower = 'r' ∧ l.toLower = 'l')
      (rest : List Char) : StartsToken (u :: r :: l :: '(' :: rest)

theorem startsToken_cons {u r l p : Char} {rest : List Char} :
    StartsToken (u :: r :: l :: p :: rest) ↔
      [u, r, l, p].map Char.toLower = ['u', 'r', 'l', '('] := by
  constructor
  · rintro ⟨⟨hu, hr, hl⟩⟩
    simp [hu, hr, hl]
  · intro h
    simp only [List.map_cons, List.map_nil, List.cons.injEq, and_true] at h
    obtain ⟨hu, hr, hl, hp⟩ := h
    obtain rfl := toLower_eq_paren.1 hp
    exact .intro ⟨hu, hr, hl⟩ rest

/-- A letter of the keyword is a character below 128, in any case. -/
theorem lt_of_toLower {c d : Char} (h : c.toLower = d) (hd : d.toNat < 128) : c.toNat < 128 :=
  isAscii_toLower hd c (beq_iff_eq.2 h)

theorem tokenAt_iff {value : List Char} {i : Nat} :
    TokenAt (bytes value) i ↔
      ∃ front rest, value = front ++ rest ∧ i = Text.byteLength front ∧ StartsToken rest ∧
        front.getLast?.any isWordChar = false := by
  constructor
  · rintro ⟨hkeyword, hapart⟩
    obtain ⟨u, r, l, p, hfour⟩ :
        ∃ u r l p, ((bytes value).drop i).take 4 = [u, r, l, p] := by
      have hlen := congrArg List.length hkeyword
      rw [List.length_map] at hlen
      match hfour : ((bytes value).drop i).take 4, hlen with
      | [u, r, l, p], _ => exact ⟨u, r, l, p, rfl⟩
    have hlt : i < (bytes value).length := by
      by_contra hle
      rw [List.drop_eq_nil_of_le (Nat.not_lt.1 hle)] at hfour
      cases hfour
    rw [hfour] at hkeyword
    simp only [List.map_cons, List.map_nil, List.cons.injEq, and_true] at hkeyword
    obtain ⟨hu, hr, hl, hp⟩ := hkeyword
    have hascii {b : UInt8} {d : Char} (h : (charOf b).toLower = d) (hd : d.toNat < 128) :
        b.toNat < 128 := Text.toNat_charOf b ▸ lt_of_toLower h hd
    have htext : bytes value =
        (bytes value).take i ++ u :: r :: l :: p :: ((bytes value).drop i).drop 4 := by
      have hdrop := List.take_append_drop 4 ((bytes value).drop i)
      rw [hfour] at hdrop
      exact (List.take_append_drop i _).symm.trans (congrArg _ hdrop.symm)
    obtain ⟨front, s, rfl, hfront, hs⟩ :=
      Text.exists_of_bytes_eq (hascii hu (by decide)) htext
    obtain ⟨s, rfl, hs⟩ := Text.eq_cons_of_bytes_eq (hascii hr (by decide)) hs
    obtain ⟨s, rfl, hs⟩ := Text.eq_cons_of_bytes_eq (hascii hl (by decide)) hs
    obtain ⟨s, rfl, hs⟩ := Text.eq_cons_of_bytes_eq (hascii hp (by decide)) hs
    refine ⟨front, _, rfl, ?_, startsToken_cons.2 (by simp [hu, hr, hl, hp]), ?_⟩
    · have hlen := congrArg List.length hfront
      rw [Text.length_bytes, List.length_take] at hlen
      omega
    · rw [← isAscii_isWordChar.getLast?_bytes, hfront]
      exact hapart
  · rintro ⟨front, rest, rfl, rfl, hrest, hapart⟩
    refine ⟨?_, by rwa [take_bytes, isAscii_isWordChar.getLast?_bytes]⟩
    cases hrest with
    | @intro u r l hurl rest =>
      obtain ⟨b, hb, hbu⟩ := Text.exists_encode_eq (lt_of_toLower hurl.1 (by decide))
      obtain ⟨d, hd, hdr⟩ := Text.exists_encode_eq (lt_of_toLower hurl.2.1 (by decide))
      obtain ⟨e, he, hel⟩ := Text.exists_encode_eq (lt_of_toLower hurl.2.2 (by decide))
      obtain ⟨f, hf, hfp⟩ := Text.exists_encode_eq (c := '(') (by decide)
      rw [drop_bytes]
      simp [Text.bytes_cons, hb, hd, he, hf, hbu, hdr, hel, hfp, hurl]

/-- A place behind the front of a value lies behind what of the rest stands in front of it. -/
theorem exists_of_byteLength_le {front rest front' rest' : List Char}
    (h : front ++ rest = front' ++ rest') (hle : Text.byteLength front ≤ Text.byteLength front') :
    ∃ more, front' = front ++ more ∧ rest = more ++ rest' := by
  rcases List.append_eq_append_iff.1 h with ⟨more, hmore, hrest⟩ | ⟨more, rfl, rfl⟩
  · exact ⟨more, hmore, hrest⟩
  · rw [Text.byteLength_append] at hle
    cases more with
    | nil => exact ⟨[], by simp, rfl⟩
    | cons c more =>
      have hc := c.utf8Size_pos
      rw [Text.byteLength_cons] at hle
      omega

/-- Whether a token starts behind the front of a value. -/
def OpensToken (front rest : List Char) : Prop :=
  StartsToken rest ∧ front.getLast?.any isWordChar = false

theorem tokenAt_byteLength {front rest : List Char} :
    TokenAt (bytes (front ++ rest)) (Text.byteLength front) ↔ OpensToken front rest := by
  constructor
  · intro h
    obtain ⟨front', rest', heq, hlen, hstarts, hapart⟩ := tokenAt_iff.1 h
    obtain ⟨more, rfl, rfl⟩ := exists_of_byteLength_le heq (Nat.le_of_eq hlen)
    cases more with
    | nil => exact ⟨hstarts, by rwa [List.append_nil] at hapart⟩
    | cons c more =>
      have hc := c.utf8Size_pos
      rw [Text.byteLength_append, Text.byteLength_cons] at hlen
      omega
  · rintro ⟨hstarts, hapart⟩
    exact tokenAt_iff.2 ⟨front, rest, rfl, rfl, hstarts, hapart⟩

/-- Within a character no token starts. -/
theorem not_tokenAt_cons {front rest : List Char} {c : Char} (h : ¬OpensToken front (c :: rest))
    {k : Nat} (hle : Text.byteLength front ≤ k) (hlt : k < Text.byteLength (front ++ [c])) :
    ¬TokenAt (bytes (front ++ c :: rest)) k := by
  intro htoken
  obtain ⟨front', rest', heq, rfl, hstarts, hapart⟩ := tokenAt_iff.1 htoken
  obtain ⟨more, rfl, hmore⟩ := exists_of_byteLength_le heq hle
  cases more with
  | nil =>
    rw [List.append_nil] at hapart
    rw [List.nil_append] at hmore
    exact h ⟨hmore ▸ hstarts, hapart⟩
  | cons d more =>
    obtain ⟨rfl, -⟩ := List.cons.inj hmore
    simp only [Text.byteLength_append, Text.byteLength_cons, Text.byteLength_nil] at hlt
    omega

/-! ### Forms -/

theorem charOf_inj {b d : UInt8} : charOf b = charOf d ↔ b = d := by
  constructor
  · intro h
    rw [← UInt8.toNat_inj, ← Text.toNat_charOf, h, Text.toNat_charOf]
  · rintro rfl
    rfl

theorem quotedBody_cons {q b : UInt8} {rest : List UInt8} (hslash : charOf b ≠ '\\') :
    QuotedBody q (b :: rest) ↔ b ≠ q ∧ QuotedBody q rest := by
  constructor
  · intro h
    cases h with
    | escaped hslash' => exact absurd hslash' hslash
    | plain _ hq hrest => exact ⟨hq, hrest⟩
  · rintro ⟨hq, hrest⟩
    exact .plain hslash hq hrest

theorem quotedBody_slash {q slash b : UInt8} {rest : List UInt8} (hslash : charOf slash = '\\') :
    QuotedBody q (slash :: b :: rest) ↔ QuotedBody q rest := by
  constructor
  · intro h
    cases h with
    | escaped _ hrest => exact hrest
    | plain hslash' => exact absurd hslash hslash'
  · exact .escaped hslash

theorem quotedBody_append {q : UInt8} {front rest : List UInt8}
    (hfront : ∀ b ∈ front, charOf b ≠ '\\' ∧ b ≠ q) :
    QuotedBody q (front ++ rest) ↔ QuotedBody q rest := by
  induction front with
  | nil => rfl
  | cons b front ih =>
    obtain ⟨⟨hslash, hq⟩, hmore⟩ := List.forall_mem_cons.1 hfront
    rw [List.cons_append, quotedBody_cons hslash, ih hmore, and_iff_right hq]

/-- A byte from 128 on ends nothing. -/
theorem plain_of_le {q b : UInt8} (hq : q.toNat < 128) (hb : 128 ≤ b.toNat) :
    charOf b ≠ '\\' ∧ b ≠ q := by
  constructor
  · intro h
    have hslash : (charOf b).toNat = 92 := congrArg Char.toNat h
    rw [Text.toNat_charOf] at hslash
    omega
  · rintro rfl
    omega

theorem plain_of_mem_encode {q b : UInt8} (hq : q.toNat < 128) {c : Char} (hslash : c ≠ '\\')
    (hc : c ≠ charOf q) (hb : b ∈ String.utf8EncodeChar c) : charOf b ≠ '\\' ∧ b ≠ q := by
  have hb₁ := (isAscii_eq (d := '\\') (by decide)).charOf_eq hb
  have hb₂ := (isAscii_eq (d := charOf q) (by rwa [Text.toNat_charOf])).charOf_eq hb
  rw [Ne, Ne, ← charOf_inj]
  simpa [hslash, hc] using And.intro hb₁ hb₂

/-- What stays quoted as a text stays quoted as bytes: a backslash that takes the first byte of a
longer character with it leaves bytes that end nothing. -/
theorem quotedBody_bytes {q : UInt8} (hq : q.toNat < 128) {s : List Char} :
    QuotedBody q (bytes s) ↔ staysQuoted (charOf q) s = true := by
  obtain ⟨slash, hencode, hcharOf⟩ := Text.exists_encode_eq (c := '\\') (by decide)
  fun_induction staysQuoted (charOf q) s with
  | case1 => exact iff_of_true .nil rfl
  | case2 c rest ih =>
    obtain ⟨b, more, hmore⟩ := List.exists_cons_of_ne_nil (String.utf8EncodeChar_ne_nil (c := c))
    rw [Text.bytes_cons, Text.bytes_cons, hencode, hmore, List.singleton_append, List.cons_append,
      quotedBody_slash hcharOf]
    exact (quotedBody_append fun d hd => plain_of_le hq (Text.le_of_mem_tail hmore hd)).trans ih
  | case3 c rest hne ih =>
    rcases Decidable.em (c = '\\') with rfl | hslash
    · -- The backslash is last, and takes nothing with it.
      obtain rfl : rest = [] := List.eq_nil_iff_forall_not_mem.2 fun d hd => by
        obtain ⟨e, more, rfl⟩ := List.exists_cons_of_ne_nil (List.ne_nil_of_mem hd)
        exact hne e more rfl rfl
      rw [Text.bytes_cons, hencode]
      refine iff_of_false (fun h => ?_) (by simp)
      cases h with
      | plain hslash => exact hslash hcharOf
    rcases Decidable.em (c = charOf q) with rfl | hc
    · rw [Text.bytes_cons_charOf hq, quotedBody_cons hslash]
      simp
    · rw [Text.bytes_cons]
      refine (quotedBody_append fun d hd => plain_of_mem_encode hq hslash hc hd).trans ?_
      simp [hslash, hc, ih]

theorem isBare_iff {path : List Char} :
    IsBare path ↔ (∀ c ∈ path, endsBare c = false) ∧ path.head?.any isAsciiBlank = false ∧
      path.getLast?.any isAsciiBlank = false := by
  have htrim : Text.trimAscii path = path ↔
      path.head?.any isAsciiBlank = false ∧ path.getLast?.any isAsciiBlank = false :=
    Text.trimBy_eq_self_iff
  constructor
  · rintro ⟨htrimmed, hunbroken⟩
    exact ⟨hunbroken, htrim.1 htrimmed⟩
  · rintro ⟨hunbroken, hends⟩
    exact ⟨htrim.2 hends, hunbroken⟩

/-- What is written in an occurrence, as bytes. -/
structure Occurrence.Written (o : Occurrence) (lead path trail : List UInt8) : Prop where
  formed : o.Formed
  lead : bytes o.lead = lead
  path : bytes o.path = path
  trail : bytes o.trail = trail

theorem lt_of_charOf {b : UInt8} {c : Char} (h : charOf b = c) (hc : c.toNat < 128) :
    b.toNat < 128 := by
  rwa [← Text.toNat_charOf, h]

/-- A quoted form is that of an occurrence: no character of the text is cut. -/
theorem exists_written_of_quotedForm {keyword s : List Char} {lead path trail rest : List UInt8}
    (hkeyword : IsKeyword keyword) (form : QuotedForm lead path trail)
    (hs : bytes s = lead ++ path ++ trail ++ rest) :
    ∃ (o : Occurrence) (after : List Char), o.Written lead path trail ∧ o.quoted = true ∧
      o.text ++ after = keyword ++ s := by
  cases form with
  | @intro blanks path blanks' q close hblanks hq hpath hblanks' hclose =>
    have hq' : q.toNat < 128 := hq.elim (lt_of_charOf · (by decide)) (lt_of_charOf · (by decide))
    have htext : bytes s = blanks ++ q :: (path ++ q :: (blanks' ++ close :: rest)) := by
      simpa using hs
    obtain ⟨front, s₁, rfl, rfl, hs₁⟩ := Text.exists_of_bytes_eq hq' htext
    obtain ⟨middle, s₂, rfl, rfl, hs₂⟩ := Text.exists_of_bytes_eq hq' hs₁
    obtain ⟨back, after, rfl, rfl, -⟩ :=
      Text.exists_of_bytes_eq (lt_of_charOf hclose (by decide)) hs₂
    rw [isAscii_isAsciiBlank.forall_bytes] at hblanks hblanks'
    rw [quotedBody_bytes hq'] at hpath
    have hclose' := Text.bytes_cons_charOf (lt_of_charOf hclose (by decide)) []
    rw [hclose] at hclose'
    refine ⟨_, after, ⟨.quoted hkeyword hq hblanks hpath hblanks', ?_, rfl, ?_⟩, rfl, ?_⟩
    · rw [Text.bytes_append, Text.bytes_cons_charOf hq', Text.bytes_nil]
    · rw [Text.bytes_append, Text.bytes_cons_charOf hq', hclose', Text.bytes_nil]
    · simp [Occurrence.text, hclose]

/-- So is a bare form. -/
theorem exists_written_of_bareForm {keyword s : List Char} {lead path trail rest : List UInt8}
    (hkeyword : IsKeyword keyword) (form : BareForm lead path trail)
    (hs : bytes s = lead ++ path ++ trail ++ rest) :
    ∃ (o : Occurrence) (after : List Char), o.Written lead path trail ∧ o.quoted = false ∧
      o.text ++ after = keyword ++ s := by
  cases form with
  | @intro blanks' close hblanks hpath hfront hback hblanks' hempty hclose =>
    have hascii {b : UInt8} (hb : isAsciiBlank (charOf b) = true) : b.toNat < 128 :=
      lt_of_charOf rfl (isAscii_isAsciiBlank _ hb)
    have htext : bytes s = (lead ++ (path ++ blanks')) ++ close :: rest := by simpa using hs
    obtain ⟨inner, after, rfl, hinner, -⟩ :=
      Text.exists_of_bytes_eq (lt_of_charOf hclose (by decide)) htext
    obtain ⟨front, inner₁, rfl, rfl, hinner₁⟩ :=
      Text.exists_of_bytes_eq_append (fun b hb => hascii (hblanks b hb)) hinner
    obtain ⟨middle, back, rfl, rfl, rfl⟩ :=
      Text.exists_append_of_bytes_eq (fun b hb => hascii (hblanks' b hb)) hinner₁
    rw [isAscii_isAsciiBlank.forall_bytes] at hblanks hblanks'
    rw [isAscii_endsBare.forall_bytes] at hpath
    rw [isAscii_isAsciiBlank.head?_bytes] at hfront
    rw [isAscii_isAsciiBlank.getLast?_bytes] at hback
    have hclose' := Text.bytes_cons_charOf (lt_of_charOf hclose (by decide)) []
    rw [hclose] at hclose'
    have hempty' : middle = [] → back = [] := by simpa only [Text.bytes_eq_nil] using hempty
    have hbare := isBare_iff.2 ⟨hpath, hfront, hback⟩
    refine ⟨_, after, ⟨.bare hkeyword hblanks hbare hblanks' hempty', rfl, rfl, ?_⟩, rfl, ?_⟩
    · rw [Text.bytes_append, hclose', Text.bytes_nil]
    · simp [Occurrence.text, hclose]

/-- And each occurrence has its form. -/
theorem Occurrence.Formed.form {o : Occurrence} (h : o.Formed) :
    (o.quoted = true → QuotedForm (bytes o.lead) (bytes o.path) (bytes o.trail)) ∧
      (o.quoted = false → BareForm (bytes o.lead) (bytes o.path) (bytes o.trail)) := by
  obtain ⟨close, hbytes, hclose⟩ := Text.exists_encode_eq (c := ')') (by decide)
  cases h with
  | @quoted keyword blanks path blanks' q hkeyword hq hblanks hpath hblanks' =>
    refine ⟨fun _ => ?_, nofun⟩
    obtain ⟨b, hb, rfl⟩ := Text.exists_encode_eq (c := q) (by rcases hq with rfl | rfl <;> decide)
    have hb' : b.toNat < 128 := by rcases hq with h | h <;> exact lt_of_charOf h (by decide)
    rw [← isAscii_isAsciiBlank.forall_bytes] at hblanks hblanks'
    have form := QuotedForm.intro hblanks hq ((quotedBody_bytes hb').2 hpath) hblanks' hclose
    simpa [Text.bytes_cons, hb, hbytes] using form
  | @bare keyword blanks path blanks' hkeyword hblanks hpath hblanks' hempty =>
    refine ⟨nofun, fun _ => ?_⟩
    obtain ⟨hunbroken, hfront, hback⟩ := isBare_iff.1 hpath
    rw [← isAscii_isAsciiBlank.forall_bytes] at hblanks hblanks'
    rw [← isAscii_endsBare.forall_bytes] at hunbroken
    rw [← isAscii_isAsciiBlank.head?_bytes] at hfront
    rw [← isAscii_isAsciiBlank.getLast?_bytes] at hback
    have hempty' : bytes path = [] → bytes blanks' = [] := fun h => by
      rw [hempty (Text.bytes_eq_nil.1 h), Text.bytes_nil]
    have form := BareForm.intro hblanks hunbroken hfront hback hblanks' hempty' hclose
    simpa [Text.bytes_cons, hbytes] using form

/-! ### Matches -/

theorem IsKeyword.byteLength {keyword : List Char} (h : IsKeyword keyword) :
    Text.byteLength keyword = 4 := by
  obtain ⟨u, r, l, rfl, hu, hr, hl⟩ := h
  have hsize {c d : Char} (h : c.toLower = d) (hd : d.toNat < 128) : c.utf8Size = 1 := by
    rw [Char.utf8Size_eq_one_iff, UInt32.le_iff_toNat_le]
    exact Nat.le_of_lt_succ (lt_of_toLower h hd)
  simp [hsize hu, hsize hr, hsize hl, hsize (c := '(') rfl]

theorem Occurrence.Formed.keyword {o : Occurrence} (h : o.Formed) : IsKeyword o.keyword := by
  cases h <;> assumption

theorem Occurrence.Written.reference_eq {o : Occurrence} {lead path trail : List UInt8}
    (h : o.Written lead path trail) (start : Nat) :
    o.reference start = referenceAt start lead path trail o.quoted := by
  obtain ⟨formed, rfl, rfl, rfl⟩ := h
  simp only [reference, referenceAt, formed.keyword.byteLength, Text.length_bytes]

theorem Occurrence.Written.matchOccurrence_eq {o : Occurrence} {lead path trail : List UInt8}
    (h : o.Written lead path trail) {s after : List Char} (htext : o.text ++ after = s) :
    matchOccurrence s = some (o, after) := by
  rw [← htext]
  exact h.formed.matchOccurrence_eq after

theorem drop_keyword {keyword : List Char} (h : IsKeyword keyword) (front rest : List Char) :
    (bytes (front ++ (keyword ++ rest))).drop (Text.byteLength front + 4) = bytes rest := by
  have hfront := drop_bytes (front ++ keyword) rest
  rwa [Text.byteLength_append, h.byteLength, List.append_assoc] at hfront

section Matches

variable {keyword front rest after : List Char} {o : Occurrence} {r : Reference}

theorem exists_of_matchAt (hkeyword : IsKeyword keyword)
    (h : MatchAt (bytes (front ++ (keyword ++ rest))) (Text.byteLength front) r) :
    ∃ o after, matchOccurrence (keyword ++ rest) = some (o, after) ∧
      r = o.reference (Text.byteLength front) := by
  cases h with
  | quoted htext form =>
    rw [drop_keyword hkeyword] at htext
    obtain ⟨o, after, hwritten, hquoted, heq⟩ := exists_written_of_quotedForm hkeyword form htext
    exact ⟨o, after, hwritten.matchOccurrence_eq heq, by rw [hwritten.reference_eq, hquoted]⟩
  | bare htext form =>
    rw [drop_keyword hkeyword] at htext
    obtain ⟨o, after, hwritten, hquoted, heq⟩ := exists_written_of_bareForm hkeyword form htext
    exact ⟨o, after, hwritten.matchOccurrence_eq heq, by rw [hwritten.reference_eq, hquoted]⟩

theorem matchAt_of_matchOccurrence (hkeyword : IsKeyword keyword)
    (hmatch : matchOccurrence (keyword ++ rest) = some (o, after)) :
    MatchAt (bytes (front ++ (keyword ++ rest))) (Text.byteLength front)
      (o.reference (Text.byteLength front)) := by
  have formed := formed_of_matchOccurrence hmatch
  have hwritten : o.Written (bytes o.lead) (bytes o.path) (bytes o.trail) :=
    ⟨formed, rfl, rfl, rfl⟩
  have hrest : o.lead ++ o.path ++ o.trail ++ after = rest := by
    obtain ⟨u, e, l, rfl, -⟩ := hkeyword
    obtain ⟨u', e', l', hkey, -⟩ := formed.keyword
    have heq := matchOccurrence_append hmatch
    simp only [Occurrence.text, hkey, List.cons_append, List.nil_append, List.cons.injEq] at heq
    exact heq.2.2.2.2
  have htext : (bytes (front ++ (keyword ++ rest))).drop (Text.byteLength front + 4) =
      bytes o.lead ++ bytes o.path ++ bytes o.trail ++ bytes after := by
    rw [drop_keyword hkeyword, ← hrest]
    simp only [Text.bytes_append]
  rw [hwritten.reference_eq]
  cases hquoted : o.quoted with
  | true => exact .quoted htext (formed.form.1 hquoted)
  | false =>
    refine .bare htext (formed.form.2 hquoted) fun lead path trail more hmore form => ?_
    -- The quoted form is read first.
    rw [drop_keyword hkeyword] at hmore
    obtain ⟨o', after', hwritten', hquoted', heq⟩ :=
      exists_written_of_quotedForm hkeyword form hmore
    have hmatch' := hwritten'.matchOccurrence_eq heq
    obtain ⟨rfl, -⟩ := Prod.mk.inj (Option.some.inj (hmatch.symm.trans hmatch'))
    rw [hquoted'] at hquoted
    cases hquoted

end Matches

/-- What the bytes match at a token is the occurrence that is read there. -/
theorem matchAt_iff {front s : List Char} (hstarts : StartsToken s) {r : Reference} :
    MatchAt (bytes (front ++ s)) (Text.byteLength front) r ↔
      ∃ o after, matchOccurrence s = some (o, after) ∧ r = o.reference (Text.byteLength front) := by
  cases hstarts with
  | @intro u e l hurl rest =>
    have hkeyword : IsKeyword [u, e, l, '('] := ⟨u, e, l, rfl, hurl⟩
    constructor
    · exact exists_of_matchAt hkeyword
    · rintro ⟨o, after, hmatch, rfl⟩
      exact matchAt_of_matchOccurrence hkeyword hmatch

theorem MatchAt.unique {value : List Char} {i : Nat} {r r' : Reference}
    (htoken : TokenAt (bytes value) i) (h : MatchAt (bytes value) i r)
    (h' : MatchAt (bytes value) i r') : r = r' := by
  obtain ⟨front, s, rfl, rfl, hstarts, -⟩ := tokenAt_iff.1 htoken
  obtain ⟨o, after, hmatch, rfl⟩ := (matchAt_iff hstarts).1 h
  obtain ⟨o', after', hmatch', rfl⟩ := (matchAt_iff hstarts).1 h'
  obtain ⟨rfl, -⟩ := Prod.mk.inj (Option.some.inj (hmatch.symm.trans hmatch'))
  rfl

end StylesheetAssets.Url
