import StylesheetAssets.Proofs.Text.Encoding

/-!
Readers of the bytes of a text, and what they do on their way: they move a cursor, and they cut
stretches out of texts, which can only be done between characters.

A reader may start over without any bound. It answers nothing if it never comes to an end, and
nothing if it asks for a stretch that cannot be cut out. So an answer tells that it does neither.
-/
namespace StylesheetAssets.Text

/-! ### Places in bytes -/

/-- The place lies in front of a character or at the end of the text. -/
def IsBoundary (text : List Char) (i : Nat) : Prop :=
  ∃ front rest, front ++ rest = text ∧ byteLength front = i

/-- The byte at a place, as the character of that number. -/
def byteAt (text : List Char) (i : Nat) : Option Char := ((bytes text)[i]?).map charOf

/-- A text cut behind a number of bytes, unless that is within a character or behind the end. -/
def cutAt? : Nat → List Char → Option (List Char × List Char)
  | 0, s => some ([], s)
  | _ + 1, [] => none
  | n + 1, c :: s =>
    if c.utf8Size ≤ n + 1 then
      (cutAt? (n + 1 - c.utf8Size) s).map fun (front, rest) => (c :: front, rest)
    else none

def slice? (text : List Char) (start stop : Nat) : Option (List Char) := do
  let (front, _) ← cutAt? stop text
  let (_, part) ← cutAt? start front
  return part

/-- The first place from where on the text is of the kind `p`. -/
def find? (p : List Char → Bool) : List Char → Option Nat
  | [] => if p [] then some 0 else none
  | c :: s => if p (c :: s) then some 0 else (find? p s).map (c.utf8Size + ·)

theorem cutAt?_eq_some_iff {n : Nat} {s front rest : List Char} :
    cutAt? n s = some (front, rest) ↔ front ++ rest = s ∧ byteLength front = n := by
  fun_induction cutAt? n s generalizing front with
  | case1 s =>
    constructor
    · intro h
      cases h
      exact ⟨rfl, rfl⟩
    · rintro ⟨rfl, hlen⟩
      cases front with
      | nil => rfl
      | cons c front =>
        have hc := c.utf8Size_pos
        rw [byteLength_cons] at hlen
        omega
  | case2 n =>
    refine iff_of_false (by simp) ?_
    rintro ⟨happend, hlen⟩
    rw [(List.append_eq_nil_iff.1 happend).1] at hlen
    cases hlen
  | case3 n c s hle ih =>
    constructor
    · intro h
      obtain ⟨⟨front', rest'⟩, hcut, heq⟩ := Option.map_eq_some_iff.1 h
      cases heq
      obtain ⟨rfl, hlen⟩ := ih.1 hcut
      exact ⟨rfl, by rw [byteLength_cons]; omega⟩
    · rintro ⟨happend, hlen⟩
      cases front with
      | nil => cases hlen
      | cons d front =>
        obtain ⟨rfl, rfl⟩ := List.cons.inj happend
        rw [byteLength_cons] at hlen
        rw [ih.2 ⟨rfl, by omega⟩]
        rfl
  | case4 n c s hlt =>
    refine iff_of_false (by simp) ?_
    rintro ⟨happend, hlen⟩
    cases front with
    | nil => cases hlen
    | cons d front =>
      obtain ⟨rfl, -⟩ := List.cons.inj happend
      rw [byteLength_cons] at hlen
      omega

/-- A stretch can be cut out exactly where it starts and stops between characters, in this order. -/
theorem slice?_eq_some_iff {text part : List Char} {start stop : Nat} :
    slice? text start stop = some part ↔
      ∃ before after, before ++ part ++ after = text ∧ byteLength before = start ∧
        byteLength (before ++ part) = stop := by
  constructor
  · intro h
    obtain ⟨⟨front, after⟩, hstop, h⟩ := Option.bind_eq_some_iff.1 h
    obtain ⟨⟨before, part'⟩, hstart, h⟩ := Option.bind_eq_some_iff.1 h
    cases h
    obtain ⟨rfl, hfront⟩ := cutAt?_eq_some_iff.1 hstop
    obtain ⟨rfl, hbefore⟩ := cutAt?_eq_some_iff.1 hstart
    exact ⟨before, after, rfl, hbefore, hfront⟩
  · rintro ⟨before, after, happend, hstart, hstop⟩
    simp [slice?, cutAt?_eq_some_iff.2 ⟨happend, hstop⟩, cutAt?_eq_some_iff.2 ⟨rfl, hstart⟩]

theorem isBoundary_iff {text : List Char} {i : Nat} :
    IsBoundary text i ↔ (cutAt? i text).isSome = true := by
  rw [Option.isSome_iff_exists]
  constructor
  · rintro ⟨front, rest, htext, hlen⟩
    exact ⟨(front, rest), cutAt?_eq_some_iff.2 ⟨htext, hlen⟩⟩
  · rintro ⟨⟨front, rest⟩, hcut⟩
    exact ⟨front, rest, cutAt?_eq_some_iff.1 hcut⟩

instance (text : List Char) (i : Nat) : Decidable (IsBoundary text i) :=
  decidable_of_iff _ isBoundary_iff.symm

theorem isBoundary_byteLength (front rest : List Char) :
    IsBoundary (front ++ rest) (byteLength front) :=
  ⟨front, rest, rfl, rfl⟩

/-- The first character of a kind is found behind those that are not of it. -/
theorem find?_head (p : Char → Bool) (s : List Char) :
    (find? (·.head?.any p) s).getD (byteLength s) = byteLength (s.takeWhile (!p ·)) := by
  induction s with
  | nil => rfl
  | cons c s ih =>
    by_cases hc : p c = true
    · simp [find?, hc]
    · have hfind : find? (·.head?.any p) (c :: s) =
          (find? (·.head?.any p) s).map (c.utf8Size + ·) := if_neg (by simpa using hc)
      rw [List.takeWhile_cons_of_pos (by simpa using hc), byteLength_cons, byteLength_cons, ← ih,
        hfind]
      cases find? (·.head?.any p) s <;> rfl

/-- A text of characters below 128 starts another one where its bytes do. -/
theorem bytes_prefix_iff {start s : List Char} (h : ∀ c ∈ start, c.toNat < 128) :
    bytes start <+: bytes s ↔ start <+: s := by
  constructor
  · rintro ⟨more, hmore⟩
    induction start generalizing s with
    | nil => exact List.nil_prefix
    | cons c start ih =>
      obtain ⟨hc, hstart⟩ := List.forall_mem_cons.1 h
      obtain ⟨b, hb, rfl⟩ := exists_encode_eq hc
      rw [bytes_cons, hb] at hmore
      obtain ⟨after, rfl, hafter⟩ :=
        eq_cons_of_bytes_eq (by rwa [toNat_charOf] at hc) hmore.symm
      exact List.cons_prefix_cons.2 ⟨rfl, ih hstart hafter.symm⟩
  · rintro ⟨more, rfl⟩
    exact ⟨bytes more, (bytes_append start more).symm⟩

/-! ### Bytes of characters -/

theorem toNat_lt_of_quote {q : Char} (hq : q = '"' ∨ q = '\'') : q.toNat < 128 := by
  rcases hq with rfl | rfl <;> decide

theorem charOf_ne {b : UInt8} (hb : 128 ≤ b.toNat) {c : Char} (hc : c.toNat < 128) :
    charOf b ≠ c := by
  rintro rfl
  rw [toNat_charOf] at hc
  omega

/-- Each byte of a character stands in the text behind what is in front of the character. -/
theorem getElem?_bytes_add {front rest : List Char} {c : Char} {k : Nat}
    (hk : k < (String.utf8EncodeChar c).length) :
    (bytes (front ++ c :: rest))[byteLength front + k]? = some (String.utf8EncodeChar c)[k] := by
  rw [bytes_append, bytes_cons, ← length_bytes, List.getElem?_append_right (Nat.le_add_right _ _),
    Nat.add_sub_cancel_left, List.getElem?_append_left hk, List.getElem?_eq_getElem hk]

theorem byteAt_of_byte {text : List Char} {i : Nat} {b : UInt8} (hb : (bytes text)[i]? = some b) :
    byteAt text i = some (charOf b) := by
  rw [byteAt, hb]
  rfl

theorem byteAt_of_le {text : List Char} {i : Nat} (hi : byteLength text ≤ i) :
    byteAt text i = none := by
  rw [byteAt, List.getElem?_eq_none (by rwa [length_bytes])]
  rfl

/-- In front of a character stands what is of the same kinds below 128. -/
theorem exists_byteAt {text front rest : List Char} {c : Char} (htext : front ++ c :: rest = text) :
    ∃ d, (∀ p, IsAscii p → p d = p c) ∧ byteAt text (byteLength front) = some d := by
  have hpos : 0 < (String.utf8EncodeChar c).length := by
    rw [String.length_utf8EncodeChar]
    exact c.utf8Size_pos
  refine ⟨_, fun p hp => hp.charOf_eq (List.getElem_mem hpos), ?_⟩
  exact byteAt_of_byte (htext ▸ getElem?_bytes_add hpos)

theorem byteAt_of_lt {text front rest : List Char} {c : Char} (htext : front ++ c :: rest = text)
    (hc : c.toNat < 128) : byteAt text (byteLength front) = some c := by
  obtain ⟨d, hd, hat⟩ := exists_byteAt htext
  obtain rfl : d = c := by simpa using hd _ (isAscii_eq hc)
  exact hat

theorem byteLength_pos {s : List Char} (h : s ≠ []) : 0 < byteLength s := by
  obtain ⟨c, rest, rfl⟩ := List.exists_cons_of_ne_nil h
  have hc := c.utf8Size_pos
  rw [byteLength_cons]
  omega

theorem byteLength_lt_append (front : List Char) {part : List Char} (h : part ≠ []) :
    byteLength front < byteLength (front ++ part) := by
  rw [byteLength_append]
  exact Nat.lt_add_of_pos_right (byteLength_pos h)

theorem byteLength_concat {c : Char} (hc : c.toNat < 128) (front : List Char) :
    byteLength (front ++ [c]) = byteLength front + 1 := by
  obtain ⟨b, hb, -⟩ := exists_encode_eq hc
  simp [← String.length_utf8EncodeChar, hb]

/-- What holds behind a character holds at each byte of it, if it is carried over to a byte from 128
on from the place behind that. The first byte may be one below 128. -/
theorem of_behind {place : Nat → Prop} {text front rest : List Char} {c : Char}
    (htext : front ++ c :: rest = text)
    (hback : ∀ i b, (bytes text)[i]? = some b → 128 ≤ b.toNat → place (i + 1) → place i)
    (hbehind : place (byteLength (front ++ [c]))) {k : Nat} (hk : k ≤ c.utf8Size)
    (hfirst : k = 0 → 128 ≤ c.toNat) : place (byteLength front + k) := by
  -- The induction is on the bytes from there up to the end of the character.
  obtain ⟨n, hn⟩ := Nat.exists_eq_add_of_le hk
  induction n generalizing k with
  | zero => simpa [hn] using hbehind
  | succ n ih =>
    have hlt : k < (String.utf8EncodeChar c).length := by
      rw [String.length_utf8EncodeChar]
      omega
    have hnext := ih (k := k + 1) (by omega) (by omega) (by omega)
    refine hback _ _ (htext ▸ getElem?_bytes_add hlt) ?_ hnext
    cases k with
    | zero => exact le_of_mem_encode (hfirst rfl) (List.getElem_mem hlt)
    | succ k =>
      obtain ⟨b, more, hmore⟩ := List.exists_cons_of_ne_nil (String.utf8EncodeChar_ne_nil (c := c))
      refine le_of_mem_tail hmore ?_
      simp [hmore]

/-- So does what holds behind an escape. The character that the backslash takes with it may be
longer than the byte that is passed. -/
theorem of_behind_escape {place : Nat → Prop} {text front rest : List Char}
    (htext : front ++ rest = text)
    (hback : ∀ i b, (bytes text)[i]? = some b → 128 ≤ b.toNat → place (i + 1) → place i)
    (hend : rest = [] → place (byteLength front))
    (hnext : ∀ c more, rest = c :: more → place (byteLength (front ++ [c]))) :
    place (min (byteLength front + 1) (byteLength text)) := by
  cases rest with
  | nil =>
    have hmin : min (byteLength front + 1) (byteLength text) = byteLength front := by
      rw [← htext, List.append_nil]
      omega
    rw [hmin]
    exact hend rfl
  | cons c rest =>
    have hc := c.utf8Size_pos
    have hmin : min (byteLength front + 1) (byteLength text) = byteLength front + 1 := by
      rw [← htext, byteLength_append, byteLength_cons]
      omega
    rw [hmin]
    exact of_behind htext hback (hnext c rest rfl) hc (by omega)

/-! ### Readers -/

namespace ByteReader

inductive Event where
  /-- The cursor was put elsewhere. -/
  | moved (before after : Nat)
  /-- A stretch of a text was asked for. -/
  | sliced (text : List Char) (start stop : Nat)
  /-- A loop starts over: where the cursor was at the start of the turn, and where it is. -/
  | turned (before after : Nat)

/-- Where a reader stands, and what it has done. -/
structure State where
  cursor : Nat := 0
  events : List Event := []

end ByteReader

/-- A computation with a cursor. It is none if it goes on forever, or asks for a stretch that cannot
be cut out. -/
abbrev ByteReader (α : Type) := StateT ByteReader.State Option α

namespace ByteReader

def note (event : Event) : ByteReader Unit :=
  modify fun s => { s with events := s.events ++ [event] }

def cursor : ByteReader Nat := return (← get).cursor

def moveTo (i : Nat) : ByteReader Unit := do
  note (.moved (← cursor) i)
  modify ({ · with cursor := i })

def skip (n : Nat) : ByteReader Unit := do
  moveTo ((← cursor) + n)

def peek (text : List Char) : ByteReader (Option Char) := do
  return byteAt text (← cursor)

/-- Whether the bytes from the cursor on start with those of `start`. -/
def startsWith (text start : List Char) : ByteReader Bool := do
  let i ← cursor
  if i ≤ byteLength text then return (bytes start).isPrefixOf ((bytes text).drop i) else failure

def slice (text : List Char) (start stop : Nat) : ByteReader (List Char) := do
  note (.sliced text start stop)
  StateT.lift (slice? text start stop)

/-- The cursor stays within the text and never goes back, stretches lie between characters, and no
loop starts over where it was. -/
def Event.Allowed (text : List Char) : Event → Prop
  | moved before after => before ≤ after ∧ after ≤ byteLength text
  | sliced part start stop =>
    start ≤ stop ∧ stop ≤ byteLength part ∧ IsBoundary part start ∧ IsBoundary part stop
  | turned before after => before < after

/-- Where the events lead the cursor from `i` on, unless they tell of a cursor elsewhere. -/
def follow (i : Nat) : List Event → Option Nat
  | [] => some i
  | .moved before after :: events => if before = i then follow after events else none
  | .sliced _ _ _ :: events => follow i events
  | .turned _ after :: events => if after = i then follow i events else none

theorem follow_append (i : Nat) (events more : List Event) :
    follow i (events ++ more) = (follow i events).bind (follow · more) := by
  fun_induction follow i events <;> simp_all [follow]

theorem run_bind_of {α β : Type} {read : ByteReader α} {next : α → ByteReader β} {s s' : State}
    {a : α} {answer : Option (β × State)} (h : read.run s = some (a, s'))
    (h' : (next a).run s' = answer) : (read >>= next).run s = answer := by
  rw [StateT.run_bind, h]
  exact h'

/-- With the cursor at `i` the reader answers `a` and leaves the cursor at `j`. Its events tell the
whole way there, and are allowed. -/
def Goes {α : Type} (text : List Char) (read : ByteReader α) (i : Nat) (a : α) (j : Nat) : Prop :=
  ∃ events, follow i events = some j ∧ (∀ e ∈ events, e.Allowed text) ∧
    ∀ before, read.run ⟨i, before⟩ = some (a, ⟨j, before ++ events⟩)

section Goes

variable {α β : Type} {text : List Char} {i j k : Nat}

theorem goes_pure (a : α) : Goes text (pure a) i a i :=
  ⟨[], rfl, by simp, fun before => by rw [List.append_nil]; rfl⟩

/-- What goes well from the start of the text on can be read off its last state. -/
theorem Goes.exists_run {read : ByteReader α} {a : α} (h : Goes text read 0 a j) :
    ∃ last, read.run {} = some (a, last) ∧ follow 0 last.events = some last.cursor ∧
      ∀ e ∈ last.events, e.Allowed text := by
  obtain ⟨events, hfollow, hevents, hrun⟩ := h
  exact ⟨⟨j, events⟩, hrun [], hfollow, hevents⟩

theorem Goes.bind {read : ByteReader α} {next : α → ByteReader β} {a : α} {b : β}
    (h : Goes text read i a j) (h' : Goes text (next a) j b k) :
    Goes text (read >>= next) i b k := by
  obtain ⟨events, hfollow, hevents, hrun⟩ := h
  obtain ⟨events', hfollow', hevents', hrun'⟩ := h'
  refine ⟨events ++ events', ?_, List.forall_mem_append.2 ⟨hevents, hevents'⟩, fun before => ?_⟩
  · rw [follow_append, hfollow, Option.bind_some, hfollow']
  · refine run_bind_of (hrun before) ?_
    rw [hrun', List.append_assoc]

theorem goes_lift {answer : Option α} {a : α} (h : answer = some a) :
    Goes text (StateT.lift answer) i a i :=
  ⟨[], rfl, by simp, fun before => by rw [h, List.append_nil]; rfl⟩

theorem goes_note {event : Event} (hfollow : follow i [event] = some i)
    (h : event.Allowed text) : Goes text (note event) i () i :=
  ⟨[event], hfollow, by simpa using h, fun _ => rfl⟩

theorem goes_turned (h : i < j) : Goes text (note (.turned i j)) j () j :=
  goes_note (by simp [follow]) h

theorem goes_cursor : Goes text cursor i i i :=
  ⟨[], rfl, by simp, fun before => by rw [List.append_nil]; rfl⟩

theorem goes_moveTo (hij : i ≤ j) (hj : j ≤ byteLength text) : Goes text (moveTo j) i () j :=
  ⟨[.moved i j], by simp [follow], by simpa using ⟨hij, hj⟩, fun _ => rfl⟩

theorem byteLength_le_of_append {front rest : List Char} (htext : front ++ rest = text) :
    byteLength front ≤ byteLength text := by
  rw [← htext, byteLength_append]
  exact Nat.le_add_right _ _

/-- The cursor is moved by some bytes, but not behind the end. -/
theorem goes_moveTo_min {front rest : List Char} (htext : front ++ rest = text) (n : Nat) :
    Goes text (moveTo (min (byteLength front + n) (byteLength text))) (byteLength front) ()
      (min (byteLength front + n) (byteLength text)) := by
  have hle := byteLength_le_of_append htext
  exact goes_moveTo (by omega) (Nat.min_le_right _ _)

/-- The cursor is moved behind a part of the text that follows. -/
theorem goes_moveTo_behind {front part rest : List Char} (htext : front ++ part ++ rest = text) :
    Goes text (moveTo (byteLength (front ++ part))) (byteLength front) ()
      (byteLength (front ++ part)) :=
  goes_moveTo (by simp) (byteLength_le_of_append htext)

theorem goes_skip {n : Nat} (h : i + n ≤ byteLength text) : Goes text (skip n) i () (i + n) :=
  goes_cursor.bind (goes_moveTo (Nat.le_add_right i n) h)

theorem goes_skip_byte {b : UInt8} (hb : (bytes text)[i]? = some b) :
    Goes text (skip 1) i () (i + 1) := by
  obtain ⟨hlt, -⟩ := List.getElem?_eq_some_iff.1 hb
  rw [length_bytes] at hlt
  exact goes_skip hlt

theorem goes_slice {part before after s : List Char} (h : before ++ part ++ after = s) :
    Goes text (slice s (byteLength before) (byteLength (before ++ part))) i part i := by
  have hstart : IsBoundary s (byteLength before) := by
    rw [← h, List.append_assoc]
    exact isBoundary_byteLength _ _
  have hstop : IsBoundary s (byteLength (before ++ part)) := h ▸ isBoundary_byteLength _ _
  have hallowed :
      Event.Allowed text (.sliced s (byteLength before) (byteLength (before ++ part))) :=
    ⟨by simp, byteLength_le_of_append h, hstart, hstop⟩
  have hcut := slice?_eq_some_iff.2 ⟨before, after, h, rfl, rfl⟩
  exact (goes_note rfl hallowed).bind (goes_lift hcut)

theorem goes_peek_of {seen : Option Char} (h : byteAt text i = seen) :
    Goes text (peek text) i seen i := by
  rw [← h]
  exact goes_cursor.bind (goes_pure _)

theorem goes_peek {front rest : List Char} {c : Char} (htext : front ++ c :: rest = text)
    (hc : c.toNat < 128) :
    Goes text (peek text) (byteLength front) (some c) (byteLength front) :=
  goes_peek_of (byteAt_of_lt htext hc)

theorem goes_peek_end : Goes text (peek text) (byteLength text) none (byteLength text) :=
  goes_peek_of (byteAt_of_le (Nat.le_refl _))

theorem goes_skip_char {front rest : List Char} {c : Char} (htext : front ++ c :: rest = text)
    (hc : c.toNat < 128) :
    Goes text (skip 1) (byteLength front) () (byteLength (front ++ [c])) := by
  have hle := byteLength_le_of_append ((List.append_cons front c rest).symm.trans htext)
  rw [byteLength_concat hc] at hle ⊢
  exact goes_skip hle

theorem goes_startsWith {front rest start : List Char} (htext : front ++ rest = text)
    (hstart : ∀ c ∈ start, c.toNat < 128) :
    Goes text (startsWith text start) (byteLength front) (start.isPrefixOf rest)
      (byteLength front) := by
  refine goes_cursor.bind ?_
  have hprefix : (bytes start).isPrefixOf (bytes rest) = start.isPrefixOf rest := by
    rw [Bool.eq_iff_iff, List.isPrefixOf_iff_prefix, List.isPrefixOf_iff_prefix,
      bytes_prefix_iff hstart]
  rw [← htext, if_pos (by simp), drop_bytes, hprefix]
  exact goes_pure _

/-- The bytes of longer characters mean nothing to the reader. -/
def Overlooks (text : List Char) (read : ByteReader α) : Prop :=
  ∀ a j i b, (bytes text)[i]? = some b → 128 ≤ b.toNat → Goes text read (i + 1) a j →
    Goes text read i a j

theorem Overlooks.character {read : ByteReader α} {a : α} (h : Overlooks text read)
    {front rest : List Char} {c : Char} (htext : front ++ c :: rest = text) (hc : 128 ≤ c.toNat)
    (hgoes : Goes text read (byteLength (front ++ [c])) a j) :
    Goes text read (byteLength front) a j :=
  @of_behind (Goes text read · a j) _ _ _ _ htext (h a j) hgoes _ (Nat.zero_le _) fun _ => hc

theorem Overlooks.escaped {read : ByteReader α} {a : α} (h : Overlooks text read)
    {front rest : List Char} (htext : front ++ rest = text)
    (hend : rest = [] → Goes text read (byteLength front) a j)
    (hnext : ∀ c more, rest = c :: more → Goes text read (byteLength (front ++ [c])) a j) :
    Goes text read (min (byteLength front + 1) (byteLength text)) a j :=
  @of_behind_escape (Goes text read · a j) _ _ _ htext (h a j) hend hnext

end Goes

end ByteReader

end StylesheetAssets.Text
