import StylesheetAssets.Proofs.Path.Directory
import StylesheetAssets.Proofs.Rewrite.Resolving

/-!
Names of copies that hold a fingerprint: each is one step of a path, and two of them agree only if
their stems, their extensions and their fingerprints do. A stem may itself hold dashes, digits and
dots; what keeps the names apart is that the extension starts at the last dot.
-/
namespace StylesheetAssets

namespace Digest

theorem length_hexOfBytes (bytes : List UInt8) :
    (hexOfBytes bytes).toList.length = 2 * bytes.length := by
  simp [hexOfBytes, List.length_flatMap, Nat.mul_comm]

theorem hexDigit_mem {n : Nat} (h : n < 16) : hexDigit n ∈ "0123456789abcdef".toList := by
  have hdigits : ∀ n ∈ List.range 16, hexDigit n ∈ "0123456789abcdef".toList := by decide
  exact hdigits n (List.mem_range.2 h)

theorem mem_hexOfBytes {bytes : List UInt8} {c : Char} (h : c ∈ (hexOfBytes bytes).toList) :
    c ∈ "0123456789abcdef".toList := by
  rw [hexOfBytes, String.toList_ofList, List.mem_flatMap] at h
  obtain ⟨b, -, hc⟩ := h
  have hb := b.toNat_lt
  rcases List.mem_pair.1 hc with rfl | rfl
  · exact hexDigit_mem (by omega)
  · exact hexDigit_mem (by omega)

namespace ContentHash

theorem length_fingerprint (x : ContentHash) : x.fingerprint.toList.length = 32 := by
  simp [fingerprint, length_hexOfBytes]

theorem dot_not_mem_fingerprint (x : ContentHash) : '.' ∉ x.fingerprint.toList :=
  fun h => absurd (mem_hexOfBytes h) (by decide)

theorem slash_not_mem_fingerprint (x : ContentHash) : '/' ∉ x.fingerprint.toList :=
  fun h => absurd (mem_hexOfBytes h) (by decide)

end ContentHash

end Digest

namespace Path

/-- A name is cut at its last dot, unless it has none behind its first character. -/
theorem splitExtension_cases (name : String) :
    (∃ stem extension, splitExtension name = (stem, some extension) ∧
        name.toList = stem.toList ++ '.' :: extension.toList ∧ '.' ∉ extension.toList) ∨
      (splitExtension name = (name, none) ∧ '.' ∉ name.toList.tail) := by
  set tail := name.toList.reverse.takeWhile (· ≠ '.') with htail
  have hdot : '.' ∉ tail := fun h => by simpa using List.mem_takeWhile_imp h
  have hname : name.toList = (name.toList.reverse.dropWhile (· ≠ '.')).reverse ++ tail.reverse := by
    rw [← List.reverse_append, htail, List.takeWhile_append_dropWhile, List.reverse_reverse]
  unfold splitExtension
  rw [← htail]
  cases hdrop : name.toList.reverse.dropWhile (· ≠ '.') with
  | nil =>
    rw [hdrop] at hname
    refine .inr ⟨rfl, fun h => hdot ?_⟩
    rw [hname] at h
    simpa using List.mem_of_mem_tail h
  | cons c before =>
    obtain rfl : c = '.' := by
      have hhead := List.head?_dropWhile_not (· ≠ '.') name.toList.reverse
      rw [hdrop] at hhead
      simpa using hhead
    rw [hdrop] at hname
    cases before with
    | nil =>
      refine .inr ⟨rfl, ?_⟩
      rw [hname]
      simpa using hdot
    | cons d before =>
      refine .inl ⟨_, _, rfl, ?_, by simpa using hdot⟩
      rw [hname]
      simp

theorem isName_of_fileName? {p : Path} {s : String} (h : p.fileName? = some s) : IsName s :=
  isName_of_mem_body (List.mem_of_getLast? (getLast?_body_of_fileName? h))

end Path

namespace AssetTarget

open Digest (ContentHash)

/-- Stem and extension are the two sides of the last dot of the file's name. -/
theorem parts_cases {t : AssetTarget} (h : t.extension = t.path.extension?.getD "") :
    (∃ name, t.path.fileName? = some name ∧
        name.toList = t.stem.toList ++ '.' :: t.extension.toList ∧ '.' ∉ t.extension.toList) ∨
      (t.extension = "" ∧ '.' ∉ t.stem.toList.tail ∧ '/' ∉ t.stem.toList) := by
  unfold stem Path.stem?
  rw [h, Path.extension?]
  cases hname : t.path.fileName? with
  | none => exact .inr ⟨rfl, by simp, by simp⟩
  | some name =>
    rcases Path.splitExtension_cases name with ⟨stem, extension, hsplit, hparts⟩ | ⟨hsplit, hdot⟩
    · left
      exact ⟨name, rfl, by simpa [hsplit] using hparts⟩
    · right
      simpa [hsplit] using ⟨hdot, (Path.isName_of_fileName? hname).2.2.2⟩

theorem dot_not_mem_extension {t : AssetTarget} (h : t.extension = t.path.extension?.getD "") :
    '.' ∉ t.extension.toList := by
  rcases parts_cases h with ⟨name, -, -, hdot⟩ | ⟨hempty, -, -⟩
  · exact hdot
  · simp [hempty]

/-- A file whose name does not end in a dot has no extension only if its stem has no inner dot. -/
theorem dot_not_mem_tail_stem {t : AssetTarget} (h : t.extension = t.path.extension?.getD "")
    (hname : ∀ name, t.path.fileName? = some name → name.toList.getLast? ≠ some '.')
    (hempty : t.extension = "") : '.' ∉ t.stem.toList.tail := by
  rcases parts_cases h with ⟨name, hfile, hparts, -⟩ | ⟨-, hdot, -⟩
  · refine absurd ?_ (hname name hfile)
    rw [hparts, hempty]
    simp
  · exact hdot

theorem slash_not_mem_parts {t : AssetTarget} (h : t.extension = t.path.extension?.getD "") :
    '/' ∉ t.stem.toList ∧ '/' ∉ t.extension.toList := by
  rcases parts_cases h with ⟨name, hfile, hparts, -⟩ | ⟨hempty, -, hslash⟩
  · have hname := (Path.isName_of_fileName? hfile).2.2.2
    simp only [hparts, List.mem_append, List.mem_cons, not_or] at hname
    exact ⟨hname.1, hname.2.2⟩
  · exact ⟨hslash, by simp [hempty]⟩

/-- The name of a copy: the stem, the fingerprint, and the extension where there is one. -/
theorem toList_outputName (t : AssetTarget) (x : ContentHash) :
    (t.outputName (some x)).toList = t.stem.toList ++ '-' :: x.fingerprint.toList ++
      (if t.extension = "" then [] else '.' :: t.extension.toList) := by
  by_cases h : t.extension = "" <;> simp [outputName, h]

theorem isName_outputName {t : AssetTarget} (h : t.extension = t.path.extension?.getD "")
    (x : ContentHash) : Path.IsName (t.outputName (some x)) := by
  have hdash : '-' ∈ (t.outputName (some x)).toList := by simp [toList_outputName]
  refine ⟨List.ne_nil_of_mem hdash, ?_, ?_, ?_⟩
  · intro hdot
    simp [hdot] at hdash
  · intro hdots
    simp [hdots] at hdash
  · obtain ⟨hstem, hextension⟩ := slash_not_mem_parts h
    have hfingerprint := x.slash_not_mem_fingerprint
    rw [toList_outputName]
    split_ifs <;> simp [hstem, hextension, hfingerprint]

/-- A file that can be read has a copy with one name. -/
theorem isName_outputName_of_fileName? {t : AssetTarget}
    (h : t.extension = t.path.extension?.getD "") (hfile : t.path.fileName? ≠ none)
    (hash : Option ContentHash) : Path.IsName (t.outputName hash) := by
  cases hash with
  | some x => exact isName_outputName h x
  | none =>
    obtain ⟨s, hs⟩ := Option.ne_none_iff_exists'.1 hfile
    have hname : t.outputName none = s := by rw [outputName, fileName, hs, Option.getD_some]
    rw [hname]
    exact Path.isName_of_fileName? hs

/-- A text ends at its last dot in one way only. -/
theorem append_dot_inj {xs ys extension extension' : List Char} (hdot : '.' ∉ extension)
    (hdot' : '.' ∉ extension') (h : xs ++ '.' :: extension = ys ++ '.' :: extension') :
    xs = ys ∧ extension = extension' := by
  have hfront : xs = ys := by
    rcases List.append_eq_append_iff.1 h with ⟨zs, rfl, hzs⟩ | ⟨zs, rfl, hzs⟩
    · cases zs with
      | nil => exact (List.append_nil xs).symm
      | cons z zs =>
        refine absurd ?_ hdot
        rw [(List.cons.inj hzs).2]
        simp
    · cases zs with
      | nil => exact List.append_nil ys
      | cons z zs =>
        refine absurd ?_ hdot'
        rw [(List.cons.inj hzs).2]
        simp
  rw [hfront] at h
  exact ⟨hfront, (List.cons.inj (List.append_cancel_left h)).2⟩

/-- A dash and a fingerprint at the end are found there in one way only. -/
theorem append_fingerprint_inj {xs ys : List Char} {x y : ContentHash}
    (h : xs ++ '-' :: x.fingerprint.toList = ys ++ '-' :: y.fingerprint.toList) :
    xs = ys ∧ x.fingerprint = y.fingerprint := by
  have hlength : ('-' :: x.fingerprint.toList).length = ('-' :: y.fingerprint.toList).length := by
    simp only [List.length_cons, ContentHash.length_fingerprint]
  obtain ⟨hfront, hlast⟩ := List.append_inj' h hlength
  exact ⟨hfront, String.toList_inj.1 (List.cons.inj hlast).2⟩

/-- A name without an extension has no inner dot, and one with an extension has. -/
theorem append_dot_ne {xs ys extension : List Char} {x y : ContentHash} (hdot : '.' ∉ xs.tail) :
    xs ++ '-' :: x.fingerprint.toList ≠ ys ++ '-' :: y.fingerprint.toList ++ '.' :: extension := by
  intro h
  have hleft : '.' ∉ (xs ++ '-' :: x.fingerprint.toList).tail := by
    have hfingerprint := x.dot_not_mem_fingerprint
    cases xs with
    | nil => simpa using hfingerprint
    | cons c xs => simpa [hfingerprint] using hdot
  rw [h] at hleft
  cases ys <;> simp at hleft

section Told

variable {s t : AssetTarget} {x y : ContentHash}

/-- Two copies of one name have one stem, one extension and one fingerprint in it. -/
theorem parts_eq_of_outputName_eq
    (hs : s.extension = s.path.extension?.getD "") (ht : t.extension = t.path.extension?.getD "")
    (hsname : ∀ name, s.path.fileName? = some name → name.toList.getLast? ≠ some '.')
    (htname : ∀ name, t.path.fileName? = some name → name.toList.getLast? ≠ some '.')
    (h : s.outputName (some x) = t.outputName (some y)) :
    s.stem = t.stem ∧ s.extension = t.extension ∧ x.fingerprint = y.fingerprint := by
  have hlist := congrArg String.toList h
  rw [toList_outputName, toList_outputName] at hlist
  by_cases hse : s.extension = ""
  · rw [if_pos hse, List.append_nil] at hlist
    have hstem := dot_not_mem_tail_stem hs hsname hse
    by_cases hte : t.extension = ""
    · rw [if_pos hte, List.append_nil] at hlist
      obtain ⟨hstems, hfingerprints⟩ := append_fingerprint_inj hlist
      exact ⟨String.toList_inj.1 hstems, hse.trans hte.symm, hfingerprints⟩
    · rw [if_neg hte] at hlist
      exact absurd hlist (append_dot_ne hstem)
  · rw [if_neg hse] at hlist
    by_cases hte : t.extension = ""
    · rw [if_pos hte, List.append_nil] at hlist
      exact absurd hlist.symm (append_dot_ne (dot_not_mem_tail_stem ht htname hte))
    · rw [if_neg hte] at hlist
      obtain ⟨hfront, hextensions⟩ :=
        append_dot_inj (dot_not_mem_extension hs) (dot_not_mem_extension ht) hlist
      obtain ⟨hstems, hfingerprints⟩ := append_fingerprint_inj hfront
      exact ⟨String.toList_inj.1 hstems, String.toList_inj.1 hextensions, hfingerprints⟩

theorem fingerprint_eq_of_outputName_eq
    (hs : s.extension = s.path.extension?.getD "") (ht : t.extension = t.path.extension?.getD "")
    (hsname : ∀ name, s.path.fileName? = some name → name.toList.getLast? ≠ some '.')
    (htname : ∀ name, t.path.fileName? = some name → name.toList.getLast? ≠ some '.')
    (h : s.outputName (some x) = t.outputName (some y)) : x.fingerprint = y.fingerprint :=
  (parts_eq_of_outputName_eq hs ht hsname htname h).2.2

theorem outputName_congr (hstem : s.stem = t.stem) (hextension : s.extension = t.extension)
    (hfingerprint : x.fingerprint = y.fingerprint) :
    s.outputName (some x) = t.outputName (some y) := by
  apply String.toList_inj.1
  rw [toList_outputName, toList_outputName, hstem, hextension, hfingerprint]

/-- No file has an empty name. -/
theorem fileName?_eq_of_getD_eq {p q : Path} (h : p.fileName?.getD "" = q.fileName?.getD "") :
    p.fileName? = q.fileName? := by
  have hne {p : Path} {name : String} (hname : p.fileName? = some name) : name ≠ "" := by
    rintro rfl
    exact (Path.isName_of_fileName? hname).1 rfl
  cases hp : p.fileName? with
  | none =>
    cases hq : q.fileName? with
    | none => rfl
    | some name =>
      rw [hp, hq] at h
      exact absurd h.symm (hne hq)
  | some name =>
    cases hq : q.fileName? with
    | none =>
      rw [hp, hq] at h
      exact absurd h (hne hp)
    | some other =>
      rw [hp, hq] at h
      exact congrArg some h

end Told

/-- The name of a copy tells the stem, the extension and the fingerprint of the content, for files
whose names do not end in a dot; without a fingerprint it tells the name of the file. -/
theorem outputName_eq_iff {p q : Path} {session session' : Session} {s t : AssetTarget}
    (hs : (resolve p session).1 = .ok s) (ht : (resolve q session').1 = .ok t)
    (hp : ∀ name, p.fileName? = some name → name.toList.getLast? ≠ some '.')
    (hq : ∀ name, q.fileName? = some name → name.toList.getLast? ≠ some '.') :
    (∀ x y : ContentHash, s.outputName (some x) = t.outputName (some y) ↔
        s.stem = t.stem ∧ s.extension = t.extension ∧ x.fingerprint = y.fingerprint) ∧
      (s.outputName none = t.outputName none ↔ p.fileName? = q.fileName?) := by
  obtain ⟨m, rfl⟩ := exists_found_of_resolve hs
  obtain ⟨n, rfl⟩ := exists_found_of_resolve ht
  constructor
  · intro x y
    constructor
    · exact parts_eq_of_outputName_eq rfl rfl hp hq
    · rintro ⟨hstem, hextension, hfingerprint⟩
      exact outputName_congr hstem hextension hfingerprint
  · constructor
    · exact fileName?_eq_of_getD_eq
    · exact congrArg fun name : Option String => name.getD ""

/-- A file whose stem ends like a fingerprint, and one without the ending. -/
theorem outputName_eq_iff_dashed :
    let disk : Disk := { entries := [
      (["x"], .directory), (["x", "i-0.png"], .file "X".toUTF8),
      (["x", "i.png"], .file "YY".toUTF8)] }
    ∃ s t, (resolve ⟨"/x/i-0.png"⟩ ⟨disk, #[]⟩).1 = .ok s ∧
      (resolve ⟨"/x/i.png"⟩ ⟨disk, #[]⟩).1 = .ok t ∧
      Path.fileName? ⟨"/x/i-0.png"⟩ = some "i-0.png" ∧ Path.fileName? ⟨"/x/i.png"⟩ = some "i.png" ∧
      (∀ x y : ContentHash, s.outputName (some x) ≠ t.outputName (some y)) ∧
      s.outputName none ≠ t.outputName none := by
  intro disk
  have hs : (resolve ⟨"/x/i-0.png"⟩ ⟨disk, #[]⟩).1 = .ok ⟨⟨"/x/i-0.png"⟩, 1, "png"⟩ := by
    decide +kernel
  have ht : (resolve ⟨"/x/i.png"⟩ ⟨disk, #[]⟩).1 = .ok ⟨⟨"/x/i.png"⟩, 2, "png"⟩ := by
    decide +kernel
  have hp : Path.fileName? ⟨"/x/i-0.png"⟩ = some "i-0.png" := by decide
  have hq : Path.fileName? ⟨"/x/i.png"⟩ = some "i.png" := by decide
  have hends {p : Path} {name : String} (hp : p.fileName? = some name)
      (hname : name.toList.getLast? ≠ some '.') :
      ∀ name, p.fileName? = some name → name.toList.getLast? ≠ some '.' := by
    intro other hother
    rwa [← Option.some.inj (hp.symm.trans hother)]
  obtain ⟨hhashed, hplain⟩ :=
    outputName_eq_iff hs ht (hends hp (by decide)) (hends hq (by decide))
  refine ⟨_, _, hs, ht, hp, hq, fun x y h => ?_, fun h => ?_⟩
  · exact absurd ((hhashed x y).1 h).1 (by decide +kernel)
  · exact absurd (hplain.1 h) (by decide +kernel)

end AssetTarget

end StylesheetAssets
