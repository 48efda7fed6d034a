import StylesheetAssets.Proofs.Disk.Confinement
import StylesheetAssets.Proofs.Disk.Apart
import StylesheetAssets.Session

/-!
A session against a later one, by the events that were noted in between: they stand in the journal
behind the earlier ones, and no file has changed but where one of them writes.
-/
namespace StylesheetAssets

theorem Event.output_or_destination {e : Event} {p : Path} (h : p ∈ e.written?) :
    p ∈ e.output? ∨ p ∈ e.destination? := by
  cases e <;> simp_all [written?, output?, destination?]

/-- A later session, with the events since. -/
structure Session.Records (s s' : Session) (events : List Event) : Prop where
  journal : s'.journal.toList = s.journal.toList ++ events
  later : s.disk.Later s'.disk
  filed : ∀ {l : Location} {bytes : ByteArray},
    (∀ e ∈ events, ∀ p ∈ e.written?, s.disk.placeOf p ≠ l) →
    (s'.disk.get? l = some (.file bytes) ↔ s.disk.get? l = some (.file bytes))

namespace Session.Records

variable {s s' s'' : Session} {events more : List Event}

theorem refl (s : Session) : s.Records s [] := ⟨(List.append_nil _).symm, .refl _, fun _ => .rfl⟩

theorem trans (h : s.Records s' events) (h' : s'.Records s'' more) :
    s.Records s'' (events ++ more) := by
  refine ⟨?_, h.later.trans h'.later, fun hl => ?_⟩
  · rw [h'.journal, h.journal, List.append_assoc]
  · obtain ⟨hevents, hmore⟩ := List.forall_mem_append.1 hl
    refine (h'.filed fun e he p hp => ?_).trans (h.filed hevents)
    rw [Disk.placeOf_congr h.later.workDir]
    exact hmore e he p hp

/-- The events between two sessions are what the journal of the one has more. -/
theorem unique (h : s.Records s' events) (h' : s.Records s' more) : events = more :=
  List.append_cancel_left (h.journal.symm.trans h'.journal)

theorem note (s : Session) (e : Event) : s.Records ⟨s.disk, s.journal.push e⟩ [e] :=
  ⟨Array.toList_push, .refl _, fun _ => .rfl⟩

/-- What was there in a place that no event leads to is there still. -/
theorem kept (h : s.Records s' events) {l : Location} {bytes : ByteArray}
    (hfile : s.disk.get? l = some (.file bytes))
    (hl : ∀ e ∈ events, ∀ p ∈ e.written?, s.disk.placeOf p ≠ l) :
    s'.disk.get? l = some (.file bytes) := (h.filed hl).2 hfile

theorem createDirectories (s : Session) (p : Path) :
    s.Records (Session.createDirectories p s).2 [.createdDirectories p] := by
  have hextends := Disk.extends_createDirectories s.disk p
  exact ⟨Array.toList_push, .of_extends hextends, fun _ => ⟨hextends.filed, hextends.kept⟩⟩

theorem writeFile (s : Session) (p : Path) (bytes : ByteArray) :
    s.Records (Session.writeFile p bytes s).2 [.wrote p] := by
  refine ⟨Array.toList_push, Disk.later_writeFile s.disk p bytes, fun {l _} hl => ?_⟩
  have hne : s.disk.placeOf p ≠ l := hl _ (List.mem_singleton_self _) p rfl
  have hkept : (Session.writeFile p bytes s).2.disk.get? l = s.disk.get? l :=
    Disk.get?_writeFile bytes hne.symm
  rw [hkept]

theorem copyFile (s : Session) (source destination : Path) :
    s.Records (Session.copyFile source destination s).2 [.copied source destination] := by
  refine ⟨Array.toList_push, Disk.later_copyFile s.disk source destination, fun {l _} hl => ?_⟩
  have hne : s.disk.placeOf destination ≠ l := hl _ (List.mem_singleton_self _) destination rfl
  have hkept : (Session.copyFile source destination s).2.disk.get? l = s.disk.get? l :=
    Disk.get?_copyFile source hne.symm
  rw [hkept]

end Session.Records

end StylesheetAssets
