import StylesheetAssets.Proofs.Disk.Amid
import StylesheetAssets.Proofs.Parallel.Running
import StylesheetAssets.Proofs.Parallel.Sheets

/-!
What a crew does to the disk and to the registry, as long as no request fails.
-/
namespace StylesheetAssets.Parallel

open Program

variable {α : Type} {config : Config}

namespace Deed

/-- What is asked of the disk, where that is not refused. -/
def act? : Deed → Option Act
  | asked ⟨.size p, .ok n⟩ => some (.examined p n)
  | asked ⟨.read p, .ok content⟩ => some (.read p content.1)
  | asked ⟨.createDirectories p, .ok ()⟩ => some (.made p)
  | asked ⟨.write p bytes, .ok ()⟩ => some (.wrote p bytes)
  | copied source destination outcome => some (.copied source destination outcome)
  | _ => none

def claimed? : Deed → Option CopyRequest
  | asked e => e.claimed?
  | copied .. => none

/-- A request that was answered as it is on the way to a summary. -/
def Fits (config : Config) : Deed → Prop
  | asked e => ∃ earlier, e.Fits config earlier
  | copied .. => True

/-- Among the requests only those to write change a file. -/
theorem exists_write {e : Exchange} {a : Act} {q : Path} (hact : (asked e).act? = some a)
    (hq : q ∈ a.event.written?) : ∃ bytes, e = ⟨.write q bytes, .ok ()⟩ := by
  obtain ⟨r, answer⟩ := e
  cases r with
  | write p bytes =>
    cases answer with
    | error cause => cases hact
    | ok u =>
      cases hact
      cases hq
      exact ⟨bytes, rfl⟩
  | size | read | createDirectories =>
    cases answer with
    | error cause => cases hact
    | ok u =>
      cases hact
      cases hq
  | claim | start | join => cases hact

end Deed

def actsOf (log : List (Nat × Deed)) : List Act := log.filterMap fun entry => entry.2.act?

def claimsOf (log : List (Nat × Deed)) : List CopyRequest :=
  log.filterMap fun entry => entry.2.claimed?

theorem actsOf_cons (i : Nat) (deed : Deed) (log : List (Nat × Deed)) :
    actsOf ((i, deed) :: log) = deed.act?.toList ++ actsOf log := by
  rw [actsOf, List.filterMap_cons]
  cases deed.act? <;> rfl

theorem claimsOf_cons (i : Nat) (deed : Deed) (log : List (Nat × Deed)) :
    claimsOf ((i, deed) :: log) = deed.claimed?.toList ++ claimsOf log := by
  rw [claimsOf, List.filterMap_cons]
  cases deed.claimed? <;> rfl

theorem readContent_eq_ok {d : Disk} {p : Path} {content : Content p} :
    readContent d p = .ok content ↔ d.readFile p = .ok content.1 := by
  unfold readContent
  split
  · next bytes hread =>
    constructor
    · rintro ⟨⟩
      exact hread
    · intro h
      exact congrArg Except.ok (Subtype.ext (Except.ok.inj (hread.symm.trans h)))
  · next e hread => simp [hread]

/-- What a step does to the disk, the registry and the journal. -/
structure Did (deed : Deed) (shared shared' : Shared) : Prop where
  disk : shared.session.disk.Passes deed.act?.toList shared'.session.disk
  registry : shared'.registry = shared.registry.claimAll deed.claimed?.toList
  noted : ∀ e, e ∈ shared.session.journal ∨ e ∈ deed.act?.toList.map Act.event →
    e ∈ shared'.session.journal

namespace Did

variable {shared shared' : Shared} {e : Event} {a : Act}

/-- An act is made and noted. -/
theorem of_act {deed : Deed} (hact : deed.act? = some a) (hclaimed : deed.claimed? = none)
    (htakes : a.Takes shared.session.disk shared'.session.disk)
    (hjournal : shared'.session.journal = shared.session.journal.push a.event)
    (hregistry : shared'.registry = shared.registry) : Did deed shared shared' := by
  refine ⟨?_, ?_, fun e he => ?_⟩
  · rw [hact]
    exact Disk.passes_singleton.2 htakes
  · rw [hclaimed]
    exact hregistry
  · rw [hact] at he
    rw [hjournal, Array.mem_push]
    exact he.imp_right List.mem_singleton.1

/-- The disk is left alone. -/
theorem of_quiet {deed : Deed} (hact : deed.act? = none)
    (hsession : shared'.session = shared.session)
    (hregistry : shared'.registry = shared.registry.claimAll deed.claimed?.toList) :
    Did deed shared shared' := by
  refine ⟨?_, hregistry, fun e he => ?_⟩
  · rw [hact, hsession]
    exact .nil _
  · rw [hact] at he
    rw [hsession]
    exact he.resolve_right List.not_mem_nil

end Did

theorem Request.did_of_answer? {r : Request} {answer : r.Answer}
    {transfers transfers' : List Transfer} {shared shared' : Shared} {earlier : List Exchange}
    (h : r.answer? transfers shared = some (answer, transfers', shared'))
    (hfits : Exchange.Fits config earlier ⟨r, answer⟩) :
    Did (.asked ⟨r, answer⟩) shared shared' := by
  cases r with
  | size p =>
    obtain ⟨-, n, rfl⟩ := hfits
    obtain ⟨hsize, heq⟩ := Prod.mk.inj (Option.some.inj h)
    cases heq
    exact .of_act rfl rfl ⟨hsize, rfl⟩ rfl rfl
  | read p =>
    obtain ⟨-, content, rfl⟩ := hfits
    obtain ⟨hread, heq⟩ := Prod.mk.inj (Option.some.inj h)
    cases heq
    exact .of_act rfl rfl ⟨readContent_eq_ok.1 hread, rfl⟩ rfl rfl
  | write p bytes =>
    obtain rfl : answer = .ok () := hfits
    obtain ⟨hwrite, heq⟩ := Prod.mk.inj (Option.some.inj h)
    cases heq
    exact .of_act rfl rfl (Prod.ext hwrite rfl) rfl rfl
  | createDirectories p =>
    obtain ⟨-, rfl⟩ := hfits
    obtain ⟨hmade, heq⟩ := Prod.mk.inj (Option.some.inj h)
    cases heq
    exact .of_act rfl rfl (Prod.ext hmade rfl) rfl rfl
  | claim source destination =>
    cases h
    exact .of_quiet rfl rfl rfl
  | start source destination =>
    cases h
    exact .of_quiet rfl rfl rfl
  | join copy =>
    obtain ⟨outcome, -, heq⟩ := Option.map_eq_some_iff.1 h
    cases heq
    exact .of_quiet rfl rfl rfl

theorem Worker.did_of_step? {w w' : Worker α} {shared shared' : Shared} {move : Move} {deed : Deed}
    (h : w.step? shared move = some (deed, w', shared')) (hfits : deed.Fits config) :
    Did deed shared shared' := by
  rcases step?_cases h with ⟨r, next, answer, transfers, -, hanswer, rfl, rfl⟩ |
    ⟨ticket, source, destination, outcome, -, hcopy, hregistry, rfl, rfl⟩
  · obtain ⟨earlier, hfits⟩ := hfits
    exact Request.did_of_answer? hanswer hfits
  · obtain ⟨hcopied, hsession⟩ := Prod.mk.inj hcopy
    refine .of_act rfl rfl (Prod.ext hcopied ?_) ?_ hregistry
    · rw [← hsession]
      rfl
    · rw [← hsession]
      rfl

namespace Crew

variable {c : Crew α} {schedule : List Turn}

/-- What a crew does to the disk is a run of acts, as long as no request fails. -/
theorem did_run (c : Crew α) (hfits : ∀ i deed, (i, deed) ∈ c.log schedule → deed.Fits config) :
    c.shared.session.disk.Passes (actsOf (c.log schedule)) (c.run schedule).shared.session.disk ∧
      (c.run schedule).shared.registry = c.shared.registry.claimAll (claimsOf (c.log schedule)) ∧
      ∀ e, e ∈ c.shared.session.journal ∨ e ∈ (actsOf (c.log schedule)).map Act.event →
        e ∈ (c.run schedule).shared.session.journal := by
  induction schedule generalizing c with
  | nil => exact ⟨.nil _, rfl, fun e he => he.resolve_right List.not_mem_nil⟩
  | cons turn schedule ih =>
    rw [log] at hfits ⊢
    rcases c.step_cases turn with ⟨hidle, hnone⟩ | ⟨deed, w, w', shared, -, hstep, hdeed, hnext⟩
    · rw [hnone, hidle] at hfits ⊢
      have hrun : c.run (turn :: schedule) = c.run schedule := congrArg (run · schedule) hidle
      rw [hrun]
      exact ih c hfits
    · rw [hdeed] at hfits ⊢
      have hdid := Worker.did_of_step? hstep
        (hfits _ _ (List.mem_append_left _ (List.mem_singleton_self _)))
      obtain ⟨hpasses, hregistry, hnoted⟩ := ih (c.step turn)
        fun i d hd => hfits i d (List.mem_append_right _ hd)
      rw [hnext] at hpasses hregistry hnoted ⊢
      have hrun : c.run (turn :: schedule) =
          run ⟨shared, c.workers.set turn.worker w'⟩ schedule := by
        rw [← hnext]
        rfl
      rw [hrun, Option.toList_some, List.singleton_append, actsOf_cons, claimsOf_cons]
      refine ⟨Disk.passes_append.2 ⟨_, hdid.disk, hpasses⟩, ?_, fun e he => hnoted e ?_⟩
      · rw [hregistry, hdid.registry]
        exact (List.foldl_append ..).symm
      · rw [List.map_append, List.mem_append, ← or_assoc] at he
        exact he.imp_left (hdid.noted e)

end Crew

end StylesheetAssets.Parallel
