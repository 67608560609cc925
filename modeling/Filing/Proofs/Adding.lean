import Filing.Proofs.Calling
import Filing.Proofs.Composing
import Filing.Proofs.Integrity

/-!
# A copy only adds

Nothing is reserved between asking for a free identifier and saving something under it, and saving
replaces whatever is there. Still, where nobody is asked, every call of a copy leaves what is stored
as it is or puts something under an identifier that nobody used (`Additions`). That holds at every
call, whichever calls fail: a call that fails adds nothing, so a copy that is cut short at any point
is one in which every later call fails.
-/
namespace Filing

open Scenario (Method)

variable {τ : Type}

/-- Calls of the method leave the store as it is. -/
def Scenario.Method.looks : Method → Bool
  | .save | .delete | .rename => false
  | _ => true

/-- What a call that was logged may have done to the contents. -/
inductive Entry.Adds (c : Contents) : Entry → Prop
  | idle {method failed} (idle : method.looks = true ∨ failed = true) : Adds c ⟨method, failed, c⟩
  | created {entity : Entity} (unused : c.has entity.id = false) :
      Adds c ⟨.save, false, c.insert entity⟩

/-- The entries lead from some contents to others, and each of them has at most added something. -/
inductive Additions : Contents → List Entry → Contents → Prop
  | none (c) : Additions c [] c
  | next {c c' entry later} (adds : entry.Adds c) (rest : Additions entry.contents later c') :
      Additions c (entry :: later) c'

theorem Entry.Adds.find? {c : Contents} {entry : Entry} (adds : entry.Adds c) {id : EntityId}
    {entity : Entity} (stored : c.find? id = some entity) :
    entry.contents.find? id = some entity := by
  cases adds with
  | idle _ => exact stored
  | created unused => exact Contents.find?_insert_of_unused unused stored

namespace Additions

variable {c c' c'' : Contents} {entries later : List Entry}

theorem single {entry : Entry} (adds : entry.Adds c) : Additions c [entry] entry.contents :=
  .next adds (.none _)

theorem append (first : Additions c entries c') (second : Additions c' later c'') :
    Additions c (entries ++ later) c'' := by
  induction first with
  | none _ => exact second
  | next adds _ ih => exact .next adds (ih second)

/-- What was stored stays as it is, at every call and to the end. -/
theorem keeps (additions : Additions c entries c') {id : EntityId} {entity : Entity}
    (stored : c.find? id = some entity) :
    c'.find? id = some entity ∧ ∀ entry ∈ entries, entry.contents.find? id = some entity := by
  induction additions with
  | none _ => exact ⟨stored, by simp⟩
  | next adds _ ih =>
    have here := adds.find? stored
    obtain ⟨there, between⟩ := ih here
    exact ⟨there, List.forall_mem_cons.mpr ⟨here, between⟩⟩

end Additions

/-- What is logged from one cabinet to the other are additions. -/
def Cabinet.Adds (before after : Cabinet τ) : Prop :=
  ∃ entries, after.log = before.log ++ entries ∧
    Additions before.store.contents entries after.store.contents

/-- As long as nobody is asked, what is logged from one desk to the other are additions. -/
def Desk.Adds (before after : Desk (Cabinet τ)) : Prop :=
  before.interactive = false → after.interactive = false ∧ before.world.Adds after.world

namespace Cabinet

namespace Adds

variable {first second third : Cabinet τ}

theorem of_same (store : second.store = first.store) (log : second.log = first.log) :
    first.Adds second := ⟨[], by simp [log], by rw [store]; exact .none _⟩

theorem refl (cabinet : Cabinet τ) : cabinet.Adds cabinet := of_same rfl rfl

theorem trans (adds : first.Adds second) (adds' : second.Adds third) : first.Adds third := by
  obtain ⟨entries, log, additions⟩ := adds
  obtain ⟨later, log', additions'⟩ := adds'
  exact ⟨entries ++ later, by rw [log', log, List.append_assoc], additions.append additions'⟩

end Adds

theorem link_adds : Link (Adds : Cabinet τ → Cabinet τ → Prop) := ⟨.refl, .trans⟩

end Cabinet

namespace Desk

theorem link_adds : Link (Adds : Desk (Cabinet τ) → Desk (Cabinet τ) → Prop) where
  refl desk quiet := ⟨quiet, .refl desk.world⟩
  trans first second quiet := by
    obtain ⟨between, adds⟩ := first quiet
    obtain ⟨after, adds'⟩ := second between
    exact ⟨after, adds.trans adds'⟩
  failing desk _ quiet := ⟨quiet, .refl desk.world⟩
  leftOff desk quiet := ⟨quiet, .refl desk.world⟩

theorem jobLink_adds (setup : Setup τ) :
    JobLink setup (Adds : Desk (Cabinet τ) → Desk (Cabinet τ) → Prop) where
  toLink := link_adds
  turned _ quiet := ⟨quiet, .of_same rfl rfl⟩

end Desk

/-! ## Calls -/

namespace Cabinet.Adds

variable {faults : Faults τ} {α : Type}

/-- One call is one entry: that of a failed call, or what the memory store did. -/
theorem attempt {cabinet : Cabinet τ} {method : Method} {id : EntityId} {c : Call MemoryStore α}
    (adds : Entry.Adds cabinet.store.contents
      ⟨method, !(c.run cabinet.store).1.isOk, (c.run cabinet.store).2.contents⟩) :
    cabinet.Adds ((Cabinet.attempt faults method id c).run cabinet).2 := by
  change cabinet.Adds (Cabinet.attempt faults method id c cabinet).2
  unfold Cabinet.attempt
  split
  next error around _ => exact ⟨_, rfl, .single (.idle (.inr rfl))⟩
  next around _ => exact ⟨_, rfl, .single adds⟩

theorem look {method : Method} {id : EntityId} {view : MemoryStore → α}
    (looks : method.looks = true) (cabinet : Cabinet τ) :
    cabinet.Adds ((Cabinet.attempt faults method id (Call.read view)).run cabinet).2 :=
  attempt (.idle (.inl looks))

theorem save {cabinet : Cabinet τ} {entity : Entity} (unused : cabinet.store.has entity.id = false) :
    cabinet.Adds (((Cabinet.asStore faults).save entity).run cabinet).2 :=
  attempt (.created unused)

end Cabinet.Adds

/-! ## Actions -/

namespace Action

variable {setup : Setup τ} {α : Type}

open Desk (Adds link_adds jobLink_adds)

theorem adds_call {c : Call (Cabinet τ) α} {desk : Desk (Cabinet τ)}
    (adds : desk.world.Adds (c.run desk.world).2) :
    (call c).Meets desk fun _ after => desk.Adds after := by
  refine (meets_call c desk).mono ?_
  rintro _ _ rfl quiet
  exact ⟨quiet, adds⟩

theorem composes_adds (setup : Setup τ) : ComposesLooks setup.host (Links Adds) where
  pure := .pure link_adds
  throw _ desk := .throw (link_adds.refl desk)
  tooDeep _ := .tooDeep
  bind := .bind link_adds
  folder _ _ := adds_call (.look rfl _)
  file _ _ := adds_call (.look rfl _)
  canEdit _ _ := adds_call (.look rfl _)
  canDelete _ _ := adds_call (.look rfl _)

theorem adds_count (change : Tally → Tally) :
    Links Adds (count change : Action (Cabinet τ) Unit) :=
  fun desk => .modify fun quiet => ⟨quiet, .refl desk.world⟩

/-- What is saved under a free identifier finds it free: whether it may be used is all that is asked
in between. -/
theorem adds_create {drive desired : String} {entity : EntityId → Entity}
    (named : ∀ id, (entity id).id = id) {next : EntityId → PUnit → Action (Cabinet τ) α}
    (rest : ∀ id, Links Adds (next id ⟨⟩)) :
    Links Adds (call (setup.host.uniquifier drive desired) >>= fun id =>
      require setup.host .edit id >>= fun _ =>
        call (setup.host.store.save (entity id)) >>= next id) := by
  intro desk
  have given := (looks_uniquifier setup _ drive desired desk rfl).and
    (adds_call (Call.Leads.uniquifier Cabinet.link_adds (fun _ => .look rfl) drive desired desk.world))
  refine given.bind ?_ fun _ _ ended => ended.2
  rintro id named' ⟨⟨_, glanced, told⟩, adds⟩
  have free : desk.world.store.freeId setup.suffixing drive desired = .ok id := by simpa using told
  have unused : named'.world.store.has id = false :=
    glanced.store ▸ MemoryStore.unused_of_freeId free
  have permitted := (looks_require setup _ .edit id named' rfl).and
    ((composes_adds setup).require .edit id named')
  refine permitted.bind ?_ fun _ _ ended => link_adds.trans adds ended.2
  rintro ⟨⟩ asked ⟨⟨_, glanced', _⟩, adds'⟩
  -- The search found the identifier free, and looking at permissions has not changed that.
  have unused : asked.world.store.has (entity id).id = false := by
    rw [named, glanced'.store]
    exact unused
  have adds := link_adds.trans adds adds'
  refine (adds_call (.save unused)).bind ?_ fun _ _ saved => link_adds.trans adds saved
  rintro ⟨⟩ after saved
  exact (rest id after).mono fun _ _ later => link_adds.trans (link_adds.trans adds saved) later

/-- Where nobody is asked, no file takes the place of another one. -/
theorem adds_makeRoom (file : File) (destination : Listing) (parent : EntityId)
    (except : Option EntityId) :
    Links Adds (makeRoom setup.host file destination parent except) := by
  have composes := composes_adds setup
  refine composes.bind (composes.childFileNamed destination file.name except) fun clash => ?_
  split
  · exact composes.pure true
  next existing =>
    intro desk
    refine (composes.require _ existing.id desk).bind ?_ fun _ _ adds => adds
    rintro ⟨⟩ asked adds
    refine (meets_decideCollision file.id existing.id).bind ?_ (by rintro _ _ ⟨_, ⟨⟩, _⟩)
    rintro verdict decided ⟨_, ⟨⟩, decides⟩
    -- Of the four ways to decide, the others need someone to ask.
    cases decides with
    | quiet _ => exact .pure adds
    | remembered asks _ => exact fun _ _ _ quiet => by simp [(adds quiet).1] at asks
    | unanswered asks _ _ => exact fun _ _ _ quiet => by simp [(adds quiet).1] at asks
    | answered asks _ _ => exact fun _ _ _ quiet => by simp [(adds quiet).1] at asks

theorem adds_createFile (source : File) (drive desired name : String) (parent : Option EntityId) :
    Links Adds (createFile setup.host source drive desired name parent) :=
  adds_create (fun _ => rfl) fun _ => adds_count _

theorem composesCopies_adds (setup : Setup τ) :
    ComposesCopies setup.host (Links Adds) (Links Adds) where
  toComposes := (composes_adds setup).toComposes
  lift adds := adds
  before := .bind link_adds
  merged := adds_count _
  createFolder _ _ _ _ :=
    adds_create (fun _ => rfl) fun id => .bind link_adds (adds_count _) fun _ => .pure link_adds id
  copyFile := (composes_adds setup).copyFile (fun _ _ _ => adds_makeRoom _ _ _ _) adds_createFile
  copyFileAs := (composes_adds setup).copyFileAs adds_createFile
  copyChildren folders :=
    have job := jobLink_adds setup
    have files := (composes_adds setup).copyFile (fun _ _ _ => adds_makeRoom _ _ _ _) adds_createFile
    .inLevel job (.bind link_adds (.forM link_adds fun child _ => .item job (folders child)) fun _ =>
      .forM link_adds fun child _ => .item job (files child _))

end Action

namespace Request

open Filing.Action
open Desk (Adds jobLink_adds)

variable {setup : Setup τ}

/-- Whatever is permitted or cancelled and whichever calls fail, a copy that asks nobody leaves what
is stored as it is, at every call, and puts everything new where nothing was. -/
theorem copy_adds {request : Request} {depth : Nat} {cabinet after : Cabinet τ}
    {result : Except RequestError Report} (quiet : request.interactive = false)
    (ran : request.copy setup.host depth cabinet = some (result, after)) :
    ∃ entries, after.log = cabinet.log ++ entries ∧
      Additions cabinet.store.contents entries after.store.contents ∧
      ∀ id entity, cabinet.store.contents.find? id = some entity →
        after.store.contents.find? id = some entity ∧
          ∀ entry ∈ entries, entry.contents.find? id = some entity := by
  have adds : cabinet.Adds after := by
    have sorted : cabinet.Adds ((request.classify setup.host).run cabinet).2 :=
      Call.Leads.classify Cabinet.link_adds (fun _ => .look rfl) request cabinet
    rcases work_of_classified ran with ⟨_, told, _⟩ | ⟨mode, begun, _, desk, told, worked, _, rfl⟩
    · rwa [told] at sorted
    · rw [told] at sorted
      have job := jobLink_adds setup
      have links : Links Adds (workAll setup.host depth .copy mode request) :=
        .inLevel job (.workOff job fun path _ =>
          (composesCopies_adds setup).workOn depth mode request.destination path)
      exact sorted.trans (links _ _ _ worked quiet).2
  obtain ⟨entries, log, additions⟩ := adds
  exact ⟨entries, log, additions, fun _ _ stored => additions.keeps stored⟩

end Request

namespace Sample

def leaflet : EntityId := ⟨drive, ⟨"leaflet", by decide⟩⟩

def second : EntityId := ⟨drive, ⟨"note-1", by decide⟩⟩

/-- Two folders beside each other, and a file in one of them. -/
def inbox : MemoryStore :=
  apart.save (.file ⟨leaflet, "leaflet", [1], .ofList [note]⟩)

/-- A store that takes one more entity. The surroundings count what was to be saved. -/
def crowded : Setup Nat where
  faults method _ saved :=
    if method = .save then (if saved = 0 then none else some (.backend "full"), saved + 1)
    else (none, saved)
  suffixing := .standard
  job :=
    { push := fun _ => pure ()
      step := pure ()
      pop := pure ()
      ask := fun _ => pure none
      isCancelled := pure false }

end Sample

open Sample in
theorem Request.copy_adds_inbox : ∃ result after entries,
    (taking note (.ofFolder docs)).copy crowded.host 3 ⟨inbox, 0, []⟩ = some (result, after) ∧
    after.store.contents.folder? second = some ⟨second, "note", some docs⟩ ∧
    after.log = entries ∧ (∃ entry ∈ entries, entry.method = .save ∧ entry.failed = true) ∧
    Additions inbox.contents entries after.store.contents ∧
    after.store.contents.folder? note = some ⟨note, "note", none⟩ := by
  have went : (((taking note (.ofFolder docs)).copy crowded.host 3 ⟨inbox, 0, []⟩).map fun outcome =>
      (outcome.2.store.contents.folder? second,
        outcome.2.log.any fun entry => entry.method = .save ∧ entry.failed)) =
      some (some ⟨second, "note", some docs⟩, true) := by decide +kernel
  obtain ⟨⟨result, after⟩, ran, found⟩ := Option.map_eq_some_iff.mp went
  obtain ⟨copied, failed⟩ := Prod.mk.inj found
  obtain ⟨entries, log, additions, kept⟩ := copy_adds rfl ran
  have log : after.log = entries := log
  obtain ⟨original, _⟩ := kept note (.folder ⟨note, "note", none⟩) (by decide)
  refine ⟨result, after, entries, ran, copied, log, ?_, additions, ?_⟩
  · simpa [log] using failed
  · exact Contents.folder?_eq_some_iff.mpr original

end Filing
