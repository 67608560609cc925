import Filing.Proofs.Renaming

/-!
# What is put together from what

Permissions, the way up from a folder, folders by name: all of that is put together from single looks
at the store, with nothing else in between. So a property of actions that such looks have, and that
goes from parts to the whole, is a property of all of it (`Action.Composes`), whatever the store. If
looks at files have it (`Action.ComposesLooks`) and single changes (`Action.ComposesChanges`), it is
one of renaming, too (`Action.ComposesRenames`), and of all that is done with files if it is one of
deciding collisions (`Action.ComposesCollisions`). Some properties changes have only together with
their count (`Action.ComposesPuts`). Moves and copies of folders have it if those of files and levels
of children do (`Action.ComposesMoves`, `Action.ComposesCopies`), and all work on requests has it if
items and levels do (`Action.ComposesWork`).
-/
namespace Filing

/-- The counts of two reports together. -/
def Tally.add (first second : Tally) : Tally where
  foldersMoved := first.foldersMoved + second.foldersMoved
  foldersMerged := first.foldersMerged + second.foldersMerged
  filesMoved := first.filesMoved + second.filesMoved
  filesOverwritten := first.filesOverwritten + second.filesOverwritten
  itemsRenamed := first.itemsRenamed + second.itemsRenamed
  foldersCopied := first.foldersCopied + second.foldersCopied
  filesCopied := first.filesCopied + second.filesCopied
  foldersDeleted := first.foldersDeleted + second.foldersDeleted
  filesDeleted := first.filesDeleted + second.filesDeleted
  filesDetached := first.filesDetached + second.filesDetached

instance : Add Tally := ⟨Tally.add⟩

namespace Tally

@[simp] theorem filesOverwritten_add (first second : Tally) :
    (first + second).filesOverwritten = first.filesOverwritten + second.filesOverwritten := rfl

@[simp] theorem total_add (first second : Tally) :
    (first + second).total = first.total + second.total := by
  change (first.add second).total = _
  simp only [total, add]
  omega

end Tally

end Filing

namespace Filing.Action

variable {σ ι : Type} {host : Host σ} {P : {α : Type} → Action σ α → Prop}

/-- The looks have the property, and what is put together from parts that have it has it too. -/
structure Composes (host : Host σ) (P : {α : Type} → Action σ α → Prop) : Prop where
  pure : ∀ {α : Type} (a : α), P (pure a : Action σ α)
  throw : ∀ {α : Type} (error : RequestError), P (throw error : Action σ α)
  tooDeep : ∀ {α : Type}, P (tooDeep : Action σ α)
  bind : ∀ {α β : Type} {action : Action σ α} {next : α → Action σ β}, P action →
    (∀ a, P (next a)) → P (action >>= next)
  folder : ∀ id, P (call (host.store.folder id))
  canEdit : ∀ id, P (call (host.store.canEdit id))
  canDelete : ∀ id, P (call (host.store.canDelete id))

namespace Composes

theorem forM (composes : Composes host P) {items : List ι} {work : ι → Action σ Unit}
    (each : ∀ item, P (work item)) : P (items.forM work) := by
  induction items with
  | nil => exact composes.pure ()
  | cons item later ih => exact composes.bind (each item) fun _ => ih

theorem require (composes : Composes host P) (permission : Permission) (id : EntityId) :
    P (Action.require host permission id) := by
  have decided (allowed : Bool) : P (do
      unless allowed do MonadExcept.throw (.permissionDenied permission id) : Action σ Unit) := by
    split
    · exact composes.pure ()
    · exact composes.throw _
  cases permission with
  | edit => exact composes.bind (composes.canEdit id) decided
  | delete => exact composes.bind (composes.canDelete id) decided

theorem climbs (composes : Composes host P) (ancestor : EntityId) (seen : List EntityId)
    (current : EntityId) (depth : Nat) : P (Action.climbs host ancestor seen current depth) := by
  induction depth generalizing seen current with
  | zero => exact composes.tooDeep
  | succ depth ih =>
    unfold Action.climbs
    split
    · exact composes.pure true
    split
    · exact composes.pure false
    refine composes.bind (composes.folder current) fun found => ?_
    split
    · exact ih (current :: seen) _
    · exact composes.pure false

theorem isDescendantOrSelf (composes : Composes host P) (depth : Nat)
    (candidate ancestor : EntityId) :
    P (Action.isDescendantOrSelf host depth candidate ancestor) :=
  composes.climbs ancestor [] candidate depth

theorem folderNamed (composes : Composes host P) (name : String) (ids : List EntityId) :
    P (Action.folderNamed host name ids) := by
  induction ids with
  | nil => exact composes.pure none
  | cons id later ih =>
    refine composes.bind (composes.folder id) fun found => ?_
    split
    · split
      · exact composes.pure _
      · exact ih
    · exact ih

theorem childFolderNamed (composes : Composes host P) (parent : Listing) (name : String)
    (except : Option EntityId) : P (Action.childFolderNamed host parent name except) :=
  composes.folderNamed name _

/-- The place for an item, if it has one, is a folder that is checked. -/
theorem place (composes : Composes host P) (place : Option EntityId)
    {check : EntityId → Listing → Action σ Unit} (checks : ∀ parent listing, P (check parent listing)) :
    P (place.forM fun parent => requireFolder host parent (check parent)) := by
  cases place with
  | none => exact composes.pure ()
  | some parent =>
    refine composes.bind (composes.folder parent) fun found => ?_
    split
    · exact composes.throw _
    · exact checks parent _

/-- A folder's place is not inside it, and nothing there has its name. -/
theorem checkPlace (composes : Composes host P) (depth : Nat) (id parent : EntityId)
    (destination : Listing) (name : String) (except : Option EntityId) :
    P (do
      if ← Action.isDescendantOrSelf host depth parent id then MonadExcept.throw (.cycle id)
      if (← Action.childFolderNamed host destination name except).isSome then
        MonadExcept.throw (.nameCollision name parent) : Action σ Unit) := by
  refine composes.bind (composes.isDescendantOrSelf depth parent id) fun below => ?_
  split
  · exact composes.throw _
  · refine composes.bind (composes.childFolderNamed destination name except) fun clash => ?_
    split
    · exact composes.throw _
    · exact composes.pure ()

end Composes

/-- Looks at files have the property, too. -/
structure ComposesLooks (host : Host σ) (P : {α : Type} → Action σ α → Prop) : Prop
    extends Composes host P where
  file : ∀ id, P (call (host.store.file id))

namespace ComposesLooks

theorem fileNamed (composes : ComposesLooks host P) (name : String) (ids : List EntityId) :
    P (Action.fileNamed host name ids) := by
  induction ids with
  | nil => exact composes.pure none
  | cons id later ih =>
    refine composes.bind (composes.file id) fun found => ?_
    split
    · split
      · exact composes.pure _
      · exact ih
    · exact ih

theorem childFileNamed (composes : ComposesLooks host P) (parent : Listing) (name : String)
    (except : Option EntityId) : P (Action.childFileNamed host parent name except) :=
  composes.fileNamed name _

theorem requireFreeName (composes : ComposesLooks host P) (id : EntityId) (name : String)
    (parents : List EntityId) : P (Action.requireFreeName host id name parents) := by
  refine composes.forM fun parent => composes.bind (composes.folder parent) fun found => ?_
  split
  · exact composes.pure ()
  · refine composes.bind (composes.childFileNamed _ name (some id)) fun clash => ?_
    split
    · exact composes.throw _
    · exact composes.pure ()

theorem makeRoom (composes : ComposesLooks host P)
    (overwrite : ∀ file existing parent, P (Action.overwrite host file existing parent)) (file : File)
    (destination : Listing) (parent : EntityId) (except : Option EntityId) :
    P (Action.makeRoom host file destination parent except) := by
  refine composes.bind (composes.childFileNamed destination file.name except) fun clash => ?_
  split
  · exact composes.pure true
  · exact overwrite file _ parent

theorem moveFile (composes : ComposesLooks host P)
    (overwrite : ∀ file existing parent, P (Action.overwrite host file existing parent))
    (relist : ∀ file source target, P (Action.relist host file source target)) (id : EntityId)
    (source : Option EntityId) (target : EntityId) : P (Action.moveFile host id source target) := by
  refine composes.bind (composes.file id) fun found => ?_
  split
  · exact composes.pure ()
  split
  · exact composes.pure ()
  refine composes.bind (composes.require .edit id) fun _ => ?_
  refine composes.bind (composes.folder target) fun found => ?_
  split
  · exact composes.throw _
  refine composes.bind (composes.makeRoom overwrite _ _ target (some id)) fun free => ?_
  split
  · exact relist _ source target
  · exact composes.pure ()

theorem copyFile (composes : ComposesLooks host P)
    (makeRoom : ∀ file destination parent, P (Action.makeRoom host file destination parent none))
    (createFile : ∀ source drive desired name parent,
      P (Action.createFile host source drive desired name parent)) (id target : EntityId) :
    P (Action.copyFile host id target) := by
  refine composes.bind (composes.file id) fun found => ?_
  split
  · exact composes.pure ()
  split
  · exact composes.pure ()
  refine composes.bind (composes.folder target) fun found => ?_
  split
  · exact composes.throw _
  refine composes.bind (makeRoom _ _ target) fun free => ?_
  split
  · exact createFile _ _ _ _ _
  · exact composes.pure ()

theorem copyFileAs (composes : ComposesLooks host P)
    (createFile : ∀ source drive desired name parent,
      P (Action.createFile host source drive desired name parent)) (id : EntityId)
    (source target : Option EntityId) (desired : EntityId) :
    P (Action.copyFileAs host id source target desired) := by
  refine composes.bind (composes.file id) fun found => ?_
  split
  · exact composes.pure ()
  refine composes.bind (composes.place (target <|> source) fun parent destination => ?_) fun _ => ?_
  · refine composes.bind (composes.childFileNamed destination desired.name.text none) fun clash => ?_
    split
    · exact composes.throw _
    · exact composes.pure ()
  · exact createFile _ _ _ _ _

end ComposesLooks

/-! ## Changes -/

/-- Saving something has the property together with a count that comes of it, unless that is a
collision. -/
structure ComposesPuts (host : Host σ) (P : {α : Type} → Action σ α → Prop) : Prop
    extends Composes host P where
  uniquifier : ∀ drive desired, P (call (host.uniquifier drive desired))
  put : ∀ entity (added : Tally), added.filesOverwritten = 0 → 0 < added.total → P (do
    call (host.store.save entity)
    count (· + added) : Action σ Unit)

namespace ComposesPuts

theorem relist (composes : ComposesPuts host P) (file : File) (source : Option EntityId)
    (target : EntityId) : P (Action.relist host file source target) := by
  unfold Action.relist
  dsimp only
  split
  · exact composes.put _ { filesMoved := 1 } rfl (by decide)
  · exact composes.pure ()

theorem createFolder (composes : ComposesPuts host P) (drive desired name : String)
    (parent : Option EntityId) : P (Action.createFolder host drive desired name parent) := by
  refine composes.bind (composes.uniquifier drive desired) fun id => ?_
  refine composes.bind (composes.require .edit id) fun _ => ?_
  have puts := composes.put (.folder { id, name, parent }) { foldersCopied := 1 } rfl (by decide)
  have returns := composes.bind puts fun _ => composes.pure id
  rwa [bind_assoc] at returns

theorem createFile (composes : ComposesPuts host P) (source : File)
    (drive desired name : String) (parent : Option EntityId) :
    P (Action.createFile host source drive desired name parent) := by
  refine composes.bind (composes.uniquifier drive desired) fun id => ?_
  refine composes.bind (composes.require .edit id) fun _ => ?_
  exact composes.put _ { filesCopied := 1 } rfl (by decide)

end ComposesPuts

/-- Single changes of the store have the property, and so do counts of anything but collisions. -/
structure ComposesChanges (host : Host σ) (P : {α : Type} → Action σ α → Prop) : Prop
    extends Composes host P where
  save : ∀ entity, P (call (host.store.save entity))
  delete : ∀ id, P (call (host.store.delete id))
  rename : ∀ source target, P (call (host.store.rename source target))
  uniquifier : ∀ drive desired, P (call (host.uniquifier drive desired))
  count : ∀ added : Tally, added.filesOverwritten = 0 → P (count (· + added) : Action σ Unit)

namespace ComposesChanges

theorem puts (composes : ComposesChanges host P) : ComposesPuts host P where
  toComposes := composes.toComposes
  uniquifier := composes.uniquifier
  put _ added none _ := composes.bind (composes.save _) fun _ => composes.count added none

theorem detachOrDelete (composes : ComposesChanges host P) (file : File) (parent : EntityId) :
    P (Action.detachOrDelete host file parent) := by
  unfold Action.detachOrDelete
  split
  · exact composes.bind (composes.save _) fun _ => composes.pure false
  · exact composes.bind (composes.delete _) fun _ => composes.pure true

theorem removeIfEmpty (composes : ComposesChanges host P) (id : EntityId) :
    P (Action.removeIfEmpty host id) := by
  refine composes.bind (composes.folder id) fun found => ?_
  split
  · exact composes.pure false
  split
  · refine composes.bind (composes.require .delete id) fun _ => ?_
    exact composes.bind (composes.delete id) fun _ => composes.pure true
  · exact composes.pure false

theorem deleteEmptied (composes : ComposesChanges host P) (id : EntityId) :
    P (Action.deleteEmptied host id) := by
  refine composes.bind (composes.removeIfEmpty id) fun removed => ?_
  split
  · exact composes.count { foldersDeleted := 1 } rfl
  · exact composes.pure ()

theorem assignIdentifier (composes : ComposesChanges host P) (id desired : EntityId) :
    P (Action.assignIdentifier host id desired) := by
  refine composes.bind (composes.uniquifier _ _) fun renamed => ?_
  refine composes.bind (composes.require .edit renamed) fun _ => ?_
  exact composes.bind (composes.rename id renamed) fun _ => composes.pure renamed

end ComposesChanges

/-! ## New names -/

/-- What is left to do once an item is in its place has the property, too. -/
structure ComposesFinishes (host : Host σ) (P : {α : Type} → Action σ α → Prop) : Prop
    extends ComposesLooks host P, ComposesPuts host P where
  finishFolder : ∀ id desired old name, P (finishFolder host id desired old name)
  finishFile : ∀ id desired name, P (finishFile host id desired name)

namespace ComposesFinishes

theorem renameFolder (composes : ComposesFinishes host P) (depth : Nat) (id : EntityId)
    (target : Option EntityId) (desired : EntityId) :
    P (Action.renameFolder host depth id target desired) := by
  refine composes.bind (composes.folder id) fun found => ?_
  split
  · exact composes.pure ()
  next folder =>
    have finish := composes.finishFolder id desired folder (nameAfter id desired folder.name)
    have checks (parent : EntityId) (destination : Listing) := composes.checkPlace depth id parent
      destination (nameAfter id desired folder.name) (some id)
    refine composes.bind (composes.require .delete id) fun _ => ?_
    dsimp only
    split
    · refine composes.bind (composes.place (target <|> folder.parent) checks) fun _ => ?_
      split
      · refine composes.bind (composes.require .edit id) fun _ => ?_
        have puts := composes.put (.folder { folder.toFolder with parent := target <|> folder.parent })
          { foldersMoved := 1 } rfl (by decide)
        have goes := composes.bind puts fun _ => finish
        rwa [bind_assoc] at goes
      · exact finish
    · exact composes.pure ()

theorem renameFile (composes : ComposesFinishes host P) (id : EntityId)
    (source target : Option EntityId) (desired : EntityId) :
    P (Action.renameFile host id source target desired) := by
  refine composes.bind (composes.file id) fun found => ?_
  split
  · exact composes.pure ()
  next file =>
    have finish := composes.finishFile id desired (nameAfter id desired file.name)
    refine composes.bind (composes.require .delete id) fun _ => ?_
    refine composes.bind (composes.place _ fun _ _ => composes.require .edit id) fun _ => ?_
    cases relocation source target with
    | none =>
      dsimp only
      split
      · exact composes.bind (composes.requireFreeName _ _ _) fun _ => finish
      · exact composes.pure ()
    | some place =>
      have moves : P (if (file.reparent source place).2 then do
            call (host.store.save (.file (file.reparent source place).1))
            Action.count fun t => { t with filesMoved := t.filesMoved + 1 }
            Action.finishFile host id desired (nameAfter id desired file.name)
          else Action.finishFile host id desired (nameAfter id desired file.name)) := by
        split
        · have puts := composes.put (.file (file.reparent source place).1) { filesMoved := 1 } rfl
            (by decide)
          have goes := composes.bind puts fun _ => finish
          rwa [bind_assoc] at goes
        · exact finish
      exact composes.bind (composes.requireFreeName _ _ _) fun _ => moves

theorem renamePath (composes : ComposesFinishes host P) (depth : Nat) (target : Option EntityId)
    (desired : EntityId) (path : Path) : P (Action.renamePath host depth target desired path) := by
  obtain ⟨folder, leaf⟩ := path
  cases leaf with
  | some file => exact composes.renameFile file folder target desired
  | none => cases folder with
    | some folder => exact composes.renameFolder depth folder target desired
    | none => exact composes.pure ()

end ComposesFinishes

/-- Looks have the property, and so have changes. -/
structure ComposesRenames (host : Host σ) (P : {α : Type} → Action σ α → Prop) : Prop
    extends ComposesLooks host P, ComposesChanges host P

namespace ComposesRenames

theorem repointChildren (composes : ComposesRenames host P) (old : Listing) (renamed : EntityId) :
    P (Action.repointChildren host old renamed) := by
  refine composes.bind (composes.forM fun child => ?_) fun _ => composes.forM fun child => ?_
  · refine composes.bind (composes.folder child) fun found => ?_
    split
    · exact composes.save _
    · exact composes.pure ()
  · refine composes.bind (composes.file child) fun found => ?_
    split
    · dsimp only
      split
      · exact composes.save _
      · exact composes.pure ()
    · exact composes.pure ()

theorem setDisplayName (composes : ComposesRenames host P) (id : EntityId) (name : String) :
    P (Action.setDisplayName host id name) := by
  refine composes.bind (composes.folder id) fun found => ?_
  split
  · exact composes.save _
  · refine composes.bind (composes.file id) fun found => ?_
    split
    · exact composes.save _
    · exact composes.throw _

theorem finishes (composes : ComposesRenames host P) : ComposesFinishes host P where
  toComposesLooks := composes.toComposesLooks
  uniquifier := composes.uniquifier
  put := composes.puts.put
  finishFolder id desired old name := by
    unfold finishFolder
    split
    · refine composes.bind (composes.assignIdentifier id desired) fun renamed => ?_
      refine composes.bind (composes.repointChildren old renamed) fun _ => ?_
      refine composes.bind (composes.setDisplayName renamed name) fun _ => ?_
      exact composes.count { itemsRenamed := 1 } rfl
    · exact composes.pure ()
  finishFile id desired name := by
    unfold finishFile
    split
    · refine composes.bind (composes.assignIdentifier id desired) fun renamed => ?_
      refine composes.bind (composes.setDisplayName renamed name) fun _ => ?_
      exact composes.count { itemsRenamed := 1 } rfl
    · exact composes.pure ()

theorem deleteFile (composes : ComposesRenames host P) (id : EntityId) (parent : Option EntityId) :
    P (Action.deleteFile host id parent) := by
  refine composes.bind (composes.file id) fun found => ?_
  split
  · exact composes.pure ()
  · refine composes.bind (composes.require .delete id) fun _ => ?_
    exact composes.bind (composes.delete id) fun _ => composes.count { filesDeleted := 1 } rfl
  next file parent =>
    split
    · refine composes.bind (composes.require _ id) fun _ => ?_
      refine composes.bind (composes.detachOrDelete file parent) fun deleted => ?_
      split
      · exact composes.count { filesDeleted := 1 } rfl
      · exact composes.count { filesDetached := 1 } rfl
    · exact composes.pure ()

end ComposesRenames

/-! ## Collisions -/

/-- Deciding collisions has the property, and so have warning of one and counting one. -/
structure ComposesCollisions (host : Host σ) (P : {α : Type} → Action σ α → Prop) : Prop
    extends ComposesRenames host P where
  decideCollision : ∀ source destination, P (decideCollision host source destination)
  warn : ∀ warning, P (warn warning : Action σ Unit)
  overwritten : P (Action.count (· + { filesOverwritten := 1 }) : Action σ Unit)

namespace ComposesCollisions

theorem overwrite (composes : ComposesCollisions host P) (file existing : File) (parent : EntityId) :
    P (Action.overwrite host file existing parent) := by
  refine composes.bind (composes.require _ existing.id) fun _ => ?_
  refine composes.bind (composes.decideCollision file.id existing.id) fun verdict => ?_
  cases verdict with
  | keep => exact composes.pure false
  | unanswered => exact composes.bind (composes.warn _) fun _ => composes.pure false
  | overwrite =>
    refine composes.bind (composes.detachOrDelete existing parent) fun _ => ?_
    exact composes.bind composes.overwritten fun _ => composes.pure true

theorem moveFile (composes : ComposesCollisions host P) (id : EntityId) (source : Option EntityId)
    (target : EntityId) : P (Action.moveFile host id source target) :=
  composes.toComposesLooks.moveFile composes.overwrite composes.puts.relist id source target

theorem copyFile (composes : ComposesCollisions host P) (id target : EntityId) :
    P (Action.copyFile host id target) :=
  composes.toComposesLooks.copyFile
    (fun _ _ _ => composes.toComposesLooks.makeRoom composes.overwrite _ _ _ none)
    composes.puts.createFile id target

end ComposesCollisions

/-! ## Moves and copies -/

/-- Moves of files have the property, and so have merges of folders whose children have it. What comes
before in the move of a folder has another one, and does not take it away. -/
structure ComposesMoves (host : Host σ) (Q P : {α : Type} → Action σ α → Prop) : Prop
    extends Composes host Q where
  lift : ∀ {α : Type} {action : Action σ α}, Q action → P action
  before : ∀ {α β : Type} {action : Action σ α} {next : α → Action σ β}, Q action →
    (∀ a, P (next a)) → P (action >>= next)
  putFolder : ∀ folder, P (do
    call (host.store.save (.folder folder))
    count (· + { foldersMoved := 1 }) : Action σ Unit)
  moveFile : ∀ id source target, P (moveFile host id source target)
  mergeFolder : ∀ {work : EntityId → EntityId → Action σ Unit} {source : Listing} {target : EntityId},
    (∀ child, P (work child target)) → P (mergeFolder host work source target)

namespace ComposesMoves

variable {Q : {α : Type} → Action σ α → Prop}

theorem moveFolder (composes : ComposesMoves host Q P) (depth : Nat) (id target : EntityId) :
    P (Action.moveFolder host depth id target) := by
  induction depth generalizing id target with
  | zero => exact composes.lift composes.tooDeep
  | succ depth ih =>
    refine composes.before (composes.isDescendantOrSelf (depth + 1) target id) fun below => ?_
    split
    · exact composes.lift (composes.throw _)
    refine composes.before (composes.folder id) fun found => ?_
    split
    · exact composes.lift (composes.pure ())
    next folder =>
      split
      · exact composes.lift (composes.pure ())
      refine composes.before (composes.require .edit id) fun _ => ?_
      refine composes.before (composes.folder target) fun found => ?_
      split
      · exact composes.lift (composes.throw _)
      refine composes.before (composes.childFolderNamed _ folder.name (some id)) fun clash => ?_
      split
      next existing => exact composes.mergeFolder fun child => ih child existing
      next => exact composes.putFolder _

theorem movePath (composes : ComposesMoves host Q P) (depth : Nat) (target : EntityId)
    (path : Path) : P (Action.movePath host depth target path) := by
  obtain ⟨source, leaf⟩ := path
  cases leaf with
  | some file => exact composes.moveFile file source target
  | none => cases source with
    | some source => exact composes.moveFolder depth source target
    | none => exact composes.lift (composes.pure ())

/-- Whatever is moved, into a folder or to a new name. -/
theorem workOn (composes : ComposesMoves host Q P) (depth : Nat)
    (renames : ∀ target desired path, P (Action.renamePath host depth target desired path))
    (mode : Mode) (destination path : Path) :
    P (Request.workOn host depth .move mode destination path) := by
  obtain ⟨folder, leaf⟩ := destination
  obtain ⟨source, file⟩ := path
  cases mode with
  | ignored => exact composes.lift (composes.pure ())
  | bulk =>
    cases folder with
    | none => exact composes.lift (composes.pure ())
    | some target => exact composes.movePath depth target ⟨source, file⟩
  | single =>
    cases leaf with
    | none => exact composes.lift (composes.pure ())
    | some desired => exact renames folder desired ⟨source, file⟩

end ComposesMoves

/-- Single copies have the property, and so have levels of them. What comes before in the copy of a
folder has another one, and does not take it away. -/
structure ComposesCopies (host : Host σ) (Q P : {α : Type} → Action σ α → Prop) : Prop
    extends Composes host Q where
  lift : ∀ {α : Type} {action : Action σ α}, Q action → P action
  before : ∀ {α β : Type} {action : Action σ α} {next : α → Action σ β}, Q action →
    (∀ a, P (next a)) → P (action >>= next)
  merged : Q (count (· + { foldersMerged := 1 }) : Action σ Unit)
  createFolder : ∀ drive desired name parent, Q (createFolder host drive desired name parent)
  copyFile : ∀ id target, P (copyFile host id target)
  copyFileAs : ∀ id source target desired, P (copyFileAs host id source target desired)
  copyChildren : ∀ {work : EntityId → EntityId → Action σ Unit} {source : Listing} {target : EntityId},
    (∀ child, P (work child target)) → P (copyChildren host work source target)

namespace ComposesCopies

variable {Q : {α : Type} → Action σ α → Prop}

theorem copyTarget (composes : ComposesCopies host Q P) (folder : Listing) (id target : EntityId)
    (destination : Listing) : Q (Action.copyTarget host folder id target destination) := by
  refine composes.bind (composes.childFolderNamed destination folder.name none) fun clash => ?_
  split
  · exact composes.bind composes.merged fun _ => composes.pure _
  · exact composes.createFolder _ _ _ _

theorem copyFolder (composes : ComposesCopies host Q P) (depth : Nat) (id target : EntityId) :
    P (Action.copyFolder host depth id target) := by
  induction depth generalizing id target with
  | zero => exact composes.lift composes.tooDeep
  | succ depth ih =>
    refine composes.before (composes.isDescendantOrSelf (depth + 1) target id) fun below => ?_
    split
    · exact composes.lift (composes.throw _)
    refine composes.before (composes.folder id) fun found => ?_
    split
    · exact composes.lift (composes.pure ())
    next folder =>
      split
      · exact composes.lift (composes.pure ())
      refine composes.before (composes.folder target) fun found => ?_
      split
      · exact composes.lift (composes.throw _)
      refine composes.before (composes.copyTarget folder id target _) fun copy => ?_
      exact composes.copyChildren fun child => ih child copy

theorem copyFolderAs (composes : ComposesCopies host Q P) (depth : Nat) (id : EntityId)
    (target : Option EntityId) (desired : EntityId) :
    P (Action.copyFolderAs host depth id target desired) := by
  refine composes.before (composes.folder id) fun found => ?_
  split
  · exact composes.lift (composes.pure ())
  next folder =>
    have checks (parent : EntityId) (destination : Listing) := composes.checkPlace depth id parent
      destination desired.name.text none
    refine composes.before (composes.place (target <|> folder.parent) checks) fun _ => ?_
    refine composes.before (composes.createFolder _ _ _ _) fun copy => ?_
    exact composes.copyChildren fun child => composes.copyFolder depth child copy

/-- Whatever is copied, and to whatever place. -/
theorem workOn (composes : ComposesCopies host Q P) (depth : Nat) (mode : Mode)
    (destination path : Path) : P (Request.workOn host depth .copy mode destination path) := by
  obtain ⟨folder, leaf⟩ := destination
  obtain ⟨source, file⟩ := path
  cases mode with
  | ignored => exact composes.lift (composes.pure ())
  | bulk =>
    cases folder with
    | none => exact composes.lift (composes.pure ())
    | some target =>
      cases file with
      | some file => exact composes.copyFile file target
      | none => cases source with
        | some source => exact composes.copyFolder depth source target
        | none => exact composes.lift (composes.pure ())
  | single =>
    cases leaf with
    | none => exact composes.lift (composes.pure ())
    | some desired =>
      cases file with
      | some file => exact composes.copyFileAs file source folder desired
      | none => cases source with
        | some source => exact composes.copyFolderAs depth source folder desired
        | none => exact composes.lift (composes.pure ())

end ComposesCopies

/-! ## All work -/

/-- Single items have the property, and so have levels of items that have it. -/
structure ComposesWork (host : Host σ) (P : {α : Type} → Action σ α → Prop) : Prop
    extends ComposesFinishes host P where
  merged : P (count (· + { foldersMerged := 1 }) : Action σ Unit)
  overwrite : ∀ file existing parent, P (overwrite host file existing parent)
  deleteFile : ∀ id parent, P (deleteFile host id parent)
  deleteEmptied : ∀ id, P (deleteEmptied host id)
  mergeFolder : ∀ {work : EntityId → EntityId → Action σ Unit} {source : Listing} {target : EntityId},
    (∀ child, P (work child target)) → P (mergeFolder host work source target)
  item : ∀ {work : Action σ Unit}, P work → P (item host.job work)
  inLevel : ∀ {total : Nat} {work : Action σ Unit}, P work → P (inLevel host.job total work)

namespace ComposesWork

theorem moves (composes : ComposesWork host P) : ComposesMoves host P P where
  toComposes := composes.toComposes
  lift has := has
  before := composes.bind
  putFolder _ := composes.put _ { foldersMoved := 1 } rfl (by decide)
  moveFile := composes.toComposesLooks.moveFile composes.overwrite composes.relist
  mergeFolder := composes.mergeFolder

theorem copyFile (composes : ComposesWork host P) (id target : EntityId) :
    P (Action.copyFile host id target) :=
  composes.toComposesLooks.copyFile
    (fun _ _ _ => composes.toComposesLooks.makeRoom composes.overwrite _ _ _ none)
    composes.createFile id target

theorem copies (composes : ComposesWork host P) : ComposesCopies host P P where
  toComposes := composes.toComposes
  lift has := has
  before := composes.bind
  merged := composes.merged
  createFolder := composes.createFolder
  copyFile := composes.copyFile
  copyFileAs := composes.copyFileAs composes.createFile
  copyChildren folders := composes.inLevel <| composes.bind
    (composes.forM fun child => composes.item (folders child)) fun _ =>
      composes.forM fun child => composes.item (composes.copyFile child _)

theorem deleteFolder (composes : ComposesWork host P) (depth : Nat) (id : EntityId) :
    P (Action.deleteFolder host depth id) := by
  induction depth generalizing id with
  | zero => exact composes.tooDeep
  | succ depth ih =>
    refine composes.bind (composes.folder id) fun found => ?_
    split
    · exact composes.pure ()
    next folder =>
      refine composes.bind (composes.require .delete id) fun _ => composes.inLevel ?_
      refine composes.bind (composes.forM fun child => composes.item (ih child)) fun _ => ?_
      refine composes.bind (composes.forM fun child => composes.item ?_) fun _ => ?_
      · exact composes.deleteFile child (some id)
      · exact composes.item (composes.deleteEmptied id)

theorem workOn (composes : ComposesWork host P) (depth : Nat) (operation : Operation) (mode : Mode)
    (destination path : Path) : P (Request.workOn host depth operation mode destination path) := by
  cases operation with
  | move => exact composes.moves.workOn depth (composes.renamePath depth) mode destination path
  | copy => exact composes.copies.workOn depth mode destination path
  | delete =>
    obtain ⟨source, file⟩ := path
    cases file with
    | some file => exact composes.deleteFile file source
    | none => cases source with
      | some source => exact composes.deleteFolder depth source
      | none => exact composes.pure ()

end ComposesWork

theorem ComposesCollisions.work (composes : ComposesCollisions host P)
    (item : ∀ {work : Action σ Unit}, P work → P (Action.item host.job work))
    (inLevel : ∀ {total : Nat} {work : Action σ Unit}, P work → P (Action.inLevel host.job total work)) :
    ComposesWork host P where
  toComposesFinishes := composes.finishes
  merged := composes.count { foldersMerged := 1 } rfl
  overwrite := composes.overwrite
  deleteFile := composes.deleteFile
  deleteEmptied := composes.deleteEmptied
  mergeFolder folders := by
    refine composes.bind (composes.count { foldersMerged := 1 } rfl) fun _ => inLevel ?_
    refine composes.bind (composes.forM fun child => item (folders child)) fun _ => ?_
    refine composes.bind (composes.forM fun child => item (composes.moveFile child _ _)) fun _ => ?_
    exact item (composes.bind (composes.removeIfEmpty _) fun _ => composes.pure ())
  item := item
  inLevel := inLevel

end Filing.Action
