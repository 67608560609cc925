import Mathlib.Data.Set.Card
import Filing.Proofs.Clearing
import Filing.Proofs.Ending

/-!
# Enough depth

Going up needs no more depth than there are folders (`returns_climbs`), and deleting a folder no more
than have to be deleted before it (`MemoryStore.ncard_preceding_lt`), unless it is one of them itself.
Everything else comes to an end by itself.
-/
namespace Filing

variable {τ : Type} {setup : Setup τ}

/-- Nothing is denied. -/
def MemoryStore.Permissive (s : MemoryStore) : Prop := ∀ permission id, s.allows permission id = true

namespace Contents

variable {c : Contents} {id : EntityId}

theorem finite_stored (c : Contents) : {id | c.has id = true}.Finite := by
  refine (c.toList.map Entity.id).finite_toSet.subset fun id stored => ?_
  exact List.mem_map.mpr (Catalogue.has_eq_true_iff.mp stored)

theorem finite_folders (c : Contents) : c.folders.Finite := by
  refine c.finite_stored.subset ?_
  rintro id ⟨folder, found⟩
  exact has_of_folder? found

/-- Of the folders that were not seen yet, one less is left when one of them is seen. -/
theorem ncard_unseen_lt {seen : List EntityId} (stored : id ∈ c.folders) (fresh : id ∉ seen) :
    (c.folders \ {x | x ∈ id :: seen}).ncard < (c.folders \ {x | x ∈ seen}).ncard := by
  refine Set.ncard_lt_ncard ⟨?_, fun back => ?_⟩ c.finite_folders.sdiff
  · exact Set.sdiff_subset_sdiff_right fun x member => List.mem_cons_of_mem _ member
  · exact (back ⟨stored, fresh⟩).2 List.mem_cons_self

/-- What lies below a folder, without itself. -/
def beneath (c : Contents) (id : EntityId) : Set EntityId := {x | Relation.TransGen c.Inside x id}

theorem beneath_subset_folders (c : Contents) (id : EntityId) : c.beneath id ⊆ c.folders := by
  intro x below
  obtain ⟨parent, inside, _⟩ := Relation.TransGen.head'_iff.mp below
  exact mem_folders_of_inside inside

theorem finite_beneath (c : Contents) (id : EntityId) : (c.beneath id).Finite :=
  c.finite_folders.subset (c.beneath_subset_folders id)

end Contents

namespace MemoryStore

open Relation (TransGen ReflTransGen)

variable {s s' : MemoryStore} {id child parent : EntityId}

/-- `child` is to be deleted before `parent`. -/
structure Precedes (s : MemoryStore) (child parent : EntityId) : Prop where
  inside : s.contents.Inside child parent
  permitted : s.allows .delete parent = true

/-- The folder would have to be deleted before itself. -/
def Circular (s : MemoryStore) (id : EntityId) : Prop := TransGen s.Precedes id id

/-- All folders that are to be deleted before this one. -/
def preceding (s : MemoryStore) (id : EntityId) : Set EntityId := {x | TransGen s.Precedes x id}

theorem Precedes.mono (fewer : ∀ {x p}, s'.contents.Inside x p → s.contents.Inside x p)
    (allows : s'.allows = s.allows) (precedes : s'.Precedes child parent) : s.Precedes child parent :=
  ⟨fewer precedes.inside, allows ▸ precedes.permitted⟩

theorem preceding_subset_beneath (s : MemoryStore) (id : EntityId) :
    s.preceding id ⊆ s.contents.beneath id :=
  fun x before => TransGen.mono (fun _ _ precedes => precedes.inside) x id before

theorem preceding_mono (fewer : ∀ {x p}, s'.contents.Inside x p → s.contents.Inside x p)
    (allows : s'.allows = s.allows) (id : EntityId) : s'.preceding id ⊆ s.preceding id :=
  fun x before => TransGen.mono (fun _ _ precedes => precedes.mono fewer allows) x id before

theorem finite_preceding (s : MemoryStore) (id : EntityId) : (s.preceding id).Finite :=
  (s.contents.finite_beneath id).subset (s.preceding_subset_beneath id)

theorem not_circular_of_loopFree (loopFree : s.contents.LoopFree) (id : EntityId) : ¬ s.Circular id :=
  fun circular => loopFree id (s.preceding_subset_beneath id circular)

/-- The child of a circular folder that is on the same circle. -/
theorem Circular.exists_precedes (circular : s.Circular id) :
    ∃ child, s.Precedes child id ∧ s.Circular child := by
  obtain ⟨child, way, precedes⟩ := TransGen.tail'_iff.mp circular
  exact ⟨child, precedes, .head' precedes way⟩

/-- The way up from a folder is unique, so a circle that is left is never come back to. -/
theorem Circular.of_precedes (circular : s.Circular child) (precedes : s.Precedes child id) :
    s.Circular id := by
  obtain ⟨up, first, way⟩ := TransGen.head'_iff.mp circular
  cases Contents.inside_unique first.inside precedes.inside
  exact .tail' way precedes

/-- Fewer are to be deleted before a child. -/
theorem ncard_preceding_lt (straight : ¬ s.Circular id) (precedes : s.Precedes child id) :
    (s.preceding child).ncard < (s.preceding id).ncard := by
  refine Set.ncard_lt_ncard ⟨fun x before => before.tail precedes, fun fewer => ?_⟩
    (s.finite_preceding id)
  have circular : s.Circular child := fewer (TransGen.single precedes)
  exact straight (circular.of_precedes precedes)

end MemoryStore

namespace Action

variable {desk : Desk (Cabinet τ)}

/-- Going up ends if something gets less from each folder to its parent. -/
theorem returns_climbs_of_less (ancestor : EntityId) (measure : List EntityId → EntityId → Nat)
    (less : ∀ {seen current parent}, current ∉ seen →
      desk.world.store.contents.Inside current parent →
      measure (current :: seen) parent < measure seen current)
    (seen : List EntityId) (depth : Nat) (current : EntityId) (enough : measure seen current < depth) :
    (climbs setup.host ancestor seen current depth).Returns desk := by
  induction depth generalizing desk seen current with
  | zero => exact absurd enough (Nat.not_lt_zero _)
  | succ depth ih =>
    unfold climbs
    split
    · exact .pure true desk
    split
    · exact .pure false desk
    next notSeen =>
      refine Returns.bind (.call _ desk) (looks_folder setup _ current desk rfl) ?_
      rintro found after ⟨extra, looked, told⟩
      have answer : found = desk.world.store.contents.listing? current := by simpa using told
      subst answer
      cases stored : desk.world.store.contents.folder? current with
      | none =>
        simp only [Contents.listing?, stored, Option.map_none]
        exact .pure false after
      | some folder =>
        obtain ⟨id, name, up⟩ := folder
        simp only [Contents.listing?, stored, Option.map_some]
        cases up with
        | none => exact .pure false after
        | some parent =>
          have step := less notSeen (Contents.inside_iff.mpr ⟨_, stored, rfl⟩)
          -- The look has left the store as it was, so the same gets less from here on.
          rw [← looked.store] at less
          apply ih less (current :: seen) parent
          omega

/-- The folders that were seen are never seen again, so only the others count. -/
theorem returns_climbs (ancestor : EntityId) (seen : List EntityId) (depth : Nat) (current : EntityId)
    (enough : (desk.world.store.contents.folders \ {x | x ∈ seen}).ncard < depth) :
    (climbs setup.host ancestor seen current depth).Returns desk := by
  refine returns_climbs_of_less ancestor
    (fun seen _ => (desk.world.store.contents.folders \ {x | x ∈ seen}).ncard) ?_ seen depth current
    enough
  intro seen current parent notSeen inside
  exact Contents.ncard_unseen_lt (Contents.mem_folders_of_inside inside) notSeen

theorem returns_isDescendantOrSelf (depth : Nat) (candidate ancestor : EntityId)
    (enough : desk.world.store.contents.folders.ncard < depth) :
    (isDescendantOrSelf setup.host depth candidate ancestor).Returns desk :=
  returns_climbs ancestor [] depth candidate (by simpa using enough)

theorem returns_folderNamed (name : String) (ids : List EntityId) (desk : Desk (Cabinet τ)) :
    (folderNamed setup.host name ids).Returns desk := by
  induction ids generalizing desk with
  | nil => exact .pure none desk
  | cons id later ih =>
    refine (Returns.call _ desk).andThen fun found desk => ?_
    split
    · split
      · exact .pure _ desk
      · exact ih desk
    · exact ih desk

theorem returns_fileNamed (name : String) (ids : List EntityId) (desk : Desk (Cabinet τ)) :
    (fileNamed setup.host name ids).Returns desk := by
  induction ids generalizing desk with
  | nil => exact .pure none desk
  | cons id later ih =>
    refine (Returns.call _ desk).andThen fun found desk => ?_
    split
    · split
      · exact .pure _ desk
      · exact ih desk
    · exact ih desk

theorem returns_detachOrDelete (file : File) (parent : EntityId) (desk : Desk (Cabinet τ)) :
    (detachOrDelete setup.host file parent).Returns desk := by
  unfold detachOrDelete
  split
  · exact (Returns.call _ desk).andThen fun _ desk => .pure false desk
  · exact (Returns.call _ desk).andThen fun _ desk => .pure true desk

theorem returns_decideCollision (source destination : EntityId) (desk : Desk (Cabinet τ)) :
    (decideCollision setup.host source destination).Returns desk := by
  unfold decideCollision
  refine Returns.andThen ⟨_, rfl⟩ fun current desk => ?_
  split
  · split
    · exact .pure _ desk
    · refine Returns.andThen ⟨_, rfl⟩ fun answer desk => ?_
      cases answer with
      | none => exact .pure _ desk
      | some decision =>
        dsimp only
        split
        · exact Returns.andThen ⟨_, rfl⟩ fun _ desk => .pure _ desk
        · exact .pure _ desk
  · exact .pure _ desk

theorem returns_makeRoom (file : File) (destination : Listing) (parent : EntityId)
    (except : Option EntityId) (desk : Desk (Cabinet τ)) :
    (makeRoom setup.host file destination parent except).Returns desk := by
  refine (returns_fileNamed file.name _ desk).andThen fun found desk => ?_
  cases found with
  | none => exact .pure true desk
  | some existing =>
    refine (Returns.require _ existing.id desk).andThen fun _ desk => ?_
    refine (returns_decideCollision file.id existing.id desk).andThen fun verdict desk => ?_
    cases verdict with
    | keep => exact .pure false desk
    | unanswered => exact Returns.andThen ⟨_, rfl⟩ fun _ desk => .pure false desk
    | overwrite =>
      refine (returns_detachOrDelete existing parent desk).andThen fun _ desk => ?_
      exact (Returns.count _ desk).andThen fun _ desk => .pure true desk

theorem returns_moveFile (id : EntityId) (source : Option EntityId) (target : EntityId)
    (desk : Desk (Cabinet τ)) : (moveFile setup.host id source target).Returns desk := by
  refine (Returns.call _ desk).andThen fun found desk => ?_
  cases found with
  | none => exact .pure () desk
  | some file =>
    dsimp only
    split
    · exact .pure () desk
    · refine (Returns.require .edit id desk).andThen fun _ desk => ?_
      refine (Returns.call _ desk).andThen fun opened desk => ?_
      cases opened with
      | none => exact .throw _ desk
      | some destination =>
        refine (returns_makeRoom file destination target (some id) desk).andThen fun room desk => ?_
        split
        · split
          · exact (Returns.call _ desk).andThen fun _ desk => .count _ desk
          · exact .pure () desk
        · exact .pure () desk

theorem returns_removeIfEmpty (id : EntityId) (desk : Desk (Cabinet τ)) :
    (removeIfEmpty setup.host id).Returns desk := by
  refine (Returns.call _ desk).andThen fun found desk => ?_
  split
  next => exact .pure false desk
  next folder =>
    split
    · refine (Returns.require .delete id desk).andThen fun _ desk => ?_
      exact (Returns.call _ desk).andThen fun _ desk => .pure true desk
    · exact .pure false desk

theorem returns_deleteFile (id : EntityId) (parent : Option EntityId) (desk : Desk (Cabinet τ)) :
    (deleteFile setup.host id parent).Returns desk := by
  refine (Returns.call _ desk).andThen fun found desk => ?_
  split
  · exact .pure () desk
  · refine (Returns.require .delete id desk).andThen fun _ desk => ?_
    exact (Returns.call _ desk).andThen fun _ desk => .count _ desk
  next file parent =>
    split
    · refine (Returns.require _ id desk).andThen fun _ desk => ?_
      refine (returns_detachOrDelete file parent desk).andThen fun deleted desk => ?_
      split
      · exact .count _ desk
      · exact .count _ desk
    · exact .pure () desk

end Action

end Filing
