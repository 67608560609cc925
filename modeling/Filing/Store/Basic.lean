import Filing.Entity
import Filing.Store.Error

/-!
What a store offers. A call may change the world, and it may fail; `σ` is whatever the world
consists of, so that one description fits a store in memory, one that is rehearsed to fail and one
whose contents change under the caller's hands.
-/
namespace Filing

/-- A call into the world `σ` that answers with an `α` or fails. -/
abbrev Call (σ α : Type) := ExceptT StoreError (StateM σ) α

structure Store (σ : Type) where
  has : EntityId → Call σ Bool
  folder : EntityId → Call σ (Option Listing)
  file : EntityId → Call σ (Option File)
  /-- Creates the entity or replaces the one under its identifier. -/
  save : Entity → Call σ Unit
  delete : EntityId → Call σ Unit
  /-- Changes an identifier from the first to the second; entities that point at it stay as they are. -/
  rename : EntityId → EntityId → Call σ Unit
  canEdit : EntityId → Call σ Bool
  canDelete : EntityId → Call σ Bool

end Filing
