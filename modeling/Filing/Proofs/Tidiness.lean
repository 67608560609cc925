import Filing.Proofs.Integrity

/-!
# Names stay distinct

Nothing is moved or copied to where its display name is taken, so siblings that have distinct names
keep them, with well-formed contents throughout (`Steps.tidy`). A move or copy to a name of its own
is not a step of that kind when it relocates something that exists.
-/
namespace Filing

namespace Contents

/-- Well formed, with distinct names in every folder. -/
structure Tidy (c : Contents) : Prop where
  wellFormed : c.WellFormed
  distinct : c.DistinctNames

variable {c : Contents} {id parent : EntityId}

namespace DistinctNames

theorem freeFileName (distinct : c.DistinctNames) {file : File} (stored : c.file? id = some file)
    (listed : parent ∈ file.parents) : c.FreeFileName file.name parent (some id) := by
  intro other f found inside differs same
  have here := distinct.files found stored inside listed same
  exact differs (congrArg some here)

theorem insert_folder (distinct : c.DistinctNames) {folder : Folder}
    (free : ∀ parent, folder.parent = some parent →
      c.FreeFolderName folder.name parent (some folder.id)) :
    DistinctNames (c.insert (.folder folder)) where
  folders {a b parent f g} foundA foundB insideA insideB same := by
    -- Of two folders one may be the saved one: then the other one would have its name taken.
    rw [folder?_insert_folder] at foundA foundB
    split at foundA
    next hereA =>
      cases foundA
      split at foundB
      next hereB => exact hereA.symm.trans hereB
      next differs =>
        have taken := free parent insideA foundB insideB (by simpa using Ne.symm differs)
        exact absurd same.symm taken
    next differs =>
      split at foundB
      next hereB =>
        cases foundB
        have taken := free parent insideB foundA insideA (by simpa using Ne.symm differs)
        exact absurd same taken
      next => exact distinct.folders foundA foundB insideA insideB same
  files foundA foundB :=
    distinct.files (file?_insert_folder_eq_some_iff.mp foundA).2
      (file?_insert_folder_eq_some_iff.mp foundB).2

theorem insert_file (distinct : c.DistinctNames) {file : File}
    (free : ∀ parent ∈ file.parents, c.FreeFileName file.name parent (some file.id)) :
    DistinctNames (c.insert (.file file)) where
  folders foundA foundB :=
    distinct.folders (folder?_insert_file_eq_some_iff.mp foundA).2
      (folder?_insert_file_eq_some_iff.mp foundB).2
  files {a b parent f g} foundA foundB listedA listedB same := by
    rw [file?_insert_file] at foundA foundB
    -- Of two files that share a name, at most one is new, and its name was free.
    split at foundA
    next hereA =>
      cases foundA
      split at foundB
      next hereB => exact hereA.symm.trans hereB
      next differs =>
        have taken := free parent listedA foundB listedB (by simpa using Ne.symm differs)
        exact absurd same.symm taken
    next differs =>
      split at foundB
      next hereB =>
        cases foundB
        have taken := free parent listedB foundA listedA (by simpa using Ne.symm differs)
        exact absurd same taken
      next => exact distinct.files foundA foundB listedA listedB same

theorem erase (distinct : c.DistinctNames) (id : EntityId) : DistinctNames (c.erase id) where
  folders foundA foundB :=
    distinct.folders (folder?_erase_eq_some_iff.mp foundA).2 (folder?_erase_eq_some_iff.mp foundB).2
  files foundA foundB :=
    distinct.files (file?_erase_eq_some_iff.mp foundA).2 (file?_erase_eq_some_iff.mp foundB).2

end DistinctNames

end Contents

open Contents

namespace MemoryStore

variable {s : MemoryStore} {file existing : File} {target : EntityId}

theorem distinctNames_takeOut (distinct : s.contents.DistinctNames)
    (stored : s.contents.file? file.id = some file) (parent : EntityId) :
    (s.takeOut file parent).contents.DistinctNames := by
  unfold takeOut
  split
  · apply distinct.insert_file
    intro p listed
    exact distinct.freeFileName stored (IdSet.mem_erase.mp listed).2
  · exact distinct.erase file.id

/-- Once a file has left the folder, its name is free there. -/
theorem freeFileName_takeOut (distinct : s.contents.DistinctNames)
    (stored : s.contents.file? existing.id = some existing) (listed : target ∈ existing.parents)
    (except : Option EntityId) :
    (s.takeOut existing target).contents.FreeFileName existing.name target except := by
  intro id f found inside _ same
  rw [file?_takeOut] at found
  split at found
  · split at found
    · cases found
      exact (IdSet.mem_erase.mp inside).1 rfl
    · cases found
  next differs => exact differs (distinct.files stored found listed inside same.symm)

theorem distinctNames_relist (distinct : s.contents.DistinctNames)
    (stored : s.contents.file? file.id = some file)
    (free : s.contents.FreeFileName file.name target (some file.id)) (source : Option EntityId) :
    (s.save (.file (file.reparent source target).1)).contents.DistinctNames := by
  apply distinct.insert_file
  intro p listed
  rcases File.mem_parents_reparent.mp listed with rfl | ⟨listed, _⟩
  · exact free
  · exact distinct.freeFileName stored listed

end MemoryStore

/-- What one step does to distinct names. -/
theorem Step.distinctNames {rules : Rules} {before after : Stage} (step : Step rules before after)
    (plain : rules.operation = .move → rules.mode ≠ .single)
    (distinct : before.store.contents.DistinctNames) :
    after.store.contents.DistinctNames := by
  cases step with
  | evict _ displaces =>
    exact MemoryStore.distinctNames_takeOut distinct displaces.storedExisting _
  | relist _ _ relists free =>
    exact MemoryStore.distinctNames_relist distinct relists.stored free _
  | @displace _ _ _ _ _ target _ _ displaces relists =>
    have apart := MemoryStore.distinctNames_takeOut distinct displaces.storedExisting target
    -- The name was that of the file that has left.
    refine MemoryStore.distinctNames_relist apart ?_ ?_ _
    · rw [MemoryStore.file?_takeOut, if_neg displaces.differs]
      exact relists.stored
    · rw [← displaces.sameName]
      exact MemoryStore.freeFileName_takeOut distinct displaces.storedExisting displaces.listed _
  | reparent _ _ _ free =>
    apply distinct.insert_folder
    rintro _ ⟨⟩
    exact free
  | merge _ => exact distinct
  | dissolve _ _ _ => exact distinct.erase _
  | createFolder _ _ free =>
    apply distinct.insert_folder
    intro target inside other f found inside' _
    exact free target inside found inside' (by simp)
  | createFile _ _ _ free =>
    apply distinct.insert_file
    intro target listed other f found inside _
    exact free target (File.mem_parents_copyTo.mp listed) found inside (by simp)
  | @replace _ _ source existing id target _ displaces _ =>
    have apart := MemoryStore.distinctNames_takeOut distinct displaces.storedExisting target
    apply apart.insert_file
    intro target listed other f found inside differs same
    cases File.mem_parents_copyTo.mp listed
    exact MemoryStore.freeFileName_takeOut distinct displaces.storedExisting displaces.listed _
      found inside differs (same.trans displaces.sameName.symm)
  | deleteFolder _ _ => exact distinct.erase _
  | takeOut _ stored _ _ => exact MemoryStore.distinctNames_takeOut distinct stored _
  | deleteFile _ _ _ => exact distinct.erase _
  | relocateFolder move single _ => exact absurd single (plain move)
  | relocateFile move single _ => exact absurd single (plain move)
  | relabelFile move single _ _ _ => exact absurd single (plain move)
  | retitleFile move single _ => exact absurd single (plain move)

theorem Steps.tidy {rules : Rules} {before after : Stage} (steps : Steps rules before after)
    (plain : rules.operation = .move → rules.mode ≠ .single) (tidy : before.store.contents.Tidy) :
    after.store.contents.Tidy := by
  induction steps with
  | refl => exact tidy
  | tail _ step ih => exact ⟨step.wellFormed ih.wellFormed, step.distinctNames plain ih.distinct⟩

theorem tidy_of_steps {rules : Rules} {s s' : MemoryStore}
    (plain : rules.operation = .move → rules.mode ≠ .single)
    (steps : ∃ tally tally', Steps rules ⟨s, tally⟩ ⟨s', tally'⟩) (tidy : s.contents.Tidy) :
    s'.contents.Tidy := by
  obtain ⟨_, _, steps⟩ := steps
  exact Steps.tidy steps plain tidy

/-- Nobody is given or denied anything by a step. -/
theorem Step.allows {rules : Rules} {before after : Stage} (step : Step rules before after) :
    after.store.allows = before.store.allows := by
  cases step with
  | evict _ _ => exact MemoryStore.allows_takeOut _ _ _
  | relist _ _ _ _ => rfl
  | displace _ _ _ _ => exact MemoryStore.allows_takeOut _ _ _
  | reparent _ _ _ _ => rfl
  | merge _ => rfl
  | dissolve _ _ _ => rfl
  | createFolder _ _ _ => rfl
  | createFile _ _ _ _ => rfl
  | replace _ _ _ => exact MemoryStore.allows_takeOut _ _ _
  | deleteFolder _ _ => rfl
  | takeOut _ _ _ _ => exact MemoryStore.allows_takeOut _ _ _
  | deleteFile _ _ _ => rfl
  | relocateFolder _ _ _ => rfl
  | relocateFile _ _ _ => rfl
  | relabelFile _ _ _ _ _ => rfl
  | retitleFile _ _ _ => rfl

theorem Steps.allows {rules : Rules} {before after : Stage} (steps : Steps rules before after) :
    after.store.allows = before.store.allows := by
  induction steps with
  | refl => rfl
  | tail _ step ih => exact step.allows.trans ih

end Filing
