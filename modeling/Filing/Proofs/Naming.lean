import Filing.Proofs.Joining

/-!
# Names after a request

Siblings have distinct names after every request that moves, copies or deletes items under the names
they have, if they had distinct names before (`Order.distinctNames_throughout`).

An item that is to get a name of its own is put in its place first, and only the name it is to have is
known to be free there. If it does not get that name, it may be left beside an item that has its old
one. That is all that can happen (`Request.distinctNames_or_stuck`).
-/
namespace Filing

open Contents

variable {τ : Type} {setup : Setup τ}

/-- Whatever is moved into a folder, merged, overwritten, copied or deleted, and whichever calls fail:
siblings with distinct names have distinct names afterwards and after each call on the way. -/
theorem Order.distinctNames_throughout {depth : Nat} {order : Order} {cabinet after : Cabinet τ}
    {result : Except RequestError Report}
    (ran : order.run setup.host depth cabinet = some (result, after))
    (many : ∀ request, order = .plan request → request.modeIn cabinet.store.contents ≠ .single)
    (tidy : cabinet.store.contents.Tidy) :
    after.store.contents.DistinctNames ∧ ∃ extra, after.log = cabinet.log ++ extra ∧
      ∀ entry ∈ extra, entry.contents.DistinctNames := by
  have plain : ¬ order.RenamesFolder := by
    cases order with
    | plan request =>
      rintro ⟨named, folder, only⟩
      exact many request rfl (Request.modeIn_of_leaf named only _)
    | copy _ => exact id
    | delete _ => exact id
  have notSingle : (order.rules cabinet.store.contents).operation = .move →
      (order.rules cabinet.store.contents).mode ≠ .single := by
    cases order with
    | plan request => exact fun _ => many request rfl
    | copy _ => rintro ⟨⟩
    | delete _ => rintro ⟨⟩
  -- A step relies on well-formed contents as well, so both are carried along.
  obtain ⟨tidy', extra, log, reached⟩ := Order.throughout ran plain
    (fun step tidy => ⟨step.wellFormed tidy.wellFormed, step.distinctNames notSingle tidy.distinct⟩)
    tidy
  exact ⟨tidy'.distinct, extra, log, fun entry member => (reached entry member).distinct⟩

open Sample in
theorem Order.distinctNames_throughout_nest : ∃ result after,
    run Setup.quiet.host 9 (.plan (Request.taking note (.ofFolder docs))) ⟨nest, (), []⟩ =
      some (result, after) ∧
    after.store.contents.file? memo = some ⟨memo, "memo", [], .ofList [inner]⟩ ∧
    after.store.contents.DistinctNames := by
  have moved : ((run Setup.quiet.host 9 (.plan (Request.taking note (.ofFolder docs)))
      ⟨nest, (), []⟩).map fun outcome => outcome.2.store.contents.file? memo) =
      some (some ⟨memo, "memo", [], .ofList [inner]⟩) := by decide +kernel
  obtain ⟨⟨result, after⟩, ran, inInner⟩ := Option.map_eq_some_iff.mp moved
  refine ⟨result, after, ran, inInner, (Order.distinctNames_throughout ran ?_ nest_tidy).1⟩
  rintro _ ⟨⟩
  decide

/-! ## One item under a name of its own -/

namespace Contents

variable {c c' : Contents} {item place parent id renamed : EntityId} {name : String}

/-- Two siblings of one name are the item and another one in `place`. -/
structure DistinctNamesBut (c : Contents) (item place : EntityId) : Prop where
  folders : ∀ {a b parent f g}, c.folder? a = some f → c.folder? b = some g →
    f.parent = some parent → g.parent = some parent → f.name = g.name →
    a = b ∨ parent = place ∧ (a = item ∨ b = item)
  files : ∀ {a b parent f g}, c.file? a = some f → c.file? b = some g →
    parent ∈ f.parents → parent ∈ g.parents → f.name = g.name →
    a = b ∨ parent = place ∧ (a = item ∨ b = item)

theorem DistinctNames.but (distinct : c.DistinctNames) (item place : EntityId) :
    c.DistinctNamesBut item place where
  folders foundA foundB insideA insideB same :=
    .inl (distinct.folders foundA foundB insideA insideB same)
  files foundA foundB listedA listedB same :=
    .inl (distinct.files foundA foundB listedA listedB same)

/-- A folder that goes somewhere has a name in common with nothing but what lies there. -/
theorem DistinctNames.insert_folder_into (distinct : c.DistinctNames) (folder : Folder)
    (target : EntityId) :
    DistinctNamesBut (c.insert (.folder (folder.into target))) folder.id target where
  folders {a b parent f g} foundA foundB insideA insideB same := by
    have sameId : (folder.into target).id = folder.id := rfl
    rw [folder?_insert_folder, sameId] at foundA foundB
    -- A pair of siblings with one name has the newcomer in it.
    split at foundA
    next here =>
      cases foundA
      cases insideA
      exact .inr ⟨rfl, .inl here.symm⟩
    next =>
      split at foundB
      next here =>
        cases foundB
        cases insideB
        exact .inr ⟨rfl, .inr here.symm⟩
      next => exact .inl (distinct.folders foundA foundB insideA insideB same)
  files foundA foundB listedA listedB same :=
    .inl (distinct.files (file?_insert_folder_eq_some_iff.mp foundA).2
      (file?_insert_folder_eq_some_iff.mp foundB).2 listedA listedB same)

/-- A file that goes somewhere has a name in common with nothing but what is listed there. -/
theorem DistinctNames.insert_file_reparent (distinct : c.DistinctNames) {file : File}
    (stored : c.file? file.id = some file) (source : Option EntityId) (target : EntityId) :
    DistinctNamesBut (c.insert (.file (file.reparent source target).1)) file.id target where
  folders foundA foundB insideA insideB same :=
    .inl (distinct.folders (folder?_insert_file_eq_some_iff.mp foundA).2
      (folder?_insert_file_eq_some_iff.mp foundB).2 insideA insideB same)
  files {a b parent f g} foundA foundB listedA listedB same := by
    have sameId : (file.reparent source target).1.id = file.id := rfl
    rw [file?_insert_file, sameId] at foundA foundB
    -- Where the file was listed before, it was told from the others before.
    split at foundA
    next here =>
      cases foundA
      rcases File.mem_parents_reparent.mp listedA with arrived | ⟨listed, _⟩
      · exact .inr ⟨arrived, .inl here.symm⟩
      · split at foundB
        next here' => exact .inl (here.symm.trans here')
        next => exact .inl (here ▸ distinct.files stored foundB listed listedB same)
    next =>
      split at foundB
      next here =>
        cases foundB
        rcases File.mem_parents_reparent.mp listedB with arrived | ⟨listed, _⟩
        · exact .inr ⟨arrived, .inr here.symm⟩
        · exact .inl (here ▸ distinct.files foundA stored listedA listed same)
      next => exact .inl (distinct.files foundA foundB listedA listedB same)

/-- Without the item, all names are distinct. -/
theorem DistinctNamesBut.erase (distinct : c.DistinctNamesBut item place) :
    DistinctNames (c.erase item) where
  folders {a b parent f g} foundA foundB insideA insideB same := by
    rw [folder?_erase_eq_some_iff] at foundA foundB
    rcases distinct.folders foundA.2 foundB.2 insideA insideB same with same | ⟨_, here | here⟩
    · exact same
    · exact absurd here.symm foundA.1
    · exact absurd here.symm foundB.1
  files {a b parent f g} foundA foundB listedA listedB same := by
    rw [file?_erase_eq_some_iff] at foundA foundB
    rcases distinct.files foundA.2 foundB.2 listedA listedB same with same | ⟨_, here | here⟩
    · exact same
    · exact absurd here.symm foundA.1
    · exact absurd here.symm foundB.1

/-- A name that is free for a file stays so wherever the file itself goes. -/
theorem FreeFileName.erase (free : c.FreeFileName name parent (some item)) (except : Option EntityId) :
    FreeFileName (c.erase item) name parent except := by
  intro id file found listed _
  rw [file?_erase_eq_some_iff] at found
  exact free found.2 listed (by simpa using Ne.symm found.1)

/-- Saving an item leaves the names that are free for it as they are. -/
theorem FreeFolderName.insert_folder (folder : Folder) (sameId : folder.id = item)
    (free : c.FreeFolderName name parent (some item)) :
    FreeFolderName (c.insert (.folder folder)) name parent (some item) := by
  intro id other found inside differs
  rw [folder?_insert_folder, if_neg (by simpa [sameId, eq_comm] using differs)] at found
  exact free found inside differs

theorem FreeFileName.insert_file (file : File) (sameId : file.id = item)
    (free : c.FreeFileName name parent (some item)) :
    FreeFileName (c.insert (.file file)) name parent (some item) := by
  intro id other found listed differs
  rw [file?_insert_file, if_neg (by simpa [sameId, eq_comm] using differs)] at found
  exact free found listed differs

/-- A file gets another identifier and a name that is free wherever it is listed. -/
theorem DistinctNamesBut.relabel_file {file : File} (distinct : c.DistinctNamesBut file.id place)
    (free : ∀ parent ∈ file.parents, c.FreeFileName name parent (some file.id)) (renamed : EntityId) :
    DistinctNames (((c.erase file.id).insert (.file { file with id := renamed })).insert
      (.file { file with id := renamed, name })) := by
  have once : ((c.erase file.id).insert (.file { file with id := renamed })).insert
      (.file { file with id := renamed, name }) =
      (c.erase file.id).insert (.file { file with id := renamed, name }) := by
    refine Catalogue.ext_find? fun id => ?_
    by_cases here : renamed = id <;> simp [here, Entity.id]
  rw [once]
  exact distinct.erase.insert_file fun parent listed => FreeFileName.erase (free parent listed) _

/-- A folder of the relabelled contents is the one that was relabelled, or it kept its name. -/
theorem Relabelled.folder_cases (relabelled : c.Relabelled c' id renamed name) {x : EntityId}
    {folder : Folder} (found : c'.folder? x = some folder) :
    x = renamed ∧ folder.name = name ∨
      x ≠ renamed ∧ x ≠ id ∧ ∃ old, c.folder? x = some old ∧ old.name = folder.name := by
  rw [relabelled.folders] at found
  split at found
  next here =>
    obtain ⟨old, _, rfl⟩ := Option.map_eq_some_iff.mp found
    exact .inl ⟨here, rfl⟩
  next elsewhere =>
    split at found
    · cases found
    next differs =>
      obtain ⟨old, stored, rfl⟩ := Option.map_eq_some_iff.mp found
      refine .inr ⟨elsewhere, differs, old, stored, ?_⟩
      unfold Folder.repoint Folder.into
      split <;> rfl

/-- A folder gets another identifier and a name that is free in its parent, and its children follow. -/
theorem Relabelled.distinctNames (relabelled : c.Relabelled c' id renamed name) (wf : c.WellFormed)
    (unused : c.has renamed = false) (distinct : c.DistinctNamesBut id place) {folder : Folder}
    (stored : c.folder? id = some folder)
    (free : ∀ parent, folder.parent = some parent → c.FreeFolderName name parent (some id)) :
    c'.DistinctNames := by
  have taken {p : EntityId} (there : ∃ folder, c.folder? p = some folder) : p ≠ renamed := by
    rintro rfl
    simp [folder?_eq_none_of_unused unused] at there
  -- Siblings were siblings before.
  have back {p q : EntityId} (thereP : ∃ folder, c.folder? p = some folder)
      (thereQ : ∃ folder, c.folder? q = some folder)
      (same : follow id renamed p = follow id renamed q) : p = q := by
    rw [← origin_follow (taken thereP), same, origin_follow (taken thereQ)]
  -- The relabelled folder has a name that its siblings did not have.
  have alone {b p : EntityId} {g : Folder} (inside : c.Inside id p) (insideB : c.Inside b p)
      (differs : b ≠ id) (foundB : c.folder? b = some g) : g.name ≠ name := by
    obtain ⟨same, found, up⟩ := inside_iff.mp inside
    obtain ⟨sameB, foundB', upB⟩ := inside_iff.mp insideB
    cases stored.symm.trans found
    cases foundB.symm.trans foundB'
    exact free p up foundB upB (by simpa using differs)
  constructor
  -- The relabelled folder differs from its siblings by the free name, and the others as before.
  · intro a b parent f g foundA foundB insideA insideB same
    obtain ⟨p, insideP, rfl⟩ := relabelled.inside wf.loopFree (inside_iff.mpr ⟨f, foundA, insideA⟩)
    obtain ⟨q, insideQ, follows⟩ :=
      relabelled.inside wf.loopFree (inside_iff.mpr ⟨g, foundB, insideB⟩)
    cases back (wf.stored_of_inside insideP) (wf.stored_of_inside insideQ) follows
    rcases relabelled.folder_cases foundA with ⟨hereA, named⟩ | ⟨elseA, notA, oldA, storedA, nameA⟩
    · rcases relabelled.folder_cases foundB with ⟨hereB, _⟩ | ⟨elseB, notB, oldB, storedB, nameB⟩
      · exact hereA.trans hereB.symm
      · simp only [origin, if_pos hereA] at insideP
        simp only [origin, if_neg elseB] at insideQ
        exact absurd (nameB.trans (same.symm.trans named)) (alone insideP insideQ notB storedB)
    · simp only [origin, if_neg elseA] at insideP
      rcases relabelled.folder_cases foundB with ⟨hereB, named⟩ | ⟨elseB, notB, oldB, storedB, nameB⟩
      · simp only [origin, if_pos hereB] at insideQ
        exact absurd (nameA.trans (same.trans named)) (alone insideQ insideP notA storedA)
      · simp only [origin, if_neg elseB] at insideQ
        rw [Inside, parentOf_of_folder? storedA] at insideP
        rw [Inside, parentOf_of_folder? storedB] at insideQ
        have sameName := nameA.trans (same.trans nameB.symm)
        rcases distinct.folders storedA storedB insideP insideQ sameName with same | ⟨_, here | here⟩
        · exact same
        · exact absurd here notA
        · exact absurd here notB
  -- No file changes its name, and what is left of the exception is about a folder.
  · intro a b parent f g foundA foundB listedA listedB same
    rw [relabelled.files] at foundA foundB
    obtain ⟨oldA, storedA, rfl⟩ := Option.map_eq_some_iff.mp foundA
    obtain ⟨oldB, storedB, rfl⟩ := Option.map_eq_some_iff.mp foundB
    obtain ⟨p, memberA, rfl⟩ := Relabelled.listed listedA
    obtain ⟨q, memberB, follows⟩ := Relabelled.listed listedB
    cases back (wf.fileParent storedA memberA) (wf.fileParent storedB memberB) follows
    have kept (file : File) : (file.repoint id renamed).name = file.name := by
      unfold File.repoint
      split <;> rfl
    rw [kept, kept] at same
    have noFile := file?_eq_none_of_folder? stored
    rcases distinct.files storedA storedB memberA memberB same with same | ⟨_, rfl | rfl⟩
    · exact same
    · simp [noFile] at storedA
    · simp [noFile] at storedB

/-- The item has a name of its own after all. -/
theorem DistinctNamesBut.distinct_of_folder {folder : Folder} (distinct : c.DistinctNamesBut id place)
    (stored : c.folder? id = some folder)
    (free : ∀ parent, folder.parent = some parent → c.FreeFolderName folder.name parent (some id)) :
    c.DistinctNames where
  folders {a b parent f g} foundA foundB insideA insideB same := by
    -- The one folder that may share its name has a free one by now.
    rcases distinct.folders foundA foundB insideA insideB same with same | ⟨_, rfl | rfl⟩
    · exact same
    · cases stored.symm.trans foundA
      by_contra differs
      exact free parent insideA foundB insideB (by simpa using Ne.symm differs) same.symm
    · cases stored.symm.trans foundB
      by_contra differs
      exact free parent insideB foundA insideA (by simpa using differs) same
  files {a b parent f g} foundA foundB listedA listedB same := by
    have noFile := file?_eq_none_of_folder? stored
    rcases distinct.files foundA foundB listedA listedB same with same | ⟨_, rfl | rfl⟩
    · exact same
    · simp [noFile] at foundA
    · simp [noFile] at foundB

theorem DistinctNamesBut.distinct_of_file {file : File} (distinct : c.DistinctNamesBut id place)
    (stored : c.file? id = some file)
    (free : ∀ parent ∈ file.parents, c.FreeFileName file.name parent (some id)) :
    c.DistinctNames where
  folders {a b parent f g} foundA foundB insideA insideB same := by
    have noFolder := folder?_eq_none_of_file? stored
    rcases distinct.folders foundA foundB insideA insideB same with same | ⟨_, rfl | rfl⟩
    · exact same
    · simp [noFolder] at foundA
    · simp [noFolder] at foundB
  files {a b parent f g} foundA foundB listedA listedB same := by
    rcases distinct.files foundA foundB listedA listedB same with same | ⟨_, rfl | rfl⟩
    · exact same
    · cases stored.symm.trans foundA
      by_contra differs
      exact free parent listedA foundB listedB (by simpa using Ne.symm differs) same.symm
    · cases stored.symm.trans foundB
      by_contra differs
      exact free parent listedB foundA listedA (by simpa using differs) same

/-- The item got to `place` and no further: nothing but its place has changed, and it may lie beside one
of its name there. -/
structure Stuck (c c' : Contents) (item place : EntityId) : Prop where
  rearranged : Rearranged c c'
  names : c'.DistinctNamesBut item place

end Contents

section

variable {setup : Setup τ} {desk after : Desk (Cabinet τ)} {id desired place : EntityId}
  {name : String} {source target : Option EntityId} {result : Except RequestError Unit}

/-- Either the folder gets its name or everything stays. -/
theorem FolderRelabel.distinctNames {old : Listing} {folder : Folder}
    (ended : FolderRelabel setup desk old desired name result after) (reliable : setup.Reliable)
    (wf : desk.world.store.contents.WellFormed)
    (distinct : desk.world.store.contents.DistinctNamesBut old.id place)
    (stored : desk.world.store.contents.folder? old.id = some folder)
    (sameName : desired = old.id → folder.name = name)
    (free : ∀ parent, folder.parent = some parent →
      desk.world.store.contents.FreeFolderName name parent (some old.id))
    (children : ∀ x, x ∈ old.childFolders ↔ desk.world.store.contents.Inside x old.id) :
    after.world.store.contents.DistinctNames ∨ ∃ error extra, result = .error error ∧
      desk.Kept after extra := by
  cases ended with
  | stays same =>
    rw [← sameName same] at free
    exact .inl (distinct.distinct_of_folder stored free)
  | failed failed =>
    obtain ⟨extra, kept, _⟩ := failed
    exact .inr ⟨_, extra, rfl, kept⟩
  | @renamed named _ contents unused _ relabelled rewrote _ _ =>
    have apart : ¬ desk.world.store.contents.Inside old.id old.id := fun inside =>
      wf.loopFree.not_below_of_inside inside (below_refl _ _)
    have whole := (relabelled apart children).distinctNames wf unused distinct stored free
    rw [show contents = named.world.store.contents by rw [rewrote.store]] at whole
    exact .inl whole
  | broke _ _ broke => exact absurd broke.canFail reliable

theorem FolderRename.distinctNames
    (ended : FolderRename setup desk id target desired result after) (reliable : setup.Reliable)
    (tidy : desk.world.store.contents.Tidy) :
    after.world.store.contents.DistinctNames ∨
      ∃ place error, target = some place ∧ result = .error error ∧
        after.report.failures = desk.report.failures ∧
        after.report.tally = { desk.report.tally with
          foldersMoved := desk.report.tally.foldersMoved + 1 } ∧
        Stuck desk.world.store.contents after.world.store.contents id place := by
  cases ended with
  | kept kept _ => exact .inl (kept.store ▸ tidy.distinct)
  | failed failed =>
    obtain ⟨_, kept, _⟩ := failed
    exact .inl (kept.store ▸ tidy.distinct)
  | @placed between _ listing folder _ listed sameId place free relocated ended _ =>
    have found := (Contents.listing?_eq_some_iff.mp listed).1
    cases Contents.id_of_folder? found
    have children := (relocated.children tidy.wellFormed.loopFree (sameId ▸ listed)).2
    have stored := relocated.stored
    rw [sameId] at stored
    have sameName (same : desired = listing.id) :
        Action.nameAfter listing.id desired listing.name = listing.name := by
      simp [Action.nameAfter, same]
    cases relocated with
    -- Where it was not relocated, a failure leaves everything as it was.
    | stays kept stored' =>
      rw [sameId] at stored'
      cases stored'.symm.trans found
      rw [← kept.store] at free tidy
      rcases ended.distinctNames reliable tidy.wellFormed (tidy.distinct.but _ listing.id) stored
        (fun same => (sameName same).symm) free children with distinct | ⟨_, _, _, kept'⟩
      · exact .inl distinct
      · exact .inl (kept'.store ▸ tidy.distinct)
    | @moved old goal into reparents changed =>
      cases into
      have sameOld : old.id = listing.id := sameId
      have storedOld := reparents.stored
      rw [sameOld] at storedOld
      cases storedOld.symm.trans found
      have goes : target = some goal := by
        cases target with
        | none => exact absurd place.symm reparents.changes
        | some other => exact place.symm
      -- In its new place it has its old name for now, and that may be taken there.
      have contents : between.world.store.contents =
          desk.world.store.contents.insert (.folder (listing.toFolder.into goal)) := by
        rw [changed.store_eq]
        rfl
      have distinct : between.world.store.contents.DistinctNamesBut listing.id goal :=
        contents ▸ tidy.distinct.insert_folder_into listing.toFolder goal
      have wf : between.world.store.contents.WellFormed :=
        changed.store_eq ▸ reparents.wellFormed tidy.wellFormed
      have free' (parent : EntityId) (up : (listing.toFolder.into goal).parent = some parent) :
          between.world.store.contents.FreeFolderName
            (Action.nameAfter listing.id desired listing.name) parent (some listing.id) := by
        rw [contents]
        exact FreeFolderName.insert_folder (listing.toFolder.into goal) rfl (free parent up)
      rcases ended.distinctNames reliable wf distinct stored (fun same => (sameName same).symm) free'
        children with distinct | ⟨error, _, failed, kept⟩
      · exact .inl distinct
      · refine .inr ⟨goal, error, goes, failed, kept.failures.trans changed.failures,
          kept.tally.trans changed.tally, ?_, ?_⟩
        · rw [kept.store, contents]
          exact Rearranged.insert_folder found _
        · exact kept.store ▸ distinct

/-- Either the file gets its name or everything stays. -/
theorem FileRelabel.distinctNames {file : File}
    (ended : FileRelabel setup desk file desired name result after) (reliable : setup.Reliable)
    (distinct : desk.world.store.contents.DistinctNamesBut file.id place)
    (stored : desk.world.store.contents.file? file.id = some file)
    (sameName : desired = file.id → file.name = name)
    (free : ∀ parent ∈ file.parents,
      desk.world.store.contents.FreeFileName name parent (some file.id)) :
    after.world.store.contents.DistinctNames ∨ ∃ error extra, result = .error error ∧
      desk.Kept after extra := by
  cases ended with
  | stays same =>
    rw [← sameName same] at free
    exact .inl (distinct.distinct_of_file stored free)
  | failed failed =>
    obtain ⟨extra, kept, _⟩ := failed
    exact .inr ⟨_, extra, rfl, kept⟩
  | renamed labels changed _ _ =>
    rw [changed.store_eq, labels.changed.store_eq]
    exact .inl (distinct.relabel_file free _)
  | stuck _ failed =>
    -- Once begun, the change is stopped by nothing but a call that fails.
    obtain ⟨_, _, ended⟩ := failed
    exact absurd (ended.resolve_left id).canFail reliable

theorem FileRename.distinctNames
    (ended : FileRename setup desk id source target desired result after)
    (reliable : setup.Reliable) (tidy : desk.world.store.contents.Tidy) :
    after.world.store.contents.DistinctNames ∨
      ∃ place error, target = some place ∧ result = .error error ∧
        after.report.failures = desk.report.failures ∧
        after.report.tally = { desk.report.tally with
          filesMoved := desk.report.tally.filesMoved + 1 } ∧
        Stuck desk.world.store.contents after.world.store.contents id place := by
  cases ended with
  | kept kept _ => exact .inl (kept.store ▸ tidy.distinct)
  | failed failed =>
    obtain ⟨_, kept, _⟩ := failed
    exact .inl (kept.store ▸ tidy.distinct)
  | @placed between _ file _ found free refiled ended _ =>
    cases Contents.id_of_file? found
    have stored := refiled.stored
    have sameName (same : desired = file.id) :
        Action.nameAfter file.id desired file.name = file.name := by
      simp [Action.nameAfter, same]
    cases refiled with
    -- As with a folder, a failure leaves everything as it was.
    | stays kept _ same =>
      rw [same] at ended stored free
      have listed (parent : EntityId) (member : parent ∈ file.parents) :
          between.world.store.contents.FreeFileName (Action.nameAfter file.id desired file.name) parent
            (some file.id) :=
        kept.store ▸ free parent member (tidy.wellFormed.fileParent found member)
      rcases ended.distinctNames reliable (kept.store ▸ tidy.distinct.but _ file.id) stored
        (fun same => (sameName same).symm) listed with distinct | ⟨_, _, _, kept'⟩
      · exact .inl distinct
      · exact .inl ((kept'.store.trans kept.store) ▸ tidy.distinct)
    | @moved goal place relists changed =>
      have moved : file.relocate source target = (file.reparent source goal).1 := by
        simp [File.relocate, place]
      have goes : target = some goal := (Option.filter_eq_some_iff.mp place).1
      rw [moved] at ended stored free
      have contents : between.world.store.contents =
          desk.world.store.contents.insert (.file (file.reparent source goal).1) := by
        rw [changed.store_eq]
        rfl
      have distinct : between.world.store.contents.DistinctNamesBut file.id goal :=
        contents ▸ tidy.distinct.insert_file_reparent found source goal
      -- The new name is known to be free wherever the file is listed now.
      have there (parent : EntityId) (member : parent ∈ (file.reparent source goal).1.parents) :
          ∃ folder, desk.world.store.contents.folder? parent = some folder := by
        rcases File.mem_parents_reparent.mp member with rfl | ⟨listed, _⟩
        · exact relists.destination
        · exact tidy.wellFormed.fileParent found listed
      have listed (parent : EntityId) (member : parent ∈ (file.reparent source goal).1.parents) :
          between.world.store.contents.FreeFileName (Action.nameAfter file.id desired file.name) parent
            (some file.id) := by
        rw [contents]
        exact FreeFileName.insert_file (file.reparent source goal).1 rfl
          (free parent member (there parent member))
      rcases ended.distinctNames reliable distinct stored (fun same => (sameName same).symm) listed
        with distinct | ⟨error, _, failed, kept⟩
      · exact .inl distinct
      · refine .inr ⟨goal, error, goes, failed, kept.failures.trans changed.failures,
          kept.tally.trans changed.tally, ?_, ?_⟩
        · rw [kept.store, contents]
          exact Rearranged.insert_file found _
        · exact kept.store ▸ distinct

end

namespace Request

variable {depth : Nat} {request : Request} {cabinet after : Cabinet τ}
  {result : Except RequestError Report}

/-- The request is about this folder or this file alone. -/
def IsAbout (request : Request) (item : EntityId) : Prop :=
  request.paths = [.ofFolder item] ∨ ∃ folder, request.paths = [⟨folder, some item⟩]

/-- All siblings have distinct names, or else the only item of the request failed after it had been
relocated, and at most it has its old name in common with what lies in its new place. -/
def DistinctOrStuck (request : Request) (c c' : Contents) (report : Report) : Prop :=
  c'.DistinctNames ∨
    ∃ item place error, request.IsAbout item ∧ request.destination.folder = some place ∧
      report.failures = [error] ∧
      (report.tally = { foldersMoved := 1 } ∨ report.tally = { filesMoved := 1 }) ∧
      Stuck c c' item place

theorem meets_workOn_single {path : Path} {desk : Desk (Cabinet τ)} (reliable : setup.Reliable)
    (tidy : desk.world.store.contents.Tidy) (only : request.paths = [path])
    (named : request.destination.leaf.isSome = true) (fresh : desk.report.tally = {})
    (unfailing : desk.report.failures = []) :
    (workOn setup.host depth .move .single request.destination path).Meets desk fun result after =>
      request.DistinctOrStuck desk.world.store.contents after.world.store.contents
        (reportAfter after.report result) := by
  obtain ⟨desired, leaf⟩ := Option.isSome_iff_exists.mp named
  obtain ⟨folder, file⟩ := path
  have about (item : EntityId) (here : folder = some item ∧ file = none ∨ file = some item) :
      request.IsAbout item := by
    rcases here with ⟨rfl, rfl⟩ | rfl
    · exact .inl only
    · exact .inr ⟨folder, only⟩
  unfold workOn
  rw [show request.destination = ⟨request.destination.folder, some desired⟩ by rw [← leaf]]
  cases file with
  | some file =>
    refine (Action.meets_renameFile file folder _ desired).mono fun result after ended => ?_
    rcases ended.distinctNames reliable tidy with
      distinct | ⟨place, error, goes, rfl, failures, tally, stuck⟩
    · exact .inl distinct
    · refine .inr ⟨file, place, error, about file (.inr rfl), goes, ?_, .inr ?_, stuck⟩
      · simp [reportAfter, failures, unfailing]
      · simp [reportAfter, tally, fresh]
  | none =>
    cases folder with
    | some folder =>
      refine (Action.meets_renameFolder depth folder _ desired).mono fun result after ended => ?_
      rcases ended.distinctNames reliable tidy with
        distinct | ⟨place, error, goes, rfl, failures, tally, stuck⟩
      · exact .inl distinct
      · refine .inr ⟨folder, place, error, about folder (.inl ⟨rfl, rfl⟩), goes, ?_, .inl ?_, stuck⟩
        · simp [reportAfter, failures, unfailing]
        · simp [reportAfter, tally, fresh]
    | none => exact .pure (.inl tidy.distinct)

/-- An item that gets a name of its own has it to itself. It may share its old name only if it failed
after it had been relocated, and then only with what lies in its new place. -/
theorem distinctNames_or_stuck (reliable : setup.Reliable) (tidy : cabinet.store.contents.Tidy)
    (single : request.modeIn cabinet.store.contents = .single)
    (ran : request.plan setup.host depth cabinet = some (result, after)) :
    ∃ report, result = .ok report ∧
      request.DistinctOrStuck cabinet.store.contents after.store.contents report := by
  rcases classifyAndRun_cases ran with
    ⟨_, _, _, canFail, _⟩ | ⟨between, _, report, rfl, store, _, _, ran⟩
  · exact absurd canFail reliable
  rw [single] at ran
  rw [← store] at tidy ⊢
  obtain ⟨_, desk, worked, rfl, rfl⟩ := work_of_run ran
  obtain ⟨named, path, only⟩ := paths_of_modeIn single
  have meets : (workAll setup.host depth .move .single request).Meets
      (request.desk .move .single between) fun _ after =>
        request.DistinctOrStuck between.store.contents after.world.store.contents after.report := by
    refine meets_workAll_only only ?_ ?_
    · exact fun after store _ => .inl (store ▸ tidy.distinct)
    · intro begun looked
      have tidy' : begun.world.store.contents.Tidy := looked.store ▸ tidy
      refine (meets_workOn_single reliable tidy' only named ?_ ?_).mono ?_
      · rw [looked.report]
        rfl
      · rw [looked.report]
        rfl
      · intro result ended holds after store report
        rw [store, report, ← show begun.world.store = between.store from looked.store]
        exact holds
  exact ⟨desk.report, rfl, meets _ _ worked⟩

end Request

namespace Sample

def fresh : EntityId := ⟨drive, ⟨"fresh", by decide⟩⟩

/-- A folder is to go beside another one of its name and to get a name that nobody has there. -/
def renamed : Request where
  paths := [.ofFolder note]
  destination := .ofFile docs fresh
  interactive := false

/-- The new name is one that nobody may use. -/
def guarded : MemoryStore := { nest with editDenied := .ofList [fresh] }

end Sample

open Sample in
theorem Request.not_distinctNames_guarded : guarded.contents.Tidy ∧
    renamed.modeIn guarded.contents = .single ∧ ∃ result after,
    plan Setup.quiet.host 9 renamed ⟨guarded, (), []⟩ = some (result, after) ∧
    ¬ after.store.contents.DistinctNames := by
  refine ⟨nest_tidy, by decide, ?_⟩
  have stuck : ((plan Setup.quiet.host 9 renamed ⟨guarded, (), []⟩).map fun outcome =>
      (outcome.2.store.contents.folder? note, outcome.2.store.contents.folder? inner)) =
      some (some ⟨note, "note", some docs⟩, some ⟨inner, "note", some docs⟩) := by decide +kernel
  obtain ⟨⟨result, after⟩, ran, found⟩ := Option.map_eq_some_iff.mp stuck
  obtain ⟨foundNote, foundInner⟩ := Prod.mk.inj found
  refine ⟨result, after, ran, fun distinct => ?_⟩
  have same := distinct.folders foundNote foundInner rfl rfl rfl
  exact absurd same (by decide)

open Sample in
theorem Request.distinctNames_or_stuck_nest : ∃ report after,
    plan Setup.quiet.host 9 renamed ⟨nest, (), []⟩ = some (.ok report, after) ∧
    after.store.contents.folder? fresh = some ⟨fresh, "fresh", some docs⟩ ∧
    renamed.DistinctOrStuck nest.contents after.store.contents report := by
  have moved : ((plan Setup.quiet.host 9 renamed ⟨nest, (), []⟩).map
      fun outcome => outcome.2.store.contents.folder? fresh) =
      some (some ⟨fresh, "fresh", some docs⟩) := by decide +kernel
  obtain ⟨⟨result, after⟩, ran, inDocs⟩ := Option.map_eq_some_iff.mp moved
  obtain ⟨report, rfl, holds⟩ := distinctNames_or_stuck Setup.quiet_reliable nest_tidy (by decide) ran
  exact ⟨report, after, ran, inDocs, holds⟩

end Filing
