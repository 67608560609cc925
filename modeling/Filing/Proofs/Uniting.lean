import Filing.Proofs.Cleanly
import Filing.Proofs.Merging

/-!
# Moving folders together

What a move into a folder comes to if all goes well: the folder is put there as it is
(`Contents.reparented`), or it is merged into the one that has its name (`Contents.Merged`), down to
any depth.
-/
namespace Filing

open Contents

variable {τ : Type} {setup : Setup τ}

/-- The rules of moving into a folder when nobody is asked. -/
def Rules.quietMove : Rules := ⟨.move, .bulk, false⟩

namespace Contents

variable {c c' : Contents} {id target file : EntityId}

theorem relisted_reparent {s : MemoryStore} {f : File} {source : EntityId}
    (stored : s.contents.file? f.id = some f) :
    Relisted s.contents (s.save (.file (f.reparent (some source) target).1)).contents source target
      f.id where
  folders := folder?_relist stored _ _
  names := fileName_relist stored _ _
  lists y other := by
    rw [lists_relist stored]
    simp [eq_comm]

/-- Nothing to save means that the file is listed as if it had been saved. -/
theorem relisted_of_unchanged {f : File} {source : EntityId} (stored : c.file? f.id = some f)
    (same : (f.reparent (some source) target).2 = false) : Relisted c c source target f.id where
  folders _ := rfl
  names _ := rfl
  lists y other := by
    split
    next here =>
      subst here
      -- The parents would come out the same, which is known of them member by member.
      have unchanged : y ∈ (f.reparent (some source) target).1.parents ↔ y ∈ f.parents := by
        rw [File.reparent_of_unchanged same]
      rw [File.mem_parents_reparent] at unchanged
      have listed : c.Lists y f.id ↔ y ∈ f.parents := by simp [Lists, stored]
      rw [listed]
      constructor
      · intro here
        rcases unchanged.mpr here with isTarget | ⟨_, differs⟩
        · exact .inl isTarget
        · exact .inr ⟨here, fun same => differs (congrArg some same.symm)⟩
      · rintro (isTarget | ⟨here, _⟩)
        · exact unchanged.mp (.inl isTarget)
        · exact here
    next => exact Iff.rfl

theorem not_taken_of_free {f : File} (stored : c.file? f.id = some f)
    (free : c.FreeFileName f.name target (some f.id)) : ¬ c.Taken target ([], f.id) := by
  rintro ⟨other, differs, there, same⟩
  obtain ⟨g, found, listed⟩ := mem_view_nil.mp there
  simp only [fileName, found, stored, Option.map_some, Option.some.injEq] at same
  exact free found listed (by simpa using differs) same

theorem taken_of_clash {f existing : File} (stored : c.file? f.id = some f)
    (clash : Clash c f.name existing target (some f.id)) : c.Taken target ([], f.id) := by
  refine ⟨existing.id, ?_, mem_view_nil.mpr ⟨existing, clash.stored, clash.listed⟩, ?_⟩
  · simpa using clash.differs
  · simp [fileName, clash.stored, stored, clash.sameName]

end Contents

namespace Action

theorem cleanly_moveFile (id source target : EntityId) :
    Cleanly .quietMove (moveFile setup.host id (some source) target) fun s _ s' =>
      s.contents.Lists source id → source ≠ target →
        s.contents.Taken target ([], id) ∧ s' = s ∨
        ¬ s.contents.Taken target ([], id) ∧
          Relisted s.contents s'.contents source target id := by
  intro desk
  refine (meets_moveFile id (some source) target).mono fun result after ended clean => ?_
  cases ended with
  | missing kept missing =>
    refine ⟨kept.clean clean, ?_⟩
    rintro _ _ ⟨f, stored, _⟩
    simp [missing] at stored
  | already kept same =>
    refine ⟨kept.clean clean, fun _ _ _ differs => ?_⟩
    exact absurd (Option.some.inj same) differs
  | clashes kept stored clash =>
    refine ⟨kept.clean clean, fun _ _ _ _ => .inl ?_⟩
    cases id_of_file? stored
    exact ⟨taken_of_clash stored clash, kept.store⟩
  | idle stored room same =>
    cases room with
    | free kept free =>
      refine ⟨kept.clean clean, fun _ _ _ _ => .inr ?_⟩
      cases id_of_file? stored
      rw [kept.store]
      exact ⟨not_taken_of_free stored free, relisted_of_unchanged stored same⟩
    -- Nobody is asked, so no other file makes room.
    | evicted displaces changed =>
      have before := changed.clean clean
      have asked := displaces.asked
      simp [before.rules, Rules.quietMove] at asked
  | moved room relists sameId wrote =>
    have between := wrote.clean clean
    subst sameId
    cases room with
    | free kept free =>
      refine ⟨kept.clean between, fun _ _ _ _ => .inr ?_⟩
      rw [wrote.store, kept.store]
      exact ⟨not_taken_of_free relists.stored free, relisted_reparent relists.stored⟩
    | evicted displaces changed =>
      have before := changed.clean between
      have asked := displaces.asked
      simp [before.rules, Rules.quietMove] at asked
  | stuck stored room failed =>
    have between := failed.clean clean
    refine ⟨?_, by rintro _ ⟨⟩⟩
    cases room with
    | free kept _ => exact kept.clean between
    | evicted _ changed => exact changed.clean between
  | failed failed => exact ⟨failed.clean clean, by rintro _ ⟨⟩⟩
  | hindered failed => exact ⟨failed.clean clean, by rintro _ ⟨⟩⟩

theorem cleanly_removeIfEmpty (id : EntityId) :
    Cleanly .quietMove (discard (removeIfEmpty setup.host id)) fun s _ s' =>
      (∃ folder, s.contents.folder? id = some folder) →
        s.contents.Vacant id ∧ s'.contents = s.contents.erase id ∨
        ¬ s.contents.Vacant id ∧ s' = s := by
  intro desk
  refine (meets_removeIfEmpty id).bind ?_ fun error after missed clean => ?_
  · intro removed between ended
    refine .pure fun clean => ?_
    cases removed with
    | true =>
      obtain ⟨dissolves, altered⟩ := ended
      have changed := altered.changed
      refine ⟨changed.clean clean, fun _ _ _ => .inl ⟨dissolves.vacant, ?_⟩⟩
      rw [changed.store_eq]
      rfl
    | false =>
      obtain ⟨_, glanced, filled⟩ := ended
      refine ⟨glanced.kept.clean clean, ?_⟩
      rintro _ _ ⟨folder, stored⟩
      exact .inr ⟨filled folder stored, glanced.store⟩
  · exact ⟨missed.failed.clean clean, by rintro _ ⟨⟩⟩

/-- What the files of `source` come to when they move to `target`. -/
theorem cleanly_moveFiles (files : List EntityId) (source target : EntityId) :
    Cleanly .quietMove
      (files.forM fun child => item setup.host.job (moveFile setup.host child (some source) target))
      fun s _ s' => files.Nodup → s.contents.Tidy →
        (∀ file ∈ files, s.contents.Lists source file) → Beside s.contents source target →
        Merging s.contents s'.contents source target [] fun seen =>
          seen.1 = [] ∧ seen.2 ∈ files := by
  refine .forM (fun s seen s' => files.Nodup → s.contents.Tidy →
      (∀ file ∈ files, s.contents.Lists source file) → Beside s.contents source target →
      Merging s.contents s'.contents source target [] fun q => q.1 = [] ∧ q.2 ∈ seen)
    (fun s _ tidy _ _ => ?_) fun file => ?_
  · exact .of_taken tidy (by simp)
  · have traces : Traces .quietMove (item setup.host.job
        (moveFile setup.host file (some source) target)) := (traces_moveFile rfl rfl file _ target).item
    refine ((Cleanly.item (cleanly_moveFile file source target)).traced traces).mono ?_
    rintro m _ s' ⟨went, steps⟩ s seen later split soFar nodup tidy lists beside
    have before := soFar nodup tidy lists beside
    have fresh : file ∉ seen := by
      rw [split] at nodup
      simp only [List.nodup_append, List.nodup_cons] at nodup
      intro member
      exact nodup.2.2 file member file (by simp) rfl
    -- Only files that were at issue before can have left the folder.
    have listed : m.contents.Lists source file := by
      rw [← mem_view_nil, before.absorbs.left, mem_view_nil]
      exact ⟨lists file (by simp [split]), fun ⟨_, done⟩ => absurd done fresh⟩
    have beside' := before.beside tidy.wellFormed.loopFree (by simp) beside
    have next : Merging m.contents s'.contents source target [] (· = ([], file)) := by
      rcases went listed beside.ne with ⟨taken, rfl⟩ | ⟨free, relisted⟩
      · refine .of_taken before.tidy ?_
        rintro _ rfl
        exact taken
      · have tidy' := tidy_of_steps (by rintro _ ⟨⟩) steps before.tidy
        exact relisted.merging before.tidy.wellFormed.loopFree tidy' listed beside' free
    refine ((before.trans next tidy.distinct (by simp)).congr fun q _ => ?_)
    obtain ⟨path, other⟩ := q
    simp [and_or_left]

/-- The child folders of `source` go over one after another. -/
theorem cleanly_moveFolders {move : EntityId → EntityId → Action (Cabinet τ) Unit}
    (traces : ∀ child target, Traces .quietMove (move child target))
    (arrives : ∀ child target, Cleanly .quietMove (move child target) fun s _ s' =>
      s.contents.Tidy → ∀ folder, folder.id = child → s.contents.Fits folder target →
        s.contents.Arrived folder target s'.contents)
    (folders : List EntityId) (source target : EntityId) :
    Cleanly .quietMove (folders.forM fun child => item setup.host.job (move child target))
      fun s _ s' => folders.Nodup → s.contents.Tidy →
        (∀ child ∈ folders, s.contents.Inside child source) → Beside s.contents source target →
        Merging s.contents s'.contents source target folders fun seen =>
          ∃ child ∈ folders, ∃ name, s.contents.Child source name child ∧ seen.1.head? = some name := by
  refine .forM (fun s seen s' => folders.Nodup → s.contents.Tidy →
      (∀ child ∈ folders, s.contents.Inside child source) → Beside s.contents source target →
      Merging s.contents s'.contents source target seen fun q =>
        ∃ child ∈ seen, ∃ name, s.contents.Child source name child ∧ q.1.head? = some name)
    (fun s _ tidy _ _ => ?_) fun child => ?_
  · exact .of_taken tidy (by simp)
  · refine ((Cleanly.item (arrives child target)).traced (traces child target).item).mono ?_
    rintro m _ s' ⟨went, steps⟩ s seen later split soFar nodup tidy inside beside
    have before := soFar nodup tidy inside beside
    have fresh : child ∉ seen := by
      rw [split] at nodup
      simp only [List.nodup_append, List.nodup_cons] at nodup
      intro member
      exact nodup.2.2 child member child (by simp) rfl
    have children (done : EntityId) (member : done ∈ seen) : s.contents.Inside done source :=
      inside done (by simp [split, member])
    -- What was done to its siblings has not touched this child.
    obtain ⟨folder, stored, up⟩ := inside_iff.mp (inside child (by simp [split]))
    cases id_of_folder? stored
    have loopFree := tidy.wellFormed.loopFree
    have stored' : m.contents.folder? folder.id = some folder :=
      (before.folder?_of_fresh loopFree children (inside _ (by simp [split])) fresh).trans stored
    have beside' := before.beside loopFree children beside
    have arrived := went before.tidy folder rfl (beside'.fits stored' up)
    have tidy' := tidy_of_steps (by rintro _ ⟨⟩) steps before.tidy
    have next := arrived.merging before.tidy tidy' stored' up beside'
    refine (before.trans next tidy.distinct fun done member => (children done member).below).congr ?_
    rintro ⟨path, file⟩ _
    simp [or_and_right, exists_or, child_iff_name stored up]

theorem cleanly_mergeFolder {move : EntityId → EntityId → Action (Cabinet τ) Unit}
    (traces : ∀ child target, Traces .quietMove (move child target))
    (arrives : ∀ child target, Cleanly .quietMove (move child target) fun s _ s' =>
      s.contents.Tidy → ∀ folder, folder.id = child → s.contents.Fits folder target →
        s.contents.Arrived folder target s'.contents)
    (listing : Listing) (target : EntityId) :
    Cleanly .quietMove (mergeFolder setup.host move listing target) fun s _ s' =>
      s.contents.Tidy → s.contents.listing? listing.id = some listing →
        Beside s.contents listing.id target → Merged s.contents s'.contents listing.id target := by
  refine .count (.inLevel ?_)
  refine .bind (cleanly_moveFolders traces arrives listing.childFolders listing.id target) fun _ => ?_
  refine .bind (cleanly_moveFiles listing.childFiles listing.id target) fun _ => ?_
  refine (Cleanly.item (cleanly_removeIfEmpty listing.id)).mono ?_
  intro m₂ _ s' removal m₁ files s folders tidy found beside
  obtain ⟨stored, childFolders, childFiles⟩ := listing?_eq_some_iff.mp found
  rw [childFolders] at folders
  rw [childFiles] at files
  have loopFree := tidy.wellFormed.loopFree
  have children (child : EntityId) (member : child ∈ s.contents.childFolders listing.id) :
      s.contents.Inside child listing.id := mem_childFolders_iff_inside.mp member
  have first := folders (nodup_childFolders _ _) tidy children beside
  have lists (file : EntityId) (member : file ∈ s.contents.childFiles listing.id) :
      m₁.contents.Lists listing.id file := by
    rw [← mem_view_nil, first.absorbs.left, mem_view_nil]
    exact ⟨mem_childFiles.mp member, by simp⟩
  have second := files (nodup_childFiles _ _) first.tidy lists (first.beside loopFree children beside)
  have both := first.trans second tidy.distinct fun child member => (children child member).below
  rw [List.append_nil] at both
  -- Whatever is seen in the folder is seen in a child folder or is a file of its own.
  have all : ∀ seen ∈ s.contents.view listing.id, (∃ child ∈ s.contents.childFolders listing.id,
      ∃ name, s.contents.Child listing.id name child ∧ seen.1.head? = some name) ∨
      seen.1 = [] ∧ seen.2 ∈ s.contents.childFiles listing.id := by
    rintro ⟨path, file⟩ here
    cases path with
    | nil => exact .inr ⟨rfl, mem_childFiles.mpr (mem_view_nil.mp here)⟩
    | cons name path =>
      obtain ⟨child, inside, _⟩ := mem_view_cons.mp here
      exact .inl ⟨child, mem_childFolders_iff_inside.mpr inside.inside, name, inside, rfl⟩
  have still : ∃ folder, m₂.contents.folder? listing.id = some folder :=
    ⟨_, (both.folder?_source loopFree).trans stored⟩
  rcases removal still with ⟨vacant, rest⟩ | ⟨filled, rfl⟩
  · rw [rest]
    exact both.merged_of_vacant all loopFree beside vacant
  · exact both.merged_of_filled all loopFree (by simp [stored]) filled

/-- A folder arrives where it is moved, down to any depth. -/
theorem cleanly_moveFolder (depth : Nat) (id target : EntityId) :
    Cleanly .quietMove (moveFolder setup.host depth id target) fun s _ s' =>
      s.contents.Tidy → ∀ folder, folder.id = id → s.contents.Fits folder target →
        s.contents.Arrived folder target s'.contents := by
  induction depth generalizing id target with
  | zero => exact .tooDeep
  | succ depth ih =>
    intro desk
    refine .moveFolder ?_ ?_ ?_ ?_
    · intro after extra glanced already clean
      refine ⟨glanced.kept.clean clean, ?_⟩
      rintro _ _ _ folder rfl fits
      exact absurd (already folder fits.stored) fits.elsewhere
    · exact fun error after missed clean => ⟨missed.failed.clean clean, by rintro _ ⟨⟩⟩
    · rintro after folder rfl reparents free altered clean
      have changed := altered.changed
      refine ⟨changed.clean clean, fun _ _ _ other sameId fits => ?_⟩
      have same : folder = other := by
        have stored := fits.stored
        rw [sameId, reparents.stored] at stored
        exact Option.some.inj stored
      subst same
      rw [changed.store_eq]
      exact .whole free
    · intro between extra listing there glanced sameId found reparents clash
      have traces (child target : EntityId) :
          Traces .quietMove (moveFolder setup.host depth child target) :=
        traces_moveFolder rfl rfl depth child target
      refine (cleanly_mergeFolder traces ih listing there between).mono fun result after ended clean => ?_
      obtain ⟨clean, merged⟩ := ended clean
      refine ⟨glanced.kept.clean clean, ?_⟩
      rintro _ done tidy folder rfl fits
      cases fits.eq_of_listing found
      obtain ⟨⟨f, stored, inside, sameName⟩, _⟩ := clash
      have fitting : desk.world.store.contents.Child target listing.name there :=
        ⟨f, stored, inside, sameName⟩
      rw [glanced.store] at merged
      exact .merged fitting (merged () done tidy found (fits.beside fitting))

end Action

end Filing
