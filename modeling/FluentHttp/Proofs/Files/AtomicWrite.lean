import FluentHttp.Proofs.Files.Changes

/-!
# FluentHttp.Proofs.Files.AtomicWrite

What writing a file by way of another one leaves behind, wherever it breaks off.

A disk decides for each operation whether a fault befalls it, so a statement about all disks is one
about all points of failure. A write that breaks off has made directories at most, or has also
touched the file beside the one that it was to write (`AtomicWrite`, with a case for each way to
end). So the file itself has its old content or, in the end, the new one
(`allOrNothing_writeAtomic`).
-/

namespace FluentHttp.Files

open Store (Frame)

/-! ### Operations on a disk -/

namespace Disk

variable {α : Type}

/-- The result of an action on a disk, and the disk after it. -/
def perform (disk : Disk) (action : StateM Disk α) : α × Disk :=
  action disk

theorem perform_bind {β : Type} (disk : Disk) (action : StateM Disk α)
    (next : α → StateM Disk β) : disk.perform (action >>= next) =
      (disk.perform action).2.perform (next (disk.perform action).1) :=
  rfl

/-- An operation succeeds as on the store, or fails. A failure leaves the store as it was, unless
a fault says otherwise. -/
theorem operate_cases (action : Store → Except FileError (α × Store))
    (broken : Fault → Store → Store) (disk : Disk) :
    (∃ value after, disk.perform (operate action broken) = (.ok value, after) ∧
        action disk.store = .ok (value, after.store)) ∨
      ∃ error after, disk.perform (operate action broken) = (.error error, after) ∧
        (after.store = disk.store ∨ ∃ fault, after.store = broken fault disk.store) := by
  unfold perform operate
  split
  next fault faults _ => exact .inr ⟨_, _, rfl, .inr ⟨fault, rfl⟩⟩
  all_goals
    dsimp only
    split
    next value store haction => exact .inl ⟨_, _, rfl, haction⟩
    next error _ => exact .inr ⟨_, _, rfl, .inl rfl⟩

/-- An operation that is told by the store after it succeeds as on the store, or fails. -/
theorem operate_map_cases (action : Store → Except FileError Store)
    (broken : Fault → Store → Store) (disk : Disk) :
    (∃ after, disk.perform (operate (fun store => (action store).map ((), ·)) broken) =
        (.ok (), after) ∧ action disk.store = .ok after.store) ∨
      ∃ error after, disk.perform (operate (fun store => (action store).map ((), ·)) broken) =
        (.error error, after) ∧
          (after.store = disk.store ∨ ∃ fault, after.store = broken fault disk.store) := by
  refine (operate_cases _ broken disk).imp_left ?_
  rintro ⟨value, after, hrun, haction⟩
  refine ⟨after, hrun, ?_⟩
  cases hresult : action disk.store with
  | error error => rw [hresult] at haction; cases haction
  | ok store =>
      rw [hresult] at haction
      exact congrArg _ (Prod.mk.inj (Except.ok.inj haction)).2

/-- An operation that no fault breaks halfway succeeds as on the store, or leaves it as it was. -/
theorem operate_whole_cases (action : Store → Except FileError Store) (disk : Disk) :
    (∃ after, disk.perform (operate (fun store => (action store).map ((), ·)) fun _ => id) =
        (.ok (), after) ∧ action disk.store = .ok after.store) ∨
      ∃ error after, disk.perform
          (operate (fun store => (action store).map ((), ·)) fun _ => id) =
        (.error error, after) ∧ after.store = disk.store := by
  refine (operate_map_cases action (fun _ => id) disk).imp_right ?_
  rintro ⟨error, after, hrun, hafter | ⟨fault, hafter⟩⟩
  · exact ⟨error, after, hrun, hafter⟩
  · exact ⟨error, after, hrun, hafter⟩

theorem makeDirectory_cases (path : Path) (disk : Disk) :
    (∃ after, disk.perform (FileSystem.makeDirectory path) = (.ok (), after) ∧
        disk.store.makeDirectory path = .ok after.store) ∨
      ∃ error after, disk.perform (FileSystem.makeDirectory path) = (.error error, after) ∧
        after.store = disk.store :=
  operate_whole_cases (·.makeDirectory path) disk

theorem move_cases (source target : Path) (disk : Disk) :
    (∃ after, disk.perform (FileSystem.move source target) = (.ok (), after) ∧
        disk.store.move source target = .ok after.store) ∨
      ∃ error after, disk.perform (FileSystem.move source target) = (.error error, after) ∧
        after.store = disk.store :=
  operate_whole_cases (·.move source target) disk

/-- A write that fails may have come as far as to open the file. -/
theorem write_cases (path : Path) (content : String) (disk : Disk) :
    (∃ after, disk.perform (FileSystem.write path content) = (.ok (), after) ∧
        disk.store.write path content = .ok after.store) ∨
      ∃ error after, disk.perform (FileSystem.write path content) = (.error error, after) ∧
        (after.store = disk.store ∨ ∃ place leftover, disk.store.findTarget path = .ok place ∧
          after.store = disk.store.put place (.file leftover)) := by
  refine (operate_map_cases (·.write path content) (brokenWrite path) disk).imp_right ?_
  rintro ⟨error, after, hrun, hafter | ⟨fault, hafter⟩⟩
  · exact ⟨error, after, hrun, .inl hafter⟩
  · unfold brokenWrite at hafter
    split at hafter
    next leftover place _ hplace =>
      exact ⟨error, after, hrun, .inr ⟨place, leftover, hplace, hafter⟩⟩
    next => exact ⟨error, after, hrun, .inl hafter⟩

/-! ### Making directories -/

/-- An action on a disk that touches no file. -/
def Spares (action : StateM Disk α) : Prop :=
  ∀ disk : Disk, Frame [] disk.store (disk.perform action).2.store

theorem Spares.pure (value : α) : Spares (pure value : StateM Disk α) :=
  fun disk => .refl [] disk.store

theorem Spares.bind {β : Type} {action : StateM Disk α} {next : α → StateM Disk β}
    (haction : Spares action) (hnext : ∀ value, Spares (next value)) : Spares (action >>= next) :=
  fun disk => (haction disk).trans (hnext (disk.perform action).1 (disk.perform action).2)

theorem spares_makeDirectory (path : Path) : Spares (FileSystem.makeDirectory path) := by
  intro disk
  obtain ⟨after, hrun, hafter⟩ | ⟨error, after, hrun, hafter⟩ := makeDirectory_cases path disk
  · rw [hrun]
    exact Store.frame_of_makeDirectory hafter
  · rw [hrun, hafter]
    exact .refl [] disk.store

theorem spares_isDirectory (path : Path) : Spares (FileSystem.isDirectory path) := by
  refine .bind (fun disk => ?_) fun answer => ?_
  · obtain ⟨answer, after, hrun, haction⟩ | ⟨error, after, hrun, hafter | ⟨fault, hafter⟩⟩ :=
      operate_cases (fun store => .ok (store.isDirectory path, store)) (fun _ store => store) disk
    · rw [hrun, ← (Prod.mk.inj (Except.ok.inj haction)).2]
      exact .refl [] disk.store
    · rw [hrun, hafter]
      exact .refl [] disk.store
    · rw [hrun, hafter]
      exact .refl [] disk.store
  · cases answer <;> exact .pure _

theorem spares_settle (path : Path) (outcome : Except FileError Unit) :
    Spares (makeDirectories.settle path outcome) := by
  unfold makeDirectories.settle
  split
  next => exact .pure _
  next =>
    refine .bind (spares_isDirectory path) fun answer => ?_
    split <;> exact .pure _

/-- Making directories, each after those above it, touches no file, however far it comes. -/
theorem spares_makeDirectories (paths : List Path) : Spares (makeDirectories paths) := by
  induction paths with
  | nil => exact .pure _
  | cons path above ih =>
      rw [makeDirectories]
      refine .bind (spares_makeDirectory path) fun outcome => ?_
      split
      next => exact .pure _
      next error =>
        split_ifs
        · refine .bind ih fun made => ?_
          split
          next => exact .bind (spares_makeDirectory path) fun outcome => spares_settle path outcome
          next => exact .pure _
        · exact spares_settle path _

/-! ### Steps that may fail -/

section Blaming

variable {disk after : Disk} {path : Path} {action : StateM Disk (Except FileError Unit)}
  {next : Unit → ExceptT WriteError (StateM Disk) α} {cause : FileError}

theorem perform_blaming_bind_of_error (h : disk.perform action = (.error cause, after)) :
    disk.perform (blaming path action >>= next).run = (.error { path, cause }, after) := by
  rw [ExceptT.run_bind, perform_bind, blaming, ExceptT.run_mk, perform_bind, h]
  rfl

theorem perform_blaming_bind_of_ok (h : disk.perform action = (.ok (), after)) :
    disk.perform (blaming path action >>= next).run = after.perform (next ()).run := by
  rw [ExceptT.run_bind, perform_bind, blaming, ExceptT.run_mk, perform_bind, h]
  rfl

theorem perform_blaming_of_error (h : disk.perform action = (.error cause, after)) :
    disk.perform (blaming path action).run = (.error { path, cause }, after) := by
  rw [← bind_pure (blaming path action), perform_blaming_bind_of_error h]

theorem perform_blaming_of_ok (h : disk.perform action = (.ok (), after)) :
    disk.perform (blaming path action).run = (.ok (), after) := by
  rw [← bind_pure (blaming path action), perform_blaming_bind_of_ok h]
  rfl

end Blaming

end Disk

/-! ### The steps of a write -/

/-- How a file comes to be written by way of the one beside it, and what is left where that breaks
off. -/
inductive AtomicWrite (path : Path) (content : String) (before : Store) :
    Except WriteError Unit → Store → Prop
  /-- Nothing was written; some directories may have been made. -/
  | unwritten {error : WriteError} {after : Store} (hmade : Frame [] before after) :
    AtomicWrite path content before (.error error) after
  /-- What was written, if not all of the content, is left in the file beside. -/
  | unmoved {error : WriteError} {made : Store} {place : Place} {leftover : String}
    (hmade : Frame [] before made)
    (hplace : made.findTarget (path.withExtension "tmp") = .ok place) :
    AtomicWrite path content before (.error error) (made.put place (.file leftover))
  /-- The file beside has taken the place of the file. -/
  | moved {made after : Store} {place : Place} (hmade : Frame [] before made)
    (hplace : made.findTarget (path.withExtension "tmp") = .ok place)
    (hmove : (made.put place (.file content)).move (path.withExtension "tmp") path = .ok after) :
    AtomicWrite path content before (.ok ()) after

/-- Once the directories are there, the write goes on in one of these ways. -/
theorem atomicWrite_of_made {before : Store} (path : Path) (content : String) {made : Disk}
    (hmade : Frame [] before made.store) :
    ∃ outcome after, made.perform (do
        blaming (path.withExtension "tmp") (FileSystem.write (path.withExtension "tmp") content)
        blaming path (FileSystem.move (path.withExtension "tmp") path) :
          ExceptT WriteError (StateM Disk) Unit).run = (outcome, after) ∧
      AtomicWrite path content before outcome after.store := by
  obtain ⟨written, hwrite, hstore⟩ | ⟨error, after, hwrite, hleft⟩ :=
    Disk.write_cases (path.withExtension "tmp") content made
  · rw [Disk.perform_blaming_bind_of_ok hwrite]
    obtain ⟨place, hplace, hput⟩ := Store.exists_of_write hstore
    obtain ⟨moved, hmove, hmoved⟩ | ⟨error, after, hmove, hafter⟩ :=
      Disk.move_cases (path.withExtension "tmp") path written
    · exact ⟨_, _, Disk.perform_blaming_of_ok hmove, .moved hmade hplace (hput ▸ hmoved)⟩
    · refine ⟨_, _, Disk.perform_blaming_of_error hmove, ?_⟩
      rw [hafter, hput]
      exact .unmoved hmade hplace
  · refine ⟨_, _, Disk.perform_blaming_bind_of_error hwrite, ?_⟩
    obtain hunwritten | ⟨place, leftover, hplace, hput⟩ := hleft
    · exact .unwritten (hunwritten ▸ hmade)
    · exact hput ▸ .unmoved hmade hplace

/-- Every run of a write is one of these. -/
theorem atomicWrite_writeAtomic (path : Path) (content : String) (disk : Disk) :
    ∃ outcome after, disk.perform (writeAtomic path content).run = (outcome, after) ∧
      AtomicWrite path content disk.store outcome after.store := by
  unfold writeAtomic
  cases path.parent? with
  | none => exact atomicWrite_of_made path content (.refl [] disk.store)
  | some parent =>
      dsimp only
      have hspared := Disk.spares_makeDirectories parent.ancestors disk
      rcases hmake : disk.perform (makeDirectories parent.ancestors) with ⟨cause | _, made⟩
      all_goals rw [hmake] at hspared
      · exact ⟨_, made, Disk.perform_blaming_bind_of_error hmake, .unwritten hspared⟩
      · rw [Disk.perform_blaming_bind_of_ok hmake]
        exact atomicWrite_of_made path content hspared

/-! ### Old or new -/

/-- A file was replaced as a whole, or not at all. -/
structure AllOrNothing (path : Path) (content : String) (before : Store)
    (outcome : Except WriteError Unit) (after : Store) : Prop where
  /-- No file is touched but that of the path and the one beside it. -/
  frame : ∃ touched, Frame touched before after ∧
    ∀ place ∈ touched, after.place? path = some place ∨ after.sibling? path "tmp" = some place
  /-- After a failure, the file at the place of the path is as it was, or absent as it was. -/
  content?_eq : outcome ≠ .ok () → ∀ place,
    before.place? path = some place ∨ after.place? path = some place →
      after.content? place = before.content? place
  /-- After a failure, what could be read can be read. -/
  read_eq : outcome ≠ .ok () → ∀ old, before.read path = .ok old → after.read path = .ok old
  /-- After a success, the file has the content. -/
  replaced : outcome = .ok () → after.read path = .ok content ∧
    ∃ place, after.place? path = some place ∧ after.content? place = some content
  /-- After a success, the file beside is gone. -/
  gone : outcome = .ok () → after.read (path.withExtension "tmp") = .error .notFound ∧
    ∃ place, after.sibling? path "tmp" = some place ∧ after.node? place = none

namespace AtomicWrite

variable {path : Path} {content : String} {before after : Store}

/-- A write that fails touches the file beside at most. -/
theorem exists_frame_of_error {error : WriteError}
    (h : AtomicWrite path content before (.error error) after) :
    ∃ touched, Frame touched before after ∧
      ∀ place ∈ touched, after.sibling? path "tmp" = some place := by
  cases h with
  | unwritten hmade => exact ⟨[], hmade, List.forall_mem_nil _⟩
  | @unmoved _ made place leftover hmade hplace =>
      obtain ⟨hfinds, -⟩ := Store.finds_of_findTarget hplace
      obtain ⟨hput, -⟩ := Store.put_of_findTarget hplace leftover
      refine ⟨[place], (hmade.mono (List.nil_subset _)).trans hput, ?_⟩
      refine List.forall_mem_singleton.2 (hput.sibling?_eq_some ?_)
      exact Store.sibling?_of_place?_withExtension hfinds.place?_eq

/-- A write that succeeds puts the content at the place of the path and leaves nothing beside it. -/
theorem exists_frame_of_ok (h : AtomicWrite path content before (.ok ()) after) :
    ∃ beside target, Frame [beside, target] before after ∧
      after.Finds (path.withExtension "tmp") beside ∧ after.Finds path target ∧
      after.node? target = some (.file content) ∧
      (beside ≠ target → after.node? beside = none) := by
  cases h with
  | @moved made _ place hmade hplace hmove =>
      obtain ⟨hfinds, -⟩ := Store.finds_of_findTarget hplace
      obtain ⟨hput, hcontent⟩ := Store.put_of_findTarget hplace content
      obtain ⟨old, target, text, hold, htarget, htext, hdirectory, rfl⟩ :=
        Store.exists_of_move hmove
      obtain rfl := hold.unique (hput.finds hfinds)
      obtain rfl : content = text := by simpa [hcontent] using htext
      obtain ⟨hmoved, hnode, hgone⟩ := Store.frame_of_move hcontent hdirectory
      refine ⟨old, target, ?_, hmoved.finds hold, hmoved.finds htarget, hnode, hgone⟩
      exact ((hmade.mono (List.nil_subset _)).trans (hput.mono (by simp))).trans hmoved

end AtomicWrite

/-- A file is replaced as a whole or not at all, whatever fails on the way, if its own extension is
not that of the file beside it. -/
theorem allOrNothing_writeAtomic {path : Path} (hext : path.extension? ≠ some "tmp")
    (content : String) (disk : Disk) :
    ∃ outcome after, disk.perform (writeAtomic path content).run = (outcome, after) ∧
      AllOrNothing path content disk.store outcome after.store := by
  obtain ⟨outcome, after, hrun, hwrite⟩ := atomicWrite_writeAtomic path content disk
  refine ⟨outcome, after, hrun, ?_⟩
  cases outcome with
  | error error =>
      have hfailed : (.error error : Except WriteError Unit) ≠ .ok () := by simp
      obtain ⟨touched, hframe, hbeside⟩ := hwrite.exists_frame_of_error
      -- What was touched stands beside the file, so it is not the file.
      have hspared {place : Place} (hplace : after.store.place? path = some place) :
          after.store.content? place = disk.store.content? place :=
        hframe.content?_eq place fun htouched =>
          Store.place?_ne_sibling? hext hplace (hbeside place htouched)
      refine ⟨⟨touched, hframe, fun place hplace => .inr (hbeside place hplace)⟩,
        fun _ place hplace => hspared (hplace.elim hframe.place?_eq_some id), fun _ old hread => ?_,
        fun hok => absurd hok hfailed, fun hok => absurd hok hfailed⟩
      obtain ⟨place, hfinds, hcontent⟩ := Store.exists_of_read hread
      have hafter := hframe.finds hfinds
      exact hafter.read_eq_ok ((hspared hafter.place?_eq).trans hcontent)
  | ok _ =>
      obtain ⟨beside, target, hframe, hbeside, htarget, hnode, hgone⟩ := hwrite.exists_frame_of_ok
      have hsibling := Store.sibling?_of_place?_withExtension hbeside.place?_eq
      have hcontent := Store.content?_eq_some_iff.2 hnode
      -- A file that is moved to its own place stays, so the two places have to be apart here, too.
      have hnone : after.store.node? beside = none := by
        refine hgone ?_
        rintro rfl
        exact Store.place?_ne_sibling? hext htarget.place?_eq hsibling
      refine ⟨⟨_, hframe, ?_⟩, fun hfailed => absurd rfl hfailed, fun hfailed => absurd rfl hfailed,
        fun _ => ⟨htarget.read_eq_ok hcontent, target, htarget.place?_eq, hcontent⟩,
        fun _ => ⟨hbeside.read_eq_notFound hnone, beside, hsibling, hnone⟩⟩
      simp [hsibling, htarget.place?_eq]

/-- A disk with a source on it that runs full while the file beside the source is written. -/
def fullDisk : Disk where
  store :=
    { nodes := [(["src"], .directory), (["src", "App.java"], .file "old")]
      workingDirectory := ["src"] }
  faults := [some { error := .system 28 "No space left on device", leftover := some "n" }]

theorem allOrNothing_writeAtomic_fullDisk :
    (Path.ofText "App.java").extension? ≠ some "tmp" ∧
      ∃ error after,
        fullDisk.perform (writeAtomic (.ofText "App.java") "new").run = (.error error, after) ∧
          AllOrNothing (.ofText "App.java") "new" fullDisk.store (.error error) after.store ∧
          after.store.content? ["src", "App.java"] = some "old" := by
  have hext : (Path.ofText "App.java").extension? ≠ some "tmp" := by decide
  have hfails : (fullDisk.perform (writeAtomic (.ofText "App.java") "new").run).1 =
      .error { path := .ofText "App.tmp", cause := .system 28 "No space left on device" } := by
    decide +kernel
  have hplace : fullDisk.store.place? (.ofText "App.java") = some ["src", "App.java"] := by decide
  have hold : fullDisk.store.content? ["src", "App.java"] = some "old" := by decide
  obtain ⟨outcome, after, hrun, hwritten⟩ := allOrNothing_writeAtomic hext "new" fullDisk
  rw [hrun] at hfails
  subst hfails
  exact ⟨hext, _, after, hrun, hwritten,
    (hwritten.content?_eq (by simp) _ (.inl hplace)).trans hold⟩

end FluentHttp.Files
