import FluentHttp.Proofs.Files.Place

/-!
# FluentHttp.Proofs.Files.Changes

What the operations on a store change.

An operation touches the files at some places and leaves all others as they are; directories are
made and never removed (`Store.Frame`). So a path that leads to a place goes on leading there
(`Frame.finds`), whatever happens to the files in between. Each operation that succeeds is told by
the places that its paths lead to (`exists_of_write`, `exists_of_move`, `exists_of_read`).
-/

namespace FluentHttp.Files.Store

variable {store before middle after : Store} {path : Path} {place other : Place} {node : Node}
  {content : String} {touched : List Place}

/-! ### What stands at a place -/

/-- A place where no directory stands is below the root. -/
theorem ne_nil_of_node? (h : store.node? place ≠ some .directory) : place ≠ [] := by
  rintro rfl
  exact h rfl

theorem lookup_filter_of_ne (h : other ≠ place) (nodes : List (Place × Node)) :
    (nodes.filter (·.1 != place)).lookup other = nodes.lookup other := by
  induction nodes with
  | nil => rfl
  | cons entry rest ih =>
      obtain ⟨first, node⟩ := entry
      by_cases hfirst : first = place
      · have hother : (other == first) = false := by simpa [hfirst] using h
        rw [List.filter_cons_of_neg (by simpa using hfirst), ih, List.lookup_cons, hother]
      · rw [List.filter_cons_of_pos (by simpa using hfirst), List.lookup_cons, List.lookup_cons, ih]

theorem node?_erase_of_ne (h : other ≠ place) :
    (store.erase place).node? other = store.node? other := by
  rw [node?, node?, erase, lookup_filter_of_ne h]

theorem node?_erase_self (h : place ≠ []) : (store.erase place).node? place = none := by
  rw [node?, if_neg h, erase, List.lookup_eq_none_iff]
  intro entry hentry
  rw [bne_comm]
  exact (List.mem_filter.1 hentry).2

theorem node?_put_of_ne (h : other ≠ place) :
    (store.put place node).node? other = store.node? other := by
  have hother : (other == place) = false := by simpa using h
  rw [← @node?_erase_of_ne store place other h, node?, node?, put, List.lookup_cons, hother]

theorem node?_put_self (h : place ≠ []) : (store.put place node).node? place = some node := by
  rw [node?, if_neg h, put, List.lookup_cons, beq_self_eq_true]

theorem content?_eq_some_iff :
    store.content? place = some content ↔ store.node? place = some (.file content) := by
  unfold content?
  split <;> simp_all

theorem content?_congr (h : after.node? place = before.node? place) :
    after.content? place = before.content? place := by
  rw [content?, content?, h]

/-! ### What a change leaves alone -/

/-- A change of a store touches the files at some places only. Directories are made in it where
nothing was, but none is removed. -/
structure Frame (touched : List Place) (before after : Store) : Prop where
  workingDirectory_eq : after.workingDirectory = before.workingDirectory
  content?_eq : ∀ place, place ∉ touched → after.content? place = before.content? place
  directory : ∀ place, before.node? place = some .directory → after.node? place = some .directory

namespace Frame

theorem refl (touched : List Place) (store : Store) : Frame touched store store :=
  ⟨rfl, fun _ _ => rfl, fun _ => id⟩

theorem trans (h : Frame touched before middle) (h' : Frame touched middle after) :
    Frame touched before after where
  workingDirectory_eq := h'.workingDirectory_eq.trans h.workingDirectory_eq
  content?_eq place hplace := (h'.content?_eq place hplace).trans (h.content?_eq place hplace)
  directory place hplace := h'.directory place (h.directory place hplace)

/-- A change that touches fewer files is one that touches more. -/
theorem mono {more : List Place} (h : Frame touched before after) (hsub : touched ⊆ more) :
    Frame more before after :=
  ⟨h.workingDirectory_eq, fun place hplace => h.content?_eq place (mt (@hsub place) hplace),
    h.directory⟩

theorem put_directory (h : store.node? place = none) :
    Frame [] store (store.put place .directory) := by
  have hne : place ≠ [] := by
    rintro rfl
    cases h
  have hself := @node?_put_self store place .directory hne
  refine ⟨rfl, fun other _ => ?_, fun other hother => ?_⟩
  · by_cases heq : other = place
    · subst heq
      rw [content?, content?, hself, h]
    · exact content?_congr (node?_put_of_ne heq)
  · by_cases heq : other = place
    · exact heq ▸ hself
    · exact (node?_put_of_ne heq).trans hother

theorem put_file (h : store.node? place ≠ some .directory) (content : String) :
    Frame [place] store (store.put place (.file content)) := by
  refine ⟨rfl, fun other hother => ?_, fun other hother => ?_⟩
  · exact content?_congr (node?_put_of_ne (List.ne_of_not_mem_cons hother))
  · refine (node?_put_of_ne ?_).trans hother
    rintro rfl
    exact h hother

theorem erase (h : store.node? place ≠ some .directory) :
    Frame [place] store (store.erase place) := by
  refine ⟨rfl, fun other hother => ?_, fun other hother => ?_⟩
  · exact content?_congr (node?_erase_of_ne (List.ne_of_not_mem_cons hother))
  · refine (node?_erase_of_ne ?_).trans hother
    rintro rfl
    exact h hother

/-! ### Where paths lead after a change -/

theorem walk_eq_ok (h : Frame touched before after) {here : Place} {pieces : List String}
    (hwalk : before.walk here pieces = .ok place) : after.walk here pieces = .ok place := by
  -- A walk only looks for directories, and these are still there at each of its steps.
  fun_induction before.walk here pieces with
  | case1 here => rw [walk]; exact hwalk
  | case2 here piece rest hstill ih => rw [walk, if_pos hstill]; exact ih hwalk
  | case3 here rest hstill ih => rw [walk, if_neg hstill, if_pos rfl]; exact ih hwalk
  | case4 => cases hwalk
  | case5 => cases hwalk
  | case6 => cases hwalk
  | case7 here piece rest hstill hup hlong next hnode ih =>
      rw [walk, if_neg hstill, if_neg hup, if_neg hlong]
      dsimp only
      rw [h.directory _ hnode]
      exact ih hwalk

theorem start_eq (h : Frame touched before after) (path : Path) :
    after.start path = before.start path := by
  rw [start, start, h.workingDirectory_eq]

theorem directory?_eq_some (h : Frame touched before after)
    (hdirectory : before.directory? path = some place) : after.directory? path = some place := by
  rw [directory?_eq_some_iff] at hdirectory ⊢
  rw [h.start_eq]
  exact h.walk_eq_ok hdirectory

theorem place?_eq_some (h : Frame touched before after) (hplace : before.place? path = some place) :
    after.place? path = some place := by
  obtain ⟨directory, name, hdirectory, hname, heq⟩ := place?_eq_some_iff.1 hplace
  exact place?_eq_some_iff.2 ⟨directory, name, h.directory?_eq_some hdirectory, hname, heq⟩

theorem sibling?_eq_some (h : Frame touched before after) {extension : String}
    (hplace : before.sibling? path extension = some place) :
    after.sibling? path extension = some place := by
  obtain ⟨directory, name, hdirectory, hname, heq⟩ := sibling?_eq_some_iff.1 hplace
  exact sibling?_eq_some_iff.2 ⟨directory, name, h.directory?_eq_some hdirectory, hname, heq⟩

theorem findEnding_eq_ok (h : Frame touched before after) {ending : Ending}
    (hending : before.findEnding path = .ok ending) : after.findEnding path = .ok ending := by
  unfold findEnding at hending ⊢
  rw [h.start_eq]
  dsimp only [bind, Except.bind] at hending ⊢
  split at hending
  next => cases hending
  next =>
    split at hending
    next => exact hending
    next =>
      split at hending
      next => cases hending
      next directory hwalk =>
        rw [h.walk_eq_ok hwalk]
        exact hending

end Frame

/-! ### Files at the end of paths -/

/-- The path ends with the name of a file, which operations find at a place. -/
def Finds (store : Store) (path : Path) (place : Place) : Prop :=
  ∃ ending name, store.findEnding path = .ok ending ∧ ending.name = some name ∧
    ending.slashed = false ∧ ending.directory ++ [name] = place

theorem Finds.place?_eq (h : store.Finds path place) : store.place? path = some place := by
  obtain ⟨ending, name, hending, hname, -, rfl⟩ := h
  exact place?_of_findEnding hending hname

theorem Finds.unique (h : store.Finds path place) (h' : store.Finds path other) : place = other :=
  Option.some.inj (h.place?_eq.symm.trans h'.place?_eq)

theorem Frame.finds (h : Frame touched before after) (hfinds : before.Finds path place) :
    after.Finds path place := by
  obtain ⟨ending, name, hending, hrest⟩ := hfinds
  exact ⟨ending, name, h.findEnding_eq_ok hending, hrest⟩

/-! ### Operations -/

theorem frame_of_makeDirectory (h : store.makeDirectory path = .ok after) :
    Frame [] store after := by
  unfold makeDirectory at h
  dsimp only [bind, Except.bind] at h
  split at h
  next => cases h
  next ending _ =>
    split at h
    next => cases h
    next name _ =>
      split at h
      next => cases h
      next hnode =>
        obtain rfl := Except.ok.inj h
        exact .put_directory hnode

theorem finds_of_findTarget (h : store.findTarget path = .ok place) :
    store.Finds path place ∧ store.node? place ≠ some .directory := by
  unfold findTarget at h
  dsimp only [bind, Except.bind] at h
  split at h
  next => cases h
  next ending hending =>
    split at h
    next name hname hslashed =>
      have hfinds : store.Finds path (ending.directory ++ [name]) :=
        ⟨ending, name, hending, hname, hslashed, rfl⟩
      split at h
      next => cases h
      next content hnode =>
        obtain rfl := Except.ok.inj h
        exact ⟨hfinds, by simp [hnode]⟩
      next hnode =>
        obtain rfl := Except.ok.inj h
        exact ⟨hfinds, by simp [hnode]⟩
    next => cases h

/-- A file that is put where an operation finds its place. -/
theorem put_of_findTarget (h : store.findTarget path = .ok place) (content : String) :
    Frame [place] store (store.put place (.file content)) ∧
      (store.put place (.file content)).node? place = some (.file content) := by
  obtain ⟨-, hnode⟩ := finds_of_findTarget h
  exact ⟨.put_file hnode content, node?_put_self (ne_nil_of_node? hnode)⟩

theorem exists_of_write (h : store.write path content = .ok after) :
    ∃ place, store.findTarget path = .ok place ∧ after = store.put place (.file content) := by
  unfold write at h
  dsimp only [bind, Except.bind] at h
  split at h
  next => cases h
  next place htarget => exact ⟨place, htarget, (Except.ok.inj h).symm⟩

theorem exists_of_move {source target : Path} (h : store.move source target = .ok after) :
    ∃ old new content, store.Finds source old ∧ store.Finds target new ∧
      store.node? old = some (.file content) ∧ store.node? new ≠ some .directory ∧
      after = (store.erase old).put new (.file content) := by
  unfold move at h
  dsimp only [bind, Except.bind] at h
  split at h
  next => cases h
  next origin horigin =>
    split at h
    next => cases h
    next goal hgoal =>
      split at h
      next oldName newName hold hnew =>
        split at h
        next => cases h
        next => cases h
        next content hnode =>
          split_ifs at h with hslashed hdirectory
          obtain ⟨horiginal, hgoalSlashed⟩ : origin.slashed = false ∧ goal.slashed = false := by
            simpa using hslashed
          exact ⟨_, _, content, ⟨origin, oldName, horigin, hold, horiginal, rfl⟩,
            ⟨goal, newName, hgoal, hnew, hgoalSlashed, rfl⟩, hnode, hdirectory,
            (Except.ok.inj h).symm⟩
      next => cases h

/-- A file that is moved is the same file at another place, and nothing is left where it was. -/
theorem frame_of_move {old new : Place} (hold : store.node? old = some (.file content))
    (hnew : store.node? new ≠ some .directory) :
    Frame [old, new] store ((store.erase old).put new (.file content)) ∧
      ((store.erase old).put new (.file content)).node? new = some (.file content) ∧
      (old ≠ new → ((store.erase old).put new (.file content)).node? old = none) := by
  have hfile : store.node? old ≠ some .directory := by simp [hold]
  have herased : (store.erase old).node? new ≠ some .directory := by
    by_cases heq : new = old
    · subst heq
      simp [node?_erase_self (ne_nil_of_node? hnew)]
    · rwa [node?_erase_of_ne heq]
  have herase : Frame [old, new] store (store.erase old) := (Frame.erase hfile).mono (by simp)
  have hput : Frame [old, new] (store.erase old) ((store.erase old).put new (.file content)) :=
    (Frame.put_file herased content).mono (by simp)
  refine ⟨herase.trans hput, node?_put_self (ne_nil_of_node? hnew), fun hne => ?_⟩
  rw [node?_put_of_ne hne, node?_erase_self (ne_nil_of_node? hfile)]

theorem exists_of_read (h : store.read path = .ok content) :
    ∃ place, store.Finds path place ∧ store.content? place = some content := by
  unfold read at h
  dsimp only [bind, Except.bind] at h
  split at h
  next => cases h
  next ending hending =>
    split at h
    next => split at h <;> cases h
    next name hname =>
      split at h
      next => cases h
      next => cases h
      next text hnode =>
        split_ifs at h with hslashed
        obtain rfl := Except.ok.inj h
        exact ⟨_, ⟨ending, name, hending, hname, by simpa using hslashed, rfl⟩,
          content?_eq_some_iff.2 hnode⟩

theorem Finds.read_eq_ok (h : store.Finds path place)
    (hcontent : store.content? place = some content) : store.read path = .ok content := by
  obtain ⟨ending, name, hending, hname, hslashed, rfl⟩ := h
  unfold read
  rw [hending]
  dsimp only [bind, Except.bind]
  rw [hname]
  dsimp only
  rw [content?_eq_some_iff.1 hcontent, hslashed]
  rfl

theorem Finds.read_eq_notFound (h : store.Finds path place) (hnode : store.node? place = none) :
    store.read path = .error .notFound := by
  obtain ⟨ending, name, hending, hname, hslashed, rfl⟩ := h
  unfold read
  rw [hending]
  dsimp only [bind, Except.bind]
  rw [hname]
  dsimp only
  rw [hnode]

end FluentHttp.Files.Store
