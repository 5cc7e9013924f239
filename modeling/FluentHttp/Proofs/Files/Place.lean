import FluentHttp.Files.Store
import FluentHttp.Proofs.Text.Segments
import Mathlib.Data.List.TakeWhile
import Mathlib.Tactic.SplitIfs

/-!
# FluentHttp.Proofs.Files.Place

The place that a path leads to, and the places beside it.

What an operation on files calls the end of a path (`Store.findEnding`) is told by the path's
significant pieces: the last of them names a file, those before it lead to its directory
(`place?_of_findEnding`). So a path and the same path with another extension lead to two places in
one directory (`sibling?_of_place?_withExtension`), which are two if the path had another extension
before (`place?_ne_sibling?`).
-/

namespace FluentHttp.Files

/-! ### The name at the end of a path -/

namespace Path

variable {path : Path} {directories blanks : List String} {name : String}

theorem trimmed_append_cons (hname : name ≠ "" ∧ name ≠ ".")
    (hblanks : ∀ piece ∈ blanks, piece = "") :
    significant.trimmed (directories ++ name :: blanks) = directories ++ [name] := by
  have hdrop : ∀ piece ∈ blanks.reverse, (piece == "" || piece == ".") = true := by
    intro piece hpiece
    simp [hblanks piece (List.mem_reverse.1 hpiece)]
  have hstop : (name == "" || name == ".") = false := by
    simp [hname.1, hname.2]
  have hreverse : (directories ++ name :: blanks).reverse =
      blanks.reverse ++ name :: directories.reverse := by
    simp
  rw [significant.trimmed, hreverse, List.dropWhile_append_of_pos hdrop, List.dropWhile_cons,
    hstop, if_neg Bool.false_ne_true, List.reverse_cons, List.reverse_reverse]

/-- Slashes behind a name are not significant. -/
theorem significant_of_pieces (hpieces : path.pieces = directories ++ name :: blanks)
    (hname : name ≠ "" ∧ name ≠ ".") (hblanks : ∀ piece ∈ blanks, piece = "") :
    path.significant = directories ++ [name] := by
  have htrimmed := @trimmed_append_cons directories blanks name hname hblanks
  unfold significant
  split
  next rest _ hdot =>
    cases directories with
    | nil => exact absurd (List.cons.inj (hdot.symm.trans hpieces)).1.symm hname.2
    | cons directory directories =>
        obtain ⟨rfl, hrest⟩ := List.cons.inj (hdot.symm.trans hpieces)
        rw [hrest, List.append_eq, trimmed_append_cons hname hblanks, List.cons_append]
  next => rw [hpieces, htrimmed]

theorem fileName?_eq_some_iff :
    path.fileName? = some name ↔
      path.significant.getLast? = some name ∧ name ≠ "." ∧ name ≠ ".." := by
  simp [fileName?, Option.filter_eq_some_iff]

theorem fileName?_of_pieces (hpieces : path.pieces = directories ++ name :: blanks)
    (hname : name ≠ "" ∧ name ≠ "." ∧ name ≠ "..") (hblanks : ∀ piece ∈ blanks, piece = "") :
    path.fileName? = some name := by
  obtain ⟨hempty, hdots⟩ := hname
  rw [fileName?_eq_some_iff, significant_of_pieces hpieces ⟨hempty, hdots.1⟩ hblanks]
  exact ⟨List.getLast?_concat, hdots⟩

/-! ### Extensions -/

/-- The extension of a file of some name: what follows the last dot. A dot in front of the name
starts no extension. -/
def extensionOf? (name : String) : Option String :=
  match Text.segments '.' name with
  | [_] | ["", _] => none
  | segments => segments.getLast?

/-- The extension of the file that a path names. -/
def extension? (path : Path) : Option String :=
  path.fileName?.bind extensionOf?

theorem intercalate_concat {separator : List Char} {texts : List (List Char)} (h : texts ≠ [])
    (last : List Char) :
    separator.intercalate (texts ++ [last]) = separator.intercalate texts ++ separator ++ last := by
  induction texts with
  | nil => exact absurd rfl h
  | cons text rest ih =>
      cases rest with
      | nil => simp [List.intercalate_cons_cons]
      | cons next rest =>
          have hrest := ih (List.cons_ne_nil _ _)
          rw [List.cons_append] at hrest
          rw [List.cons_append, List.cons_append, List.intercalate_cons_cons, hrest,
            List.intercalate_cons_cons]
          simp only [List.append_assoc]

/-- A name is all its segments but the last one, with a dot and the last one behind them. -/
theorem toList_of_segments {others : List String} {last : String}
    (h : Text.segments '.' name = others ++ [last]) (hothers : others ≠ []) :
    name.toList = (".".intercalate others).toList ++ '.' :: last.toList := by
  have hmap : others.map String.toList ≠ [] := fun hnil => hothers (List.map_eq_nil_iff.1 hnil)
  have hjoined := @Text.intercalate_segments '.' name
  rw [h, List.map_append, List.map_singleton, intercalate_concat hmap] at hjoined
  rw [String.toList_intercalate, ← hjoined]
  exact List.append_assoc _ _ _

/-- What stands before the last dot of a name is its stem, and what follows it its extension, unless
the dot is in front. -/
theorem stem_and_extensionOf?_of_segments {others : List String} {last : String}
    (h : Text.segments '.' name = others ++ [last]) (hothers : others ≠ [])
    (hhidden : others ≠ [""]) :
    stem name = ".".intercalate others ∧ extensionOf? name = some last := by
  have hone (single : String) : others ++ [last] ≠ [single] := fun heq =>
    hothers (List.append_singleton_inj.1 (heq.trans (List.nil_append [single]).symm)).1
  have hdotted (single : String) : others ++ [last] ≠ ["", single] := fun heq =>
    hhidden (List.append_singleton_inj.1 (heq.trans (List.singleton_append (l := [single])).symm)).1
  constructor
  · rw [stem, h]
    split
    next heq => exact absurd heq (hone _)
    next heq => exact absurd heq (hdotted _)
    next => rw [List.dropLast_concat]
  · rw [extensionOf?, h]
    split
    next heq => exact absurd heq (hone _)
    next heq => exact absurd heq (hdotted _)
    next => exact List.getLast?_concat

/-- A name without an extension is its stem, and any other one its stem with the extension behind
a dot. -/
theorem stem_cases (name : String) :
    stem name = name ∧ extensionOf? name = none ∨
      ∃ extension, extensionOf? name = some extension ∧
        name.toList = (stem name).toList ++ '.' :: extension.toList := by
  have hne : Text.segments '.' name ≠ [] := fun hnil =>
    Text.segmentsOf_ne_nil name.toList (List.map_eq_nil_iff.1 hnil)
  obtain ⟨others, last, hsegments⟩ := (List.eq_nil_or_concat _).resolve_left hne
  rw [List.concat_eq_append] at hsegments
  by_cases hnone : others = [] ∨ others = [""]
  · rcases hnone with rfl | rfl
    all_goals exact .inl ⟨by rw [stem, hsegments]; rfl, by rw [extensionOf?, hsegments]; rfl⟩
  · obtain ⟨hothers, hhidden⟩ := not_or.1 hnone
    obtain ⟨hstem, hextension⟩ := stem_and_extensionOf?_of_segments hsegments hothers hhidden
    exact .inr ⟨last, hextension, by rw [hstem, toList_of_segments hsegments hothers]⟩

/-- Another extension makes another name of a name. -/
theorem stem_append_ne {extension : String} (h : extensionOf? name ≠ some extension) :
    stem name ++ "." ++ extension ≠ name := by
  intro heq
  have hlist : (stem name).toList ++ '.' :: extension.toList = name.toList := by
    rw [← congrArg String.toList heq, String.toList_append, String.toList_append]
    simp
  rcases stem_cases name with ⟨hstem, -⟩ | ⟨other, hother, hname⟩
  · have hlength := congrArg List.length hlist
    rw [hstem, List.length_append, List.length_cons] at hlength
    omega
  · have htail := List.append_cancel_left (hlist.trans hname)
    obtain rfl := String.toList_injective (List.cons.inj htail).2
    exact h hother

/-- A path with another extension keeps its directories, and its name up to the extension, unless
that would be a step up. -/
theorem exists_withExtension {extension : String} (hname : path.fileName? = some name) :
    ∃ last, (last = ".." ∨ last = stem name ++ "." ++ extension) ∧
      path.withExtension extension =
        { path with pieces := path.significant.dropLast ++ [last] } := by
  unfold withExtension
  rw [hname]
  dsimp only
  split
  next => exact ⟨_, .inl rfl, rfl⟩
  next => exact ⟨_, .inr rfl, rfl⟩

/-- A name with an extension is more than dots. -/
theorem append_tmp_ne (text : String) : text ++ "." ++ "tmp" ≠ "" ∧ text ++ "." ++ "tmp" ≠ "." := by
  have hlength : 2 ≤ (text ++ "." ++ "tmp").length := by
    have htmp : "tmp".length = 3 := rfl
    rw [String.length_append, htmp]
    omega
  constructor <;> intro heq <;> rw [heq] at hlength <;> exact absurd hlength (by decide)

end Path

/-! ### Places -/

namespace Store

variable {store : Store} {path : Path} {place other : Place} {node : Node}

/-- The directory of the file that a path names. -/
def directory? (store : Store) (path : Path) : Option Place :=
  (store.walk (store.start path) path.significant.dropLast).toOption

/-- The place of the file that a path names. -/
def place? (store : Store) (path : Path) : Option Place := do
  return (← store.directory? path) ++ [← path.fileName?]

/-- The place beside the file that a path names, where a file of the same name with another
extension stands. -/
def sibling? (store : Store) (path : Path) (extension : String) : Option Place := do
  return (← store.directory? path) ++ [Path.stem (← path.fileName?) ++ "." ++ extension]

theorem place?_eq_some_iff : store.place? path = some place ↔
    ∃ directory name, store.directory? path = some directory ∧ path.fileName? = some name ∧
      directory ++ [name] = place := by
  simp [place?, Option.bind_eq_some_iff]

theorem sibling?_eq_some_iff {extension : String} : store.sibling? path extension = some place ↔
    ∃ directory name, store.directory? path = some directory ∧ path.fileName? = some name ∧
      directory ++ [Path.stem name ++ "." ++ extension] = place := by
  simp [sibling?, Option.bind_eq_some_iff]

theorem directory?_eq_some_iff {directory : Place} : store.directory? path = some directory ↔
    store.walk (store.start path) path.significant.dropLast = .ok directory := by
  unfold directory? Except.toOption
  split <;> simp [*]

/-! ### The end of a path -/

theorem checkedPieces_eq_ok {pieces : List String} (h : checkedPieces path = .ok pieces) :
    pieces = path.pieces := by
  unfold checkedPieces at h
  split_ifs at h
  exact (Except.ok.inj h).symm

/-- The last piece that is spelled out has only empty pieces behind it. -/
theorem exists_pieces_of_getLast? {pieces : List String} {last : String}
    (h : (pieces.reverse.dropWhile (· == "")).reverse.getLast? = some last) :
    last ≠ "" ∧ ∃ blanks, (∀ piece ∈ blanks, piece = "") ∧
      pieces = (pieces.reverse.dropWhile (· == "")).reverse.dropLast ++ last :: blanks := by
  have hhead : (pieces.reverse.dropWhile (· == "")).head? = some last := by
    rw [← List.getLast?_reverse, h]
  obtain ⟨before, hspelled⟩ := List.getLast?_eq_some_iff.1 h
  refine ⟨?_, (pieces.reverse.takeWhile (· == "")).reverse, ?_, ?_⟩
  · have hnot := List.head?_dropWhile_not (· == "") pieces.reverse
    rw [hhead] at hnot
    simpa using hnot
  · intro piece hpiece
    simpa using List.mem_takeWhile_imp (List.mem_reverse.1 hpiece)
  · calc pieces
        = (pieces.reverse.takeWhile (· == "") ++ pieces.reverse.dropWhile (· == "")).reverse := by
          rw [List.takeWhile_append_dropWhile, List.reverse_reverse]
      _ = _ := by
          rw [List.reverse_append, hspelled, List.dropLast_concat, List.append_assoc]
          rfl

/-- A path ends with a name if its last piece, but for slashes, is one, and everything before it is
a directory. -/
theorem exists_pieces_of_findEnding {ending : Ending} {name : String}
    (h : store.findEnding path = .ok ending) (hname : ending.name = some name) :
    ∃ directories blanks, path.pieces = directories ++ name :: blanks ∧
      (name ≠ "" ∧ name ≠ "." ∧ name ≠ "..") ∧ (∀ piece ∈ blanks, piece = "") ∧
      store.walk (store.start path) directories = .ok ending.directory := by
  unfold findEnding at h
  cases hchecked : checkedPieces path with
  | error error => rw [hchecked] at h; cases h
  | ok pieces =>
      rw [hchecked] at h
      obtain rfl := checkedPieces_eq_ok hchecked
      dsimp only [bind, Except.bind] at h
      split at h
      next =>
        obtain rfl := Except.ok.inj h
        cases hname
      next last hlast =>
        obtain ⟨hempty, blanks, hblanks, hpieces⟩ := exists_pieces_of_getLast? hlast
        split at h
        next => cases h
        next directory hwalk =>
          split_ifs at h with hstep hlong
          · obtain rfl := Except.ok.inj h
            cases hname
          · obtain rfl := Except.ok.inj h
            obtain rfl := Option.some.inj hname
            exact ⟨_, blanks, hpieces, ⟨hempty, not_or.1 hstep⟩, hblanks, hwalk⟩

/-- The file that an operation finds at the end of a path stands at the place of the path. -/
theorem place?_of_findEnding {ending : Ending} {name : String}
    (h : store.findEnding path = .ok ending) (hname : ending.name = some name) :
    store.place? path = some (ending.directory ++ [name]) := by
  obtain ⟨directories, blanks, hpieces, hne, hblanks, hwalk⟩ := exists_pieces_of_findEnding h hname
  have hsignificant := Path.significant_of_pieces hpieces ⟨hne.1, hne.2.1⟩ hblanks
  refine place?_eq_some_iff.2 ⟨ending.directory, name, ?_, ?_, rfl⟩
  · rw [directory?_eq_some_iff, hsignificant, List.dropLast_concat, hwalk]
  · exact Path.fileName?_of_pieces hpieces hne hblanks

/-! ### Places beside each other -/

/-- The path with another extension leads to the place beside the one of the path. -/
theorem sibling?_of_place?_withExtension
    (h : store.place? (path.withExtension "tmp") = some place) :
    store.sibling? path "tmp" = some place := by
  obtain ⟨directory, name, hdirectory, hname, rfl⟩ := place?_eq_some_iff.1 h
  cases hfile : path.fileName? with
  | none =>
      rw [Path.withExtension, hfile] at hname
      exact absurd (hfile.symm.trans hname) (Option.some_ne_none _).symm
  | some file =>
      obtain ⟨last, hlast, hpath⟩ := @Path.exists_withExtension path file "tmp" hfile
      have hne : last ≠ "" ∧ last ≠ "." := by
        rcases hlast with rfl | rfl
        · decide
        · exact Path.append_tmp_ne _
      have hsignificant : (path.withExtension "tmp").significant =
          path.significant.dropLast ++ [last] := by
        rw [hpath]
        exact Path.significant_of_pieces rfl hne (List.forall_mem_nil _)
      have hstart : store.start (path.withExtension "tmp") = store.start path := by
        rw [hpath]
        rfl
      rw [directory?_eq_some_iff, hsignificant, List.dropLast_concat, hstart] at hdirectory
      rw [Path.fileName?_eq_some_iff, hsignificant, List.getLast?_concat] at hname
      obtain rfl := Option.some.inj hname.1
      obtain rfl := hlast.resolve_left hname.2.2
      exact sibling?_eq_some_iff.2
        ⟨directory, file, directory?_eq_some_iff.2 hdirectory, hfile, rfl⟩

/-- The place of a path and the one beside it are two, unless the file has that extension itself. -/
theorem place?_ne_sibling? {extension : String} (hext : path.extension? ≠ some extension)
    (hplace : store.place? path = some place) :
    store.sibling? path extension ≠ some place := by
  intro hsibling
  obtain ⟨directory, name, -, hname, rfl⟩ := place?_eq_some_iff.1 hplace
  obtain ⟨_, name', -, hname', heq⟩ := sibling?_eq_some_iff.1 hsibling
  obtain rfl := Option.some.inj (hname.symm.trans hname')
  rw [Path.extension?, hname, Option.bind_some] at hext
  exact Path.stem_append_ne hext (List.append_singleton_inj.1 heq).2

end Store

end FluentHttp.Files
