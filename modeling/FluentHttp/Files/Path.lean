import FluentHttp.Text.Segments

/-!
# FluentHttp.Files.Path

File paths. A path keeps the pieces between its slashes as they were spelled, also those that lead
nowhere, so that its text is what it was read from. What a path means is told by its significant
pieces alone.
-/

namespace FluentHttp.Files

/-- A path: whether it starts at the root, and the pieces between its slashes. -/
structure Path where
  absolute : Bool := false
  pieces : List String := []
  deriving DecidableEq, Repr, Inhabited

namespace Path

/-! ### Text -/

/-- The path of a text. A slash in front makes it absolute; the others separate its pieces. -/
def ofText (text : String) : Path :=
  match text.toList with
  | '/' :: rest => { absolute := true, pieces := Text.segments '/' (String.ofList rest) }
  | _ => { pieces := Text.segments '/' text }

/-- The text of a path. -/
def text (path : Path) : String :=
  (if path.absolute then "/" else "") ++ "/".intercalate path.pieces

/-! ### Significant pieces -/

/-- The pieces without those at the end that lead nowhere. A dot in front of a relative path is
significant: it is the working directory by name. -/
def significant (path : Path) : List String :=
  match path.absolute, path.pieces with
  | false, "." :: rest => "." :: trimmed rest
  | _, pieces => trimmed pieces
where
  /-- Drops empty pieces and dots from the end. -/
  trimmed (pieces : List String) : List String :=
    (pieces.reverse.dropWhile fun piece => piece == "" || piece == ".").reverse

/-- The path without its last significant piece. The root and the empty path have none. -/
def parent? (path : Path) : Option Path :=
  if path.significant.isEmpty then none
  else
    let shorter := { path with pieces := path.significant.dropLast }
    some { shorter with pieces := shorter.significant }

/-- The name at the end of a path, unless it ends with a step to some directory. -/
def fileName? (path : Path) : Option String :=
  path.significant.getLast?.filter fun piece => piece != "." && piece != ".."

/-! ### Building paths -/

/-- Goes on from a path along another one. An absolute path starts anew. -/
def push (path next : Path) : Path :=
  if next.absolute then next
  else
    let pieces := if path.pieces.getLast? = some "" then path.pieces.dropLast else path.pieces
    { path with pieces := pieces ++ next.pieces }

/-- The name of a file up to its last dot. A dot in front is part of the name. -/
def stem (name : String) : String :=
  let segments := Text.segments '.' name
  match segments with
  | [_] | ["", _] => name
  | _ => ".".intercalate segments.dropLast

/-- The path with another extension for its file. The old extension is taken off the end of the path
as it is spelled: where nothing stands behind the name, a name of two dots and an extension becomes a
step up, and that takes no extension, no more than a path that names no file. -/
def withExtension (path : Path) (extension : String) : Path :=
  match path.fileName? with
  | some name =>
    let stepsUp := stem name == "." && path.pieces == path.significant
    let renamed := if stepsUp then ".." else stem name ++ "." ++ extension
    { path with pieces := path.significant.dropLast ++ [renamed] }
  | none => path

/-! ### The paths above a path -/

theorem length_trimmed_le (pieces : List String) :
    (significant.trimmed pieces).length ≤ pieces.length := by
  unfold significant.trimmed
  rw [List.length_reverse, show pieces.length = pieces.reverse.length from List.length_reverse.symm]
  exact (List.dropWhile_sublist _).length_le

theorem length_significant_le (path : Path) : path.significant.length ≤ path.pieces.length := by
  unfold significant
  split
  · rename_i rest _ h
    rw [h]
    exact Nat.succ_le_succ (length_trimmed_le rest)
  · exact length_trimmed_le path.pieces

/-- A step up leaves fewer pieces. -/
theorem length_pieces_of_parent? {path parent : Path} (h : path.parent? = some parent) :
    parent.pieces.length < path.pieces.length := by
  unfold parent? at h
  split at h
  · contradiction
  · rename_i nonempty
    have positive : 0 < path.significant.length := by
      rw [List.length_pos_iff]
      exact fun empty => nonempty (by rw [empty]; rfl)
    obtain rfl := Option.some.inj h
    have upper := length_significant_le { path with pieces := path.significant.dropLast }
    have whole := length_significant_le path
    rw [List.length_dropLast] at upper
    exact Nat.lt_of_le_of_lt upper (by omega)

/-- The path and the paths above it, up to the working directory or the root, which are left
out. -/
def ancestors (path : Path) : List Path :=
  match _h : path.parent? with
  | some parent => path :: ancestors parent
  | none => []
termination_by path.pieces.length
decreasing_by exact length_pieces_of_parent? _h

end Path

end FluentHttp.Files
