import PropertyLint.Text.Joined

/-! Paths as they are spelled.

A path is the list of its pieces between slashes. An absolute path starts with an empty piece. The
spelling is kept as it was given; only the way up to the parent passes over pieces that name no
directory of their own.
-/

namespace PropertyLint

/-- The pieces of a path between its slashes. -/
structure Path where
  pieces : List String
deriving DecidableEq, Repr, Inhabited

namespace Path

/-- The path with a spelling. -/
def ofText (text : String) : Path :=
  ⟨text.splitOn "/"⟩

/-- The spelling of a path. -/
def text (path : Path) : String :=
  Text.joined "/" path.pieces

/-- The path inside a directory. An absolute path stands for itself, and a directory that is
spelled with a slash at its end gets no second one.
-/
def join (directory path : Path) : Path :=
  match path.pieces with
  | "" :: _ :: _ => path
  | _ =>
    if directory.pieces.getLast? = some "" then ⟨directory.pieces.dropLast ++ path.pieces⟩
    else ⟨directory.pieces ++ path.pieces⟩

/-- Drops pieces at the end that name no directory of their own: empty ones and single dots. -/
def trimEnd (pieces : List String) : List String :=
  (pieces.reverse.dropWhile fun piece => piece = "" || piece = ".").reverse

/-- The pieces of the parent directory of a relative path. -/
def parentPieces? (pieces : List String) : Option (List String) :=
  match trimEnd pieces with
  | [] => none
  | named => some (trimEnd named.dropLast)

/-- The parent directory by spelling: the last named piece is dropped, also when it is `..`. -/
def parent? (path : Path) : Option Path :=
  match path.pieces with
  | "" :: rest =>
    (parentPieces? rest).map fun pieces => ⟨"" :: if pieces.isEmpty then [""] else pieces⟩
  | pieces =>
    (parentPieces? pieces).map fun pieces => ⟨if pieces.isEmpty then [""] else pieces⟩

/-- The path, its parent, and so on, at most `budget` of them. -/
def ancestorsWithin : Nat → Path → List Path
  | 0, _ => []
  | budget + 1, path =>
    path :: match path.parent? with
      | none => []
      | some parent => parent.ancestorsWithin budget

/-- The path and all directories above it by spelling, innermost first. Each has fewer named pieces
than the one before.
-/
def ancestors (path : Path) : List Path :=
  path.ancestorsWithin (path.pieces.length + 1)

end Path

end PropertyLint
