import PropertyLint.Settings.Path

/-! A tree of files, and what becomes of looking for one.

The tree hangs below one base directory, of whose surroundings nothing is known but that the
directories above it exist. A path is followed piece by piece: a double dot leads to the directory
above, and nothing lies below a regular file. Paths and their pieces may only be so long.
-/

namespace PropertyLint

/-- Why a file cannot be read. -/
inductive FileFault where
  | notFound
  | isADirectory
  | notADirectory
  /-- The content is not text in UTF-8. -/
  | invalidData
  /-- The path cannot name a file at all. -/
  | invalidInput
  /-- The path, or a piece of it, is too long. -/
  | invalidFilename
deriving DecidableEq, Repr

/-- A regular file with its bytes, or a directory. -/
inductive FileEntry where
  | file (content : ByteArray)
  | directory

/-- A base directory and what lies below it. -/
structure FileTree where
  /-- How the base directory is spelled in paths. -/
  base : Path
  /-- The size in bytes of the base directory's full name, which its spelling stands for. -/
  baseSize : Nat
  /-- The entries by the names on the way to them, in the order of creation. Every directory but
  the base has an entry of its own.
  -/
  entries : List (List String × FileEntry) := []

namespace FileTree

/-- Where following a path has led. -/
inductive Place where
  /-- A directory above the base. -/
  | above
  /-- A place below the base, by the names on the way. -/
  | inside (names : List String)

/-- The entry at a place below the base, the latest that was written there. -/
def entryAt? (tree : FileTree) (names : List String) : Option FileEntry :=
  if names.isEmpty then some .directory
  else (tree.entries.reverse.find? fun entry => entry.1 = names).map Prod.snd

/-- The size in bytes of the largest name of a file. -/
def nameLimit : Nat := 255

/-- The size in bytes of the largest path. -/
def pathLimit : Nat := 4095

/-- Whether a path starts at the base directory. -/
def holds (tree : FileTree) (path : Path) : Bool :=
  tree.base.pieces.isPrefixOf path.pieces

/-- The size in bytes of a path with the full name of the base directory. -/
def pathSize (tree : FileTree) (path : Path) : Nat :=
  if tree.holds path then
    path.text.utf8ByteSize - tree.base.text.utf8ByteSize + tree.baseSize
  else path.text.utf8ByteSize

def follow (tree : FileTree) (place : Place) (piece : String) : Except FileFault Place :=
  match place, piece with
  | _, "" | _, "." => .ok place
  | .above, ".." => .ok .above
  | .above, name =>
    if nameLimit < name.utf8ByteSize then .error .invalidFilename else .error .notFound
  | .inside [], ".." => .ok .above
  | .inside names, ".." => .ok (.inside names.dropLast)
  | .inside names, name =>
    if nameLimit < name.utf8ByteSize then .error .invalidFilename
    else if (tree.entryAt? (names ++ [name])).isSome then .ok (.inside (names ++ [name]))
    else .error .notFound

/-- Follows pieces from a place. Every piece, even an empty one, needs a directory before it. -/
def followAll (tree : FileTree) (place : Place) : List String → Except FileFault FileEntry
  | [] =>
    match place with
    | .above => .ok .directory
    | .inside names => (tree.entryAt? names).elim (.error .notFound) .ok
  | piece :: rest => do
    match place with
    | .above => pure ()
    | .inside names =>
      match tree.entryAt? names with
      | some (.file _) => .error .notADirectory
      | _ => pure ()
    let next ← tree.follow place piece
    tree.followAll next rest

/-- The entry that a path leads to. What the path cannot be is found before it is followed. -/
def find (tree : FileTree) (path : Path) : Except FileFault FileEntry :=
  if path.pieces.any (·.contains '\x00') then .error .invalidInput
  else if pathLimit < tree.pathSize path then .error .invalidFilename
  else if tree.holds path then
    tree.followAll (.inside []) (path.pieces.drop tree.base.pieces.length)
  else tree.followAll .above path.pieces

/-- Whether a path leads to a regular file. -/
def isFile (tree : FileTree) (path : Path) : Bool :=
  match tree.find path with
  | .ok (.file _) => true
  | _ => false

def readText (tree : FileTree) (path : Path) : Except FileFault String := do
  match ← tree.find path with
  | .directory => .error .isADirectory
  | .file content => (String.fromUTF8? content).elim (.error .invalidData) .ok

/-- The place behind a piece that is to be created; a double dot takes the name before it back. -/
def step (names : List String) (piece : String) : List String :=
  if piece = "" ∨ piece = "." then names
  else if piece = ".." then names.dropLast
  else names ++ [piece]

/-- The entries that are created for an entry at the end of a way. All places on the way become
directories, also those that a double dot leaves again.
-/
def entriesAlong (names : List String) (entry : FileEntry)
    : List String → List (List String × FileEntry)
  | [] => [(names, entry)]
  | piece :: rest => (names, .directory) :: entriesAlong (step names piece) entry rest

/-- Adds an entry, with all directories on the way to it. -/
def insert (tree : FileTree) (path : Path) (entry : FileEntry) : FileTree :=
  { tree with entries := tree.entries ++ entriesAlong [] entry path.pieces }

end FileTree

end PropertyLint
