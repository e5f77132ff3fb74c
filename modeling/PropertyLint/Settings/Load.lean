import PropertyLint.Settings.FileTree
import PropertyLint.Settings.Reader

/-! Finding and loading the settings file.

The settings for a place are those of the nearest settings file in its directory or above.
-/

namespace PropertyLint

def settingsFileName : String := "typereveal.json"

/-- Why there are no settings. -/
inductive SettingsError where
  /-- The text does not hold settings. -/
  | invalid (fault : Json.Fault)
  /-- The file cannot be read. -/
  | unreadable (path : Path) (fault : FileFault)
  /-- The file does not hold settings. -/
  | invalidFile (path : Path) (fault : Json.Fault)

/-- What was being done when the error arose, outermost first. -/
def SettingsError.contexts : SettingsError → List String
  | .invalid _ => ["failed to parse typereveal config JSON"]
  | .unreadable path _ => ["failed to read config: " ++ path.text]
  | .invalidFile path _ =>
    ["failed to parse config: " ++ path.text, "failed to parse typereveal config JSON"]

def Settings.ofText (source : String) : Except SettingsError Settings :=
  (Settings.parse source).mapError .invalid

def Settings.load (tree : FileTree) (path : Path) : Except SettingsError Settings := do
  let source ← (tree.readText path).mapError (.unreadable path)
  (Settings.parse source).mapError (.invalidFile path)

/-- The nearest settings file in a directory or above it. -/
def FileTree.settingsFile? (tree : FileTree) (start : Path) : Option Path :=
  (start.ancestors.map fun directory => directory.join ⟨[settingsFileName]⟩).find? tree.isFile

/-- The settings of the nearest settings file, or the defaults when there is none. -/
def Settings.loadNearest (tree : FileTree) (start : Path) : Except SettingsError Settings :=
  match tree.settingsFile? start with
  | some path => Settings.load tree path
  | none => .ok {}

end PropertyLint
