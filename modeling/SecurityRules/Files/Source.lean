import SecurityRules.Files.Tree
import SecurityRules.Schema.Decode
import SecurityRules.Settings

/-!
# Schemas and settings from files

What a path leads to is turned into a schema or into settings. Nothing is read
here; the caller has looked the path up.
-/

namespace SecurityRules

def isDirectoryMessage (path : Text) : Text :=
  "[Errno 21] Is a directory: " ++ path.quoted

/-- Why a file gives no schema. -/
inductive SchemaFileFault where
  | missing (path : Text)
  | tooLong (path : Path)
  | isDirectory (path : Text)
  | undecoded (fault : Utf8.Fault)
  | unloaded (fault : LoadFault)

def SchemaFileFault.message : SchemaFileFault → Text
  | missing path => "Schema file not found: " ++ path
  | tooLong path => PathFault.message path .tooLong
  | isDirectory path => isDirectoryMessage path
  | undecoded fault => fault.message
  | unloaded fault => fault.message

/-- The schema in the file that a path leads to. -/
def Schema.ofFile (path : Path) (node : Except PathFault Node) (stack : Stack := {}) :
    Except SchemaFileFault Schema :=
  match node with
  | .error .tooLong => .error (.tooLong path)
  | .error _ => .error (.missing path.text)
  | .ok .directory => .error (.isDirectory path.text)
  | .ok (.file bytes) =>
      match Utf8.decode bytes with
      | .error fault => .error (.undecoded fault)
      | .ok characters =>
          match Schema.loadWithin stack (Text.ofChars characters).plainBreaks with
          | .error fault => .error (.unloaded fault)
          | .ok s => .ok s

/-- Why a file gives no settings. -/
inductive SettingsFileFault where
  | missing (path : Text)
  | tooLong (path : Path)
  | isDirectory (path : Text)
  | invalid (fault : SettingsFault)

def SettingsFileFault.message : SettingsFileFault → Text
  | missing path =>
      "Rulegen config not found: " ++ path
        ++ "\nCreate rulegen.toml with [schema] and [output] sections."
  | tooLong path => PathFault.message path .tooLong
  | isDirectory path => isDirectoryMessage path
  | invalid fault => fault.message

namespace Settings

/-- The settings in the file that a path leads to. -/
def ofFile (path : Path) (node : Except PathFault Node) (stack : Stack := {}) :
    Except SettingsFileFault Settings :=
  match node with
  | .error .tooLong => .error (.tooLong path)
  | .error _ => .error (.missing path.text)
  | .ok .directory => .error (.isDirectory path.text)
  | .ok (.file bytes) =>
      match ofBytes stack bytes with
      | .error fault => .error (.invalid fault)
      | .ok settings => .ok settings

/-- Where settings are when nothing else is said. -/
def defaultPath : Path :=
  .ofText "rulegen.toml"

/-- The default path with the current directory before it, as messages show
it. -/
def fullDefaultPath (currentDirectory : Text) : Path :=
  .ofText (currentDirectory ++ "/" ++ defaultPath.text)

end Settings

end SecurityRules
