import SecurityRules.Schema.Scalar
import SecurityRules.Text.Utf8
import SecurityRules.Toml.Reader

/-!
# Settings

Settings come from two tables of a TOML document: where the schema is, where
the rules go, how they are indented, and whether a schema with errors is
refused. Everything has a default.
-/

namespace SecurityRules

structure Settings where
  schemaFile : Text := "schema.json"
  /-- `none` prints the rules. -/
  outputFile : Option Text := none
  /-- What stands for a tab in the rules. -/
  indent : Text := "  "
  strict : Bool := false
  deriving DecidableEq, Repr

namespace Toml

/-- The word for a value's type in messages. -/
def Value.typeName : Value → Text
  | .string _ => "str"
  | .int _ => "int"
  | .float _ => "float"
  | .bool _ => "bool"
  | .dateTime _ => "datetime.datetime"
  | .date _ => "datetime.date"
  | .time _ => "datetime.time"
  | .array _ => "list"
  | .table _ => "dict"

def Value.scalar : Value → Scalar
  | .string s => .text s
  | .int n => .int n
  | .float x => .float x
  | .bool b => .bool b
  | _ => .other

end Toml

/-- Why a document gives no settings. -/
inductive SettingsFault where
  | undecoded (fault : Utf8.Fault)
  | unread (fault : Toml.Fault)
  | notTable (value : Toml.Value)
  | rejected (rejection : Rejection)

def SettingsFault.message : SettingsFault → Text
  | undecoded fault => fault.message
  | unread fault => fault.message
  | notTable value => "'" ++ value.typeName ++ "' object has no attribute 'get'"
  | rejected rejection => rejection.message

namespace Settings

/-- A table at the top of a document; an empty one if it is not there. -/
def topTable (name : Text) (document : Toml.Table) : Except SettingsFault Toml.Table :=
  match document.get? name with
  | none => .ok []
  | some (.table entries) => .ok entries
  | some value => .error (.notTable value)

/-- A value of a table, checked under the name of the setting it gives. -/
def entry {α : Type} (setting key : Text) (default : α) (check : Scalar → Validated α)
    (table : Toml.Table) : Validated α :=
  match table.get? key with
  | none => .valid default
  | some value => (check value.scalar).under (.key setting)

/-- The settings of a document. -/
def ofTable (document : Toml.Table) : Except SettingsFault Settings := do
  let schema ← topTable "schema" document
  let output ← topTable "output" document
  let defaults : Settings := {}
  let checked : Validated Settings :=
    Settings.mk <$> entry "schema_file" "file" defaults.schemaFile Scalar.toText schema
      <*> entry "output_file" "file" defaults.outputFile (·.toText.map some) output
      <*> entry "indent" "indent" defaults.indent Scalar.toText output
      <*> entry "strict" "strict" defaults.strict Scalar.toFlag output
  match checked.result .settings with
  | .ok settings => .ok settings
  | .error rejection => .error (.rejected rejection)

/-- The settings that the bytes of a file hold, as far as the stack reaches. -/
def ofBytes (stack : Stack) (bytes : Bytes) : Except SettingsFault Settings :=
  match Utf8.decode bytes with
  | .error fault => .error (.undecoded fault)
  | .ok characters =>
      if stack.exhaustedBy .toml (Text.ofChars characters) then .error (.unread .tooDeep)
      else
        match Toml.read (Text.ofChars characters) with
        | .error fault => .error (.unread fault)
        | .ok document => ofTable document

end Settings

end SecurityRules
