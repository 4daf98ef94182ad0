import ApiContext.Settings.Basic
import ApiContext.Yaml.Document

/-! Settings read from a file. A file that is missing is no failure; one that is empty holds the
standard settings. -/
namespace ApiContext

/-- What is found in place of the settings file. -/
inductive Settings.File where
  | missing
  | directory
  | content (bytes : ByteArray)

inductive Settings.LoadError where
  | notText (path : String)
  | isDirectory (path : String)
  | malformed (path : String)
deriving DecidableEq

/-- Only a file that cannot be read has a message of its own. -/
def Settings.LoadError.message : Settings.LoadError → String
  | .notText path => "failed to read config " ++ path ++ ": stream did not contain valid UTF-8"
  | .isDirectory path => "failed to read config " ++ path ++ ": Is a directory (os error 21)"
  | .malformed path => "failed to parse config " ++ path

namespace Yaml

def scalarText? : Yaml → Option String
  | .scalar _ text => some text
  | _ => none

/-- Nothing in plain style is a sequence without elements. -/
def texts? : Yaml → Option (List String)
  | .sequence elems => elems.mapM scalarText?
  | .scalar true "" => some []
  | _ => none

def isNull (text : String) : Bool := ["", "~", "null", "Null", "NULL"].contains text

/-- A quoted scalar is never null. -/
def optionalText? : Yaml → Option (Option String)
  | .scalar plain text => some (if plain && isNull text then none else some text)
  | _ => none

end Yaml

namespace Settings

def field? {α : Type} (key : String) (default : α) (read : Yaml → Option α)
    (entries : Entries Yaml) : Option α := do
  match ← Entries.only? key entries with
  | none => return default
  | some v => read v

/-- Keys are scalars; unknown ones are passed over. -/
def ofYaml? : Yaml → Option Settings
  | .scalar true "" => some standard
  | .mapping entries => do
    let entries ← entries.mapM fun e => e.1.scalarText?.map (·, e.2)
    return {
      profile := ← field? "profile" standard.profile Yaml.scalarText? entries
      reserved := ← field? "reserved" [] Yaml.texts? entries
      escapePrefix := ← field? "escape_prefix" none Yaml.optionalText? entries }
  | _ => none

def load (path : String) : File → Except LoadError (Option Settings)
  | .missing => .ok none
  | .directory => .error (.isDirectory path)
  | .content bytes =>
    match String.fromUTF8? bytes with
    | none => .error (.notText path)
    | some text =>
      match (Yaml.document? text).bind ofYaml? with
      | none => .error (.malformed path)
      | some s => .ok (some s)

end Settings
end ApiContext
