import ApiContext.Json.Record

/-! Settings of a run: which naming profile to use and how to bend it. -/
namespace ApiContext

/-- The list `reserved` adds to the names that the profile disallows; `escapePrefix` replaces its
marker. -/
structure Settings where
  profile : String
  reserved : List String
  escapePrefix : Option String
deriving DecidableEq

namespace Settings

def standard : Settings := ⟨"default", [], none⟩

def fileName : String := ".swagctx.yaml"

/-- The text of a settings file that says what holds without one. -/
def templateLines : List String := [
  "# swagctx configuration",
  "profile: default      # default | swift",
  "",
  "# Additional type names to escape, on top of the profile's reserved words.",
  "reserved: []",
  "  # - Response",
  "  # - Request",
  "",
  "# Marker used to escape a reserved name (profile default: \"_\").",
  "# escape_prefix: Api"]

/-- A settings file that says what holds without one. -/
def template : String := .join (templateLines.map (· ++ "\n"))

/-- Every field has a default, so a list may stop anywhere. -/
def ofJson? (s : Json.Source) : Option Settings := do
  let r ← Json.Record.ofJson? 3 s
  return {
    profile := ← r.defaulted 0 "profile" standard.profile Json.string?
    reserved := ← r.defaulted 1 "reserved" [] (Json.list? Json.string?)
    escapePrefix := ← match ← r.field? 2 "escape_prefix" with
      | none | some .null => some none
      | some s => (Json.string? s).map some }

end Settings
end ApiContext
