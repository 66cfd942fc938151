import AppBundle.FunctionUnit
import AppBundle.Json
import AppBundle.Route
import AppBundle.StaticAsset

/-!
# Manifests

A manifest is what a host deploys: functions and static assets by name, the routing table, and
what was left out or is worth telling.
-/

namespace AppBundle

/-- What a host serves under a name. -/
inductive Output where
  | function (unit : FunctionUnit)
  | static (asset : StaticAsset)

/-- A function that was left out because it could not be packaged. -/
structure Omission where
  outputName : Text
  entrypoint : Path
  reason : PackageError

/-- The result of packaging a project. -/
structure Manifest where
  outputs : Catalog Text Output := Catalog.empty
  /-- In the order in which they are tried; the fallback comes last. -/
  routes : List RouteRule := []
  warnings : List Warning := []
  omitted : List Omission := []

namespace Output

def function? : Output → Option FunctionUnit
  | function unit => some unit
  | static _ => none

def static? : Output → Option StaticAsset
  | function _ => none
  | static asset => some asset

end Output

namespace Manifest

/-- The functions by name. -/
def functions (m : Manifest) : List (Text × FunctionUnit) :=
  m.outputs.entries.filterMap fun (name, output) => output.function?.map (name, ·)

/-- The static assets by name. -/
def statics (m : Manifest) : List (Text × StaticAsset) :=
  m.outputs.entries.filterMap fun (name, output) => output.static?.map (name, ·)

/-- The rule that catches what no other rule does. -/
def fallback? (m : Manifest) : Option RouteRule := m.routes.getLast?

end Manifest

section Json

/-- The members of an object under names in plain text. -/
def Json.ofMembers (members : List (String × Json)) : Json :=
  .object (members.map fun (key, v) => (key.toList, v))

/-- A text, or null where there is none. -/
def Json.ofText? : Option Text → Json
  | some t => .string t
  | none => .null

/-- The members of a unit: the paths of its files, its handler and its limits. A host adds nothing
to it. -/
def FunctionUnit.members (u : FunctionUnit) : List (String × Json) :=
  [("files", .array (u.files.keys.map .string)), ("handler", .string u.handler),
    ("runtime", .string u.limits.runtime), ("memory", .nat u.limits.memory),
    ("max_duration", .nat u.limits.maxDuration), ("should_add_helpers", .bool false),
    ("should_add_source_map_support", .bool false)]

def StaticAsset.members (a : StaticAsset) : List (String × Json) :=
  [("request_path", .string a.requestPath), ("file", .string a.file),
    ("content_type", .ofText? a.contentType)]

def Output.toJson : Output → Json
  | .function unit => .ofMembers (("type", .string "function".toList) :: unit.members)
  | .static asset => .ofMembers (("type", .string "static".toList) :: asset.members)

def RouteRule.toJson (r : RouteRule) : Json :=
  .ofMembers [("source", .string r.source), ("destination", .string r.destination),
    ("clean_urls", .bool r.cleanUrls), ("trailing_slash", .bool r.trailingSlash),
    ("src", .string r.src)]

def Omission.toJson (o : Omission) : Json :=
  .ofMembers [("output_name", .string o.outputName), ("entrypoint", .string o.entrypoint),
    ("reason", .string o.reason.summary)]

def Manifest.toJson (m : Manifest) : Json :=
  .ofMembers [
    ("outputs", .object (m.outputs.entries.map fun (name, output) => (name, output.toJson))),
    ("routes", .array (m.routes.map RouteRule.toJson)),
    ("warnings", .array (m.warnings.map fun w => .string w.message)),
    ("omitted", .array (m.omitted.map Omission.toJson))]

end Json

end AppBundle
