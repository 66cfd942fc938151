import AppBundle.Config
import AppBundle.Toml.Parser
import AppBundle.Tree

/-!
# Loading configurations

The configuration of a directory is in its file `slipway.toml`; without that file all settings have
their defaults. What is loaded is valid.
-/

namespace AppBundle

namespace Config

/-! ## Configurations in TOML

Each section is a table, or an array of its settings in their order. Unknown keys do not count, and
a setting that is left out has its default; only an override written as an array needs them all. -/

/-- The fields of a section that was written as a table or an array. -/
inductive Section where
  | keyed (members : Toml.Members)
  | listed (items : List Toml.Item)

/-- The section of an item. A date has no field of any section. -/
def sectionOf? : Toml.Item → Option Section
  | .table _ members => some (.keyed members)
  | .array items => some (.listed items)
  | .tables rows => some (.listed (rows.map (.table .header)))
  | .datetime => some (.keyed [])
  | .string _ | .integer _ | .float | .boolean _ => none

/-- A field, by its key or its place. -/
def Section.field? (s : Section) (key : String) (index : Nat) : Option Toml.Item :=
  match s with
  | .keyed members => members.lookup key.toList
  | .listed items => items[index]?

def decodeText : Toml.Item → Option Text
  | .string t => some t
  | _ => none

/-- A number of 32 bits. -/
def decodeNat : Toml.Item → Option Nat
  | .integer n => if 0 ≤ n ∧ n < UInt32.size then some n.toNat else none
  | _ => none

def decodeBool : Toml.Item → Option Bool
  | .boolean b => some b
  | _ => none

def decodeList {α : Type} (decode : Toml.Item → Option α) : Toml.Item → Option (List α)
  | .array items => items.mapM decode
  | .tables rows => (rows.map (.table .header)).mapM decode
  | _ => none

/-- A field, or its default where it is left out. -/
def Section.get {α : Type} (s : Section) (key : String) (index : Nat) (default : α)
    (decode : Toml.Item → Option α) : Option α :=
  match s.field? key index with
  | some item => decode item
  | none => some default

/-- A field that may be left out of a table. -/
def Section.getOptional {α : Type} (s : Section) (key : String) (index : Nat)
    (decode : Toml.Item → Option α) : Option (Option α) :=
  match s.field? key index, s with
  | some item, _ => (decode item).map some
  | none, .keyed _ => some none
  | none, .listed _ => none

def decodeLayout (item : Toml.Item) : Option Layout := do
  let s ← sectionOf? item
  let d : Layout := {}
  return {
    functionsDir := ← s.get "functions_dir" 0 d.functionsDir decodeText
    staticDir := ← s.get "static_dir" 1 d.staticDir decodeText
    buildSegment := ← s.get "build_segment" 2 d.buildSegment decodeText
    sourceSegment := ← s.get "source_segment" 3 d.sourceSegment decodeText
    apiPrefix := ← s.get "api_prefix" 4 d.apiPrefix decodeText }

def decodeOverride (item : Toml.Item) : Option LimitOverride := do
  let s ← sectionOf? item
  return {
    source := ← decodeText (← s.field? "source" 0)
    runtime := ← s.getOptional "runtime" 1 decodeText
    memory := ← s.getOptional "memory" 2 decodeNat
    maxDuration := ← s.getOptional "max_duration" 3 decodeNat }

def decodeFunctions (item : Toml.Item) : Option FunctionSettings := do
  let s ← sectionOf? item
  let d : FunctionSettings := {}
  return {
    runtime := ← s.get "runtime" 0 d.runtime decodeText
    memory := ← s.get "memory" 1 d.memory decodeNat
    maxDuration := ← s.get "max_duration" 2 d.maxDuration decodeNat
    handlerExport := ← s.get "handler_export" 3 d.handlerExport decodeText
    exclude := ← s.get "exclude" 4 d.exclude (decodeList decodeText)
    overrides := ← s.get "overrides" 5 d.overrides (decodeList decodeOverride) }

def decodeRoutes (item : Toml.Item) : Option RouteSettings := do
  let s ← sectionOf? item
  let d : RouteSettings := {}
  return {
    fallbackDocument := ← s.get "fallback_document" 0 d.fallbackDocument decodeText
    indexDocument := ← s.get "index_document" 1 d.indexDocument decodeText }

def decodeParallel (item : Toml.Item) : Option Bool := do
  let s ← sectionOf? item
  s.get "parallel" 0 false decodeBool

/-- The configuration of a document. -/
def decode (members : Toml.Members) : Option Config := do
  let s := Section.keyed members
  return {
    layout := ← s.get "layout" 0 {} decodeLayout
    functions := ← s.get "functions" 1 {} decodeFunctions
    routes := ← s.get "routes" 2 {} decodeRoutes
    parallel := ← s.get "pipeline" 3 false decodeParallel }

/-! ## Configuration files -/

def fileName : Text := "slipway.toml".toList

/-- The text that a path leads to. -/
def textAt? (t : Tree) (cwd : Place) (p : Path) : Option Text :=
  match t.status cwd p with
  | .ok (.file content _) => (String.fromUTF8? content).map String.toList
  | _ => none

/-- The configuration written in a file. -/
def parse? (text : Text) : Option Config := Toml.read text >>= decode

/-- Loads the configuration of a directory. -/
def load (t : Tree) (cwd : Place) (dir : Path) : Except ConfigError Config := do
  let file := Path.resolveFrom dir fileName
  if t.isThere cwd file then
    match textAt? t cwd file with
    | none => .error (.unreadable file)
    | some text =>
      match parse? text with
      | none => .error (.malformed file)
      | some config => do
        config.validate
        return config
  else do
    let config : Config := {}
    config.validate
    return config

end Config

end AppBundle
