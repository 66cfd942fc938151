import AppBundle.Config
import AppBundle.Discovery
import AppBundle.Ignore
import AppBundle.Resolution

/-!
# Function units

The unit of a function is what a host needs to run it: the files of its trace with their contents,
the handler to call, and its limits.
-/

namespace AppBundle

/-! ## Limits

Each function gets the limits of the first override whose pattern matches its source, and the
general limits where that override sets none. -/

/-- The resources of one function: memory in megabytes, duration in seconds. -/
structure Limits where
  runtime : Text
  memory : Nat
  maxDuration : Nat
deriving DecidableEq, Repr

/-- The general limits and the overrides with their compiled patterns. -/
structure LimitTable where
  defaults : Limits
  overrides : List (Ignore × LimitOverride)

namespace LimitTable

/-- Compiles the patterns of overrides below a root, up to the first that is none. -/
def compile (root : Path) : List LimitOverride → Except PatternError (List (Ignore × LimitOverride))
  | [] => .ok []
  | o :: rest => do
    let matcher ← Ignore.build root [o.source]
    return (matcher, o) :: (← compile root rest)

/-- The table of a configuration. -/
def build (root : Path) (settings : FunctionSettings) : Except PatternError LimitTable := do
  let overrides ← compile root settings.overrides
  return {
    defaults :=
      { runtime := settings.runtime, memory := settings.memory,
        maxDuration := settings.maxDuration }
    overrides }

/-- The first override whose pattern matches a path. -/
def firstMatch (p : Path) : List (Ignore × LimitOverride) → Except Stray (Option LimitOverride)
  | [] => .ok none
  | (matcher, o) :: rest => do
    if ← matcher.check p then return some o else firstMatch p rest

/-- The limits where an override sets what it sets. -/
def apply (defaults : Limits) (o : LimitOverride) : Limits where
  runtime := o.runtime.getD defaults.runtime
  memory := o.memory.getD defaults.memory
  maxDuration := o.maxDuration.getD defaults.maxDuration

/-- The limits of a function with the given source; without one, the general limits. -/
def resolve (t : LimitTable) : (source : Option Path) → Except Stray Limits
  | none => .ok t.defaults
  | some source => do
    match ← firstMatch source t.overrides with
    | some o => return apply t.defaults o
    | none => return t.defaults

end LimitTable

/-! ## Units -/

/-- A packaged function. -/
structure FunctionUnit where
  files : Catalog Path ProjectFile
  handler : Text
  limits : Limits

/-- Why a function could not be packaged. -/
inductive PackageError where
  | noSourcePath (entrypoint : Path)
  | noHandler (entrypoint : Path)
  | missingEntrypoint (entrypoint : Path)
  | missingTraced (path : Path)
  | access (cause : AccessError)
deriving DecidableEq

namespace PackageError

/-- The error without its cause. -/
def summary : PackageError → Text
  | noSourcePath entrypoint => "cannot derive the source path of ".toList ++ entrypoint
  | noHandler entrypoint =>
    "cannot derive a handler for ".toList ++ entrypoint
      ++ ": not inside the functions directory".toList
  | missingEntrypoint entrypoint => "entrypoint ".toList ++ entrypoint ++ " does not exist".toList
  | missingTraced path => "traced file ".toList ++ path ++ " does not exist".toList
  | access _ => "file access failed".toList

def message : PackageError → Text
  | access cause => summary (access cause) ++ ": ".toList ++ cause.message
  | e => e.summary

/-- The error ends the whole run, not only the packaging of one function. -/
def isFatal : PackageError → Bool
  | access _ => true
  | noSourcePath _ | noHandler _ | missingEntrypoint _ | missingTraced _ => false

end PackageError

namespace FunctionUnit

/-- The path of an entrypoint below the functions directory. -/
def within? (functionsDir entrypoint : Path) : Option Path := do
  let dir ← functionsDir.normalize
  let normal ← entrypoint.normalize
  let rest ← normal.after? dir
  match ← rest.after? ['/'] with
  | [] => none
  | within => some within

/-- The handler of an entrypoint: its path below the functions directory without its extension,
and the exported name. -/
def handler? (layout : Layout) (handlerExport : Text) (entrypoint : Path) : Option Text :=
  (within? layout.functionsDir entrypoint).map fun within =>
    within.stripExtension ++ '.' :: handlerExport

/-- Adds files to a unit's, unless they are there. -/
def addFiles : Catalog Path ProjectFile → List Path →
    ExceptT PackageError Reading (Catalog Path ProjectFile)
  | files, [] => return files
  | files, p :: ps => do
    if files.contains p then addFiles files ps
    else
      match ← (ExceptT.mk (Reading.file p)).adapt PackageError.access with
      | none => throw (.missingTraced p)
      | some file => addFiles (files.insert p file) ps

/-- Packages a function with the files of its trace. -/
def package (layout : Layout) (handlerExport : Text) (limits : LimitTable) (entry : FunctionEntry)
    (trace : Trace) : ExceptT PackageError Reading FunctionUnit :=
  match entry.sourcePath with
  | none => throw (.noSourcePath entry.entrypoint)
  | some source =>
    match handler? layout handlerExport entry.relativeEntrypoint with
    | none => throw (.noHandler entry.relativeEntrypoint)
    | some handler => do
      let entrypoint ←
        (ExceptT.mk (Reading.file entry.relativeEntrypoint)).adapt PackageError.access
      match entrypoint with
      | none => throw (.missingEntrypoint entry.entrypoint)
      | some file =>
        let files ← addFiles (Catalog.empty.insert entry.relativeEntrypoint file) trace.files
        match limits.resolve (some source) with
        | .ok limits => return { files, handler, limits }
        | .error s => ExceptT.mk (.stray s)

end FunctionUnit

end AppBundle
