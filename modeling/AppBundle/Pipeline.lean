import AppBundle.Manifest

/-!
# Packaging a project

A run discovers the functions, traces and packages each, classifies the static site and makes the
routing table. Functions do not depend on each other: they are all processed before their results
are merged, and the merge goes in the order of discovery. A function that cannot be packaged for a
reason of its own is left out; any other error ends the run.
-/

namespace AppBundle

/-- Why a project could not be packaged. -/
inductive PipelineError where
  | exclude (cause : PatternError)
  | limits (cause : PatternError)
  | discovery (cause : DiscoverError)
  | trace (cause : TraceError)
  | package (outputName : Text) (cause : PackageError)
  | assets (cause : AssetError)
  | routes (cause : RouteError)
  | collision (name existing : Text)

namespace PipelineError

/-- The error without its cause. -/
def summary : PipelineError → Text
  | exclude _ => "invalid [functions].exclude pattern".toList
  | limits _ => "invalid [[functions.overrides]] pattern".toList
  | discovery _ => "function discovery failed".toList
  | trace _ => "tracing failed".toList
  | package outputName _ => "packaging ".toList ++ outputName ++ " failed".toList
  | assets _ => "static asset classification failed".toList
  | routes _ => "route synthesis failed".toList
  | collision name existing =>
    "output name ".toList ++ name ++ " collides with ".toList ++ existing

/-- What lies behind the error. -/
def cause? : PipelineError → Option Text
  | exclude cause | limits cause => some cause.message
  | discovery cause => some cause.message
  | trace cause => some cause.message
  | package _ cause => some cause.message
  | assets cause => some cause.message
  | routes cause => some cause.message
  | collision .. => none

def message (e : PipelineError) : Text :=
  match e.cause? with
  | some cause => e.summary ++ ": ".toList ++ cause
  | none => e.summary

end PipelineError

namespace Pipeline

/-- What became of a function. -/
inductive Outcome where
  | packaged (unit : FunctionUnit)
  | omitted (reason : PackageError)

/-- What every function of a run is processed with. -/
structure Setting where
  project : Path
  config : Config
  resolver : Resolver
  exclude : Ignore
  limits : LimitTable

/-- The patterns of a configuration, compiled. -/
def prepare (project : Path) (config : Config) (resolver : Resolver) :
    Except PipelineError Setting := do
  let exclude ← (Ignore.build project config.functions.exclude).mapError .exclude
  let limits ← (LimitTable.build project config.functions).mapError .limits
  return { project, config, resolver, exclude, limits }

/-- Traces and packages one function. -/
def process (s : Setting) (entry : FunctionEntry) :
    ExceptT PipelineError Reading (Outcome × List Warning) := do
  let trace ← (Trace.entrypoint s.resolver s.project s.exclude entry.entrypoint).adapt
    PipelineError.trace
  let unit ← (FunctionUnit.package s.config.layout s.config.functions.handlerExport s.limits entry
    trace).run
  match unit with
  | .ok unit => return (.packaged unit, trace.warnings)
  | .error e =>
    if e.isFatal then throw (.package entry.outputName e)
    else return (.omitted e, trace.warnings)

/-- A function with the result of processing it. -/
abbrev Result := FunctionEntry × Except PipelineError (Outcome × List Warning)

/-- Processes all functions, whatever becomes of each. -/
def processAll (s : Setting) : List FunctionEntry → Reading (List Result)
  | [] => return []
  | entry :: rest => do
    let result ← (process s entry).run
    let later ← processAll s rest
    return (entry, result) :: later

/-- The name already packaged that differs from a new one in the case of ASCII letters at most. -/
def existing? (m : Manifest) (name : Text) : Option Text :=
  m.outputs.keys.find? fun other => Text.foldCase other = Text.foldCase name

/-- Adds the results of functions to a manifest, up to the first error. -/
def mergeFunctions : Manifest → List Result → Except PipelineError Manifest
  | m, [] => .ok m
  | m, (entry, result) :: rest => do
    let (outcome, warnings) ← result
    let m := { m with warnings := m.warnings ++ warnings }
    let name := entry.outputName
    match outcome with
    | .packaged unit =>
      match existing? m name with
      | some existing => .error (.collision name existing)
      | none => mergeFunctions { m with outputs := m.outputs.insert name (.function unit) } rest
    | .omitted reason =>
      let omission := { outputName := name, entrypoint := entry.entrypoint, reason }
      mergeFunctions { m with omitted := m.omitted ++ [omission] } rest

/-- Adds static assets to a manifest, up to the first name already taken. -/
def mergeStatics : Manifest → List (Text × StaticAsset) → Except PipelineError Manifest
  | m, [] => .ok m
  | m, (name, asset) :: rest =>
    if m.outputs.contains name then .error (.collision name name)
    else mergeStatics { m with outputs := m.outputs.insert name (.static asset) } rest

/-- The manifest of processed functions and of the static site. -/
def assemble (t : Tree) (s : Setting) (d : Discovery) (results : List Result) :
    Except PipelineError Manifest := do
  let staticRoot := s.project.resolveFrom s.config.layout.staticDir
  let m ← mergeFunctions { warnings := d.warnings s.config.layout } results
  let assets ← (StaticAsset.classify t staticRoot).mapError .assets
  let m ← mergeStatics m assets.entries
  let routes ← (Route.synthesize t [] staticRoot s.config.routes).mapError .routes
  return { m with routes }

/-- Packages the project at an absolute path. -/
def run (t : Tree) (project : Path) (config : Config) (resolver : Resolver) :
    ExceptT PipelineError Reading Manifest := do
  let s ← ExceptT.mk (.done (prepare project config resolver))
  let d ← (Discovery.run t project config.layout).adapt .discovery
  let results ← processAll s d.entries
  ExceptT.mk (.done (assemble t s d results))

end Pipeline

end AppBundle
