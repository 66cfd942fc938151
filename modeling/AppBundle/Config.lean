import AppBundle.Path
import AppBundle.Text.Quoted

/-!
# Configuration

Where a build leaves its output, what resources functions get, which documents answer for unknown
paths, and whether functions are packaged in parallel. Every setting has a default. A valid
configuration keeps its directories below the project root and its limits above zero.
-/

namespace AppBundle

/-- Where a build leaves its output, read from the project root. -/
structure Layout where
  functionsDir : Text := "api/dist/functions".toList
  staticDir : Text := "web/dist".toList
  /-- The segment that marks built files. -/
  buildSegment : Text := "dist".toList
  /-- The segment in its place on the way to the sources. -/
  sourceSegment : Text := "src".toList
  /-- What every function's output name starts with. -/
  apiPrefix : Text := "api".toList
deriving DecidableEq, Repr

/-- Resources of the functions whose source matches a pattern. -/
structure LimitOverride where
  source : Text
  runtime : Option Text := none
  memory : Option Nat := none
  maxDuration : Option Nat := none
deriving DecidableEq, Repr

/-- Resources of functions and the files that are never shipped with them. -/
structure FunctionSettings where
  runtime : Text := "nodejs20.x".toList
  memory : Nat := 1024
  maxDuration : Nat := 10
  /-- The exported name that handlers point at. -/
  handlerExport : Text := "handler".toList
  exclude : List Text := []
  overrides : List LimitOverride := []
deriving DecidableEq, Repr

/-- The documents that answer where no other route does. -/
structure RouteSettings where
  fallbackDocument : Text := "200.html".toList
  indexDocument : Text := "index.html".toList
deriving DecidableEq, Repr

/-- The settings of a project. -/
structure Config where
  layout : Layout := {}
  functions : FunctionSettings := {}
  routes : RouteSettings := {}
  parallel : Bool := false
deriving DecidableEq, Repr

/-- What is wrong with a directory of the layout. -/
inductive LayoutFault where
  | empty
  | absolute
  | notBelowRoot
  | escapesRoot
deriving DecidableEq, Repr

namespace LayoutFault

def message : LayoutFault → Text
  | empty => "must not be empty".toList
  | absolute => "must be relative to the project root".toList
  | notBelowRoot => "must name a directory below the project root".toList
  | escapesRoot => "must not escape the project root".toList

end LayoutFault

/-- Where a limit was set. -/
inductive LimitScope where
  | allFunctions
  | override (source : Text)
deriving DecidableEq, Repr

namespace LimitScope

def name : LimitScope → Text
  | allFunctions => "[functions]".toList
  | override source => "override ".toList ++ source.quoted

end LimitScope

/-- Why there is no configuration to work with. -/
inductive ConfigError where
  | unreadable (file : Path)
  | malformed (file : Path)
  | invalidPath (field path : Text) (fault : LayoutFault)
  | invalidLimit (field : Text) (scope : LimitScope)
  | invalidSegment (field value : Text)
deriving DecidableEq, Repr

namespace ConfigError

def message : ConfigError → Text
  | unreadable file => "failed to load config from ".toList ++ file
  | malformed file => "failed to parse config at ".toList ++ file
  | invalidPath field path fault =>
    "invalid layout path [layout].".toList ++ field ++ " = ".toList ++ path.quoted
      ++ ": ".toList ++ fault.message
  | invalidLimit field scope =>
    "invalid ".toList ++ field ++ " for ".toList ++ scope.name
      ++ ": must be greater than zero".toList
  | invalidSegment field value =>
    "invalid [layout].".toList ++ field ++ " = ".toList ++ value.quoted
      ++ ": must be a single path segment".toList

end ConfigError

namespace Layout

/-- What is wrong with a directory, if anything. -/
def pathFault? (path : Text) : Option LayoutFault :=
  if path = [] then some .empty
  else if path.head? = some '/' then some .absolute
  else
    match Path.normalize path with
    | none => some .escapesRoot
    | some [] => some .notBelowRoot
    | some _ => none

/-- The text can be one segment of a path. -/
def isSegment (value : Text) : Bool :=
  value ≠ [] && !value.any Path.isSeparator && value ≠ ['.'] && value ≠ ['.', '.']

def checkPath (field : String) (path : Text) : Except ConfigError Unit :=
  match pathFault? path with
  | some fault => .error (.invalidPath field.toList path fault)
  | none => .ok ()

def checkSegment (field : String) (value : Text) : Except ConfigError Unit :=
  if isSegment value then .ok () else .error (.invalidSegment field.toList value)

def validate (l : Layout) : Except ConfigError Unit := do
  checkPath "functions_dir" l.functionsDir
  checkPath "static_dir" l.staticDir
  checkSegment "build_segment" l.buildSegment
  checkSegment "source_segment" l.sourceSegment
  checkSegment "api_prefix" l.apiPrefix

/-- The segments with the one that equals `old` replaced, if there is exactly one. -/
def replaceOnly? (old new : Text) (segments : List Text) : Option (List Text) :=
  if segments.count old = 1 then some (segments.map fun s => if s = old then new else s)
  else none

/-- The source of a built file, under the extension of the built file. -/
def sourcePath? (l : Layout) (built : Path) : Option Path := do
  let normal ← built.normalize
  let segments ← replaceOnly? l.buildSegment l.sourceSegment (normal.splitBy (· = '/'))
  return Text.joinBy '/' segments

/-- The files that may be the source of a built file, in the order of preference. -/
def sourceCandidates (derived : Path) : List Path :=
  ["ts", "tsx", "js", "jsx"].map fun ext => derived.stripExtension ++ '.' :: ext.toList

end Layout

namespace FunctionSettings

def checkLimit (field : String) (value : Nat) (scope : LimitScope) : Except ConfigError Unit :=
  if value = 0 then .error (.invalidLimit field.toList scope) else .ok ()

def checkLimitIfSet (field : String) (value : Option Nat) (scope : LimitScope) :
    Except ConfigError Unit :=
  match value with
  | some value => checkLimit field value scope
  | none => .ok ()

def checkOverrides : List LimitOverride → Except ConfigError Unit
  | [] => .ok ()
  | o :: rest => do
    checkLimitIfSet "memory" o.memory (.override o.source)
    checkLimitIfSet "max_duration" o.maxDuration (.override o.source)
    checkOverrides rest

def validate (f : FunctionSettings) : Except ConfigError Unit := do
  checkLimit "memory" f.memory .allFunctions
  checkLimit "max_duration" f.maxDuration .allFunctions
  checkOverrides f.overrides

end FunctionSettings

namespace Config

/-- The first fault of a configuration. -/
def validate (c : Config) : Except ConfigError Unit := do
  c.layout.validate
  c.functions.validate

end Config

end AppBundle
