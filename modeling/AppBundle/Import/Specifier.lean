import AppBundle.Path

/-!
# What a specifier asks for

A specifier that starts with `.` or `..` names a path, one that starts with a slash nothing that
can be shipped, and any other a module of the platform or a package, perhaps with a path inside
the package.
-/

namespace AppBundle

namespace Import

/-- The modules of the platform, which need not be shipped. -/
def builtinModules : List Text :=
  ["assert", "async_hooks", "buffer", "child_process", "cluster", "console", "constants", "crypto",
    "dgram", "diagnostics_channel", "dns", "domain", "events", "fs", "http", "http2", "https",
    "inspector", "module", "net", "os", "path", "perf_hooks", "process", "punycode",
    "querystring", "readline", "repl", "stream", "string_decoder", "sys", "timers", "tls",
    "trace_events", "tty", "url", "util", "v8", "vm", "wasi", "worker_threads",
    "zlib"].map String.toList

/-- What a specifier asks for. -/
inductive Request where
  | relative (path : Path)
  | absolute
  | builtin
  | package (name : Text) (subpath : Option Text)
deriving DecidableEq, Repr

/-- The specifier is read from the directory of its importer. -/
def isRelative (specifier : Text) : Bool :=
  specifier = ['.'] || specifier = ['.', '.'] || (specifier.after? "./".toList).isSome
    || (specifier.after? "../".toList).isSome

/-- The specifier names a module of the platform. -/
def isBuiltin (specifier : Text) : Bool :=
  (specifier.after? "node:".toList).isSome
    || builtinModules.contains (specifier.takeWhile (· ≠ '/'))

/-- The name of a package, which includes its scope, and the path inside it, unless empty. -/
def splitPackage (specifier : Text) : Text × Option Text :=
  let cut (t : Text) : Text × Option Text :=
    match t.cutFirst? '/' with
    | some (name, []) => (name, none)
    | some (name, subpath) => (name, some subpath)
    | none => (t, none)
  match specifier with
  | '@' :: _ =>
    match specifier.cutFirst? '/' with
    | some (scope, rest) =>
      let (name, subpath) := cut rest
      (scope ++ '/' :: name, subpath)
    | none => (specifier, none)
  | _ => cut specifier

/-- What the specifier asks for. -/
def requestOf (specifier : Text) : Request :=
  if isRelative specifier then .relative specifier
  else if specifier.head? = some '/' then .absolute
  else if isBuiltin specifier then .builtin
  else
    let (name, subpath) := splitPackage specifier
    .package name subpath

/-- The directory and every directory above it up to the project root; nothing is above a
directory without a slash but the root. -/
def ancestors (dir : Path) : List Path :=
  if dir = [] then [[]]
  else dir :: ancestors dir.parent
termination_by dir.length
decreasing_by exact Path.length_parent_lt ‹_›

end Import

end AppBundle
