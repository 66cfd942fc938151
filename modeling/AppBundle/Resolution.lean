import AppBundle.Catalog
import AppBundle.Ignore
import AppBundle.Reading
import AppBundle.Source

/-!
# Resolutions

A resolver finds all files that an entrypoint needs. It learns about the project only from the
files it asks for, so that its answer is a function of theirs.
-/

namespace AppBundle

/-- The files that an entrypoint needs, by dialect and each once in ascending order, and what was
noticed on the way. -/
structure Resolution where
  sourceFiles : List Path := []
  moduleFiles : List Path := []
  warnings : List Warning := []

namespace Resolution

/-- Adds a file under its dialect, and the warnings about it. -/
def add (r : Resolution) (dialect : Dialect) (path : Path) (warnings : List Warning) :
    Resolution :=
  match dialect with
  | .esModule =>
    { r with
      moduleFiles := Ascending.insert path r.moduleFiles, warnings := r.warnings ++ warnings }
  | .commonJs =>
    { r with
      sourceFiles := Ascending.insert path r.sourceFiles, warnings := r.warnings ++ warnings }

/-- The files of both dialects, in ascending order. -/
def files (r : Resolution) : List Path := r.moduleFiles.foldr Ascending.insert r.sourceFiles

end Resolution

/-- Why an entrypoint could not be resolved. -/
inductive ResolveError where
  | access (cause : AccessError)
  | missing (entrypoint : Path)
  | analysis (path : Path) (detail : Text)
  /-- There was more to visit than the limit allowed. -/
  | unfinished (entrypoint : Path)
deriving DecidableEq

namespace ResolveError

def message : ResolveError → Text
  | access cause => "file access failed: ".toList ++ cause.message
  | missing entrypoint => "entrypoint ".toList ++ entrypoint ++ " does not exist".toList
  | analysis path detail =>
    "module analysis failed for ".toList ++ path ++ ": ".toList ++ detail
  | unfinished entrypoint =>
    "module analysis of ".toList ++ entrypoint ++ " did not end".toList

end ResolveError

/-- How to look for the files of an entrypoint: which ones never to take, whether typed sources
are understood, and whether files of both dialects may stand side by side. -/
structure ScanOptions where
  exclude : Ignore := Ignore.empty
  typescript : Bool := true
  mixedModules : Bool := true

/-- A way to find the files of an entrypoint. -/
abbrev Resolver := ScanOptions → Path → ExceptT ResolveError Reading Resolution

/-! ## Traces

The trace of an entrypoint is what a resolver finds for it, without the excluded files. -/

/-- Why an entrypoint could not be traced. -/
inductive TraceError where
  | outsideProject (entrypoint : Path)
  | unresolved (entrypoint : Path) (cause : ResolveError)
deriving DecidableEq

namespace TraceError

def message : TraceError → Text
  | outsideProject entrypoint =>
    "entrypoint ".toList ++ entrypoint ++ " is outside the project root".toList
  | unresolved entrypoint cause =>
    "dependency resolution failed for ".toList ++ entrypoint ++ ": ".toList ++ cause.message

end TraceError

/-- The files of an entrypoint, by dialect, and what was noticed on the way. -/
abbrev Trace := Resolution

namespace Trace

/-- The paths that are not excluded. -/
def keep (exclude : Ignore) : List Path → Except Stray (List Path)
  | [] => .ok []
  | p :: ps => do
    let excluded ← exclude.check p
    let kept ← keep exclude ps
    return if excluded then kept else p :: kept

/-- The trace that a resolution leaves. -/
def ofResolution (exclude : Ignore) (r : Resolution) : Except Stray Trace := do
  let sourceFiles ← keep exclude r.sourceFiles
  let moduleFiles ← keep exclude r.moduleFiles
  return { sourceFiles, moduleFiles, warnings := r.warnings }

/-- Traces an absolute entrypoint of the project. -/
def entrypoint (resolver : Resolver) (root : Path) (exclude : Ignore) (path : Path) :
    ExceptT TraceError Reading Trace :=
  match Path.relativeTo? root path with
  | none => throw (.outsideProject path)
  | some relative => do
    let resolution ← (resolver { exclude } relative).adapt (.unresolved relative)
    match ofResolution exclude resolution with
    | .ok trace => return trace
    | .error s => ExceptT.mk (.stray s)

end Trace

end AppBundle
