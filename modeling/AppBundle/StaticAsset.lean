import AppBundle.Tree

/-!
# Static assets

Each file of a static site is served at its path below the site, an HTML document without its
extension, which counts in any letter case. No two files may be served at one path.
-/

namespace AppBundle

/-! ## Documents -/

namespace Document

/-- The path of a document without its extension. -/
def stem? (p : Path) : Option Path :=
  match p.extension with
  | some ext => if Text.foldCase ext = "html".toList then some p.stripExtension else none
  | none => none

/-- The path that a request for a document names. -/
def cleanUrl (document : Path) : Text :=
  let p := document.normalize.getD document
  '/' :: (stem? p).getD p

end Document

/-! ## Assets -/

/-- A file served at a request path. -/
structure StaticAsset where
  requestPath : Text
  /-- The absolute path of the file. -/
  file : Path
  /-- Set for documents; the host infers that of other files. -/
  contentType : Option Text
deriving DecidableEq, Repr

/-- Why a site could not be classified. -/
inductive AssetError where
  | collision (requestPath : Text) (first second : Path)
deriving DecidableEq, Repr

namespace AssetError

def message : AssetError → Text
  | collision requestPath first second =>
    "static files ".toList ++ first ++ " and ".toList ++ second ++ " are both served at ".toList
      ++ requestPath

end AssetError

namespace StaticAsset

def documentType : Text := "text/html; charset=utf-8".toList

/-- The name of a file given by its path below the site, and the content type to set. -/
def nameOf (within : Path) : Text × Option Text :=
  match Document.stem? within with
  | some stem => (stem, some documentType)
  | none => (within, none)

/-- Files each of some files below the site under its name, up to the first name already taken. -/
def addFiles (staticRoot : Path) : Catalog Text StaticAsset → List (List Text) →
    Except AssetError (Catalog Text StaticAsset)
  | assets, [] => .ok assets
  | assets, names :: rest =>
    let within : Path := Text.joinBy '/' names
    let file := staticRoot.resolveFrom within
    let (name, contentType) := nameOf within
    match assets.find? name with
    | some earlier => .error (.collision earlier.requestPath earlier.file file)
    | none =>
      addFiles staticRoot
        (assets.insert name { requestPath := '/' :: name, file, contentType }) rest

/-- The assets of a site under their names; a site that is no directory has none. -/
def classify (t : Tree) (staticRoot : Path) : Except AssetError (Catalog Text StaticAsset) :=
  match t.filesBelow? [] staticRoot with
  | none => .ok Catalog.empty
  | some files => addFiles staticRoot Catalog.empty files

end StaticAsset

end AppBundle
