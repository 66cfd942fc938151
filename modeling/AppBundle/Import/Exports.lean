import AppBundle.Json
import AppBundle.Source

/-!
# Entry points of a package

A package manifest names the file that an importer gets: by the `exports` of the package under the
conditions that the importer meets, and for the package itself also by `module` and `main`.
-/

namespace AppBundle

namespace Dialect

/-- The condition that stands for the dialect of the importer. -/
def condition : Dialect → Text
  | esModule => "import".toList
  | commonJs => "require".toList

/-- The importer meets the condition. -/
def meets (d : Dialect) (key : Text) : Bool :=
  key = "node".toList || key = "default".toList || key = d.condition

end Dialect

namespace Import

mutual

/-- The first target, in the order of the manifest, all of whose conditions the importer meets. -/
def conditionalTarget? (d : Dialect) : Json → Option Text
  | .string target => some target
  | .array items => targetOfItems? d items
  | .object members => targetOfMembers? d members
  | .null | .bool _ | .number _ => none

def targetOfItems? (d : Dialect) : List Json → Option Text
  | [] => none
  | v :: vs =>
    match conditionalTarget? d v with
    | some target => some target
    | none => targetOfItems? d vs

def targetOfMembers? (d : Dialect) : List (Text × Json) → Option Text
  | [] => none
  | (key, v) :: rest =>
    if d.meets key then
      match conditionalTarget? d v with
      | some target => some target
      | none => targetOfMembers? d rest
    else targetOfMembers? d rest

end

/-- The key of a path inside a package among its exports. -/
def exportKey : (subpath : Option Text) → Text
  | none => ['.']
  | some subpath => '.' :: '/' :: subpath

/-- The exports of a path inside a package: those under its key if the keys are such paths, or
all of them for the package itself. -/
def exportsOf? (subpath : Option Text) (exported : Json) : Option Json :=
  let whole := if subpath.isNone then some exported else none
  match exported with
  | .object members =>
    if members.any fun m => m.1.head? = some '.' then members.lookup (exportKey subpath) else whole
  | _ => whole

/-- The file that the importer gets, read from the directory of the package. -/
def entryPoint? (d : Dialect) (subpath : Option Text) (manifest : Json) : Option Text :=
  let exported := do
    let target ← exportsOf? subpath (← manifest.member? "exports".toList)
    conditionalTarget? d target
  match exported with
  | some target => some target
  | none =>
    if subpath.isSome then none
    else
      let main := manifest.member? "main".toList >>= Json.string?
      match d with
      | .esModule => (manifest.member? "module".toList >>= Json.string?).or main
      | .commonJs => main

end Import

end AppBundle
