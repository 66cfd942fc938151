import AppBundle.Config.Load
import AppBundle.Import.Walk
import AppBundle.Pipeline

/-!
# The command line

`package` packages a project and prints a summary or the manifest; `routes` prints the routing
table of its static site. A command is run on a file tree and reports what it prints, how it ends
and the tree it leaves.
-/

namespace AppBundle

/-- What the command line asks for. -/
inductive Command where
  | package (dir : Path) (json : Bool) (out : Option Path) (parallel : Bool)
  | routes (dir : Path)
  | version
deriving DecidableEq, Repr

/-- What a command comes to: how it ends, what it prints and the tree it leaves. -/
structure Report where
  exitCode : Nat
  stdout : Text := []
  stderr : Text := []
  tree : Tree

namespace Command

/-- The options of a command line: values by name, and flags. -/
structure Options where
  values : List (Text × Text) := []
  flags : List Text := []

/-- A word that is no value of an option. -/
def isOption (word : Text) : Bool :=
  match word with
  | '-' :: _ :: _ => true
  | _ => false

/-- Sets the value of an option, once and not to nothing. -/
def setValue (o : Options) (name value : Text) : Option Options :=
  if value = [] ∨ (o.values.lookup name).isSome then none
  else some { o with values := (name, value) :: o.values }

/-- Sets a flag, once. -/
def setFlag (o : Options) (name : Text) : Option Options :=
  if o.flags.contains name then none else some { o with flags := name :: o.flags }

/-- Reads the options after a command: those that take a value, as the next word or after `=`, and
flags. Nothing else may stand there. -/
def readOptions (valued flags : List Text) : Options → List Text → Option Options
  | o, [] => some o
  | o, word :: rest =>
    if word = "--".toList then if rest = [] then some o else none
    else if flags.contains word then do readOptions valued flags (← setFlag o word) rest
    else if valued.contains word then
      match rest with
      | [] => none
      | value :: rest =>
        if isOption value then none
        else do readOptions valued flags (← setValue o word value) rest
    else
      match word.cutFirst? '=' with
      | some (name, value) =>
        if valued.contains name then
          do readOptions valued flags (← setValue o name value) rest
        else none
      | none => none

def dirOption : Text := "--dir".toList

def outOption : Text := "--out".toList

def jsonFlag : Text := "--json".toList

def parallelFlag : Text := "--parallel".toList

/-- Reads a command line; nothing if it is no use of the command. -/
def parse : List Text → Option Command
  | [] => none
  | command :: rest =>
    let dirOf (o : Options) : Path := (o.values.lookup dirOption).getD ['.']
    match String.ofList command with
    | "--version" | "-V" => some .version
    | "package" => do
      let o ← readOptions [dirOption, outOption] [jsonFlag, parallelFlag] {} rest
      return .package (dirOf o) (o.flags.contains jsonFlag) (o.values.lookup outOption)
        (o.flags.contains parallelFlag)
    | "routes" => do
      let o ← readOptions [dirOption] [] {} rest
      return .routes (dirOf o)
    | _ => none

/-- A text made of lines. -/
def unlines (lines : List Text) : Text := lines.flatMap (· ++ ['\n'])

def functionLine (name : Text) (u : FunctionUnit) : Text :=
  "  ".toList ++ name ++ "  ".toList ++ u.handler ++ "  (".toList ++ Text.ofNat u.files.size
    ++ " files, ".toList ++ Text.ofNat u.limits.memory ++ " MB, ".toList
    ++ Text.ofNat u.limits.maxDuration ++ "s, ".toList ++ u.limits.runtime ++ ")".toList

/-- The summary of a manifest, which was also written to a file if one is given. -/
def summary (m : Manifest) (out : Option Path) : Text :=
  let functions := m.functions
  let head :=
    "Packaged ".toList ++ Text.ofNat functions.length ++ " function(s) and ".toList
      ++ Text.ofNat m.statics.length ++ " static asset(s)".toList
  let omitted :=
    if m.omitted.isEmpty then []
    else [] :: ("Omitted ".toList ++ Text.ofNat m.omitted.length ++ " function(s):".toList)
      :: m.omitted.map fun o =>
        "  ".toList ++ o.outputName ++ ": ".toList ++ o.reason.summary
  let warnings :=
    if m.warnings.isEmpty then []
    else [] :: "Warnings:".toList :: m.warnings.map fun w => "  ".toList ++ w.message
  let fallback := match m.fallback? with
    | some rule =>
      [[], "Fallback: ".toList ++ rule.source ++ " -> ".toList ++ rule.destination]
    | none => []
  let written := match out with
    | some path => ["Manifest written to ".toList ++ path]
    | none => []
  unlines (head :: functions.map (fun (name, u) => functionLine name u)
    ++ omitted ++ warnings ++ fallback ++ written)

def ruleLine (r : RouteRule) : Text :=
  let ofBool (b : Bool) : Text := if b then "true".toList else "false".toList
  r.source ++ " -> ".toList ++ r.destination ++ "  (src: ".toList ++ r.src
    ++ ", clean_urls: ".toList ++ ofBool r.cleanUrls ++ ", trailing_slash: ".toList
    ++ ofBool r.trailingSlash ++ ")".toList

/-- A command that fails leaves the tree as it is and says why. -/
def failed (t : Tree) (message : Text) : Report :=
  { exitCode := 1, stderr := unlines ["Error: ".toList ++ message], tree := t }

def unwritten (t : Tree) (out : Path) : Report :=
  failed t ("failed to write manifest to ".toList ++ out)

/-- Packages the project at an absolute path on its own snapshot. -/
def packageAt (t : Tree) (project : Path) (config : Config) :
    Except Stray (Except PipelineError Manifest) :=
  let resolver := Import.resolver t.visitLimit
  ((Snapshot.new project).run t (Pipeline.run t project config resolver)).1

/-- Reports a manifest, which is first written to a file if one is given. -/
def reportManifest (t : Tree) (cwd : Place) (m : Manifest) (json : Bool) (out : Option Path) :
    Report :=
  let rendered := m.toJson.print
  let stdout := if json then rendered ++ ['\n'] else summary m out
  match out with
  | none => { exitCode := 0, stdout, tree := t }
  | some path =>
    match t.write? cwd path (String.ofList rendered).toUTF8 with
    | some tree => { exitCode := 0, stdout, tree }
    | none => unwritten t path

/-- Runs `package`. -/
def runPackage (t : Tree) (cwd : Place) (dir : Path) (json : Bool) (out : Option Path)
    (parallel : Bool) : Report :=
  match t.locate true cwd dir with
  | .error _ => failed t ("project directory ".toList ++ dir ++ " not found".toList)
  | .ok place =>
    let project := Tree.pathOf place
    match Config.load t cwd project with
    | .error e => failed t e.message
    | .ok config =>
      let config := { config with parallel := config.parallel || parallel }
      match packageAt t project config with
      | .error _ => failed t "packaging task failed to complete".toList
      | .ok (.error e) => failed t e.summary
      | .ok (.ok m) => reportManifest t cwd m json out

/-- Runs `routes`. -/
def runRoutes (t : Tree) (cwd : Place) (dir : Path) : Report :=
  match Config.load t cwd dir with
  | .error e => failed t e.message
  | .ok config =>
    match Route.synthesize t cwd (dir.resolveFrom config.layout.staticDir) config.routes with
    | .error e => failed t e.message
    | .ok rules => { exitCode := 0, stdout := unlines (rules.map ruleLine), tree := t }

def usage : Text :=
  "usage: slipway package [--dir DIR] [--json] [--out FILE] [--parallel]".toList
    ++ " | routes [--dir DIR]".toList

/-- Runs a command line in a directory of a tree. -/
def run (t : Tree) (cwd : Place) (args : List Text) : Report :=
  match parse args with
  | none => { exitCode := 2, stderr := unlines [usage], tree := t }
  | some .version => { exitCode := 0, stdout := "slipway 0.4.3\n".toList, tree := t }
  | some (.package dir json out parallel) => runPackage t cwd dir json out parallel
  | some (.routes dir) => runRoutes t cwd dir

end Command

end AppBundle
