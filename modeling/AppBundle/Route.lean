import AppBundle.Config
import AppBundle.Regex.Syntax
import AppBundle.StaticAsset
import AppBundle.Tree

/-!
# Routes

A route sends the requests that its source matches to its destination. A source is literal text,
`:name` parameters, each for one segment of the request, and groups in parentheses, which are
regular expressions. The expression of the whole source is anchored at both ends.
-/

namespace AppBundle

/-- A part of the source of a route. -/
inductive RoutePiece where
  | literal (c : Char)
  | param (name : Text)
  /-- A group with its parentheses. -/
  | group (t : Text)
deriving DecidableEq, Repr

/-- What is wrong with the source of a route. -/
inductive RouteFault where
  | noSlash
  | unopened
  | unclosed
  | regex (fault : RegexFault)
deriving DecidableEq, Repr

namespace RouteFault

def message : RouteFault → Text
  | noSlash => "must start with '/'".toList
  | unopened => "unbalanced ')'".toList
  | unclosed => "unbalanced '('".toList
  | regex fault => "regex parse error: ".toList ++ fault.message

end RouteFault

/-- Why there is no such route. -/
inductive RouteError where
  | invalidPattern (pattern : Text) (fault : RouteFault)
  | invalidDestination (destination : Text)
deriving DecidableEq, Repr

namespace RouteError

def message : RouteError → Text
  | invalidPattern pattern fault =>
    "invalid route pattern ".toList ++ pattern.quoted ++ ": ".toList ++ fault.message
  | invalidDestination destination =>
    "invalid route destination ".toList ++ destination.quoted
      ++ ": must be an absolute path or URL".toList

end RouteError

/-- A rule of the routing table. -/
structure RouteRule where
  source : Text
  destination : Text
  /-- Documents are served without their extension. -/
  cleanUrls : Bool
  /-- Requests keep a slash at their end. -/
  trailingSlash : Bool
  /-- The expression of the source, as a text. -/
  src : Text
  regex : Regex
deriving Repr

namespace Route

/-- How many parentheses are open after a character. -/
def depthAfter (depth : Nat) (c : Char) : Nat :=
  if c = '(' then depth + 1 else if c = ')' then depth - 1 else depth

/-- The rest of a group and what follows it; a backslash hides the next character. -/
def readGroup : (depth : Nat) → Text → Option (Text × Text)
  | _, [] => none
  | _, ['\\'] => none
  | depth, '\\' :: c :: cs =>
    (readGroup depth cs).map fun (group, rest) => ('\\' :: c :: group, rest)
  | depth, c :: cs =>
    if c = ')' ∧ depth ≤ 1 then some ([c], cs)
    else (readGroup (depthAfter depth c) cs).map fun (group, rest) => (c :: group, rest)

def isParamStart (c : Char) : Bool := c.isAlpha || c = '_'

def isParamChar (c : Char) : Bool := c.isAlphanum || c = '_'

theorem length_of_readGroup {depth : Nat} {t group rest : Text}
    (h : readGroup depth t = some (group, rest)) : rest.length < t.length := by
  fun_induction readGroup depth t generalizing group rest with
  | case1 => simp at h
  | case2 => simp at h
  | case3 depth c cs ih =>
    obtain ⟨⟨g, r⟩, hg, he⟩ := Option.map_eq_some_iff.1 h
    have := ih hg
    simp only [Prod.mk.injEq] at he
    rw [← he.2]; simp; omega
  | case4 => simp at h; simp [h]
  | case5 depth c cs _ _ _ ih =>
    obtain ⟨⟨g, r⟩, hg, he⟩ := Option.map_eq_some_iff.1 h
    have := ih hg
    simp only [Prod.mk.injEq] at he
    rw [← he.2]; simp; omega

/-- The pieces of a source after its first slash, up to the first fault. -/
def readPieces (t : Text) : Except RouteFault (List RoutePiece) :=
  match t with
  | [] => .ok []
  | '(' :: cs =>
    match h : readGroup 1 cs with
    | none => .error .unclosed
    | some (group, rest) =>
      have := length_of_readGroup h
      return .group ('(' :: group) :: (← readPieces rest)
  | ')' :: _ => .error .unopened
  | c :: cs =>
    if c = ':' ∧ cs.head?.any isParamStart then
      have := (List.dropWhile_sublist isParamChar (l := cs)).length_le
      return .param (cs.takeWhile isParamChar) :: (← readPieces (cs.dropWhile isParamChar))
    else return .literal c :: (← readPieces cs)
termination_by t.length

/-- The pieces of a source, which starts with a slash. -/
def pieces (source : Text) : Except RouteFault (List RoutePiece) :=
  match source with
  | '/' :: rest => return .literal '/' :: (← readPieces rest)
  | _ => .error .noSlash

/-- The expression of a piece, as a text. -/
def pieceSource : RoutePiece → Text
  | .literal c => Regex.escape [c]
  | .param name => "(?P<".toList ++ name ++ ">[^/]+)".toList
  | .group t => t

/-- The expression of a source, as a text. -/
def regexSource (ps : List RoutePiece) : Text := '^' :: ps.flatMap pieceSource ++ ['$']

/-- The expression of a source, as a text and read. -/
def compile (source : Text) : Except RouteFault (Text × Regex) := do
  let src := regexSource (← pieces source)
  match Regex.parse src with
  | .ok regex => return (src, regex)
  | .error fault => .error (.regex fault)

/-- A destination is an absolute path or a URL, without blanks. -/
def isDestination (t : Text) : Bool :=
  (t.head? = some '/' || (t.after? "https://".toList).isSome || (t.after? "http://".toList).isSome)
    && !t.any CharClass.isBlank

/-- The rule of a source and a destination. -/
def ruleOf (source destination : Text) (cleanUrls trailingSlash : Bool) :
    Except RouteError RouteRule :=
  match compile source with
  | .error fault => .error (.invalidPattern source fault)
  | .ok (src, regex) =>
    if isDestination destination then
      .ok { source, destination, cleanUrls, trailingSlash, src, regex }
    else .error (.invalidDestination destination)

/-- The source that matches every request. -/
def catchAll : Text := "/(.*)".toList

/-- Where requests go that nothing else answers: to the fallback document if the site has one, or
else to the index. -/
def fallbackDestination (t : Tree) (cwd : Place) (staticRoot : Path) (settings : RouteSettings) :
    Text :=
  if t.isFile cwd (staticRoot.resolveFrom settings.fallbackDocument) then
    Document.cleanUrl settings.fallbackDocument
  else Document.cleanUrl settings.indexDocument

/-- The routing table of a static site. -/
def synthesize (t : Tree) (cwd : Place) (staticRoot : Path) (settings : RouteSettings) :
    Except RouteError (List RouteRule) := do
  return [← ruleOf catchAll (fallbackDestination t cwd staticRoot settings) true false]

end Route

namespace RouteRule

/-- The rule applies to a request. -/
def isMatch (r : RouteRule) (request : Text) : Bool := r.regex.isMatch request

/-- The rules say the same. -/
def same (a b : RouteRule) : Bool :=
  a.source = b.source && a.destination = b.destination && a.cleanUrls = b.cleanUrls
    && a.trailingSlash = b.trailingSlash && a.src = b.src

end RouteRule

end AppBundle
