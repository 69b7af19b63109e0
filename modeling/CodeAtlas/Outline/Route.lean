import CodeAtlas.Syntax.Node

/-!
# Routes

A call such as `app.get("/users", list)` registers a handler with a web server.

- `routeReceivers`, `RouteVerb`: which calls count.
- `stripDelimiters`: a literal without its quotes.
- `Node.routeLabel?`: the label of a call, which is its verb and its path.
-/

namespace CodeAtlas

def routeReceivers : List (List Char) := ["app".toList, "router".toList]

inductive RouteVerb where
  | get
  | post
  | put
  | delete
  | patch
  deriving DecidableEq, Repr

namespace RouteVerb

def all : List RouteVerb := [.get, .post, .put, .delete, .patch]

def method : RouteVerb → List Char
  | get => "get".toList
  | post => "post".toList
  | put => "put".toList
  | delete => "delete".toList
  | patch => "patch".toList

def label : RouteVerb → List Char
  | get => "GET".toList
  | post => "POST".toList
  | put => "PUT".toList
  | delete => "DELETE".toList
  | patch => "PATCH".toList

def ofMethod? (name : List Char) : Option RouteVerb := all.find? (·.method == name)

end RouteVerb

/-- A text without its first and last character, if these are the same quote. -/
def stripDelimiters (quotes : List Char) (text : List Char) : List Char :=
  match text with
  | [] => []
  | first :: rest =>
    match rest.getLast? with
    | some last => if first = last && quotes.contains first then rest.dropLast else text
    | none => text

namespace Node

/-- The first argument of a call, comments not counted. -/
def firstArgument? (arguments : Node) : Option Node :=
  arguments.namedChildren.find? (!·.kind.isComment)

def hasSubstitution (template : Node) : Bool :=
  template.namedChildren.any (·.kind == .templateSubstitution)

/-- The content of a string or of a template without substitutions, and the text of any other
argument. -/
def argumentLabel (src : Source) (argument : Node) : List Char :=
  let text := argument.text src
  match argument.kind with
  | .string => stripDelimiters ['\'', '"'] text
  | .templateString => if argument.hasSubstitution then text else stripDelimiters ['`'] text
  | _ => text

/-- The verb of a call whose callee is a plain member of a receiver. -/
def routeVerb? (src : Source) (call : Node) : Option RouteVerb :=
  match call.child? .optionalChain, call.child? .function with
  | none, some callee =>
    match callee.child? .optionalChain, callee.child? .object, callee.child? .property with
    | none, some object, some property =>
      if callee.kind == .memberExpression && object.kind == .identifier
          && property.kind == .propertyIdentifier && routeReceivers.contains (object.text src) then
        RouteVerb.ofMethod? (property.text src)
      else none
    | _, _, _ => none
  | _, _ => none

/-- The path of a call: the label of its first argument. -/
def routePath? (src : Source) (call : Node) : Option (List Char) :=
  ((call.child? .arguments).bind firstArgument?).map (argumentLabel src)

/-- The label of a call that registers a route: the verb and, after a blank, the path. -/
def routeLabel? (src : Source) (call : Node) : Option (List Char) :=
  (call.routeVerb? src).map fun verb =>
    match call.routePath? src with
    | some path => verb.label ++ ' ' :: path
    | none => verb.label

end Node

end CodeAtlas
