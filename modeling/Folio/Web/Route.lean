-- The routes by which a browser is reached over the web. A request is read into what it asks for,
-- or refused before anything is done.
import Folio.Intent
import Folio.Json.Reader

namespace Folio.Web

/-- The body of a request. -/
inductive Body where
  | absent
  /-- A text that is not read. -/
  | unreadable (reason : Json.Unreadable)
  | value (v : Value)

/-- The text without the mark of byte order that may stand before it. -/
def withoutMark (text : String) : String :=
  String.ofList (match text.toList with
    | '\ufeff' :: rest => rest
    | chars => chars)

/-- The body that a text makes. -/
def Body.ofText (text : String) : Body :=
  if text == "" then absent
  else match Json.read (withoutMark text) with
    | .ok v => value v
    | .error reason => unreadable reason

/-- A request. -/
structure WebRequest where
  method : String
  path : String
  body : Body

/-- Why a request is refused. -/
inductive Refusal where
  | notFound
  | methodNotAllowed
  /-- There is such a page under a path without strokes at its end. -/
  | movedPath
  /-- The body is not what is expected. -/
  | invalid
  /-- The body has the form of a value, but is beyond the limits of reading. -/
  | beyondLimits

namespace Refusal

def status : Refusal → Nat
  | notFound => 404
  | methodNotAllowed => 405
  | movedPath => 307
  | invalid => 422
  | beyondLimits => 400

def detail? : Refusal → Option String
  | notFound => some "Not Found"
  | methodNotAllowed => some "Method Not Allowed"
  | movedPath => none
  | invalid => some "validation"
  | beyondLimits => some "There was an error parsing the body"

end Refusal

/-- The pages of the browser. -/
inductive Route where
  | state
  | collection
  | addFilter
  | clearFilters
  | updateFilter
  | removeFilter
  | search
  | mode
  | sort
  | page
  | pageSize
  | refresh
  deriving DecidableEq

namespace Route

def all : List Route := [state, collection, addFilter, updateFilter, removeFilter, clearFilters,
  search, mode, sort, page, pageSize, refresh]

def method : Route → String
  | state => "GET"
  | updateFilter => "PUT"
  | removeFilter | clearFilters => "DELETE"
  | _ => "POST"

/-- The segments of a path; one that varies has a name. -/
inductive Segment where
  | fixed (text : String)
  | parameter (name : String)

def Segment.matches : Segment → String → Bool
  | fixed text, given => given == text
  | parameter _, given => given != ""

def Segment.text : Segment → String
  | fixed text => text
  | parameter name => "\x7b" ++ name ++ "\x7d"

def root : Segment := .fixed "browser"

def segments : Route → List Segment
  | state => [root, .fixed "state"]
  | collection => [root, .fixed "namespace"]
  | addFilter | clearFilters => [root, .fixed "filters"]
  | updateFilter | removeFilter => [root, .fixed "filters", .parameter "filter_id"]
  | search => [root, .fixed "search"]
  | mode => [root, .fixed "mode"]
  | sort => [root, .fixed "sort"]
  | page => [root, .fixed "page"]
  | pageSize => [root, .fixed "page-size"]
  | refresh => [root, .fixed "refresh"]

/-- The path of a route. -/
def path (r : Route) : String := String.join (r.segments.map (fun s => "/" ++ s.text))

/-- Whether a path belongs to a route. -/
def hasPath (r : Route) (given : List String) : Bool :=
  r.segments.length == given.length
    && (r.segments.zip given).all (fun (segment, text) => segment.matches text)

end Route

/-- Every method with its path, sorted. -/
def routeTable : List (String × String) :=
  sortedBy (fun a b => a.1 < b.1 || a.1 == b.1 && decide (a.2 ≤ b.2))
    (Route.all.map (fun r => (r.method, r.path)))

/-- The segments of a path; what follows a question mark does not belong to it. -/
def segmentsOf (path : String) : List String :=
  let plain := path.toList.takeWhile (fun c => c != '?' && c != '#')
  ((Text.pieces '/' plain).drop 1).map String.ofList

/-- The route of a request. -/
def routeOf (r : WebRequest) : Except Refusal Route :=
  let segments := segmentsOf r.path
  let there (segments : List String) := Route.all.filter (·.hasPath segments)
  let plain := (segments.reverse.dropWhile (· == "")).reverse
  match (there segments).find? (·.method == r.method) with
  | some route => .ok route
  | none =>
    if !(there segments).isEmpty then .error .methodNotAllowed
    else if segments.getLast? == some "" && !(there plain).isEmpty then .error .movedPath
    else .error .notFound

/-- What a request asks for. -/
inductive Wish where
  | state
  | intent (intent : Intent)
  /-- A search text, and whether to wait until it has been looked for. -/
  | search (text : String) (waits : Bool)

/-- Reads a body that has to be there. -/
def readBody {α : Type} (body : Body) (read : Fields → Checked α) : Except Refusal α :=
  match body with
  | .value (.object fields) => (read fields).toExcept.mapError (fun _ => .invalid)
  | .unreadable .tooManyFigures | .unreadable .tooDeep => .error .beyondLimits
  | _ => .error .invalid

def wishOf (route : Route) (filter : String) (body : Body) : Except Refusal Wish :=
  let optionalText (fs : Fields) (name : String) :=
    fs.optional name none (Reader.nullable Reader.text)
  match route with
  | .state => .ok .state
  | .refresh => .ok (.intent .refresh)
  | .clearFilters => .ok (.intent .clearFilters)
  | .removeFilter => .ok (.intent (.removeFilter filter))
  | .collection => readBody body fun fs =>
    (optionalText fs "namespace_id").map (.intent ∘ .setCollection)
  | .addFilter => readBody body fun fs =>
    (fun attr operator value => .intent (.addFilter attr operator value))
      <$> fs.needed "attribute" Reader.text <*> fs.needed "operator" Reader.text
      <*> fs.optional "value" .null Reader.any
  | .updateFilter => readBody body fun fs =>
    (fun attr operator value => .intent (.updateFilter filter attr operator value))
      <$> fs.needed "attribute" Reader.text <*> fs.needed "operator" Reader.text
      <*> fs.optional "value" .null Reader.any
  | .search => readBody body fun fs =>
    .search <$> fs.optional "text" "" Reader.text <*> fs.optional "wait" false Reader.flag
  | .mode => readBody body fun fs =>
    (fun mode => .intent (.setQueryMode mode))
      <$> fs.needed "mode" (Reader.word QueryMode.ofName?)
  | .sort => readBody body fun fs =>
    (fun attr direction => .intent (.setSort attr direction)) <$> optionalText fs "attribute"
      <*> fs.optional "direction" .ascending (Reader.word SortDirection.ofName?)
  | .page => readBody body fun fs =>
    (fun page => .intent (.goToPage page)) <$> fs.needed "page" (Reader.wholeIn 1 none)
  | .pageSize => readBody body fun fs =>
    (fun size => .intent (.setPageSize size))
      <$> fs.needed "page_size" (Reader.wholeIn 1 (some PageRequest.sizeLimit))

/-- Reads a request. -/
def read (r : WebRequest) : Except Refusal Wish := do
  let route ← routeOf r
  wishOf route ((segmentsOf r.path).getLast?.getD "") r.body

end Folio.Web
