import CloudDirector.Session.Resources

/-!
# Queries

A query asks for the records of a type, or of a packaged query at a path of its own, in one of
three forms. What narrows it stands in the parameters of its address, in a fixed order.
-/
namespace CloudDirector
open Http Text

/-- The forms of records: with addresses of other entities, with their identifiers, or bare
references. -/
inductive QueryFormat where
  | records | idRecords | references
  deriving DecidableEq, Repr

namespace QueryFormat

/-- All forms of records. -/
def all : List QueryFormat := [.records, .idRecords, .references]

def name : QueryFormat → String
  | .records => "records"
  | .idRecords => "idrecords"
  | .references => "references"

def ofName? (s : String) : Option QueryFormat := all.find? (·.name == s)

def mediaType : QueryFormat → String
  | .records => Media.records
  | .idRecords => Media.idRecords
  | .references => Media.references

end QueryFormat

/-- What is asked: the records of a type in the query list, or a packaged query at a path under
the endpoint. -/
inductive QueryTarget where
  | typed (name : String)
  | packaged (path : String)
  deriving DecidableEq, Repr

structure Query where
  target : QueryTarget
  format : QueryFormat
  /-- The page that is fetched first. -/
  page : Nat
  pageSize : Option Nat
  /-- The attributes of records; all if there are none. -/
  fields : List String
  filter : Option String
  sortAsc : Option String
  sortDesc : Option String
  links : Bool
  deriving DecidableEq, Repr

namespace Query

def make (target : QueryTarget) (format : QueryFormat) : Query :=
  ⟨target, format, 1, none, [], none, none, none, true⟩

def ofType (name : String) (format : QueryFormat) : Query := make (.typed name) format

/-- A packaged query; slashes before its path do not count. -/
def ofPath (path : String) (format : QueryFormat) : Query :=
  make (.packaged (String.ofList (trimStart (· == '/') path.toList))) format

def equalityFilter (terms : List (String × String)) : String :=
  String.intercalate ";" (terms.map fun (k, v) => k ++ "==" ++ v)

/-- The query with the filter that all attributes have the given values. -/
def withEqualities (q : Query) (terms : List (String × String)) : Query :=
  { q with filter := some (equalityFilter terms) }

def parameters (q : Query) : List (String × String) :=
  [("page", toString q.page)] ++
  (q.pageSize.map fun n => ("pageSize", toString n)).toList ++
  (if q.fields = [] then [] else [("fields", String.intercalate "," q.fields)]) ++
  (q.filter.map fun f => ("filter", f)).toList ++
  (q.sortAsc.map fun f => ("sortAsc", f)).toList ++
  (if q.links then [("links", "true")] else []) ++
  (q.sortDesc.map fun f => ("sortDesc", f)).toList

/-- The query in words, as if it stood under an endpoint. -/
def text (q : Query) (endpoint : Url) : String :=
  let start := match q.target with
    | .typed name => endpoint.text ++ "query?type=" ++ name ++ "&format=" ++ q.format.name
    | .packaged path => endpoint.text ++ path ++ "?format=" ++ q.format.name
  start ++ String.join (q.parameters.map fun (k, v) => "&" ++ k ++ "=" ++ v)

def description (q : Query) (endpoint : Url) : String := "Query(" ++ quoted (q.text endpoint) ++ ")"

/-- The address of a query without its parameters: a type is looked up in the query list. -/
def baseUrl (s : Settings) (q : Query) : Action Url := do
  match q.target with
  | .packaged path => return (← s.apiUrl path).appendPair ("format", q.format.name)
  | .typed name =>
    match (← queryList s).lookup (queryKey q.format.mediaType name) with
    | some url => return url
    | none => throw (.missingLink
        ⟨(← endpointUrl .queryList).text, "down", some q.format.mediaType⟩)

def address (s : Settings) (q : Query) : Action Url := do
  return (← q.baseUrl s).appendPairs q.parameters

end Query

end CloudDirector
