import Settings.Document
/-!
# Sessions

A session is a run of requests to one document. `Document.serve` answers one request and gives the
document after it; `Document.run` is the document after a row of requests.
-/

namespace Settings

/-- What can be asked of a document. -/
inductive Request
  | query (path : String)
  | queryString (path : String)
  | queryInt (path : String)
  | queryFloat (path : String)
  | queryBool (path : String)
  | nodes (filter : String)
  | setValue (path : String) (value : Scalar)
  | forgetAnswers
  | flagRepeats
  | addGroup (group : Group)
  | extend (groups : List Group)
  | groupAt (index : Nat)
  | group (name : String) (offset : Option Nat)
  | groupQuery (index : Nat) (path : String)
  deriving Inhabited

/-- What a document answers. -/
inductive Reply
  | lookup (answer : Lookup)
  | string (result : Except Error String)
  | int (result : Except Error Int)
  | float (result : Except Error Number.Binary64)
  | bool (result : Except Error Bool)
  | nodes (groups : List (Group × Nat))
  | written (result : Except Error Unit)
  | done
  | groupResult (result : Except Error Group)
  | group (group : Option Group)
  | groupLookup (result : Except Error Lookup)
  deriving Inhabited

namespace Document

/-- Answers a request. -/
def serve (d : Document) : Request → Reply × Document
  | .query path => (d.query path).map .lookup id
  | .queryString path => (d.queryString path).map .string id
  | .queryInt path => (d.queryInt path).map .int id
  | .queryFloat path => (d.queryFloat path).map .float id
  | .queryBool path => (d.queryBool path).map .bool id
  | .nodes filter => (.nodes (d.nodesAt filter), d)
  | .setValue path value => (d.setValue path value).map .written id
  | .forgetAnswers => (.done, d.forgetAnswers)
  | .flagRepeats => (.done, d.flagRepeats)
  | .addGroup g => (.done, d.addGroup g)
  | .extend groups => (.done, d.extend groups)
  | .groupAt index => (.groupResult (d.groupAt index), d)
  | .group name offset => (.group (d.group? name offset), d)
  | .groupQuery index path => (.groupLookup ((d.groupAt index).map (·.query path)), d)

/-- The document after a row of requests. -/
def run (d : Document) (requests : List Request) : Document :=
  requests.foldl (fun d request => (d.serve request).2) d

end Document

end Settings
