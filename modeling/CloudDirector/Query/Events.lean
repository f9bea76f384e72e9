import CloudDirector.Query.Pages
import CloudDirector.Resource.Record

/-!
# Events

What the event query knows of an event: the only one of its kind on an entity, or the latest.
-/
namespace CloudDirector

def eventQuery (terms : List (String × String)) : Query :=
  (Query.ofType "event" .records).withEqualities terms

def singleEvent (s : Settings) (eventType entity : String) : Action EventRecord :=
  (eventQuery [("eventType", eventType), ("entity", entity)]).findUnique s EventRecord.ofDocument

/-- The latest event of a type: the first record of the first page, latest first. -/
def latestEvent (s : Settings) (eventType : String) : Action EventRecord := do
  let q := { eventQuery [("eventType", eventType)] with sortDesc := some "timeStamp" }
  let (page, _) ← (← q.execute s EventRecord.ofDocument).next s EventRecord.ofDocument
  match page.bind (·.record.head?) with
  | some event => return event
  | none => throw (q.noRecord s)

end CloudDirector
