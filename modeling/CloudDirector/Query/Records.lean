import CloudDirector.Query.Pages

/-!
# Streams of records

The records of a query one after the other. A page is fetched only when all records before it
have been taken; what fails is told once, and then the stream has ended. Pages without records
are passed over, as many at a time as the reader has patience for.
-/
namespace CloudDirector
open Http Json

inductive RecordStream (α : Type) where
  /-- Nothing has been asked yet. -/
  | unasked (q : Query)
  /-- Records at hand, and the pages after them. -/
  | reading (pages : PageIterator α) (records : List α)
  | ended

/-- What a stream gives when it is asked for a record. -/
inductive Pulled (α : Type) where
  | record (a : α)
  | failed (e : Error)
  | ended
  /-- There were more pages without records than the reader has patience for. -/
  | waiting
  deriving DecidableEq, Repr

inductive ReadingEnd where
  | ended
  | failed (e : Error)
  /-- As many records were taken as were wanted. -/
  | enough
  | waiting
  deriving DecidableEq, Repr

variable {α : Type}

def PageIterator.firstRecord (s : Settings) (item : Decoder α) :
    (patience : Nat) → PageIterator α → Program (Pulled α × RecordStream α)
  | 0, pages => return (.waiting, .reading pages [])
  | patience + 1, pages => do
    match ← (pages.next s item).run with
    | .error e => return (.failed e, .ended)
    | .ok (none, _) => return (.ended, .ended)
    | .ok (some page, rest) =>
      match page.record with
      | r :: records => return (.record r, .reading rest records)
      | [] => firstRecord s item patience rest

namespace RecordStream

def pull (s : Settings) (item : Decoder α) (patience : Nat) :
    RecordStream α → Program (Pulled α × RecordStream α)
  | .unasked q => do
    match ← (q.execute s item).run with
    | .error e => return (.failed e, .ended)
    | .ok pages => pages.firstRecord s item patience
  | .reading pages (r :: records) => return (.record r, .reading pages records)
  | .reading pages [] => pages.firstRecord s item patience
  | .ended => return (.ended, .ended)

def take (s : Settings) (item : Decoder α) (patience : Nat) :
    (wanted : Nat) → RecordStream α → Program (List α × ReadingEnd)
  | 0, _ => return ([], .enough)
  | wanted + 1, stream => do
    match ← stream.pull s item patience with
    | (.record r, rest) =>
      let (records, ending) ← rest.take s item patience wanted
      return (r :: records, ending)
    | (.failed e, _) => return ([], .failed e)
    | (.ended, _) => return ([], .ended)
    | (.waiting, _) => return ([], .waiting)

end RecordStream

def PageIterator.allRecords (s : Settings) (item : Decoder α) :
    (patience : Nat) → PageIterator α → Program (List α × ReadingEnd)
  | 0, _ => return ([], .waiting)
  | patience + 1, pages => do
    match ← (pages.next s item).run with
    | .error e => return ([], .failed e)
    | .ok (none, _) => return ([], .ended)
    | .ok (some page, rest) => do
      let (records, ending) ← rest.allRecords s item patience
      return (page.record ++ records, ending)

def RecordStream.all (s : Settings) (item : Decoder α) (patience : Nat) :
    RecordStream α → Program (List α × ReadingEnd)
  | .unasked q => do
    match ← (q.execute s item).run with
    | .error e => return ([], .failed e)
    | .ok pages => pages.allRecords s item patience
  | .reading pages records => do
    let (more, ending) ← pages.allRecords s item patience
    return (records ++ more, ending)
  | .ended => return ([], .ended)

end CloudDirector
