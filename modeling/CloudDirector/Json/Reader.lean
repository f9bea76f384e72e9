import CloudDirector.Json.Document
import CloudDirector.Json.Token

/-!
# Reading JSON texts

The tokens of a text are put together with a stack of the containers that are still open. One
token is one step, so reading is a fold over the tokens.
-/
namespace CloudDirector.Json

/-- A container that is still open, its items or members in reverse. -/
inductive Frame where
  | array (items : List Document)
  | object (members : List (Option String × Document)) (key : Option String)

/-- What the next token may be. -/
inductive Awaiting where
  | item | itemOrEnd | key | keyOrEnd | colon | separator
  | nothing (result : Document)

/-- The state of reading. -/
structure Machine where
  awaiting : Awaiting
  frames : List Frame

namespace Machine

/-- Before the first token. -/
def start : Machine := ⟨.item, []⟩

/-- Takes a complete document as the next item of the innermost open container. -/
def place (d : Document) : List Frame → Machine
  | [] => ⟨.nothing d, []⟩
  | .array items :: outer => ⟨.separator, .array (d :: items) :: outer⟩
  | .object members key :: outer => ⟨.separator, .object ((key, d) :: members) none :: outer⟩

/-- All keys of an object, if each of them can be held. -/
def keyed : List (Option String × Document) → Option (List (String × Document))
  | [] => some []
  | (none, _) :: _ => none
  | (some k, d) :: rest => (keyed rest).map ((k, d) :: ·)

/-- The document of a container that is closed, `outer` being the containers around it. -/
def close (frame : Frame) (outer : List Frame) : Document :=
  if deepest ≤ outer.length then .unreadable
  else
    match frame with
    | .array items => .array items.reverse
    | .object members _ => ((keyed members.reverse).map .object).getD .unreadable

def item (frames : List Frame) : Token → Option Machine
  | .openArray => some ⟨.itemOrEnd, .array [] :: frames⟩
  | .openObject => some ⟨.keyOrEnd, .object [] none :: frames⟩
  | .null => some (place .null frames)
  | .bool b => some (place (.bool b) frames)
  | .number n => some (place (n.elim .unreadable .number) frames)
  | .string s => some (place (s.elim .unreadable .string) frames)
  | _ => none

def step (m : Machine) (t : Token) : Option Machine :=
  match m.awaiting, m.frames, t with
  | .nothing _, _, _ => none
  | .item, frames, t => item frames t
  | .itemOrEnd, .array items :: outer, .closeArray =>
    some (place (close (.array items) outer) outer)
  | .itemOrEnd, frames, t => item frames t
  | .key, .object ms _ :: outer, .string k => some ⟨.colon, .object ms k :: outer⟩
  | .keyOrEnd, .object ms _ :: outer, .string k => some ⟨.colon, .object ms k :: outer⟩
  | .keyOrEnd, .object ms k :: outer, .closeObject =>
    some (place (close (.object ms k) outer) outer)
  | .colon, frames, .colon => some ⟨.item, frames⟩
  | .separator, .array items :: outer, .comma => some ⟨.item, .array items :: outer⟩
  | .separator, .array items :: outer, .closeArray =>
    some (place (close (.array items) outer) outer)
  | .separator, .object ms k :: outer, .comma => some ⟨.key, .object ms k :: outer⟩
  | .separator, .object ms k :: outer, .closeObject =>
    some (place (close (.object ms k) outer) outer)
  | _, _, _ => none

def result : Machine → Option Document
  | ⟨.nothing d, _⟩ => some d
  | _ => none

end Machine

/-- The document that a text says, none when it is not one JSON value. -/
def read (cs : List Char) : Option Document := do
  let ts ← tokens cs
  (← ts.foldlM Machine.step Machine.start).result

def Document.ofText? (text : String) : Option Document := read text.toList

def Value.ofText? (text : String) : Option Value := (Document.ofText? text).bind Document.value?

end CloudDirector.Json
