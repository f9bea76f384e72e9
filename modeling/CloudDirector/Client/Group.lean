import CloudDirector.Program

/-!
# Groups of clients

Clients that share security contexts. Each client has settings of its own and keeps its own query
list; the counters of request numbers go on from client to client.
-/
namespace CloudDirector
open Http Time

/-- A client of a group: its settings, the number of its context, and its query list. -/
structure Member where
  settings : Settings
  context : Nat
  queries : Option QueryList

structure Group where
  contexts : List AuthState
  members : List Member
  /-- How many numbers each counter has given. -/
  counters : Nat → Nat
  /-- How many counters there are. -/
  countersMade : Nat
  /-- How many random numbers have been drawn. -/
  drawn : Nat
  now : Instant

namespace Group

def empty (now : Instant) : Group := ⟨[], [], fun _ => 0, 0, 0, now⟩

def state (g : Group) (context : Nat) : AuthState := g.contexts.getD context .empty

def addContext (g : Group) (s : AuthState) : Group := { g with contexts := g.contexts ++ [s] }

def add (g : Group) (settings : Settings) (context : Nat) : Group :=
  { g with members := g.members ++ [⟨settings, context, none⟩] }

def newCounter (g : Group) : Nat × Group :=
  (g.countersMade, { g with countersMade := g.countersMade + 1 })

def world (g : Group) (server : Server) (state : AuthState) (queries : Option QueryList) : World :=
  { auth := state
    queries := queries
    counters := g.counters
    drawn := g.drawn
    now := g.now
    server := server }

def runApart {α : Type} (g : Group) (server : Server) (p : Program α) : α × Group × Server :=
  let (a, w) := p.run (g.world server .empty none)
  (a, { g with counters := w.counters, drawn := w.drawn }, w.server)

def runOf {α : Type} (g : Group) (index : Nat) (m : Member) (server : Server) (p : Program α) :
    α × Group × Server :=
  let (a, w) := p.run (g.world server (g.state m.context) m.queries)
  (a, { g with
    contexts := g.contexts.set m.context w.auth
    members := g.members.set index { m with queries := w.queries }
    counters := w.counters
    drawn := w.drawn }, w.server)

end Group

end CloudDirector
