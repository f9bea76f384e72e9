import CloudDirector.Client.Settings
import CloudDirector.Http.Server
import CloudDirector.Session.State

/-!
# Programs of a client

What a client does is a program of small steps: it looks at the security context and changes it,
exchanges a request for its outcome, draws a number for a request, reads the clock, waits, and
keeps the query list that it has loaded. Between two steps other clients may change the context.
Running a program alone takes it through a world; a part of a program can be run on a context of
its own, or within a time limit.
-/
namespace CloudDirector
open Http Time

/-- The addresses of queries by media type and name. -/
abbrev QueryList := List (String × Url)

/-- A program with a result. -/
inductive Program (α : Type) where
  | done (a : α)
  | snapshot (next : AuthState → Program α)
  | update (change : AuthState → AuthState) (next : Program α)
  | exchange (agent : String) (request : Request) (next : Outcome → Program α)
  | drawId (ids : RequestIds) (next : String → Program α)
  | clock (next : Instant → Program α)
  | sleep (span : Span) (next : Program α)
  | recall (next : Option QueryList → Program α)
  | remember (queries : QueryList) (next : Program α)

namespace Program

variable {α β : Type}

def bind : Program α → (α → Program β) → Program β
  | .done a, f => f a
  | .snapshot k, f => .snapshot fun s => (k s).bind f
  | .update g p, f => .update g (p.bind f)
  | .exchange agent r k, f => .exchange agent r fun o => (k o).bind f
  | .drawId ids k, f => .drawId ids fun id => (k id).bind f
  | .clock k, f => .clock fun t => (k t).bind f
  | .sleep d p, f => .sleep d (p.bind f)
  | .recall k, f => .recall fun q => (k q).bind f
  | .remember q p, f => .remember q (p.bind f)

instance : Monad Program where
  pure := .done
  bind := bind

@[simp] theorem done_bind (a : α) (f : α → Program β) : (Program.done a >>= f) = f a := rfl

theorem bind_done (p : Program α) : p.bind .done = p := by
  induction p with
  | done => rfl
  | _ => simp_all [bind]

theorem bind_assoc {γ : Type} (p : Program α) (f : α → Program β) (g : β → Program γ) :
    (p.bind f).bind g = p.bind fun a => (f a).bind g := by
  induction p with
  | done => rfl
  | _ => simp_all [bind]

instance : LawfulMonad Program :=
  LawfulMonad.mk' Program (fun p => bind_done p) (fun _ _ => rfl) bind_assoc

def getState : Program AuthState := .snapshot .done

def modify (change : AuthState → AuthState) : Program Unit := .update change (.done ())

def install (s : AuthState) : Program Unit := modify fun _ => s

def exchangeOnce (agent : String) (r : Request) : Program Outcome := .exchange agent r .done

/-- The next number of a request; empty if requests have none. -/
def draw (ids : RequestIds) : Program String := .drawId ids .done

/-- The time. -/
def now : Program Instant := .clock .done

def wait (span : Span) : Program Unit := .sleep span (.done ())

/-- The query list, if it has been loaded. -/
def queries? : Program (Option QueryList) := .recall .done

def keepQueries (q : QueryList) : Program Unit := .remember q (.done ())

/-- Runs a program on a context and a query list of its own; the result comes with the state in
which it left the context. -/
def isolate : AuthState → Option QueryList → Program α → Program (α × AuthState)
  | s, _, .done a => .done (a, s)
  | s, q, .snapshot k => isolate s q (k s)
  | s, q, .update f p => isolate (f s) q p
  | s, q, .exchange agent r k => .exchange agent r fun o => isolate s q (k o)
  | s, q, .drawId ids k => .drawId ids fun id => isolate s q (k id)
  | s, q, .clock k => .clock fun t => isolate s q (k t)
  | s, q, .sleep d p => .sleep d (isolate s q p)
  | s, q, .recall k => isolate s q (k q)
  | s, _, .remember q p => isolate s (some q) p

/-- Runs a program until it has waited for the whole limit; exchanges take no time. -/
def within : Nat → Program α → Program (Option α)
  | _, .done a => .done (some a)
  | left, .snapshot k => .snapshot fun s => within left (k s)
  | left, .update f p => .update f (within left p)
  | left, .exchange agent r k => .exchange agent r fun o => within left (k o)
  | left, .drawId ids k => .drawId ids fun id => within left (k id)
  | left, .clock k => .clock fun t => within left (k t)
  | left, .sleep d p =>
    if left ≤ d.nanos ∧ d.nanos ≠ 0 then .sleep ⟨left⟩ (.done none)
    else .sleep d (within (left - d.nanos) p)
  | left, .recall k => .recall fun q => within left (k q)
  | left, .remember q p => .remember q (within left p)

/-- Runs a program until it has made `n` exchanges and would wait or exchange once more. -/
def upTo : Nat → Program α → Program (Option α)
  | _, .done a => .done (some a)
  | n, .snapshot k => .snapshot fun s => upTo n (k s)
  | n, .update f p => .update f (upTo n p)
  | 0, .exchange _ _ _ => .done none
  | n + 1, .exchange agent r k => .exchange agent r fun o => upTo n (k o)
  | n, .drawId ids k => .drawId ids fun id => upTo n (k id)
  | n, .clock k => .clock fun t => upTo n (k t)
  | 0, .sleep _ _ => .done none
  | n + 1, .sleep d p => .sleep d (upTo (n + 1) p)
  | n, .recall k => .recall fun q => upTo n (k q)
  | n, .remember q p => .remember q (upTo n p)

end Program

/-- What a program runs in. -/
structure World where
  auth : AuthState
  queries : Option QueryList
  /-- How many numbers each counter has given. -/
  counters : Nat → Nat
  /-- How many random numbers have been drawn. -/
  drawn : Nat
  now : Instant
  server : Server

namespace World

def nextId (w : World) : RequestIds → String × World
  | .off => ("", w)
  | .random => ((Uuid.ofNumber w.drawn).text, { w with drawn := w.drawn + 1 })
  | .fixed id => (id, w)
  | .counted start c =>
    let n := w.counters c + 1
    (start ++ toString n, { w with counters := fun i => if i = c then n else w.counters i })

/-- The outcome of a request, and the world afterwards. What cannot be sent is lost. -/
def ask (w : World) (agent : String) (r : Request) : Outcome × World :=
  match r.onWire? agent with
  | none => (.lost, w)
  | some wire =>
    let (o, server) := w.server.answer wire
    (o, { w with server })

end World

def Program.run {α : Type} : Program α → World → α × World
  | .done a, w => (a, w)
  | .snapshot k, w => (k w.auth).run w
  | .update f p, w => p.run { w with auth := f w.auth }
  | .exchange agent r k, w => let (o, w') := w.ask agent r; (k o).run w'
  | .drawId ids k, w => let (id, w') := w.nextId ids; (k id).run w'
  | .clock k, w => (k w.now).run w
  | .sleep _ p, w => p.run w
  | .recall k, w => (k w.queries).run w
  | .remember q p, w => p.run { w with queries := some q }

/-- Programs that may end in an error. -/
abbrev Action (α : Type) := ExceptT Error Program α

namespace Action

variable {α : Type}

/-- A result that is known already. -/
def ofResult (r : Result α) : Action α := ExceptT.mk (.done r)

def attempt (a : Action α) : Action (Result α) := ExceptT.mk (a.run.bind fun r => .done (.ok r))

def runIn (a : Action α) (w : World) : Result α × World := Program.run a.run w

end Action

instance : MonadLift (Except Error) (ExceptT Error Program) := ⟨fun r => Action.ofResult r⟩

end CloudDirector
