import Targeting.Audience.Failure
import Targeting.Journal
import Targeting.Store.Database

/-!
A merchant's session with the store. Whatever runs in a session leaves a trace: the events that
are worth telling, in order, and an outcome. Every query of a session is bounded in time, and its
breakdowns become failures in the words of the store.
-/

namespace Targeting

open Number

/-- A result with the events on the way to it. -/
structure Traced (α : Type) where
  events : List Event
  outcome : Except Failure α

namespace Traced

variable {α β : Type}

def pure (a : α) : Traced α := ⟨[], .ok a⟩

def fail (f : Failure) : Traced α := ⟨[], .error f⟩

def tell (events : List Event) : Traced Unit := ⟨events, .ok ()⟩

/-- Goes on with a result; a failure ends the run and keeps the events so far. -/
def bind (x : Traced α) (next : α → Traced β) : Traced β :=
  match x.outcome with
  | .error f => ⟨x.events, .error f⟩
  | .ok a => ⟨x.events ++ (next a).events, (next a).outcome⟩

instance : Monad Traced where
  pure := Traced.pure
  bind := Traced.bind

end Traced

structure Session where
  database : Database
  merchantId : String
  /-- Seconds after which a query is given up, as they were set: nothing has checked them. -/
  timeout : Json
  /-- How many segments may be resolved at a time, as it was set: nothing has checked it. -/
  concurrency : Json
  /-- The clock; one that shows no time of the calendar cannot be read. It stands still while the
  session lasts, though it may be read once for each condition. -/
  now : Except Crash Moment

namespace Session

/-- Seconds that somebody is told of. -/
def toldSeconds (timeout : Json) : Except Crash Binary64 :=
  match timeout.amount? with
  | some a => (a.toReal?).elim (.error .tooLarge) .ok
  | none => .error (.kind ("must be real number, not " ++ timeout.kindName))

/-- What a breakdown of a query comes to in a session. -/
def broken {α : Type} (s : Session) (operation : String) : Breakdown → Traced α
  | .driver label => ⟨[.queryFailed operation label], .error (.storeError operation label)⟩
  | .silence =>
      match toldSeconds s.timeout with
      | .ok seconds =>
          ⟨[.queryTimedOut operation seconds], .error (.storeTimeout seconds operation)⟩
      | .error c => .fail (.crash c)
  | .crash c => .fail (.crash c)

/-- Reads the clock. -/
def readClock (s : Session) : Traced Moment :=
  match s.now with
  | .ok now => .pure now
  | .error c => .fail (.crash c)

/-- Runs a query: its answer is read off the store unless the query breaks down. -/
def ask {α : Type} (s : Session) (q : Query) (answer : Store → α) : Traced α :=
  match s.database.breakdown? q with
  | some b => s.broken q.operation b
  | none => .pure (answer s.database.store)

/-- Reads segments that a query has found. -/
def readSegments (segments : List Segment) : Traced Unit :=
  match segments.findSome? (·.crash?) with
  | some c => .fail (.crash c)
  | none => .pure ()

/-- Loads condition rows within a query on segments, where there are segments to load them for. -/
def askRows {α : Type} (s : Session) (operation : String) (segments : List Segment) (a : α) :
    Traced α :=
  match segments, s.database.rowsBreakdown? with
  | _ :: _, some b => s.broken operation b
  | _, _ => .pure a

end Session

end Targeting
