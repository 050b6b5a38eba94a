import WorkQuery.Turn.Stage

/-!
# WorkQuery.Turn.World

Many turns on one cache. The calls of a pipeline open turns, and the stages of the turns come in any
order between each other, while time passes and places are emptied. Turns go by the number of their
call.
-/

namespace WorkQuery

inductive Opening where
  | utterance (text : String) (history : List String)
  | filter (f : ItemFilter)
  | condition (text : String)
  | request (r : AnalysisRequest)

def Opening.stage : Opening → Stage
  | .utterance text history => .ofUtterance text history
  | .filter f => .ofFilter f
  | .condition text => .ofCondition text
  | .request r => .ofRequest r

structure Call where
  session : SessionId
  context : QueryContext
  opening : Opening

/-- The turn of a call at a stage. -/
def Call.turn (c : Call) (stage : Stage) : Turn := ⟨c.session, c.context, stage⟩

inductive Event where
  | call (call : Call)
  /-- One stage of the turn of that number, with what the oracle and the store answer to it. -/
  | stage (turn : Nat) (around : Surroundings)
  | wait (nanoseconds : Nat)
  | invalidate (session : SessionId)

def Event.call? : Event → Option Call
  | .call c => some c
  | _ => none

structure World where
  cache : Cache
  turns : List Turn

namespace World

/-- No turn, and no entry in the cache. -/
def start (freshness : Freshness) (now : Nat) : World := ⟨{ freshness, now }, []⟩

def step (p : Pipeline) (w : World) : Event → World
  | .call c => { w with turns := w.turns ++ [c.turn c.opening.stage] }
  | .stage i around =>
    match w.turns[i]? with
    | some t =>
      let after := t.step p around w.cache
      ⟨after.2, w.turns.set i after.1⟩
    | none => w
  | .wait nanoseconds => { w with cache := w.cache.advance nanoseconds }
  | .invalidate s => { w with cache := (w.cache.invalidate s).2 }

/-- The world after the events, in order. -/
def run (p : Pipeline) (w : World) (events : List Event) : World := events.foldl (step p) w

/-- The result of a turn that has ended. -/
def result? (w : World) (i : Nat) : Option (Except TurnError Outcome) :=
  (w.turns[i]?).bind fun t => t.stage.result?

def isOpen (w : World) (i : Nat) : Bool := (w.turns[i]?).any fun t => t.stage.result?.isNone

end World

def calls (events : List Event) : List Call := events.filterMap Event.call?

/-- A moment at which a turn takes a stage. -/
structure Moment where
  world : World
  around : Surroundings

namespace Moment

/-- What the turn asks the store for. -/
def query? (p : Pipeline) (i : Nat) (m : Moment) : Option Query :=
  match (m.world.turns[i]?).bind fun t => t.question? p m.world.cache with
  | some (.store query) => some query
  | _ => none

def after (p : Pipeline) (i : Nat) (m : Moment) : World := m.world.step p (.stage i m.around)

end Moment

namespace World

/-- The moment that an event is for a turn, if the turn takes a stage in it. -/
def moment? (w : World) (i : Nat) : Event → Option Moment
  | .stage j around => if j = i ∧ w.isOpen i then some ⟨w, around⟩ else none
  | _ => none

def moments (p : Pipeline) (i : Nat) : World → List Event → List Moment
  | _, [] => []
  | w, e :: es => (w.moment? i e).toList ++ moments p i (w.step p e) es

end World
end WorkQuery
