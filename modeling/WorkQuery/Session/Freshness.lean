import WorkQuery.Data.Decode

/-!
# WorkQuery.Session.Freshness

How long the items of a session stay fresh.
-/

namespace WorkQuery

/-- Seconds that items stay fresh; zero or a negative number means for ever. -/
structure Freshness where
  seconds : Int := 600
  deriving DecidableEq, Repr

namespace Freshness

def unlimited : Freshness := ⟨0⟩

/-- The longest limit: thirty days. -/
def mostSeconds : Int := 2592000

/-- The limit in seconds, if there is one. -/
def limit? (f : Freshness) : Option Nat := if 0 < f.seconds then some f.seconds.toNat else none

/-- The unit of times and ages is the nanosecond. -/
def perSecond : Nat := 1000000000

/-- Whether items of this age are no longer fresh. -/
def isPast (f : Freshness) (age : Nat) : Bool :=
  match f.limit? with
  | some seconds => perSecond * seconds < age
  | none => false

inductive Fault where
  | tooLong (seconds : Int)
  deriving DecidableEq, Repr

def Fault.message : Fault → String
  | .tooLong seconds =>
    "ttl_secs must be at most " ++ Numeral.intText mostSeconds
      ++ " (30 days), or 0 to never expire; got " ++ Numeral.intText seconds

def fault? (f : Freshness) : Option Fault :=
  if mostSeconds < f.seconds then some (.tooLong f.seconds) else none

def toData (f : Freshness) : Data := .record [("ttl_secs", .integer f.seconds)]

def ofData? (d : Data) : Option Freshness :=
  match d.settings? ["ttl_secs"] with
  | some [seconds] => (Data.withDefault? 600 Data.int64? seconds).map Freshness.mk
  | _ => none

end Freshness
end WorkQuery
