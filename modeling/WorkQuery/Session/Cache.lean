import WorkQuery.Item.Basic
import WorkQuery.Query.Statement
import WorkQuery.Session.Freshness
import WorkQuery.Session.Id

/-!
# WorkQuery.Session.Cache

The items that each session fetched last. A session has one place; what is put there replaces what
was there before. Items that are no longer fresh stay in their place, but are not handed out.
-/

namespace WorkQuery

/-- Fetched items in order, where they come from, and a description of that for people. -/
structure ResultSet where
  items : List WorkItem
  /-- The filter, if the items were asked for by one. -/
  filter : Option ItemFilter
  /-- The query that brought them. -/
  query : Option Query
  description : String
  deriving DecidableEq

/-- Items, and the time at which they came to their place; until then, the time at which the entry
was made. -/
structure CacheEntry where
  results : ResultSet
  storedAt : Nat
  deriving DecidableEq

/-- What is known of a place without its items; the age is in nanoseconds. -/
structure CacheStatus where
  count : Nat
  age : Nat
  expired : Bool
  description : String
  deriving DecidableEq, Repr

/-- The places of the sessions, and the time in nanoseconds, which only moves forward. -/
structure Cache where
  freshness : Freshness
  now : Nat := 0
  places : List (SessionId × CacheEntry) := []
  /-- Each session has one place. -/
  places_nodup : (places.map Prod.fst).Nodup := by exact List.nodup_nil

namespace Cache

/-- The entry of a session, fresh or not. -/
def peek (c : Cache) (s : SessionId) : Option CacheEntry :=
  (c.places.find? fun place => place.1 == s).map Prod.snd

/-- How long the entry has been in its place. -/
def age (c : Cache) (entry : CacheEntry) : Nat := c.now - entry.storedAt

def isExpired (c : Cache) (entry : CacheEntry) : Bool := c.freshness.isPast (c.age entry)

/-- The entry of a session, if it is fresh. -/
def get (c : Cache) (s : SessionId) : Option CacheEntry :=
  (c.peek s).filter fun entry => !c.isExpired entry

def status (c : Cache) (s : SessionId) : Option CacheStatus :=
  (c.peek s).map fun entry =>
    ⟨entry.results.items.length, c.age entry, c.isExpired entry, entry.results.description⟩

/-- Number of the sessions that have an entry. -/
def size (c : Cache) : Nat := c.places.length

theorem map_fst_filter_nodup {places : List (SessionId × CacheEntry)}
    (h : (places.map Prod.fst).Nodup) (p : SessionId × CacheEntry → Bool) :
    ((places.filter p).map Prod.fst).Nodup :=
  h.sublist (List.filter_sublist.map _)

/-- Without the entry of a session. -/
def without (c : Cache) (s : SessionId) : Cache :=
  { c with
    places := c.places.filter fun place => place.1 != s
    places_nodup := map_fst_filter_nodup c.places_nodup _ }

/-- Whether there was an entry of the session to remove, and the cache without it. -/
def invalidate (c : Cache) (s : SessionId) : Bool × Cache :=
  (c.places.any fun place => place.1 == s, c.without s)

/-- The entry as it comes to a place now, whenever it was made. -/
def stamp (c : Cache) (entry : CacheEntry) : CacheEntry := { entry with storedAt := c.now }

def put (c : Cache) (s : SessionId) (entry : CacheEntry) : Cache :=
  { c with
    places := (s, c.stamp entry) :: (c.without s).places
    places_nodup := by
      simp only [List.map_cons, List.nodup_cons]
      exact ⟨by simp [without], (c.without s).places_nodup⟩ }

def advance (c : Cache) (nanoseconds : Nat) : Cache := { c with now := c.now + nanoseconds }

/-- Whether the entry of one session came to its place after that of another; an entry comes after
no entry. -/
def isNewer (c : Cache) (s than : SessionId) : Bool :=
  match c.peek s, c.peek than with
  | some a, some b => b.storedAt < a.storedAt
  | some _, none => true
  | none, _ => false

end Cache
end WorkQuery
