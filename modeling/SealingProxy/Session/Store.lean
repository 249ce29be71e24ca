import SealingProxy.Session.Record
/-! # Stores of sessions

A store keeps sessions under upload ids. Taking a session removes it. A session older than the
time to live counts as absent. What a store does not tell apart from outside is how it keeps
them. -/

namespace SealingProxy

inductive SessionError where
  /-- No session, an expired one, or one that was taken before. -/
  | notFound (id : String)
  | io (reason : String)
  | corrupt (path reason : String)
  | task (reason : String)
  deriving DecidableEq, Repr

def SessionError.message : SessionError → String
  | notFound id => "no session for upload id " ++ id
  | io r => "session store I/O error: " ++ r
  | corrupt p r => "corrupt session record " ++ p ++ ": " ++ r
  | task r => "session store task failed: " ++ r

/-- The circumstances of a call: the time, and a name that no other call uses. -/
structure Moment where
  now : Instant
  token : String
  /-- A clock never shows a second number sixty. -/
  regular : now.isLeapSecond = false := by exact Eq.refl false

class SessionStore (σ : Type) where
  put : Moment → String → Session → σ → Except SessionError Unit × σ
  take : Moment → String → σ → Except SessionError Session × σ
  /-- Drops expired sessions and tells how many there were. -/
  removeExpired : Moment → σ → Except SessionError Nat × σ

/-- Sessions kept in memory, each id once. -/
structure MemoryStore where
  ttl : Nat
  sessions : List (String × Session) := []
  deriving DecidableEq, Repr

namespace MemoryStore

def find? (m : MemoryStore) (id : String) : Option Session :=
  (m.sessions.find? (·.1 == id)).map (·.2)

def erase (m : MemoryStore) (id : String) : MemoryStore :=
  { m with sessions := m.sessions.filter (·.1 != id) }

def insert (m : MemoryStore) (id : String) (s : Session) : MemoryStore :=
  { m with sessions := (id, s) :: (m.erase id).sessions }

/-- Removes the session of an id and returns it unless it is expired. -/
def take (m : MemoryStore) (now : Instant) (id : String) :
    Except SessionError Session × MemoryStore :=
  match m.find? id with
  | none => (.error (.notFound id), m)
  | some s => (if s.isExpired m.ttl now then .error (.notFound id) else .ok s, m.erase id)

def withoutExpired (m : MemoryStore) (now : Instant) : MemoryStore :=
  { m with sessions := m.sessions.filter fun e => !e.2.isExpired m.ttl now }

end MemoryStore

instance : SessionStore MemoryStore where
  put _ id s m := (.ok (), m.insert id s)
  take t id m := m.take t.now id
  removeExpired t m :=
    (.ok (m.sessions.length - (m.withoutExpired t.now).sessions.length), m.withoutExpired t.now)

end SealingProxy
