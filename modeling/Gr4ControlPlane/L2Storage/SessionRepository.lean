import Mathlib.Data.List.AList
import Gr4ControlPlane.L1Domain.Session

/-!
# The in-memory session repository (`storage/in_memory_session_repository.cpp`)

A map from session id to session; a call that throws returns the text of
its `std::runtime_error`. Every method takes the repository's mutex, so each
is one step.
-/
namespace Gr4cp.Storage

open Gr4cp.Core Gr4cp.Domain

abbrev Repository := AList fun _ : Str => Session

namespace Repository

/-- mirrors src/storage/in_memory_session_repository.cpp:7-13 -/
def create (sessions : Repository) (session : Session) : Except Str Repository :=
  if session.id ∈ sessions then .error (str "session already exists: " ++ session.id)
  else .ok (sessions.insert session.id session)

/-- mirrors src/storage/in_memory_session_repository.cpp:15-22 -/
def get (sessions : Repository) (id : Str) : Option Session := sessions.lookup id

/-- mirrors src/storage/in_memory_session_repository.cpp:24-34 -/
def list (sessions : Repository) : List Session := sessions.entries.map (·.2)

/-- mirrors src/storage/in_memory_session_repository.cpp:36-43 -/
def update (sessions : Repository) (session : Session) : Except Str Repository :=
  if session.id ∈ sessions then .ok (sessions.insert session.id session)
  else .error (str "unknown session: " ++ session.id)

/-- Whether a session was erased, and the sessions left.
mirrors src/storage/in_memory_session_repository.cpp:45-48 -/
def remove (sessions : Repository) (id : Str) : Bool × Repository :=
  (decide (id ∈ sessions), sessions.erase id)

variable {sessions : Repository} {session stored : Session} {id : Str}

theorem mem_of_get (h : sessions.get id = some stored) : id ∈ sessions :=
  AList.lookup_isSome.1 (by rw [show sessions.lookup id = some stored from h]; rfl)

/-- Updating a stored session succeeds. -/
theorem update_eq (hid : session.id = id) (h : sessions.get id = some stored) :
    sessions.update session = .ok (sessions.insert id session) := by
  subst hid
  simp [update, mem_of_get h]

theorem remove_eq (h : sessions.get id = some stored) :
    sessions.remove id = (true, sessions.erase id) := by
  simp [remove, mem_of_get h]

end Repository

end Gr4cp.Storage
