import TelemetryGateway.Cache.Target

/-!
# The caches of a gateway

A registry maps the names of targets to their caches.  A cache keeps its identity, its number in
the order in which the caches were made, also after its name was given to another cache or removed.
-/

namespace TelemetryGateway

/-- All caches ever made, and the number of the one that each name stands for. -/
structure CacheRegistry where
  caches : List TargetCache := []
  names : Dictionary Nat := ∅
deriving DecidableEq, Inhabited

namespace CacheRegistry

/-- Makes a cache that no name stands for; the result is its number. -/
def make (r : CacheRegistry) (name : String) : Nat × CacheRegistry :=
  (r.caches.length, { r with caches := r.caches ++ [{ name }] })

/-- Makes a cache for a name, in the place of the one it stood for. -/
def add (r : CacheRegistry) (name : String) : Nat × CacheRegistry :=
  let (id, r) := r.make name
  (id, { r with names := r.names.insert name id })

def get? (r : CacheRegistry) (name : String) : Option Nat := r.names.get? name

/-- The cache that a name stands for, or a new one. -/
def getOrAdd (r : CacheRegistry) (name : String) : Nat × CacheRegistry :=
  match r.get? name with
  | some id => (id, r)
  | none => r.add name

/-- Removes a name; the result is the cache that it stood for. -/
def remove (r : CacheRegistry) (name : String) : Option Nat × CacheRegistry :=
  (r.get? name, { r with names := r.names.erase name })

def targetNames (r : CacheRegistry) : List String := r.names.keys

def cache? (r : CacheRegistry) (id : Nat) : Option TargetCache := r.caches[id]?

def modify (r : CacheRegistry) (id : Nat) (f : TargetCache → TargetCache) : CacheRegistry :=
  { r with caches := r.caches.modify id f }

end CacheRegistry

end TelemetryGateway
