import ReplySchema.Engine.BuildError
import ReplySchema.Schema.Set

/-! # The cache of compiled serializers

What was compiled for a response slot is kept under the route, the selector and the
declared media type, together with the version of the schemas that it was compiled
against.  An entry serves only its own version; another version is compiled anew and
takes its place.  A failed compilation changes nothing, and a cache that is switched off
keeps nothing.

A cache is part of the state of whoever compiles, and a compile function may use it too.
-/

set_option autoImplicit false

namespace ReplySchema

/-- The version of a schema set: its generation and its digest. -/
structure Version where
  generation : Nat := 0
  digest : String := "initial"
deriving DecidableEq, Repr

namespace Version

def ofSet (set : Schema.Set) : Version := ⟨set.generation, set.fingerprint⟩

def text (v : Version) : String := Decimal.ofNat v.generation ++ ":" ++ v.digest

end Version

structure ArtifactKey where
  route : RouteId
  status : String
  contentType : Option String
deriving DecidableEq, Repr

def ArtifactKey.text (k : ArtifactKey) : String :=
  k.route.text ++ ":" ++ k.status ++ ":" ++ k.contentType.getD "-"

/-- Compiled artifacts with their versions. -/
structure Cache (α : Type) where
  enabled : Bool := true
  entries : Table ArtifactKey (Version × α) := []

namespace Cache

variable {α : Type}

def get? (key : ArtifactKey) (version : Version) (cache : Cache α) : Option α :=
  (Table.find? key cache.entries).bind fun e => if e.1 = version then some e.2 else none

/-- Puts an artifact into the cache.  What was kept under the key makes way. -/
def insert (key : ArtifactKey) (version : Version) (artifact : α) (cache : Cache α) : Cache α :=
  { cache with entries := Table.insert key (version, artifact) cache.entries }

/-- Looks once more and then puts an artifact into the cache, both under one lock.  If someone
else has made an artifact of this version meanwhile, that one stays and is the answer. -/
def keep (key : ArtifactKey) (version : Version) (artifact : α) (cache : Cache α) : α × Cache α :=
  match cache.get? key version with
  | some existing => (existing, cache)
  | none => (artifact, cache.insert key version artifact)

/-- The artifact of a key, compiled if there is none of this version.  No lock is held while it is
compiled, so what is put into the cache is put into the one that is found then.  A cache that is
switched off is not looked at. -/
def getOrCompile {m : Type → Type} [Monad m] [MonadStateOf (Cache α) m] (key : ArtifactKey)
    (version : Version) (compile : m α) : m α := do
  let cache ← getThe (Cache α)
  if cache.enabled then
    match cache.get? key version with
    | some artifact => return artifact
    | none =>
        let artifact ← compile
        modifyGetThe (Cache α) (keep key version artifact)
  else compile

def size (cache : Cache α) : Nat := cache.entries.length

def clear (cache : Cache α) : Cache α := { cache with entries := [] }

end Cache

end ReplySchema
