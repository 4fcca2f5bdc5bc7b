import Rulebook.Resolution.Resolver

/-!
Sessions: several resolvers, each with a library of its own, over caches that
they may share.
-/

namespace Rulebook

namespace Library

def put (url text : String) : Library → Library
  | [] => [(url, text)]
  | (u, t) :: rest => if u = url then (u, text) :: rest else (u, t) :: put url text rest

def drop (url : String) (library : Library) : Library := library.filter fun entry => entry.1 != url

end Library

namespace Session

structure Resolver where
  library : Library
  cache : Nat

inductive Action where
  | resolve (source : Source)
  | compile (source : Source)
  | clear
  | insert (url : String) (document : Json)
  | get (url : String)
  | contains (url : String)
  | size
  | put (url text : String)
  | drop (url : String)

inductive Result where
  | resolved (outcome : Except ResolveError Json)
  | compiled (outcome : Except CompileError RuleTable)
  | flag (value : Bool)
  | found (document : Option Json)
  | size (count : Nat) (isEmpty : Bool)
  | done

structure Outcome where
  result : Result
  fetched : List String
  cache : Cache

end Session

structure Session where
  caches : List Cache
  resolvers : List Session.Resolver

namespace Session

def find? (session : Session) (index : Nat) : Option (Resolver × Cache) := do
  let resolver ← session.resolvers[index]?
  let cache ← session.caches[resolver.cache]?
  return (resolver, cache)

def act (library : Library) (cache : Cache) : Action → Outcome × Library
  | .resolve source =>
    let (outcome, state) := Resolution.run (Resolution.resolve library source) cache
    (⟨.resolved outcome, state.fetched, state.cache⟩, library)
  | .compile source =>
    let (outcome, state) := Resolution.run (Resolution.resolve library source) cache
    (⟨.compiled (compileResolved outcome), state.fetched, state.cache⟩, library)
  | .clear => (⟨.done, [], {}⟩, library)
  | .insert url document =>
    (⟨.flag !(cache.contains url), [], cache.insert url document⟩, library)
  | .get url => (⟨.found (cache.get? url), [], cache⟩, library)
  | .contains url => (⟨.flag (cache.contains url), [], cache⟩, library)
  | .size => (⟨.size cache.size cache.isEmpty, [], cache⟩, library)
  | .put url text => (⟨.done, [], cache⟩, Library.put url text library)
  | .drop url => (⟨.done, [], cache⟩, Library.drop url library)

/-- Do one thing with a resolver of a session. Nothing comes of a step for a
resolver that is not there. -/
def step (session : Session) (index : Nat) (action : Action) : Option (Outcome × Session) := do
  let (resolver, cache) ← session.find? index
  let (outcome, library) := act resolver.library cache action
  return (outcome,
    { caches := session.caches.set resolver.cache outcome.cache
      resolvers := session.resolvers.set index { resolver with library } })

def run (session : Session) : List (Nat × Action) → Option (List Outcome × Session)
  | [] => some ([], session)
  | (index, action) :: rest => do
    let (outcome, next) ← session.step index action
    let (outcomes, last) ← run next rest
    return (outcome :: outcomes, last)

end Session
end Rulebook
