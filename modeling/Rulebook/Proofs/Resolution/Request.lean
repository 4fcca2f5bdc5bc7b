import Rulebook.Resolution.Session

/-! Requests as functions of the state they start from: one equation for each
building block of a resolution, so that no later proof opens the monad. -/

namespace Rulebook
namespace Resolution

namespace State

def fetch (state : State) (url : String) : State :=
  { state with fetched := state.fetched ++ [url] }

def store (state : State) (url : String) (document : Json) : State :=
  { state with cache := state.cache.insert url document }

@[simp] theorem store_cache (state : State) (url : String) (document : Json) :
    (state.store url document).cache = state.cache.insert url document := rfl

end State

namespace Request

variable {α β : Type}

/-- What a request gives from a state, and the state it leaves. -/
def exec (request : Request α) (state : State) : Except ResolveError α × State :=
  StateT.run (ExceptT.run request) state

@[simp] theorem exec_pure (a : α) (state : State) : exec (pure a) state = (.ok a, state) := rfl

theorem exec_bind (request : Request α) (next : α → Request β) (state : State) :
    exec (request >>= next) state =
      match exec request state with
      | (.ok a, after) => exec (next a) after
      | (.error e, after) => (.error e, after) := by
  simp only [exec, ExceptT.run_bind, StateT.run_bind]
  rcases StateT.run (ExceptT.run request) state with ⟨r, after⟩
  cases r <;> rfl

@[simp] theorem exec_throw (e : ResolveError) (state : State) :
    exec (throw e : Request α) state = (.error e, state) := rfl

@[simp] theorem exec_get (state : State) : exec get state = (.ok state, state) := rfl

@[simp] theorem exec_set (state after : State) : exec (set after) state = (.ok ⟨⟩, after) := rfl

@[simp] theorem exec_lift (r : Except ResolveError α) (state : State) :
    exec (liftM r) state = (r, state) := by cases r <;> rfl

theorem run_eq_exec (request : Request α) (cache : Cache) :
    run request cache = exec request { cache } := rfl

def targets (resolveUrl : String → Request Json) (urls : List String) :
    Request (List (String × Json)) :=
  urls.mapM fun url => do return (url, ← resolveUrl url)

theorem exec_targets_cons (resolveUrl : String → Request Json) (url : String)
    (rest : List String) (state : State) :
    exec (targets resolveUrl (url :: rest)) state =
      match exec (resolveUrl url) state with
      | (.ok target, after) =>
        match exec (targets resolveUrl rest) after with
        | (.ok more, last) => (.ok ((url, target) :: more), last)
        | (.error e, last) => (.error e, last)
      | (.error e, after) => (.error e, after) := by
  simp only [targets, List.mapM_cons, exec_bind, exec_pure]
  rcases exec (resolveUrl url) state with ⟨_ | target, after⟩
  · rfl
  · simp only
    rcases exec (List.mapM _ rest) after with ⟨_ | more, last⟩ <;> rfl

theorem exec_resolveDocument (resolveUrl : String → Request Json) (document : Json)
    (sourceUrl : Option String) (state : State) :
    exec (resolveDocument resolveUrl document sourceUrl) state =
      match document.externalReferences sourceUrl with
      | .error e => (.error e, state)
      | .ok items =>
        let (own, others) := items.partition fun item => some item.url == sourceUrl
        match exec (targets resolveUrl (distinctUrls others)) state with
        | (.ok found, after) => (assemble (own.foldl makeInternal document) others found, after)
        | (.error e, after) => (.error e, after) := by
  simp only [resolveDocument, exec_bind, exec_lift]
  cases document.externalReferences sourceUrl with
  | error e => rfl
  | ok items =>
    simp only [targets]
    rcases exec (List.mapM _ _) state with ⟨_ | found, after⟩ <;> rfl

theorem exec_resolveUrl (library : Library) (chain : List String) (url : String) (state : State) :
    exec (resolveUrl library chain url) state =
      if url ∈ chain then (.error (.circular url), state)
      else
        match state.cache.get? url with
        | some document => (.ok document, state)
        | none =>
          match library.lookup url with
          | none => (.error (.fetchFailed url notFound), state.fetch url)
          | some text =>
            match readDocument text url with
            | .error e => (.error e, state.fetch url)
            | .ok document =>
              match exec (resolveDocument (resolveUrl library (chain ++ [url])) document (some url))
                  (state.fetch url) with
              | (.ok resolved, after) => (.ok resolved, after.store url resolved)
              | (.error e, after) => (.error e, after) := by
  rw [resolveUrl]
  by_cases hc : url ∈ chain
  · simp [hc]
  · simp only [hc, ↓reduceDIte, ↓reduceIte, exec_bind, exec_get]
    cases state.cache.get? url with
    | some document => rfl
    | none =>
      simp only [exec_bind, exec_set]
      split
      · rename_i h
        simp [h, State.fetch]
      · rename_i text h
        simp only [h, exec_bind, exec_lift]
        cases readDocument text url with
        | error e => rfl
        | ok document =>
          simp only [State.fetch]
          rcases exec (resolveDocument _ document (some url)) _ with ⟨_ | resolved, after⟩ <;> rfl

def storeSource (url : Option String) (document : Json) (state : State) : State :=
  match url with
  | some url => state.store url document
  | none => state

theorem exec_resolveFresh (library : Library) (source : Source) (state : State) :
    exec (resolveFresh library source) state =
      match sourceDocument source, source.url with
      | .error e, _ => (.error e, state)
      | .ok (some document), url =>
        match exec (resolveDocument (resolveUrl library url.toList) document url) state with
        | (.ok resolved, after) => (.ok resolved, storeSource url resolved after)
        | (.error e, after) => (.error e, after)
      | .ok none, some url => exec (resolveUrl library [] url) state
      | .ok none, none => (.error .missingSource, state) := by
  simp only [resolveFresh, exec_bind, exec_lift]
  cases sourceDocument source with
  | error e => rfl
  | ok document =>
    cases document with
    | none => cases source.url <;> rfl
    | some document =>
      cases source.url with
      | none =>
        simp only [exec_bind]
        rcases exec (resolveDocument _ document none) state with ⟨_ | resolved, after⟩ <;> rfl
      | some url =>
        simp only [exec_bind]
        rcases exec (resolveDocument _ document (some url)) state with ⟨_ | resolved, after⟩ <;> rfl

theorem exec_resolve (library : Library) (source : Source) (state : State) :
    exec (resolve library source) state =
      match source.url with
      | none => exec (resolveFresh library source) state
      | some url =>
        match Json.readBase url with
        | .error e => (.error e, state)
        | .ok _ =>
          match state.cache.get? url with
          | some document => (.ok document, state)
          | none => exec (resolveFresh library source) state := by
  simp only [resolve, cachedSource, exec_bind]
  cases source.url with
  | none => rfl
  | some url =>
    simp only [exec_bind, exec_lift]
    cases Json.readBase url with
    | error e => rfl
    | ok base =>
      simp only [exec_get, exec_pure]
      cases state.cache.get? url <;> rfl

end Request
end Resolution
end Rulebook
