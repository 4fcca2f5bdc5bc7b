import Rulebook.Proofs.Resolution.Transparency
import Rulebook.Proofs.Session.Steps

/-! Resolvers that share a cache and serve the same documents: the cache is not
seen in what they resolve and compile. What is served for a URL may change only
while the URL is not stored. -/

namespace Rulebook
namespace Session
open Resolution

def SameDocuments (session : Session) : Prop :=
  ∀ one ∈ session.resolvers, ∀ other ∈ session.resolvers,
    ∀ url, one.library.lookup url = other.library.lookup url

def SharesEmptyCache (session : Session) : Prop :=
  ∃ cache, session.caches[cache]? = some {} ∧
    ∀ resolver ∈ session.resolvers, resolver.cache = cache

def Action.served? : Action → Option String
  | .put url _ => some url
  | .drop url => some url
  | _ => none

/-- An action under which the cache stays unseen. -/
structure Permitted (session : Session) (index : Nat) (action : Action) : Prop where
  separate : ∀ source, action.source? = some source → source.Separate
  same : action.source?.isSome → session.SameDocuments
  unstored : ∀ url, action.served? = some url → ∀ resolver cache,
    session.find? index = some (resolver, cache) → cache.get? url = none
  noInsert : action.isInsert = false

def TrustsCache (session : Session) : Prop :=
  ∃ number cache, session.caches[number]? = some cache ∧
    ∀ resolver ∈ session.resolvers, resolver.cache = number ∧ Trusted resolver.library cache

theorem SharesEmptyCache.trustsCache {session : Session} (h : session.SharesEmptyCache) :
    session.TrustsCache := by
  obtain ⟨number, hn, hr⟩ := h
  exact ⟨number, {}, hn, fun resolver hm => ⟨hr resolver hm, trusted_empty _⟩⟩

/-- An action leaves a cache that can be trusted with what is served after it. -/
private theorem trusted_act {library : Library} {cache : Cache} {action : Action}
    (ht : Trusted library cache)
    (hsep : ∀ source, action.source? = some source → source.Separate)
    (hserved : ∀ url, action.served? = some url → cache.get? url = none)
    (hins : action.isInsert = false) :
    Trusted (act library cache action).2 (act library cache action).1.cache := by
  have hrun : ∀ source, source.Separate →
      Trusted library (Resolution.run (resolve library source) cache).2.cache :=
    fun source hs => (run_resolve_of_trusted hs ht).2
  cases action with
  | resolve source => exact hrun source (hsep source rfl)
  | compile source => exact hrun source (hsep source rfl)
  | clear => exact trusted_empty library
  | insert url document => simp [Action.isInsert] at hins
  | put url text =>
    exact ht.of_agree (hserved url rfl) fun u hu => (Library.lookup_put_of_ne hu text library).symm
  | drop url =>
    exact ht.of_agree (hserved url rfl) fun u hu => (Library.lookup_drop_of_ne hu library).symm
  | get url => exact ht
  | contains url => exact ht
  | size => exact ht

/-- The library is changed by an action only for the URL that it serves. -/
private theorem act_library_of_source (library : Library) (cache : Cache) {action : Action}
    (h : action.source?.isSome) : (act library cache action).2 = library := by
  cases action <;> first | rfl | simp [Action.source?] at h

/-- An action that neither resolves nor inserts leaves the cache or clears it. -/
private theorem act_cache_of_source_none (library : Library) (cache : Cache) {action : Action}
    (h : action.source? = none) (hins : action.isInsert = false) :
    (act library cache action).1.cache = cache ∨ (act library cache action).1.cache = {} := by
  cases action <;> simp_all [act, Action.source?, Action.isInsert]

/-- A step that resolves a source leaves what the resolvers serve. -/
theorem resolvers_of_source {session next : Session} {index : Nat} {action : Action}
    {outcome : Outcome} (hsource : action.source?.isSome)
    (hs : session.step index action = some (outcome, next)) :
    next.resolvers = session.resolvers := by
  obtain ⟨resolver, cache, library, hr, -, hact, rfl⟩ := step_eq_some hs
  have hl : library = resolver.library := by
    rw [← act_library_of_source resolver.library cache hsource, hact]
  obtain ⟨hlt, hget⟩ := List.getElem?_eq_some_iff.1 hr
  rw [hl, ← hget]
  exact List.set_getElem_self hlt

/-- A permitted step leaves a cache that every resolver can trust. -/
theorem TrustsCache.step {session next : Session} {index : Nat} {action : Action}
    {outcome : Outcome} (h : session.TrustsCache) (hp : session.Permitted index action)
    (hs : session.step index action = some (outcome, next)) : next.TrustsCache := by
  obtain ⟨number, cache, hn, ht⟩ := h
  obtain ⟨resolver, cache', library, hr, hc, hact, rfl⟩ := step_eq_some hs
  have hm : resolver ∈ session.resolvers := List.mem_of_getElem? hr
  obtain ⟨rfl, htr⟩ := ht resolver hm
  obtain rfl : cache' = cache := by simpa [hc] using hn
  have hfind : session.find? index = some (resolver, cache') := by simp [find?, hr, hc]
  have hout : outcome = (act resolver.library cache' action).1 := by rw [hact]
  have hlib : library = (act resolver.library cache' action).2 := by rw [hact]
  have hafter : Trusted library outcome.cache := by
    rw [hlib, hout]
    exact trusted_act htr hp.separate (fun url hu => hp.unstored url hu _ _ hfind) hp.noInsert
  have hlt : resolver.cache < session.caches.length := (List.getElem?_eq_some_iff.1 hc).1
  refine ⟨resolver.cache, outcome.cache, by simp [hlt], ?_⟩
  intro other hother
  rcases List.mem_or_eq_of_mem_set hother with hold | rfl
  · obtain ⟨hnum, hto⟩ := ht other hold
    refine ⟨hnum, ?_⟩
    cases hsrc : action.source? with
    | some source =>
      -- All resolvers serve the same documents while one of them resolves.
      have hsame := hp.same (by simp [hsrc]) resolver hm other hold
      rw [hlib, act_library_of_source _ _ (by simp [hsrc])] at hafter
      exact hafter.congr hsame
    | none =>
      rcases act_cache_of_source_none resolver.library cache' hsrc hp.noInsert with he | he
      · rwa [hout, he]
      · rw [hout, he]
        exact trusted_empty _
  · exact ⟨rfl, hafter⟩

/-- What comes of an action with a trusted cache comes of it with an empty one. -/
private theorem act_result_of_trusted {library : Library} {cache : Cache} {action : Action}
    {source : Source} (ht : Trusted library cache) (hs : source.Separate)
    (ha : action.source? = some source) :
    (act library cache action).1.result = (act library {} action).1.result := by
  have hr := (run_resolve_of_trusted hs ht).1
  cases action with
  | resolve s =>
    obtain rfl : s = source := by simpa [Action.source?] using ha
    exact congrArg Result.resolved hr
  | compile s =>
    obtain rfl : s = source := by simpa [Action.source?] using ha
    exact congrArg (fun outcome => Result.compiled (compileResolved outcome)) hr
  | _ => simp [Action.source?] at ha

/-- In every session of resolvers that share a cache and serve the same
documents, a source resolves and compiles, or fails, as it would with an empty
cache over what is served at that moment. -/
theorem result_eq_of_emptyCache {session mid next : Session} {before : List (Nat × Action)}
    {outcomes : List Outcome} {index : Nat} {action : Action} {source : Source}
    {resolver : Resolver} {outcome : Outcome} (hempty : session.SharesEmptyCache)
    (hcareful : session.Careful Permitted (before ++ [(index, action)]))
    (hrun : session.run before = some (outcomes, mid)) (hsource : action.source? = some source)
    (hresolver : mid.resolvers[index]? = some resolver)
    (hstep : mid.step index action = some (outcome, next)) :
    outcome.result = (act resolver.library {} action).1.result := by
  obtain ⟨htrust, hp, -⟩ := run_induction (P := TrustsCache)
    (fun _ _ _ _ _ h hp hs => h.step hp hs) hempty.trustsCache hcareful hrun
  obtain ⟨number, cache, hn, ht⟩ := htrust
  obtain ⟨resolver', cache', library, hr, hc, hact, -⟩ := step_eq_some hstep
  obtain rfl : resolver' = resolver := by simpa [hr] using hresolver
  obtain ⟨rfl, htr⟩ := ht _ (List.mem_of_getElem? hr)
  obtain rfl : cache' = cache := by simpa [hc] using hn
  rw [← act_result_of_trusted htr (hp.separate source hsource) hsource, hact]

/-- Two documents, of which the one at `/a` refers to the one at `/b`. -/
def pairLibrary : Library :=
  [("http://h.example/a",
    "\x7b\"properties\":\x7b\"x\":\x7b\"$ref\":\"http://h.example/b\"\x7d\x7d\x7d"),
   ("http://h.example/b", "\x7b\"type\":\"string\"\x7d")]

def sharedPair : Session := ⟨[{}], [⟨pairLibrary, 0⟩, ⟨pairLibrary, 0⟩]⟩

private theorem permitted_of_separate {session : Session} {index : Nat} {source : Source}
    (hs : source.Separate) (hsame : session.SameDocuments) (action : Action)
    (ha : action = .resolve source ∨ action = .compile source) :
    session.Permitted index action := by
  rcases ha with rfl | rfl
  all_goals
    refine ⟨?_, fun _ => hsame, by simp [Action.served?], rfl⟩
    rintro _ ⟨⟩
    exact hs

theorem result_eq_of_emptyCache_second_resolver :
    let source : Source := { url := some "http://h.example/a" }
    ∃ outcomes mid outcome next, sharedPair.run [(0, .resolve source)] = some (outcomes, mid) ∧
      mid.step 1 (.compile source) = some (outcome, next) ∧
      ∀ resolver, mid.resolvers[1]? = some resolver →
        outcome.result = (act resolver.library {} (.compile source)).1.result := by
  intro source
  have hsep : source.Separate := .inr ⟨rfl, rfl⟩
  have hsame : sharedPair.SameDocuments := by simp [SameDocuments, sharedPair]
  have hnext : ∀ outcome next, sharedPair.step 0 (.resolve source) = some (outcome, next) →
      next.SameDocuments := by
    intro outcome next hs
    simpa [SameDocuments, resolvers_of_source rfl hs] using hsame
  have hcareful : sharedPair.Careful Permitted
      ([(0, .resolve source)] ++ [(1, .compile source)]) :=
    ⟨permitted_of_separate hsep hsame _ (.inl rfl), fun outcome next hs =>
      ⟨permitted_of_separate hsep (hnext outcome next hs) _ (.inr rfl), fun _ _ _ => trivial⟩⟩
  obtain ⟨first, mid, hfirst, cache, hmid⟩ :
      ∃ first mid, sharedPair.step 0 (.resolve source) = some (first, mid) ∧
        ∃ cache, mid.find? 1 = some (⟨pairLibrary, 0⟩, cache) :=
    ⟨_, _, step_of_find rfl _, _, rfl⟩
  have hrun : sharedPair.run [(0, .resolve source)] = some ([first], mid) :=
    run_cons_eq_some.2 ⟨first, mid, [], hfirst, rfl, rfl⟩
  have hstep := step_of_find hmid (.compile source)
  refine ⟨_, mid, _, _, hrun, hstep, fun resolver hr => ?_⟩
  exact result_eq_of_emptyCache ⟨0, rfl, by simp [sharedPair]⟩ hcareful hrun rfl hr hstep

end Session
end Rulebook
