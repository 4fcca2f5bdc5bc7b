import Mathlib.Data.List.Nodup
import Rulebook.Proofs.Resolution.Request

/-! What one request fetches and what it stores. No URL is fetched twice, or although
it is stored; a document is stored once everything that it refers to is, and nothing
above a failure is stored. -/

namespace Rulebook
namespace Resolution
open Request

/-- Between two states, URLs outside a chain were fetched that had not been stored, and
nothing but these has been stored. -/
structure Spent (chain : List String) (before after : State) (new : List String) : Prop where
  fetched : after.fetched = before.fetched ++ new
  nodup : new.Nodup
  idle : ∀ u ∈ new, u ∉ chain
  missing : ∀ u ∈ new, u ∉ before.cache.urls
  kept : ∀ u ∈ before.cache.urls, u ∈ after.cache.urls
  covered : ∀ u ∈ after.cache.urls, u ∈ before.cache.urls ∨ u ∈ new

namespace Spent

variable {chain : List String} {before middle after : State} {new more : List String}
  {url : String}

theorem nothing (chain : List String) (state : State) : Spent chain state state [] where
  fetched := (List.append_nil _).symm
  nodup := .nil
  idle := by simp
  missing := by simp
  kept := fun _ hu => hu
  covered := fun _ hu => .inl hu

/-- What is fetched later is new, when what was fetched before has been stored. -/
theorem trans (h : Spent chain before middle new) (hs : ∀ u ∈ new, u ∈ middle.cache.urls)
    (h' : Spent chain middle after more) : Spent chain before after (new ++ more) where
  fetched := by rw [h'.fetched, h.fetched, List.append_assoc]
  nodup := List.Nodup.append h.nodup h'.nodup fun u hu hm => h'.missing u hm (hs u hu)
  idle := fun u hu => (List.mem_append.1 hu).elim (h.idle u) (h'.idle u)
  missing := fun u hu => (List.mem_append.1 hu).elim (h.missing u) fun hm hb =>
    h'.missing u hm (h.kept u hb)
  kept := fun u hu => h'.kept u (h.kept u hu)
  covered := by
    intro u hu
    rcases h'.covered u hu with hu | hu
    · exact (h.covered u hu).imp_right (List.mem_append_left _)
    · exact .inr (List.mem_append_right _ hu)

/-- A URL that is fetched is in the chain while its document is resolved. -/
theorem fetch (hc : url ∉ chain) (hm : url ∉ before.cache.urls)
    (h : Spent (chain ++ [url]) (before.fetch url) after new) :
    Spent chain before after (url :: new) where
  fetched := by rw [h.fetched, State.fetch, List.append_assoc, List.singleton_append]
  nodup := List.nodup_cons.2 ⟨fun hu => h.idle url hu (by simp), h.nodup⟩
  idle := List.forall_mem_cons.2 ⟨hc, fun u hu hm => h.idle u hu (List.mem_append_left _ hm)⟩
  missing := List.forall_mem_cons.2 ⟨hm, h.missing⟩
  kept := h.kept
  covered := fun u hu => (h.covered u hu).imp_right (List.mem_cons_of_mem _)

/-- While a document is resolved, it is not stored. -/
theorem unstored (hu : url ∈ chain) (hm : url ∉ before.cache.urls)
    (h : Spent chain before after new) : url ∉ after.cache.urls :=
  fun ha => (h.covered url ha).elim hm fun hn => h.idle url hn hu

theorem store (hu : url ∈ new) (h : Spent chain before after new) (document : Json) :
    Spent chain before (after.store url document) new where
  fetched := h.fetched
  nodup := h.nodup
  idle := h.idle
  missing := h.missing
  kept := fun u hb => Cache.mem_urls_insert.2 (.inl (h.kept u hb))
  covered := by
    intro u ha
    rcases Cache.mem_urls_insert.1 ha with ha | rfl
    · exact h.covered u ha
    · exact .inr hu

end Spent

/-- What a request may spend: a success has stored all that it fetched, and what a
failure fetched was served up to the URL that it complains about. -/
def Accounts {α : Type} (library : Library) (chain : List String) (before : State)
    (reply : Except ResolveError α × State) : Prop :=
  ∃ new, Spent chain before reply.2 new ∧
    (∀ a, reply.1 = .ok a → ∀ u ∈ new, u ∈ reply.2.cache.urls) ∧
    ∀ u ∈ new, u ∈ library.map Prod.fst ∨ reply.1 = .error (.fetchFailed u notFound)

section Requests

variable {library : Library} {chain : List String} {request : String → Request Json}

theorem mem_urls_of_lookup {url text : String} (h : library.lookup url = some text) :
    url ∈ library.map Prod.fst := by
  obtain ⟨entry, he, hu⟩ := List.lookup_isSome_iff.1 (Option.isSome_of_eq_some h)
  exact List.mem_map.2 ⟨entry, he, (beq_iff_eq.1 hu).symm⟩

theorem accounts_nothing {α : Type} (r : Except ResolveError α) (state : State) :
    Accounts library chain state (r, state) :=
  ⟨[], .nothing chain state, by simp, by simp⟩

theorem accounts_targets (h : ∀ url state, Accounts library chain state (exec (request url) state))
    (urls : List String) (state : State) :
    Accounts library chain state (exec (targets request urls) state) := by
  induction urls generalizing state with
  | nil => exact accounts_nothing _ _
  | cons url rest ih =>
    obtain ⟨new, hspent, hstored, hserved⟩ := h url state
    rw [exec_targets_cons]
    rcases hr : exec (request url) state with ⟨_ | target, middle⟩
    · rw [hr] at hspent hserved
      exact ⟨new, hspent, by simp, fun u hu => by simpa using hserved u hu⟩
    · rw [hr] at hspent hstored hserved
      have hmiddle := hstored target rfl
      have hnew : ∀ u ∈ new, u ∈ library.map Prod.fst := fun u hu =>
        (hserved u hu).resolve_right (by simp)
      obtain ⟨more, hspent', hstored', hserved'⟩ := ih middle
      dsimp only
      rcases hr' : exec (targets request rest) middle with ⟨e | others, last⟩
      · rw [hr'] at hspent' hserved'
        refine ⟨new ++ more, hspent.trans hmiddle hspent', by simp, ?_⟩
        refine List.forall_mem_append.2 ⟨fun u hu => .inl (hnew u hu), fun u hu => ?_⟩
        simpa using hserved' u hu
      · rw [hr'] at hspent' hstored' hserved'
        refine ⟨new ++ more, hspent.trans hmiddle hspent', fun _ _ => ?_, ?_⟩
        · exact List.forall_mem_append.2
            ⟨fun u hu => hspent'.kept u (hmiddle u hu), hstored' others rfl⟩
        · refine List.forall_mem_append.2 ⟨fun u hu => .inl (hnew u hu), fun u hu => ?_⟩
          exact .inl ((hserved' u hu).resolve_right (by simp))

theorem accounts_resolveDocument
    (h : ∀ url state, Accounts library chain state (exec (request url) state)) (document : Json)
    (sourceUrl : Option String) (state : State) :
    Accounts library chain state (exec (resolveDocument request document sourceUrl) state) := by
  rw [exec_resolveDocument]
  cases document.externalReferences sourceUrl with
  | error e => exact accounts_nothing _ _
  | ok items =>
    dsimp only
    generalize distinctUrls (items.partition fun item => some item.url == sourceUrl).2 = urls
    obtain ⟨new, hspent, hstored, hserved⟩ := accounts_targets h urls state
    rcases hr : exec (targets request urls) state with ⟨e | found, after⟩
    · rw [hr] at hspent hserved
      exact ⟨new, hspent, by simp, fun u hu => by simpa using hserved u hu⟩
    · rw [hr] at hspent hstored hserved
      exact ⟨new, hspent, fun _ _ => hstored found rfl,
        fun u hu => .inl ((hserved u hu).resolve_right (by simp))⟩

def StoresUrl (url : String) (before : State) (reply : Except ResolveError Json × State) : Prop :=
  (∀ d, reply.1 = .ok d → url ∈ reply.2.cache.urls) ∧
    ∀ e, reply.1 = .error e → url ∉ before.cache.urls → url ∉ reply.2.cache.urls

section Fetching

variable {url : String} {state after : State} {e : ResolveError} {resolved : Json}

/-- A document that was fetched is not stored when what it refers to fails. -/
theorem accounts_of_fetch_error (hc : url ∉ chain) (hm : url ∉ state.cache.urls)
    (hl : url ∈ library.map Prod.fst)
    (h : Accounts library (chain ++ [url]) (state.fetch url)
      ((.error e : Except ResolveError Json), after)) :
    Accounts library chain state ((.error e : Except ResolveError Json), after) ∧
      StoresUrl url state (.error e, after) := by
  obtain ⟨new, hspent, -, hserved⟩ := h
  have hfetched : ∀ u ∈ url :: new, u ∈ library.map Prod.fst ∨
      (.error e : Except ResolveError Json) = .error (.fetchFailed u notFound) :=
    List.forall_mem_cons.2 ⟨.inl hl, hserved⟩
  refine ⟨⟨url :: new, hspent.fetch hc hm, by simp, hfetched⟩, by simp, fun _ _ _ => ?_⟩
  have hm' : url ∉ (state.fetch url).cache.urls := hm
  exact hspent.unstored (List.mem_append_right chain (List.mem_singleton_self url)) hm'

theorem accounts_of_fetch_ok (hc : url ∉ chain) (hm : url ∉ state.cache.urls)
    (hl : url ∈ library.map Prod.fst)
    (h : Accounts library (chain ++ [url]) (state.fetch url) (.ok resolved, after)) :
    Accounts library chain state (.ok resolved, after.store url resolved) ∧
      StoresUrl url state (.ok resolved, after.store url resolved) := by
  obtain ⟨new, hspent, hstored, hserved⟩ := h
  have hnew : ∀ u ∈ new, u ∈ library.map Prod.fst := fun u hu =>
    (hserved u hu).resolve_right (by simp)
  have hurl : url ∈ (after.store url resolved).cache.urls := Cache.mem_urls_insert.2 (.inr rfl)
  have hkept : ∀ u ∈ new, u ∈ (after.store url resolved).cache.urls := fun u hu =>
    Cache.mem_urls_insert.2 (.inl (hstored resolved rfl u hu))
  refine ⟨⟨url :: new, (hspent.fetch hc hm).store List.mem_cons_self resolved, ?_, ?_⟩, ?_⟩
  · exact fun _ _ => List.forall_mem_cons.2 ⟨hurl, hkept⟩
  · exact List.forall_mem_cons.2 ⟨.inl hl, fun u hu => .inl (hnew u hu)⟩
  · exact ⟨fun _ _ => hurl, by simp⟩

end Fetching

theorem accounts_resolveUrl (library : Library) (chain : List String) (url : String)
    (state : State) :
    Accounts library chain state (exec (resolveUrl library chain url) state) ∧
      StoresUrl url state (exec (resolveUrl library chain url) state) := by
  -- The recursion is that of the resolution; what it asks for is in a longer chain.
  induction chain, url using Resolution.resolveUrl.induct library generalizing state with
  | case1 chain url hc =>
    rw [exec_resolveUrl, if_pos hc]
    exact ⟨accounts_nothing _ _, by simp, fun _ _ hm => hm⟩
  | case2 chain url hc ih =>
    rw [exec_resolveUrl, if_neg hc]
    cases hget : state.cache.get? url with
    | some document =>
      have hurl : url ∈ state.cache.urls := Cache.mem_urls_iff.2 ⟨document, hget⟩
      exact ⟨accounts_nothing _ _, fun _ _ => hurl, by simp⟩
    | none =>
      have hm : url ∉ state.cache.urls := Cache.get?_eq_none_iff.1 hget
      cases hl : library.lookup url with
      | none =>
        have hfetch : Spent chain state (state.fetch url) [url] := .fetch hc hm (.nothing _ _)
        exact ⟨⟨[url], hfetch, by simp, by simp⟩, by simp, fun _ _ _ => hm⟩
      | some text =>
        have hserved : url ∈ library.map Prod.fst := mem_urls_of_lookup hl
        dsimp only
        cases readDocument text url with
        | error e => exact accounts_of_fetch_error hc hm hserved (accounts_nothing _ _)
        | ok document =>
          have h := accounts_resolveDocument (fun other state => (ih text hl other state).1)
            document (some url) (state.fetch url)
          dsimp only
          rcases hr : exec (resolveDocument (resolveUrl library (chain ++ [url])) document
            (some url)) (state.fetch url) with ⟨e | resolved, after⟩
          · exact accounts_of_fetch_error hc hm hserved (hr ▸ h)
          · exact accounts_of_fetch_ok hc hm hserved (hr ▸ h)

end Requests

end Resolution

def Source.Holds (source : Source) : Prop := source.document.isSome ∨ source.text.isSome

instance (source : Source) : Decidable source.Holds := inferInstanceAs (Decidable (_ ∨ _))

namespace Resolution
open Request

/-- What resolving a source from a cache may fetch, and what the cache holds
afterwards. -/
structure Accounted (library : Library) (source : Source) (before : Cache)
    (outcome : Except ResolveError Json) (fetched : List String) (after : Cache) : Prop where
  nodup : fetched.Nodup
  missing : ∀ u ∈ fetched, u ∉ before.urls
  /-- What is fetched is served, up to the URL that a failure complains about. -/
  served : ∀ u ∈ fetched, u ∈ library.map Prod.fst ∨ outcome = .error (.fetchFailed u notFound)
  /-- The URL of a document that the source holds itself is not fetched. -/
  held : source.Holds → ∀ u, source.url = some u → u ∉ fetched
  kept : ∀ u ∈ before.urls, u ∈ after.urls
  covered : ∀ u ∈ after.urls, u ∈ before.urls ∨ u ∈ fetched ∨
    source.url = some u ∧ ∃ d, outcome = .ok d
  stored : ∀ d, outcome = .ok d → ∀ u, u ∈ fetched ∨ source.url = some u → u ∈ after.urls
  unstored : ∀ e, outcome = .error e → ∀ u, source.url = some u → u ∉ before.urls → u ∉ after.urls

section Sources

variable {library : Library} {source : Source} {cache : Cache}

theorem accounted_nothing (outcome : Except ResolveError Json)
    (h : ∀ d, outcome = .ok d → ∀ u, source.url = some u → u ∈ cache.urls) :
    Accounted library source cache outcome [] cache where
  nodup := .nil
  missing := by simp
  served := by simp
  held := by simp
  kept := fun _ hu => hu
  covered := fun _ hu => .inl hu
  stored := fun d hd u hu => h d hd u (hu.resolve_left (by simp))
  unstored := fun _ _ _ _ hm => hm

/-- A source holds a document or a text when there is one to read. -/
theorem holds_iff_of_sourceDocument {held : Option Json} (h : sourceDocument source = .ok held) :
    source.Holds ↔ held.isSome := by
  unfold sourceDocument at h
  unfold Source.Holds
  split at h
  · obtain rfl := Except.ok.inj h
    simp [*]
  · rename_i text hd ht
    rcases hr : readDocument text (source.url.getD inlineOrigin) with e | document
    · simp [hr] at h
    · obtain rfl : some document = held := by simpa [hr] using h
      simp [ht]
  · obtain rfl := Except.ok.inj h
    simp [*]

theorem fetched_storeSource (url : Option String) (d : Json) (state : State) :
    (storeSource url d state).fetched = state.fetched := by
  cases url <;> rfl

theorem mem_urls_storeSource {url : Option String} {d : Json} {state : State} {u : String} :
    u ∈ (storeSource url d state).cache.urls ↔ u ∈ state.cache.urls ∨ url = some u := by
  cases url with
  | none => simp [storeSource]
  | some url => simp [storeSource, Cache.mem_urls_insert, eq_comm]

/-- The document that a source holds is resolved with the source's URL in the chain. -/
theorem accounted_held_ok {d : Json} {after : State}
    (h : Accounts library source.url.toList { cache } (.ok d, after)) :
    Accounted library source cache (.ok d) (storeSource source.url d after).fetched
      (storeSource source.url d after).cache := by
  obtain ⟨new, hspent, hstored, hserved⟩ := h
  obtain rfl : after.fetched = new := hspent.fetched
  rw [fetched_storeSource]
  constructor
  · exact hspent.nodup
  · exact hspent.missing
  · exact hserved
  · exact fun _ u hurl hu => hspent.idle u hu (by simp [hurl])
  · exact fun u hu => mem_urls_storeSource.2 (.inl (hspent.kept u hu))
  · intro u hu
    rcases mem_urls_storeSource.1 hu with hu | hurl
    · exact (hspent.covered u hu).imp_right .inl
    · exact .inr (.inr ⟨hurl, d, rfl⟩)
  · exact fun _ _ u hu => mem_urls_storeSource.2 (hu.imp_left (hstored d rfl u))
  · simp

theorem accounted_held_error {e : ResolveError} {after : State}
    (h : Accounts library source.url.toList { cache }
      ((.error e : Except ResolveError Json), after)) :
    Accounted library source cache (.error e) after.fetched after.cache := by
  obtain ⟨new, hspent, -, hserved⟩ := h
  obtain rfl : after.fetched = new := hspent.fetched
  constructor
  · exact hspent.nodup
  · exact hspent.missing
  · exact fun u hu => by simpa using hserved u hu
  · exact fun _ u hurl hu => hspent.idle u hu (by simp [hurl])
  · exact hspent.kept
  · exact fun u hu => (hspent.covered u hu).imp_right .inl
  · simp
  · exact fun _ _ u hurl hm => hspent.unstored (by simp [hurl]) hm

/-- A source that is a URL alone is asked for, unless it is stored. -/
theorem accounted_url {url : String} {reply : Except ResolveError Json × State}
    (hurl : source.url = some url) (hheld : ¬ source.Holds)
    (h : Accounts library [] { cache } reply) (hs : StoresUrl url { cache } reply) :
    Accounted library source cache reply.1 reply.2.fetched reply.2.cache := by
  obtain ⟨new, hspent, hstored, hserved⟩ := h
  obtain rfl : reply.2.fetched = new := hspent.fetched
  constructor
  · exact hspent.nodup
  · exact hspent.missing
  · exact hserved
  · exact fun hs => absurd hs hheld
  · exact hspent.kept
  · exact fun u hu => (hspent.covered u hu).imp_right .inl
  · rintro d hok u (hu | hu)
    · exact hstored d hok u hu
    · obtain rfl := Option.some.inj (hurl.symm.trans hu)
      exact hs.1 d hok
  · intro e he u hu hm
    obtain rfl := Option.some.inj (hurl.symm.trans hu)
    exact hs.2 e he hm

theorem accounted_resolveFresh (library : Library) (source : Source) (cache : Cache) :
    Accounted library source cache (run (resolveFresh library source) cache).1
      (run (resolveFresh library source) cache).2.fetched
      (run (resolveFresh library source) cache).2.cache := by
  rw [run_eq_exec, exec_resolveFresh]
  cases hd : sourceDocument source with
  | error e => exact accounted_nothing _ (by simp)
  | ok held =>
    cases held with
    | some document =>
      have h := accounts_resolveDocument
        (fun url state => (accounts_resolveUrl library source.url.toList url state).1) document
        source.url { cache }
      dsimp only
      rcases hr : exec (resolveDocument (resolveUrl library source.url.toList) document source.url)
        { cache } with ⟨e | d, after⟩
      · exact accounted_held_error (hr ▸ h)
      · exact accounted_held_ok (hr ▸ h)
    | none =>
      have hheld : ¬ source.Holds := by simp [holds_iff_of_sourceDocument hd]
      cases hurl : source.url with
      | none => exact accounted_nothing _ (by simp)
      | some url =>
        obtain ⟨h, hs⟩ := accounts_resolveUrl library [] url { cache }
        exact accounted_url hurl hheld h hs

/-- One step on a source fetches no URL twice, and none that is stored or that it holds
the document of itself. A success stores what it fetched and the document itself, a
failure some of what it fetched and not the document. -/
theorem accounted_resolve (library : Library) (source : Source) (cache : Cache) :
    ∃ outcome, (Session.act library cache (.resolve source)).1.result = .resolved outcome ∧
      Accounted library source cache outcome
        (Session.act library cache (.resolve source)).1.fetched
        (Session.act library cache (.resolve source)).1.cache := by
  refine ⟨(run (resolve library source) cache).1, rfl, ?_⟩
  change Accounted library source cache (run (resolve library source) cache).1
    (run (resolve library source) cache).2.fetched (run (resolve library source) cache).2.cache
  rw [run_eq_exec, exec_resolve]
  cases hurl : source.url with
  | none => exact accounted_resolveFresh library source cache
  | some url =>
    dsimp only
    cases Json.readBase url with
    | error e => exact accounted_nothing _ (by simp)
    | ok base =>
      dsimp only
      cases hget : cache.get? url with
      | none => exact accounted_resolveFresh library source cache
      | some document =>
        refine accounted_nothing _ fun _ _ u hu => ?_
        obtain rfl := Option.some.inj (hurl.symm.trans hu)
        exact Cache.mem_urls_iff.2 ⟨document, hget⟩

end Sources

end Resolution
end Rulebook
