import Rulebook.Proofs.Resolution.Accounting

/-! What is stored stays. No request replaces a stored document, and what a URL
resolves to is what is stored for it afterwards, whatever was resolved and stored on
the way. -/

namespace Rulebook

def Cache.Extends (after before : Cache) : Prop :=
  ∀ url d, before.get? url = some d → after.get? url = some d

namespace Cache.Extends

theorem refl (cache : Cache) : cache.Extends cache := fun _ _ h => h

theorem trans {first second third : Cache} (h : second.Extends first) (h' : third.Extends second) :
    third.Extends first := fun url d hd => h' url d (h url d hd)

theorem insert (cache : Cache) (url : String) (d : Json) : (cache.insert url d).Extends cache :=
  fun _ _ h => get?_insert_of_some h url d

end Cache.Extends

namespace Resolution
open Request

variable {library : Library} {request : String → Request Json}

theorem extends_targets
    (h : ∀ url state, (exec (request url) state).2.cache.Extends state.cache)
    (urls : List String) (state : State) :
    (exec (targets request urls) state).2.cache.Extends state.cache := by
  induction urls generalizing state with
  | nil => exact .refl _
  | cons url rest ih =>
    have hfirst := h url state
    rw [exec_targets_cons]
    rcases hr : exec (request url) state with ⟨_ | target, middle⟩
    · rw [hr] at hfirst
      exact hfirst
    · rw [hr] at hfirst
      have hrest := ih middle
      dsimp only
      rcases hr' : exec (targets request rest) middle with ⟨_ | others, last⟩
      · rw [hr'] at hrest
        exact hfirst.trans hrest
      · rw [hr'] at hrest
        exact hfirst.trans hrest

theorem extends_resolveDocument
    (h : ∀ url state, (exec (request url) state).2.cache.Extends state.cache) (document : Json)
    (sourceUrl : Option String) (state : State) :
    (exec (resolveDocument request document sourceUrl) state).2.cache.Extends state.cache := by
  rw [exec_resolveDocument]
  cases document.externalReferences sourceUrl with
  | error e => exact .refl _
  | ok items =>
    dsimp only
    generalize distinctUrls (items.partition fun item => some item.url == sourceUrl).2 = urls
    have htargets := extends_targets h urls state
    rcases hr : exec (targets request urls) state with ⟨_ | found, after⟩
    · rw [hr] at htargets
      exact htargets
    · rw [hr] at htargets
      exact htargets

theorem extends_resolveUrl (library : Library) (chain : List String) (url : String)
    (state : State) :
    (exec (resolveUrl library chain url) state).2.cache.Extends state.cache := by
  -- The recursion is that of the resolution, as the documents that it asks for are.
  induction chain, url using Resolution.resolveUrl.induct library generalizing state with
  | case1 chain url hc =>
    rw [exec_resolveUrl, if_pos hc]
    exact .refl _
  | case2 chain url hc ih =>
    rw [exec_resolveUrl, if_neg hc]
    cases state.cache.get? url with
    | some document => exact .refl _
    | none =>
      cases hl : library.lookup url with
      | none => exact .refl _
      | some text =>
        dsimp only
        cases readDocument text url with
        | error e => exact .refl _
        | ok document =>
          have h := extends_resolveDocument (fun other state => ih text hl other state)
            document (some url) (state.fetch url)
          dsimp only
          rcases hr : exec (resolveDocument (resolveUrl library (chain ++ [url])) document
            (some url)) (state.fetch url) with ⟨_ | resolved, after⟩
          · rw [hr] at h
            exact h
          · rw [hr] at h
            exact h.trans (.insert after.cache url resolved)

theorem extends_storeSource (url : Option String) (d : Json) (state : State) :
    (storeSource url d state).cache.Extends state.cache := by
  cases url with
  | none => exact .refl _
  | some url => exact .insert state.cache url d

theorem extends_resolveFresh (library : Library) (source : Source) (state : State) :
    (exec (resolveFresh library source) state).2.cache.Extends state.cache := by
  rw [exec_resolveFresh]
  cases sourceDocument source with
  | error e => exact .refl _
  | ok held =>
    cases held with
    | none =>
      cases source.url with
      | none => exact .refl _
      | some url => exact extends_resolveUrl library [] url state
    | some document =>
      have h := extends_resolveDocument (extends_resolveUrl library source.url.toList) document
        source.url state
      dsimp only
      rcases hr : exec (resolveDocument (resolveUrl library source.url.toList) document source.url)
        state with ⟨_ | resolved, after⟩
      · rw [hr] at h
        exact h
      · rw [hr] at h
        exact h.trans (extends_storeSource source.url resolved after)

/-- Whatever a source resolves to, or fails with, what was stored before still is. -/
theorem extends_resolve (library : Library) (source : Source) (state : State) :
    (exec (resolve library source) state).2.cache.Extends state.cache := by
  rw [exec_resolve]
  cases source.url with
  | none => exact extends_resolveFresh library source state
  | some url =>
    dsimp only
    cases Json.readBase url with
    | error e => exact .refl _
    | ok base =>
      cases state.cache.get? url with
      | some document => exact .refl _
      | none => exact extends_resolveFresh library source state

section Stored

variable {chain : List String} {url : String} {document d : Json} {state after : State}

/-- The documents of a chain are not stored while another document is resolved. -/
theorem get?_of_resolveDocument_chain (library : Library) (document : Json) (hu : url ∈ chain)
    (hm : state.cache.get? url = none) (sourceUrl : Option String) :
    (exec (resolveDocument (resolveUrl library chain) document sourceUrl) state).2.cache.get? url =
      none := by
  obtain ⟨new, hspent, -⟩ := accounts_resolveDocument
    (fun other state => (accounts_resolveUrl library chain other state).1) document sourceUrl state
  have hmissing : url ∉ state.cache.urls := Cache.get?_eq_none_iff.1 hm
  exact Cache.get?_eq_none_iff.2 (hspent.unstored hu hmissing)

/-- A document that was resolved with its URL in the chain can be stored. -/
theorem get?_store_of_resolveDocument (hu : url ∈ chain) (hm : state.cache.get? url = none)
    {sourceUrl : Option String}
    (h : exec (resolveDocument (resolveUrl library chain) document sourceUrl) state =
      (.ok d, after)) : (after.store url d).cache.get? url = some d := by
  have hnone := get?_of_resolveDocument_chain library document hu hm sourceUrl
  rw [h] at hnone
  exact Cache.get?_insert_self hnone d

/-- What a URL resolves to is stored for it. -/
theorem get?_of_resolveUrl (h : exec (resolveUrl library chain url) state = (.ok d, after)) :
    after.cache.get? url = some d := by
  rw [exec_resolveUrl] at h
  split at h
  · simp at h
  · split at h
    · rename_i document hd
      obtain ⟨hok, rfl⟩ := Prod.mk.inj h
      rw [hd, Except.ok.inj hok]
    · rename_i hnone
      split at h
      · simp at h
      · split at h
        · simp at h
        · split at h
          · rename_i resolved last hr
            obtain ⟨hok, rfl⟩ := Prod.mk.inj h
            obtain rfl := Except.ok.inj hok
            have hmissing : (state.fetch url).cache.get? url = none := hnone
            exact get?_store_of_resolveDocument (by simp) hmissing hr
          · simp at h

/-- What a source with a URL resolves to is stored for the URL. -/
theorem get?_of_resolve {source : Source} (hurl : source.url = some url)
    (h : exec (resolve library source) state = (.ok d, after)) :
    after.cache.get? url = some d ∧ ∃ base, Json.readBase url = .ok base := by
  rw [exec_resolve, hurl] at h
  dsimp only at h
  cases hb : Json.readBase url with
  | error e => simp [hb] at h
  | ok base =>
    refine ⟨?_, base, rfl⟩
    simp only [hb] at h
    cases hd : state.cache.get? url with
    | some document =>
      simp only [hd] at h
      obtain ⟨hok, rfl⟩ := Prod.mk.inj h
      rw [hd, Except.ok.inj hok]
    | none =>
      simp only [hd, exec_resolveFresh] at h
      cases hs : sourceDocument source with
      | error e => simp [hs] at h
      | ok held =>
        cases held with
        | none =>
          simp only [hs, hurl] at h
          exact get?_of_resolveUrl h
        | some document =>
          simp only [hs, hurl] at h
          split at h
          · rename_i resolved last hr
            obtain ⟨hok, rfl⟩ := Prod.mk.inj h
            obtain rfl := Except.ok.inj hok
            exact get?_store_of_resolveDocument (by simp) hd hr
          · simp at h

/-- A source whose URL is stored resolves to what is stored for it, whatever else it
holds and whatever is served. -/
theorem exec_resolve_of_stored {source : Source} {base : Url} (hurl : source.url = some url)
    (hb : Json.readBase url = .ok base) (hd : state.cache.get? url = some d) :
    exec (resolve library source) state = (.ok d, state) := by
  rw [exec_resolve, hurl]
  simp only [hb, hd]

end Stored

end Resolution
end Rulebook
