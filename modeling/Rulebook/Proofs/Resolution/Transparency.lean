import Rulebook.Proofs.Resolution.Request
import Rulebook.Proofs.Resolution.Uncached

/-! A cache that holds only what its documents resolve to is not seen by any
resolution, and every resolution leaves such a cache. -/

namespace Rulebook
namespace Resolution
open Request Outcome

/-- No document of a chain is stored. A document is stored only after it has
been resolved, when it is no longer in the chain. -/
def Unstored (chain : List String) (cache : Cache) : Prop :=
  ∀ url ∈ chain, cache.get? url = none

/-- Every stored document is what its URL resolves to, by way of any documents
that are not stored themselves. So nothing that a stored document refers to is
missing from the cache. -/
def Trusted (library : Library) (cache : Cache) : Prop :=
  ∀ url d, cache.get? url = some d →
    ∀ chain, Unstored chain cache → Uncached.resolveUrl library chain url = .ok d

theorem Unstored.append {chain : List String} {cache : Cache} {url : String}
    (h : Unstored chain cache) (hu : cache.get? url = none) : Unstored (chain ++ [url]) cache := by
  intro u hm
  rcases List.mem_append.1 hm with hm | hm
  · exact h u hm
  · rwa [List.mem_singleton.1 hm]

theorem Unstored.left {chain more : List String} {cache : Cache}
    (h : Unstored (chain ++ more) cache) : Unstored chain cache :=
  fun u hm => h u (List.mem_append_left _ hm)

theorem trusted_empty (library : Library) : Trusted library {} := by
  intro url d h
  simp at h

/-- What is served for a URL that is not stored does not matter. -/
theorem Trusted.of_agree {library other : Library} {cache : Cache} {url : String}
    (h : Trusted library cache) (hu : cache.get? url = none)
    (hagree : ∀ u, u ≠ url → library.lookup u = other.lookup u) : Trusted other cache := by
  intro v d hv chain hc
  -- With `url` in the chain the resolution still succeeds, so it never asks for `url`.
  have hsome : Uncached.resolveUrl library (chain ++ [url]) v = .ok d :=
    h v d hv _ (hc.append hu)
  have hrest : ∀ u, u ∉ chain ++ [url] → library.lookup u = other.lookup u :=
    fun u hm => hagree u fun he => hm (by simp [he])
  exact Uncached.resolveUrl_ok_of_agree (fun u hm => List.mem_append_left _ hm) hrest hsome

theorem Trusted.congr {library other : Library} {cache : Cache} (h : Trusted library cache)
    (hagree : ∀ u, library.lookup u = other.lookup u) : Trusted other cache := by
  intro v d hv chain hc
  exact Uncached.resolveUrl_ok_of_agree (fun _ hm => hm) (fun u _ => hagree u) (h v d hv chain hc)

/-- A request that gives what is expected, whatever trusted cache it starts
from, and leaves a trusted cache. What was stored before stays stored, and what
`kept` says of the result holds of the cache that is left. -/
def Follows {α : Type} (library : Library) (chain : List String) (request : Request α)
    (expected : Except ResolveError α) (kept : α → Cache → Prop) : Prop :=
  ∀ state, Trusted library state.cache → Unstored chain state.cache →
    ∃ after, exec request state = (expected, after) ∧ Trusted library after.cache ∧
      Unstored chain after.cache ∧
      (∀ url d, state.cache.get? url = some d → after.cache.get? url = some d) ∧
      ∀ a, expected = .ok a → kept a after.cache

def Stored (url : String) (d : Json) (cache : Cache) : Prop := cache.get? url = some d

def storedTarget (cache : Cache) (url : String) : Except ResolveError Json :=
  match cache.get? url with
  | some d => .ok d
  | none => .error (.fetchFailed url notFound)

theorem storedTarget_eq_ok {cache : Cache} {url : String} {d : Json} :
    storedTarget cache url = .ok d ↔ Stored url d cache := by
  unfold storedTarget Stored
  cases cache.get? url <;> simp

/-- Targets are stored when each of them is. -/
theorem follows_targets {library : Library} {chain : List String}
    {request : String → Request Json} {expected : String → Except ResolveError Json}
    (h : ∀ url, Follows library chain (request url) (expected url) (Stored url))
    (urls : List String) :
    Follows library chain (targets request urls) (Uncached.targets expected urls)
      fun found cache => ∀ entry ∈ found, Stored entry.1 entry.2 cache := by
  induction urls with
  | nil =>
    intro state ht hc
    refine ⟨state, rfl, ht, hc, fun _ _ hu => hu, ?_⟩
    intro found hf
    obtain rfl : [] = found := by simpa [Uncached.targets] using hf
    simp
  | cons url rest ih =>
    intro state ht hc
    obtain ⟨mid, hm, htm, hcm, hgm, hkm⟩ := h url state ht hc
    rw [exec_targets_cons, Uncached.targets_cons, hm]
    cases hu : expected url with
    | error e => exact ⟨mid, rfl, htm, hcm, hgm, by simp⟩
    | ok target =>
      obtain ⟨after, ha, hta, hca, hga, hka⟩ := ih mid htm hcm
      have hgrow : ∀ u d, state.cache.get? u = some d → after.cache.get? u = some d :=
        fun u d hd => hga u d (hgm u d hd)
      simp only [ha]
      cases hr : Uncached.targets expected rest with
      | error e => exact ⟨after, rfl, hta, hca, hgrow, by simp [Except.map]⟩
      | ok more =>
        refine ⟨after, rfl, hta, hca, hgrow, ?_⟩
        intro found hf
        obtain rfl : (url, target) :: more = found := by simpa [Except.map] using hf
        refine List.forall_mem_cons.2 ⟨hga _ _ (hkm target hu), hka more hr⟩

/-- A document resolves alike with and without a cache when what it refers to
does. Its targets are stored afterwards. -/
theorem follows_resolveDocument {library : Library} {chain : List String}
    {request : String → Request Json} {expected : String → Except ResolveError Json}
    (h : ∀ url, Follows library chain (request url) (expected url) (Stored url))
    (document : Json) (sourceUrl : Option String) :
    Follows library chain (resolveDocument request document sourceUrl)
      (Uncached.resolveDocument expected document sourceUrl)
      fun d cache =>
        Uncached.resolveDocument (storedTarget cache) document sourceUrl = .ok d := by
  intro state ht hc
  rw [exec_resolveDocument]
  cases hi : document.externalReferences sourceUrl with
  | error e =>
    have he : Uncached.resolveDocument expected document sourceUrl = .error e := by
      simp [Uncached.resolveDocument, hi, bind, Except.bind]
    exact ⟨state, by rw [he], ht, hc, fun _ _ hu => hu, by simp [he]⟩
  | ok items =>
    obtain ⟨after, ha, hta, hca, hga, hka⟩ := follows_targets h
      (distinctUrls (items.partition fun item => some item.url == sourceUrl).2) state ht hc
    simp only [Uncached.resolveDocument, hi, ha, bind, Except.bind]
    cases hf : Uncached.targets expected (distinctUrls (items.partition _).2) with
    | error e => exact ⟨after, rfl, hta, hca, hga, by simp⟩
    | ok found =>
      refine ⟨after, rfl, hta, hca, hga, fun d hd => ?_⟩
      have hs : Uncached.targets (storedTarget after.cache)
          (distinctUrls (items.partition fun item => some item.url == sourceUrl).2) = .ok found :=
        Uncached.targets_eq_ok.2 ⟨(Uncached.targets_eq_ok.1 hf).1,
          fun entry he => storedTarget_eq_ok.2 (hka found hf entry he)⟩
      exact bind_eq_ok.2 ⟨found, hs, hd⟩

/-- Storing what a document resolves to keeps a cache trusted, when all that
the document refers to is stored. -/
theorem Trusted.insert {library : Library} {cache : Cache} {url text : String}
    {document d : Json} (h : Trusted library cache) (hu : cache.get? url = none)
    (hl : library.lookup url = some text) (hr : readDocument text url = .ok document)
    (hd : Uncached.resolveDocument (storedTarget cache) document (some url) = .ok d) :
    Trusted library (cache.insert url d) := by
  intro v dv hv chain hc
  have hold : Unstored chain cache := by
    intro u hm
    cases hcu : cache.get? u with
    | none => rfl
    | some du =>
      have hst := Cache.get?_insert_of_some hcu url d
      rw [hc u hm] at hst
      simp at hst
  by_cases hvu : v = url
  · subst hvu
    obtain rfl : d = dv := by simpa [Cache.get?_insert_self hu] using hv
    have hvc : v ∉ chain := by
      intro hm
      have hn := hc v hm
      simp [Cache.get?_insert_self hu] at hn
    refine Uncached.resolveUrl_eq_ok.2 ⟨hvc, text, document, hl, hr, ?_⟩
    refine Uncached.resolveDocument_ok_mono (fun other target ho => ?_) hd
    exact h other target (storedTarget_eq_ok.1 ho) _ (hold.append hu)
  · rw [Cache.get?_insert_of_ne hvu] at hv
    exact h v dv hv chain hold

/-- A URL resolves alike with and without a trusted cache, and is stored
afterwards. -/
theorem follows_resolveUrl (library : Library) (chain : List String) (url : String) :
    Follows library chain (resolveUrl library chain url) (Uncached.resolveUrl library chain url)
      (Stored url) := by
  induction chain, url using resolveUrl.induct library with
  | case1 chain url hin =>
    intro state ht hc
    rw [exec_resolveUrl, Uncached.resolveUrl_eq]
    simp only [hin, ↓reduceIte]
    exact ⟨state, rfl, ht, hc, fun _ _ hu => hu, by simp⟩
  | case2 chain url hin ih =>
    intro state ht hc
    rw [exec_resolveUrl]
    simp only [hin, ↓reduceIte]
    cases hs : state.cache.get? url with
    | some d =>
      have hd := ht url d hs chain hc
      refine ⟨state, by rw [hd], ht, hc, fun _ _ hu => hu, ?_⟩
      intro a ha
      obtain rfl : d = a := by simpa [hd] using ha
      exact hs
    | none =>
      rw [Uncached.resolveUrl_eq]
      simp only [hin, ↓reduceIte]
      have ht' : Trusted library (state.fetch url).cache := ht
      have hc' : Unstored chain (state.fetch url).cache := hc
      cases hl : library.lookup url with
      | none => exact ⟨_, rfl, ht', hc', fun _ _ hu => hu, by simp⟩
      | some text =>
        simp only
        cases hr : readDocument text url with
        | error e => exact ⟨_, rfl, ht', hc', fun _ _ hu => hu, by simp [bind, Except.bind]⟩
        | ok document =>
          obtain ⟨after, ha, hta, hca, hga, hka⟩ :=
            follows_resolveDocument (ih text hl) document (some url) (state.fetch url) ht'
              (hc'.append hs)
          simp only [ha, bind, Except.bind]
          cases hd : Uncached.resolveDocument (Uncached.resolveUrl library (chain ++ [url]))
              document (some url) with
          | error e => exact ⟨after, rfl, hta, hca.left, hga, by simp⟩
          | ok d =>
            have hu : after.cache.get? url = none := hca url (by simp)
            refine ⟨after.store url d, rfl, hta.insert hu hl hr (hka d hd), ?_, ?_, ?_⟩
            · intro u hm
              have hne : u ≠ url := fun he => hin (he ▸ hm)
              rw [State.store_cache, Cache.get?_insert_of_ne hne]
              exact hca.left u hm
            · intro u du hdu
              exact Cache.get?_insert_of_some (hga u du hdu) url d
            · intro a had
              obtain rfl : d = a := by simpa using had
              exact Cache.get?_insert_self hu d

end Resolution

/-- A source that is a URL alone, or has none: it stores no document of its own. -/
def Source.Separate (source : Source) : Prop :=
  source.url = none ∨ source.document = none ∧ source.text = none

namespace Resolution
open Request

/-- A source resolves alike with and without a trusted cache. -/
theorem follows_resolve (library : Library) {source : Source} (hs : source.Separate) :
    Follows library [] (resolve library source) (Uncached.resolve library source)
      fun _ _ => True := by
  intro state ht hc
  rw [exec_resolve, Uncached.resolve]
  rcases hs with hu | ⟨hd, htext⟩
  · simp only [hu, exec_resolveFresh, Uncached.resolveFresh, Option.toList]
    cases sourceDocument source with
    | error e => exact ⟨state, rfl, ht, hc, fun _ _ h => h, by simp⟩
    | ok document =>
      cases document with
      | none => exact ⟨state, rfl, ht, hc, fun _ _ h => h, by simp⟩
      | some document =>
        obtain ⟨after, ha, hta, hca, hga, -⟩ :=
          follows_resolveDocument (follows_resolveUrl library []) document none state ht hc
        simp only [ha, bind, Except.bind]
        cases Uncached.resolveDocument (Uncached.resolveUrl library []) document none with
        | error e => exact ⟨after, rfl, hta, hca, hga, by simp⟩
        | ok d => exact ⟨after, rfl, hta, hca, hga, by simp⟩
  · have hnone : sourceDocument source = .ok none := by simp [sourceDocument, hd, htext]
    cases hu : source.url with
    | none =>
      simp only [exec_resolveFresh, Uncached.resolveFresh, hnone, hu]
      exact ⟨state, rfl, ht, hc, fun _ _ h => h, by simp⟩
    | some url =>
      simp only [exec_resolveFresh, Uncached.resolveFresh, hnone, hu]
      cases Json.readBase url with
      | error e => exact ⟨state, rfl, ht, hc, fun _ _ h => h, by simp⟩
      | ok base =>
        obtain ⟨after, ha, hta, hca, hga, hka⟩ := follows_resolveUrl library [] url state ht hc
        simp only [bind, Except.bind]
        cases hg : state.cache.get? url with
        | none => exact ⟨after, ha, hta, hca, hga, by simp⟩
        | some d =>
          have hr := ht url d hg [] hc
          exact ⟨state, by simp [hr], ht, hc, fun _ _ h => h, by simp⟩

/-- Two trusted caches give the same result. -/
theorem run_resolve_of_trusted {library : Library} {source : Source} (hs : source.Separate)
    {cache : Cache} (ht : Trusted library cache) :
    (run (resolve library source) cache).1 = (run (resolve library source) {}).1 ∧
      Trusted library (run (resolve library source) cache).2.cache := by
  obtain ⟨after, ha, hta, -⟩ := follows_resolve library hs { cache } ht (by simp [Unstored])
  obtain ⟨fresh, hf, -⟩ := follows_resolve library hs {} (trusted_empty library)
    (by simp [Unstored])
  rw [run_eq_exec, run_eq_exec, ha, hf]
  exact ⟨rfl, hta⟩

/-- With an empty cache every source resolves as it does without a cache. -/
theorem run_resolve_empty (library : Library) (source : Source) :
    (run (resolve library source) {}).1 = Uncached.resolve library source := by
  have ht := trusted_empty library
  have hfresh : (exec (resolveFresh library source) {}).1 =
      Uncached.resolveFresh library source := by
    rw [exec_resolveFresh, Uncached.resolveFresh]
    cases sourceDocument source with
    | error e => rfl
    | ok document =>
      cases document with
      | none =>
        cases source.url with
        | none => rfl
        | some url =>
          obtain ⟨after, ha, -⟩ := follows_resolveUrl library [] url {} ht (by simp [Unstored])
          simp only [ha, bind, Except.bind]
      | some document =>
        obtain ⟨after, ha, -⟩ := follows_resolveDocument
          (follows_resolveUrl library source.url.toList) document source.url {} ht fun _ _ => rfl
        simp only [ha, bind, Except.bind]
        cases Uncached.resolveDocument (Uncached.resolveUrl library source.url.toList) document
          source.url <;> rfl
  rw [run_eq_exec, exec_resolve, Uncached.resolve]
  cases source.url with
  | none => exact hfresh
  | some url =>
    simp only
    cases Json.readBase url with
    | error e => rfl
    | ok base => exact hfresh

end Resolution
end Rulebook
