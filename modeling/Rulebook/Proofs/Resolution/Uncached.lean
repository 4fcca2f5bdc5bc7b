import Rulebook.Proofs.Outcome
import Rulebook.Resolution.Session

/-! Resolution without a cache, as a function of what is served alone. A
success depends neither on the documents that led to a URL nor on what is
served for those documents. -/

namespace Rulebook
namespace Resolution
namespace Uncached
open Outcome

def targets (resolveUrl : String → Except ResolveError Json) (urls : List String) :
    Except ResolveError (List (String × Json)) :=
  urls.mapM fun url => do return (url, ← resolveUrl url)

def resolveDocument (resolveUrl : String → Except ResolveError Json) (document : Json)
    (sourceUrl : Option String) : Except ResolveError Json := do
  let items ← document.externalReferences sourceUrl
  let (own, others) := items.partition fun item => some item.url == sourceUrl
  let found ← targets resolveUrl (distinctUrls others)
  assemble (own.foldl makeInternal document) others found

def resolveUrl (library : Library) (chain : List String) (url : String) :
    Except ResolveError Json :=
  if _hc : url ∈ chain then .error (.circular url)
  else
    match _hl : library.lookup url with
    | none => .error (.fetchFailed url notFound)
    | some text => do
      let document ← readDocument text url
      resolveDocument (fun other => resolveUrl library (chain ++ [url]) other) document (some url)
termination_by (idle library chain).length
decreasing_by exact length_idle_lt _hc _hl

def resolveFresh (library : Library) (source : Source) : Except ResolveError Json := do
  match ← sourceDocument source, source.url with
  | some document, url => resolveDocument (resolveUrl library url.toList) document url
  | none, some url => resolveUrl library [] url
  | none, none => throw .missingSource

def resolve (library : Library) (source : Source) : Except ResolveError Json :=
  match source.url with
  | none => resolveFresh library source
  | some url => do
    let _ ← Json.readBase url
    resolveFresh library source

theorem targets_cons (f : String → Except ResolveError Json) (url : String)
    (rest : List String) :
    targets f (url :: rest) =
      match f url with
      | .ok target => (targets f rest).map fun more => (url, target) :: more
      | .error e => .error e := by
  simp only [targets, List.mapM_cons]
  cases f url with
  | error e => rfl
  | ok target => cases rest.mapM fun url => (do return (url, ← f url) : Except _ _) <;> rfl

/-- The targets of a list of URLs are found when each of them is. -/
theorem targets_eq_ok {f : String → Except ResolveError Json} {urls : List String}
    {found : List (String × Json)} :
    targets f urls = .ok found ↔
      found.map Prod.fst = urls ∧ ∀ entry ∈ found, f entry.1 = .ok entry.2 := by
  induction urls generalizing found with
  | nil =>
    simp only [targets, List.mapM_nil, pure_eq_ok, List.map_eq_nil_iff]
    constructor
    · rintro rfl
      exact ⟨rfl, by simp⟩
    · exact fun h => h.1.symm
  | cons url rest ih =>
    constructor
    · intro h
      cases hu : f url with
      | error e => simp [targets_cons, hu] at h
      | ok target =>
        simp only [targets_cons, hu] at h
        obtain ⟨more, hm, rfl⟩ := map_eq_ok.1 h
        obtain ⟨hk, hv⟩ := ih.1 hm
        exact ⟨by simp [hk], List.forall_mem_cons.2 ⟨hu, hv⟩⟩
    · rintro ⟨hk, hv⟩
      obtain ⟨⟨_, target⟩, more, rfl, rfl, hmore⟩ := List.map_eq_cons_iff.1 hk
      obtain ⟨hu, hv⟩ := List.forall_mem_cons.1 hv
      simp only [targets_cons, hu, ih.2 ⟨hmore, hv⟩]
      rfl

/-- A document resolves to the same value when everything that it refers to
does. -/
theorem resolveDocument_ok_mono {f g : String → Except ResolveError Json} {document d : Json}
    {sourceUrl : Option String} (hfg : ∀ url target, f url = .ok target → g url = .ok target)
    (h : resolveDocument f document sourceUrl = .ok d) :
    resolveDocument g document sourceUrl = .ok d := by
  obtain ⟨items, hi, h⟩ := bind_eq_ok.1 h
  obtain ⟨found, ht, h⟩ := bind_eq_ok.1 h
  obtain ⟨hk, hv⟩ := targets_eq_ok.1 ht
  have hg := targets_eq_ok.2 ⟨hk, fun entry he => hfg _ _ (hv entry he)⟩
  exact bind_eq_ok.2 ⟨items, hi, bind_eq_ok.2 ⟨found, hg, h⟩⟩

theorem resolveUrl_eq (library : Library) (chain : List String) (url : String) :
    resolveUrl library chain url =
      if url ∈ chain then .error (.circular url)
      else
        match library.lookup url with
        | none => .error (.fetchFailed url notFound)
        | some text =>
          readDocument text url >>= fun document =>
            resolveDocument (resolveUrl library (chain ++ [url])) document (some url) := by
  rw [resolveUrl]
  by_cases hc : url ∈ chain
  · simp [hc]
  · simp only [hc, ↓reduceDIte, ↓reduceIte]
    split
    · rename_i hl
      simp [hl]
    · rename_i text hl
      simp [hl]

theorem resolveUrl_eq_ok {library : Library} {chain : List String} {url : String} {d : Json} :
    resolveUrl library chain url = .ok d ↔
      url ∉ chain ∧ ∃ text document, library.lookup url = some text ∧
        readDocument text url = .ok document ∧
        resolveDocument (resolveUrl library (chain ++ [url])) document (some url) = .ok d := by
  rw [resolveUrl_eq]
  by_cases hc : url ∈ chain
  · simp [hc]
  · cases hl : library.lookup url <;> simp [hc, bind_eq_ok]

/-- A success stays one when the chain becomes shorter, whatever is served for
the documents in the chain: none of them was asked for. -/
theorem resolveUrl_ok_of_agree {library other : Library} {chain shorter : List String}
    {url : String} {d : Json} (hsub : ∀ u ∈ shorter, u ∈ chain)
    (hagree : ∀ u, u ∉ chain → library.lookup u = other.lookup u)
    (h : resolveUrl library chain url = .ok d) : resolveUrl other shorter url = .ok d := by
  -- The recursion is that of the resolution, which asks only for URLs outside the chain.
  induction chain, url using Resolution.resolveUrl.induct library generalizing shorter d with
  | case1 chain url hc => exact absurd hc (resolveUrl_eq_ok.1 h).1
  | case2 chain url hc ih =>
    obtain ⟨-, text, document, hl, hr, hd⟩ := resolveUrl_eq_ok.1 h
    have hsub' : ∀ u ∈ shorter ++ [url], u ∈ chain ++ [url] := by
      intro u hu
      rcases List.mem_append.1 hu with hu | hu
      · exact List.mem_append_left _ (hsub u hu)
      · exact List.mem_append_right _ hu
    have hagree' : ∀ u, u ∉ chain ++ [url] → library.lookup u = other.lookup u :=
      fun u hu => hagree u fun hm => hu (List.mem_append_left _ hm)
    refine resolveUrl_eq_ok.2 ⟨fun hm => hc (hsub url hm), text, document, ?_, hr, ?_⟩
    · rw [← hagree url hc, hl]
    · exact resolveDocument_ok_mono (fun u t hu => ih text hl u hsub' hagree' hu) hd

end Uncached
end Resolution
end Rulebook
