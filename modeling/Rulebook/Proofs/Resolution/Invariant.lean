import Rulebook.Proofs.Reference.External
import Rulebook.Proofs.Resolution.Request

/-! What holds of every document that is resolved or stored. It is shown once
for a document whose targets have been resolved, and then holds for every
resolution and for every cache that is left. -/

namespace Rulebook
namespace Resolution
open Request Outcome

def Holds (P : Json → Prop) (cache : Cache) : Prop := ∀ url d, cache.get? url = some d → P d

theorem holds_empty (P : Json → Prop) : Holds P {} := by
  intro url d h
  simp at h

theorem Holds.insert {P : Json → Prop} {cache : Cache} (h : Holds P cache) (url : String)
    {d : Json} (hd : P d) : Holds P (cache.insert url d) := by
  intro u du hu
  by_cases hue : u = url
  · subst hue
    cases hc : cache.get? u with
    | some dc =>
      rw [Cache.get?_insert_of_some hc] at hu
      exact h u du (hc.trans hu)
    | none =>
      rw [Cache.get?_insert_self hc] at hu
      exact Option.some.inj hu ▸ hd
  · rw [Cache.get?_insert_of_ne hue] at hu
    exact h u du hu

def ownReferences (sourceUrl : Option String) (items : List ExternalReference) :
    List ExternalReference :=
  (items.partition fun item => some item.url == sourceUrl).1

def otherReferences (sourceUrl : Option String) (items : List ExternalReference) :
    List ExternalReference :=
  (items.partition fun item => some item.url == sourceUrl).2

theorem mem_ownReferences {sourceUrl : Option String} {items : List ExternalReference}
    {item : ExternalReference} :
    item ∈ ownReferences sourceUrl items ↔ item ∈ items ∧ some item.url = sourceUrl := by
  simp [ownReferences, List.partition_eq_filter_filter]

theorem mem_otherReferences {sourceUrl : Option String} {items : List ExternalReference}
    {item : ExternalReference} :
    item ∈ otherReferences sourceUrl items ↔ item ∈ items ∧ some item.url ≠ sourceUrl := by
  simp [otherReferences, List.partition_eq_filter_filter]

theorem ownReferences_sublist (sourceUrl : Option String) (items : List ExternalReference) :
    (ownReferences sourceUrl items).Sublist items := by
  rw [ownReferences, List.partition_eq_filter_filter]
  exact List.filter_sublist

theorem otherReferences_sublist (sourceUrl : Option String) (items : List ExternalReference) :
    (otherReferences sourceUrl items).Sublist items := by
  rw [otherReferences, List.partition_eq_filter_filter]
  exact List.filter_sublist

theorem ownReferences_perm (sourceUrl : Option String) {items found : List ExternalReference}
    (h : found.Perm items) :
    (ownReferences sourceUrl found).Perm (ownReferences sourceUrl items) := by
  simp only [ownReferences, List.partition_eq_filter_filter]
  exact h.filter _

theorem otherReferences_perm (sourceUrl : Option String) {items found : List ExternalReference}
    (h : found.Perm items) :
    (otherReferences sourceUrl found).Perm (otherReferences sourceUrl items) := by
  simp only [otherReferences, List.partition_eq_filter_filter]
  exact h.filter _

/-- From a document of the kind `Input`, whose targets are of the kind `P`,
comes a document of the kind `P` or a failure of the kind `E`. -/
structure Preserves (Input P : Json → Prop) (E : ResolveError → Prop) : Prop where
  listed : ∀ {document : Json} {sourceUrl : Option String} {e : ResolveError},
    document.externalReferences sourceUrl = .error e → E e
  assembled : ∀ {document : Json} {sourceUrl : Option String} {items : List ExternalReference}
    {found : List (String × Json)}, Input document →
    document.externalReferences sourceUrl = .ok items →
    found.map Prod.fst = distinctUrls (otherReferences sourceUrl items) →
    (∀ entry ∈ found, P entry.2) →
    Yields E P (assemble ((ownReferences sourceUrl items).foldl makeInternal document)
      (otherReferences sourceUrl items) found)
  failed : ∀ {e : ResolveError}, (∀ reference, e ≠ .externalReference reference) → E e

def Keeps {α : Type} (P : Json → Prop) (E : ResolveError → Prop) (R : α → Prop)
    (request : Request α) : Prop :=
  ∀ state, Holds P state.cache →
    Holds P (exec request state).2.cache ∧ Yields E R (exec request state).1

variable {Input P : Json → Prop} {E : ResolveError → Prop} {library : Library}

theorem keeps_targets {request : String → Request Json} (h : ∀ url, Keeps P E P (request url))
    (urls : List String) :
    Keeps P E (fun found : List (String × Json) =>
      found.map Prod.fst = urls ∧ ∀ entry ∈ found, P entry.2) (targets request urls) := by
  induction urls with
  | nil => exact fun state hs => ⟨hs, yields_ok ⟨rfl, by simp⟩⟩
  | cons url rest ih =>
    intro state hs
    rw [exec_targets_cons]
    obtain ⟨hmid, hyield⟩ := h url state hs
    generalize exec (request url) state = first at hmid hyield ⊢
    rcases first with ⟨_ | target, mid⟩
    · exact ⟨hmid, yields_error (hyield.error _ rfl)⟩
    · obtain ⟨hafter, hrest⟩ := ih mid hmid
      simp only
      generalize exec (targets request rest) mid = others at hafter hrest ⊢
      rcases others with ⟨_ | more, after⟩
      · exact ⟨hafter, yields_error (hrest.error _ rfl)⟩
      · obtain ⟨hk, hv⟩ := hrest.ok _ rfl
        refine ⟨hafter, yields_ok ⟨by simp [hk], ?_⟩⟩
        exact List.forall_mem_cons.2 ⟨hyield.ok _ rfl, hv⟩

theorem Preserves.resolveDocument (hp : Preserves Input P E) {request : String → Request Json}
    (h : ∀ url, Keeps P E P (request url)) {document : Json} (hd : Input document)
    (sourceUrl : Option String) :
    Keeps P E P (resolveDocument request document sourceUrl) := by
  intro state hs
  rw [exec_resolveDocument]
  cases hi : document.externalReferences sourceUrl with
  | error e => exact ⟨hs, yields_error (hp.listed hi)⟩
  | ok items =>
    obtain ⟨hafter, hyield⟩ := keeps_targets h (distinctUrls (otherReferences sourceUrl items))
      state hs
    have hassemble := fun found => @Preserves.assembled _ _ _ hp _ _ items found hd hi
    simp only [otherReferences, ownReferences] at hafter hyield hassemble ⊢
    generalize exec (targets request _) state = ran at hafter hyield ⊢
    rcases ran with ⟨_ | found, after⟩
    · exact ⟨hafter, yields_error (hyield.error _ rfl)⟩
    · obtain ⟨hk, hv⟩ := hyield.ok _ rfl
      exact ⟨hafter, hassemble found hk hv⟩

def Serves (Input : Json → Prop) (library : Library) : Prop :=
  ∀ url text document, library.lookup url = some text → Json.read text = .ok document →
    Input document

theorem readDocument_eq_ok {text origin : String} {document : Json} :
    readDocument text origin = .ok document ↔ Json.read text = .ok document :=
  mapError_eq_ok

theorem serves_single {Input : Json → Prop} {url text : String} {document : Json}
    (hr : Json.read text = .ok document) (hd : Input document) : Serves Input [(url, text)] := by
  intro u other served hl hserved
  obtain rfl : other = text := by
    by_cases hu : u = url
    · simpa [List.lookup_cons, hu] using hl.symm
    · simp [List.lookup_cons, beq_eq_false_iff_ne.2 hu] at hl
  obtain rfl : document = served := Except.ok.inj (hr.symm.trans hserved)
  exact hd

theorem direct_of_readDocument {text origin : String} {e : ResolveError}
    (h : readDocument text origin = .error e) : e.Direct := by
  obtain ⟨fault, -, rfl⟩ := mapError_eq_error.1 h
  exact ⟨by simp, by simp⟩

theorem Preserves.resolveUrl (hp : Preserves Input P E) (hl : Serves Input library)
    (chain : List String) (url : String) : Keeps P E P (resolveUrl library chain url) := by
  induction chain, url using resolveUrl.induct library with
  | case1 chain url hin =>
    intro state hs
    rw [exec_resolveUrl]
    simp only [hin, ↓reduceIte]
    exact ⟨hs, yields_error (hp.failed (by simp))⟩
  | case2 chain url hin ih =>
    intro state hs
    rw [exec_resolveUrl]
    simp only [hin, ↓reduceIte]
    cases hc : state.cache.get? url with
    | some d => exact ⟨hs, yields_ok (hs url d hc)⟩
    | none =>
      simp only
      cases hlook : library.lookup url with
      | none => exact ⟨hs, yields_error (hp.failed (by simp))⟩
      | some text =>
        simp only
        cases hr : readDocument text url with
        | error e =>
          exact ⟨hs, yields_error (hp.failed (direct_of_readDocument hr).external)⟩
        | ok document =>
          simp only
          have hd : Input document := hl url text document hlook (readDocument_eq_ok.1 hr)
          obtain ⟨hafter, hyield⟩ := hp.resolveDocument (ih text hlook) hd (some url)
            (state.fetch url) hs
          generalize exec (Resolution.resolveDocument _ document (some url)) (state.fetch url) =
            ran at hafter hyield ⊢
          rcases ran with ⟨_ | d, after⟩
          · exact ⟨hafter, yields_error (hyield.error _ rfl)⟩
          · exact ⟨hafter.insert url (hyield.ok _ rfl), yields_ok (hyield.ok _ rfl)⟩

end Resolution

def Source.Supplies (Input : Json → Prop) (source : Source) : Prop :=
  ∀ document, Resolution.sourceDocument source = .ok (some document) → Input document

theorem Source.supplies_document {Input : Json → Prop} {document : Json} (h : Input document)
    (url : Option String) : Source.Supplies Input { document := some document, url } := by
  intro d hd
  obtain rfl : document = d := by simpa [Resolution.sourceDocument] using hd
  exact h

namespace Resolution
open Request Outcome

variable {Input P : Json → Prop} {E : ResolveError → Prop} {library : Library}

theorem direct_of_sourceDocument {source : Source} {e : ResolveError}
    (h : sourceDocument source = .error e) : e.Direct := by
  unfold sourceDocument at h
  split at h
  · simp at h
  · rename_i text _ _
    cases hr : readDocument text (source.url.getD inlineOrigin) with
    | ok d => simp [hr] at h
    | error fault =>
      obtain rfl : fault = e := by simpa [hr] using h
      exact direct_of_readDocument hr
  · simp at h

theorem Preserves.resolveFresh (hp : Preserves Input P E) (hl : Serves Input library)
    {source : Source} (hsrc : source.Supplies Input) :
    Keeps P E P (resolveFresh library source) := by
  intro state hs
  rw [exec_resolveFresh]
  cases hd : sourceDocument source with
  | error e => exact ⟨hs, yields_error (hp.failed (direct_of_sourceDocument hd).external)⟩
  | ok document =>
    cases document with
    | some document =>
      obtain ⟨hafter, hyield⟩ := hp.resolveDocument (hp.resolveUrl hl source.url.toList)
        (hsrc document hd) source.url state hs
      simp only
      generalize exec (Resolution.resolveDocument _ document source.url) state =
        ran at hafter hyield ⊢
      rcases ran with ⟨_ | d, after⟩
      · exact ⟨hafter, yields_error (hyield.error _ rfl)⟩
      · refine ⟨?_, yields_ok (hyield.ok _ rfl)⟩
        cases source.url with
        | none => exact hafter
        | some url => exact hafter.insert url (hyield.ok _ rfl)
    | none =>
      cases source.url with
      | none => exact ⟨hs, yields_error (hp.failed (by simp))⟩
      | some url => exact hp.resolveUrl hl [] url state hs

/-- Every resolution keeps the property of the stored documents, and its result
has it. -/
theorem Preserves.resolve (hp : Preserves Input P E) (hl : Serves Input library)
    {source : Source} (hsrc : source.Supplies Input) : Keeps P E P (resolve library source) := by
  intro state hs
  rw [exec_resolve]
  cases source.url with
  | none => exact hp.resolveFresh hl hsrc state hs
  | some url =>
    simp only
    cases hb : Json.readBase url with
    | error e => exact ⟨hs, yields_error (hp.failed (Json.direct_of_readBase hb).external)⟩
    | ok base =>
      simp only
      cases hc : state.cache.get? url with
      | some d => exact ⟨hs, yields_ok (hs url d hc)⟩
      | none => exact hp.resolveFresh hl hsrc state hs

end Resolution
end Rulebook
