import Mathlib.Data.List.Perm.Subperm
import Mathlib.Logic.Relation
import Rulebook.Proofs.Resolution.Accounting
import Rulebook.Proofs.Resolution.Closed
import Rulebook.Proofs.Resolution.Transparency

/-! The graph of the documents that refer to one another, and what a resolution says of
its cycles. A resolution fails when a cycle can be reached from the source, and it
calls a URL circular only then: the URLs on the chain lead from the source to one
another, and a document that resolved is not on the chain of those it refers to. -/

namespace Rulebook
namespace Resolution
open Json Outcome Relation

/-- The document at an origin: at the origin of the source that which the source holds,
elsewhere that which is served. A document without a URL has no origin. -/
def documentAt (library : Library) (source : Source) (origin : Option String) : Option Json :=
  if origin = source.url ∧ source.Holds then (sourceDocument source).toOption.join
  else do
    let url ← origin
    let text ← library.lookup url
    (Json.read text).toOption

/-- The document at one origin has a reference to another one. -/
def LinksTo (library : Library) (source : Source) (origin target : Option String) : Prop :=
  ∃ document items item, documentAt library source origin = some document ∧
    document.externalReferences origin = .ok items ∧ item ∈ items ∧ target = some item.url ∧
    target ≠ origin

/-- A cycle of references can be reached from the source. -/
def Cyclic (library : Library) (source : Source) : Prop :=
  ∃ origin, ReflTransGen (LinksTo library source) source.url origin ∧
    TransGen (LinksTo library source) origin origin

section Documents

variable {library : Library} {source : Source}

theorem documentAt_source {document : Json} (h : sourceDocument source = .ok (some document)) :
    documentAt library source source.url = some document := by
  have hholds : source.Holds := by simp [holds_iff_of_sourceDocument h]
  simp [documentAt, hholds, h, Except.toOption]

theorem documentAt_served {url text : String} {document : Json}
    (hother : source.Holds → source.url ≠ some url) (hl : library.lookup url = some text)
    (hr : readDocument text url = .ok document) :
    documentAt library source (some url) = some document := by
  have hnot : ¬ (some url = source.url ∧ source.Holds) := fun h => hother h.2 h.1.symm
  rw [documentAt, if_neg hnot]
  simp [hl, readDocument_eq_ok.1 hr, Except.toOption]

/-- The links from a document are what a resolution of it asks for. -/
theorem linksTo_iff {origin : Option String} {document : Json} {items : List ExternalReference}
    (hd : documentAt library source origin = some document)
    (hi : document.externalReferences origin = .ok items) {target : Option String} :
    LinksTo library source origin target ↔
      ∃ url ∈ distinctUrls (otherReferences origin items), target = some url := by
  constructor
  · rintro ⟨d, found, item, hd', hi', hm, rfl, hne⟩
    obtain rfl : document = d := Option.some.inj (hd.symm.trans hd')
    obtain rfl : items = found := Except.ok.inj (hi.symm.trans hi')
    have hother : item ∈ otherReferences origin items := mem_otherReferences.2 ⟨hm, hne⟩
    exact ⟨item.url, List.mem_eraseDups.2 (List.mem_map_of_mem hother), rfl⟩
  · rintro ⟨url, hurl, rfl⟩
    obtain ⟨item, hm, rfl⟩ := List.mem_map.1 (List.mem_eraseDups.1 hurl)
    obtain ⟨hm, hne⟩ := mem_otherReferences.1 hm
    exact ⟨document, items, item, hd, hi, hm, rfl, hne⟩

end Documents

section Success

variable {library : Library} {source : Source} {chain : List String}

/-- A document that is on a chain and whose links all resolve by way of the chain. -/
structure Supported (library : Library) (source : Source) (chain : List String)
    (origin : Option String) : Prop where
  onChain : ∀ url, origin = some url → url ∈ chain
  resolves : ∀ url, LinksTo library source origin (some url) →
    ∃ target, Uncached.resolveUrl library chain url = .ok target

theorem supported_of_resolveDocument {origin : Option String} {document d : Json}
    (hd : documentAt library source origin = some document)
    (hchain : ∀ url, origin = some url → url ∈ chain)
    (h : Uncached.resolveDocument (Uncached.resolveUrl library chain) document origin = .ok d) :
    Supported library source chain origin := by
  refine ⟨hchain, fun url hlink => ?_⟩
  obtain ⟨items, hi, h⟩ := bind_eq_ok.1 h
  obtain ⟨found, hf, -⟩ := bind_eq_ok.1 h
  obtain ⟨hkeys, hfound⟩ := Uncached.targets_eq_ok.1 hf
  obtain ⟨_, hurl, he⟩ := (linksTo_iff hd hi).1 hlink
  obtain rfl := Option.some.inj he
  have hentry : url ∈ found.map Prod.fst := by
    rw [hkeys]
    exact hurl
  obtain ⟨⟨_, target⟩, hm, rfl⟩ := List.mem_map.1 hentry
  exact ⟨target, hfound _ hm⟩

/-- What is not on the chain is served, when the source's own URL is on it. -/
theorem ne_source_of_notMem (hheld : source.Holds → ∀ url, source.url = some url → url ∈ chain)
    {url : String} (hc : url ∉ chain) (h : source.Holds) : source.url ≠ some url :=
  fun hurl => hc (hheld h url hurl)

theorem supported_of_resolveUrl
    (hheld : source.Holds → ∀ url, source.url = some url → url ∈ chain) {url : String} {d : Json}
    (h : Uncached.resolveUrl library chain url = .ok d) :
    url ∉ chain ∧ Supported library source (chain ++ [url]) (some url) := by
  obtain ⟨hc, text, document, hl, hr, hd⟩ := Uncached.resolveUrl_eq_ok.1 h
  refine ⟨hc, supported_of_resolveDocument ?_ (by simp) hd⟩
  exact documentAt_served (ne_source_of_notMem hheld hc) hl hr

/-- A link leads from a supported document to one that is not on the chain, and that is
supported by the chain with it. -/
theorem Supported.step (hheld : source.Holds → ∀ url, source.url = some url → url ∈ chain)
    {origin target : Option String} (h : Supported library source chain origin)
    (hlink : LinksTo library source origin target) :
    ∃ url, target = some url ∧ url ∉ chain ∧
      Supported library source (chain ++ [url]) (some url) := by
  obtain ⟨-, -, item, -, -, -, rfl, -⟩ := id hlink
  obtain ⟨t, ht⟩ := h.resolves item.url hlink
  exact ⟨item.url, rfl, supported_of_resolveUrl hheld ht⟩

/-- What can be reached from a supported document is supported by a longer chain. -/
theorem Supported.reach (hheld : source.Holds → ∀ url, source.url = some url → url ∈ chain)
    {origin target : Option String} (h : Supported library source chain origin)
    (hpath : ReflTransGen (LinksTo library source) origin target) :
    ∃ longer, (∀ url ∈ chain, url ∈ longer) ∧ Supported library source longer target := by
  induction hpath with
  | refl => exact ⟨chain, fun _ hu => hu, h⟩
  | tail _ hlink ih =>
    obtain ⟨longer, hsub, hsupported⟩ := ih
    have hheld' : source.Holds → ∀ url, source.url = some url → url ∈ longer :=
      fun hs url hurl => hsub url (hheld hs url hurl)
    obtain ⟨url, rfl, -, hnext⟩ := hsupported.step hheld' hlink
    exact ⟨longer ++ [url], fun u hu => List.mem_append_left _ (hsub u hu), hnext⟩

/-- No cycle can be reached from a supported document. It would lead from a document on
the chain back to it, and links lead away from the chain. -/
theorem Supported.acyclic (hheld : source.Holds → ∀ url, source.url = some url → url ∈ chain)
    {start origin : Option String} (h : Supported library source chain start)
    (hpath : ReflTransGen (LinksTo library source) start origin) :
    ¬ TransGen (LinksTo library source) origin origin := by
  intro hcycle
  obtain ⟨longer, hsub, hsupported⟩ := h.reach hheld hpath
  have hheld' : source.Holds → ∀ url, source.url = some url → url ∈ longer :=
    fun hs url hurl => hsub url (hheld hs url hurl)
  obtain ⟨last, haround, hback⟩ := TransGen.tail'_iff.1 hcycle
  obtain ⟨around, hsub', hlast⟩ := hsupported.reach hheld' haround
  have hheld'' : source.Holds → ∀ url, source.url = some url → url ∈ around :=
    fun hs url hurl => hsub' url (hheld' hs url hurl)
  obtain ⟨url, horigin, hnot, -⟩ := hlast.step hheld'' hback
  exact hnot (hsub' url (hsupported.onChain url horigin))

theorem not_cyclic_of_resolve {d : Json} (h : Uncached.resolve library source = .ok d) :
    ¬ Cyclic library source := by
  rintro ⟨origin, hpath, hcycle⟩
  have hfresh : Uncached.resolveFresh library source = .ok d := by
    unfold Uncached.resolve at h
    split at h
    · exact h
    · obtain ⟨-, -, h⟩ := bind_eq_ok.1 h
      exact h
  obtain ⟨held, hd, hfresh⟩ := bind_eq_ok.1 hfresh
  cases held with
  | some document =>
    have hheld : source.Holds → ∀ url, source.url = some url → url ∈ source.url.toList :=
      fun _ url hurl => by simp [hurl]
    have hstart : Supported library source source.url.toList source.url :=
      supported_of_resolveDocument (documentAt_source hd) (by simp) hfresh
    exact hstart.acyclic hheld hpath hcycle
  | none =>
    have hnone : ¬ source.Holds := by simp [holds_iff_of_sourceDocument hd]
    cases hurl : source.url with
    | none =>
      rw [hurl] at hfresh
      simp at hfresh
    | some url =>
      rw [hurl] at hfresh hpath
      obtain ⟨-, hstart⟩ := supported_of_resolveUrl (fun hs => absurd hs hnone) hfresh
      exact hstart.acyclic (fun hs => absurd hs hnone) hpath hcycle

end Success

section Failure

variable {library : Library} {source : Source} {chain : List String} {reference : String}

theorem not_outward_of_isPointer {pointer : String} (h : isPointer pointer) :
    ¬ Outward pointer := by
  unfold isPointer at h
  unfold Outward
  split at h
  · rename_i rest hp
    simp [hp]
  · simp at h

theorem not_outward_of_local (h : (ResolveError.circular reference).Local) :
    ¬ Outward reference := by
  rcases h with h | ⟨pointer, hp, he⟩
  · exact absurd rfl (h.circular reference)
  · obtain rfl := ResolveError.circular.inj he
    exact not_outward_of_isPointer hp

theorem local_of_dereferenceProperties {document : Json}
    (h : dereferenceProperties document = .error (.circular reference)) :
    (ResolveError.circular reference).Local := by
  rcases dereferenceProperties_cases document with ⟨members, properties, rfl, -, he⟩ | ⟨-, he⟩
  · rw [he, map_eq_error] at h
    obtain ⟨m, -, hm⟩ := dereferenceEach_eq_error h
    have htraced := dereferenceProperty_eq_error.1 hm
    rcases dereferenceWithin_eq_error htraced with h | ⟨_, _, _, _, h⟩
    · exact h
    · simp at h
  · simp [he] at h

/-- When a document is said to lead back to a URL, one that it refers to is. -/
theorem resolveDocument_eq_circular {request : String → Except ResolveError Json} {document : Json}
    {origin : Option String} (ho : Outward reference)
    (h : Uncached.resolveDocument request document origin = .error (.circular reference)) :
    ∃ items, document.externalReferences origin = .ok items ∧
      ∃ url ∈ distinctUrls (otherReferences origin items),
        request url = .error (.circular reference) := by
  rcases bind_eq_error.1 h with h | ⟨items, hi, h⟩
  · exact absurd rfl ((direct_of_externalReferences h).circular reference)
  refine ⟨items, hi, ?_⟩
  rcases bind_eq_error.1 h with h | ⟨found, -, h⟩
  · obtain ⟨url, hurl, h⟩ := mapM_eq_error h
    refine ⟨url, hurl, ?_⟩
    rcases bind_eq_error.1 h with h | ⟨target, -, h⟩
    · exact h
    · simp at h
  · rcases bind_eq_error.1 h with h | ⟨spliced, -, h⟩
    · exact absurd ho (not_outward_of_local (local_of_foldlM_spliceItem h))
    · exact absurd ho (not_outward_of_local (local_of_dereferenceProperties h))

/-- The way on which a resolution has come to a URL: links lead to it from the source
and from every document on the chain. -/
structure Led (library : Library) (source : Source) (chain : List String) (url : String) :
    Prop where
  start : ReflTransGen (LinksTo library source) source.url (some url)
  chain : ∀ u ∈ chain, TransGen (LinksTo library source) (some u) (some url)

theorem Led.step {url next : String} (h : Led library source chain url)
    (hlink : LinksTo library source (some url) (some next)) :
    Led library source (chain ++ [url]) next := by
  refine ⟨h.start.tail hlink, fun u hu => ?_⟩
  rcases List.mem_append.1 hu with hu | hu
  · exact (h.chain u hu).tail hlink
  · obtain rfl := List.mem_singleton.1 hu
    exact .single hlink

theorem cyclic_of_resolveUrl
    (hheld : source.Holds → ∀ url, source.url = some url → url ∈ chain) (ho : Outward reference)
    {url : String} (hled : Led library source chain url)
    (h : Uncached.resolveUrl library chain url = .error (.circular reference)) :
    Cyclic library source := by
  -- The recursion is that of the resolution, along which the chain becomes longer.
  induction chain, url using Resolution.resolveUrl.induct library with
  | case1 chain url hc => exact ⟨some url, hled.start, hled.chain url hc⟩
  | case2 chain url hc ih =>
    rw [Uncached.resolveUrl_eq, if_neg hc] at h
    cases hl : library.lookup url with
    | none => simp [hl] at h
    | some text =>
      simp only [hl] at h
      rcases bind_eq_error.1 h with h | ⟨document, hr, h⟩
      · exact absurd rfl ((direct_of_readDocument h).circular reference)
      · obtain ⟨items, hi, next, hnext, h⟩ := resolveDocument_eq_circular ho h
        have hd := documentAt_served (ne_source_of_notMem hheld hc) hl hr
        have hlink := (linksTo_iff hd hi).2 ⟨next, hnext, rfl⟩
        have hheld' : source.Holds → ∀ u, source.url = some u → u ∈ chain ++ [url] :=
          fun hs u hu => List.mem_append_left _ (hheld hs u hu)
        exact ih text hl next hheld' (hled.step hlink) h

theorem cyclic_of_resolve (ho : Outward reference)
    (h : Uncached.resolve library source = .error (.circular reference)) :
    Cyclic library source := by
  have hfresh : Uncached.resolveFresh library source = .error (.circular reference) := by
    unfold Uncached.resolve at h
    split at h
    · exact h
    · rcases bind_eq_error.1 h with h | ⟨-, -, h⟩
      · exact absurd rfl ((direct_of_readBase h).circular reference)
      · exact h
  rcases bind_eq_error.1 hfresh with h | ⟨held, hd, hfresh⟩
  · exact absurd rfl ((direct_of_sourceDocument h).circular reference)
  cases held with
  | some document =>
    obtain ⟨items, hi, next, hnext, h⟩ := resolveDocument_eq_circular ho hfresh
    have hlink : LinksTo library source source.url (some next) :=
      (linksTo_iff (documentAt_source hd) hi).2 ⟨next, hnext, rfl⟩
    refine cyclic_of_resolveUrl (fun _ url hurl => by simp [hurl]) ho ⟨.single hlink, ?_⟩ h
    intro u hu
    have horigin : source.url = some u := Option.mem_toList.1 hu
    exact .single (horigin ▸ hlink)
  | none =>
    have hnone : ¬ source.Holds := by simp [holds_iff_of_sourceDocument hd]
    cases hurl : source.url with
    | none =>
      rw [hurl] at hfresh
      simp at hfresh
    | some url =>
      rw [hurl] at hfresh
      exact cyclic_of_resolveUrl (fun hs => absurd hs hnone) ho ⟨hurl ▸ .refl, by simp⟩ hfresh

end Failure

/-- A resolution asks for no more URLs than are served, and one that is not. -/
theorem length_fetched_le {library : Library} {source : Source} {before after : Cache}
    {outcome : Except ResolveError Json} {fetched : List String}
    (h : Accounted library source before outcome fetched after) :
    fetched.length ≤ library.length + 1 := by
  obtain ⟨missing, hmissing⟩ : ∃ missing, ∀ u ∈ fetched, u ∈ missing :: library.map Prod.fst := by
    by_cases hfailed : ∃ missing, outcome = .error (.fetchFailed missing notFound)
    · obtain ⟨missing, rfl⟩ := hfailed
      refine ⟨missing, fun u hu => ?_⟩
      rcases h.served u hu with hs | hs
      · exact List.mem_cons_of_mem _ hs
      · obtain ⟨rfl, -⟩ := ResolveError.fetchFailed.inj (Except.error.inj hs)
        exact List.mem_cons_self
    · refine ⟨"", fun u hu => List.mem_cons_of_mem _ ?_⟩
      exact (h.served u hu).resolve_right fun hs => hfailed ⟨u, hs⟩
  have hsub : fetched.Subperm (missing :: library.map Prod.fst) := h.nodup.subperm hmissing
  simpa using hsub.length_le

/-- Every resolution comes to an end. It fails when a cycle of documents can be reached
from the source, and calls a URL circular only when there is one. -/
theorem cycles_of_resolve (library : Library) (source : Source) :
    (run (resolve library source) {}).2.fetched.length ≤ library.length + 1 ∧
      (Cyclic library source → ∃ e, (run (resolve library source) {}).1 = .error e) ∧
      ∀ reference, (run (resolve library source) {}).1 = .error (.circular reference) →
        Outward reference → Cyclic library source := by
  obtain ⟨outcome, -, haccounted⟩ := accounted_resolve library source {}
  refine ⟨length_fetched_le haccounted, fun hcyclic => ?_, fun reference h ho => ?_⟩
  · rw [run_resolve_empty]
    cases h : Uncached.resolve library source with
    | error e => exact ⟨e, rfl⟩
    | ok d => exact absurd hcyclic (not_cyclic_of_resolve h)
  · rw [run_resolve_empty] at h
    exact cyclic_of_resolve ho h

def referringTo (url : String) : Json := .object [("x", .object [("$ref", .string url)])]

def mutualLibrary : Library :=
  [("http://t.example/a", "\x7b\"x\":\x7b\"$ref\":\"http://t.example/b\"\x7d\x7d"),
    ("http://t.example/b", "\x7b\"x\":\x7b\"$ref\":\"http://t.example/a\"\x7d\x7d")]

theorem linksTo_referringTo {library : Library} {source : Source} {origin : Option String}
    {url : String} (hd : documentAt library source origin = some (referringTo url))
    (hi : (referringTo url).externalReferences origin = .ok [⟨url, none, ["x", "$ref"]⟩])
    (hne : some url ≠ origin) : LinksTo library source origin (some url) :=
  ⟨_, _, _, hd, hi, List.mem_singleton_self _, rfl, hne⟩

/-- A document that leads to the two is on no cycle itself, and does not resolve. -/
theorem cycles_of_resolve_mutual :
    let source : Source := { document := some (referringTo "http://t.example/a") }
    Cyclic mutualLibrary source ∧
      ∃ e, (run (resolve mutualLibrary source) {}).1 = .error e := by
  intro source
  have hstart : LinksTo mutualLibrary source none (some "http://t.example/a") :=
    linksTo_referringTo (by decide +kernel) (by decide +kernel) (by decide)
  have haway : LinksTo mutualLibrary source (some "http://t.example/a")
      (some "http://t.example/b") :=
    linksTo_referringTo (by decide +kernel) (by decide +kernel) (by decide)
  have hback : LinksTo mutualLibrary source (some "http://t.example/b")
      (some "http://t.example/a") :=
    linksTo_referringTo (by decide +kernel) (by decide +kernel) (by decide)
  have hcyclic : Cyclic mutualLibrary source :=
    ⟨some "http://t.example/a", .single hstart, .head haway (.single hback)⟩
  exact ⟨hcyclic, (cycles_of_resolve mutualLibrary source).2.1 hcyclic⟩

end Resolution
end Rulebook
