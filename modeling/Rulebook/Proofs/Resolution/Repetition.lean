import Rulebook.Proofs.Resolution.Transparency
import Rulebook.Proofs.Session.Closed

/-! Resolving a resolved document again. A document without references that lead out
of it comes back as it is, whatever is served and stored by then; a document with one
does not. -/

namespace Rulebook
namespace Resolution
open Json Outcome Request

structure Stable (d : Json) : Prop where
  noReferences : ∀ sourceUrl, d.externalReferences sourceUrl = .ok []
  dereferenced : PropertiesDereferenced d

/-- Whether there are references out of a document does not depend on its URL. -/
theorem externalReferences_eq_nil {d : Json} {sourceUrl : Option String}
    (h : d.externalReferences sourceUrl = .ok []) (other : Option String) :
    d.externalReferences other = .ok [] := by
  have hnone := List.forall₂_nil_right_iff.1 (externalReferences_eq_ok.1 h)
  rw [externalReferences_eq_ok, hnone]
  exact .nil

theorem dereferenceEach_of_dereferenced {document : Json} {properties : Members}
    (h : ∀ m ∈ properties, m.2.Dereferenced) :
    dereferenceEach document properties = .ok properties := by
  refine dereferenceEach_eq_ok.2 (List.forall₂_same.2 fun m hm => ⟨rfl, ?_⟩)
  exact dereferenceProperty_of_dereferenced (h m hm)

/-- Dereferenced properties are put back where they were. -/
theorem dereferenceProperties_of_dereferenced {d : Json} (h : PropertiesDereferenced d) :
    dereferenceProperties d = .ok d := by
  rcases dereferenceProperties_cases d with ⟨members, properties, rfl, hp, he⟩ | ⟨-, he⟩
  · rw [he, dereferenceEach_of_dereferenced (h properties hp), Except.map, Members.insert_get? hp]
  · exact he

/-- A document without references that lead out of it asks for nothing. -/
theorem exec_resolveDocument_of_noReferences {d : Json} {sourceUrl : Option String}
    (h : d.externalReferences sourceUrl = .ok []) (request : String → Request Json)
    (state : State) :
    exec (resolveDocument request d sourceUrl) state = (dereferenceProperties d, state) := by
  rw [exec_resolveDocument, h]
  rfl

theorem exec_resolveDocument_of_stable {d : Json} (h : Stable d) (request : String → Request Json)
    (sourceUrl : Option String) (state : State) :
    exec (resolveDocument request d sourceUrl) state = (.ok d, state) := by
  rw [exec_resolveDocument_of_noReferences (h.noReferences sourceUrl),
    dereferenceProperties_of_dereferenced h.dereferenced]

/-- A URL that can be read and that nothing is stored under. -/
def Vacant (cache : Cache) (url : String) : Prop :=
  (∃ base, Json.readBase url = .ok base) ∧ cache.get? url = none

/-- A document comes back from a resolution of its own as it is, and nothing is
fetched. -/
def Repeats (d : Json) : Prop :=
  ∀ (library : Library) (cache : Cache) (url : Option String),
    (∀ u, url = some u → Vacant cache u) →
      (run (resolve library { document := some d, url }) cache).1 = .ok d ∧
        (run (resolve library { document := some d, url }) cache).2.fetched = []

theorem Stable.repeats {d : Json} (h : Stable d) : Repeats d := by
  intro library cache url hu
  have hfresh : exec (resolveFresh library { document := some d, url }) { cache } =
      (.ok d, storeSource url d { cache }) := by
    rw [exec_resolveFresh]
    simp only [sourceDocument, exec_resolveDocument_of_stable h]
  have hrun : run (resolve library { document := some d, url }) cache =
      (.ok d, storeSource url d { cache }) := by
    rw [run_eq_exec, exec_resolve]
    cases url with
    | none => exact hfresh
    | some u =>
      obtain ⟨⟨base, hb⟩, hc⟩ := hu u rfl
      simpa only [hb, hc] using hfresh
  rw [hrun]
  cases url <;> exact ⟨rfl, rfl⟩

/-- Where nothing is served or stored, a document with a reference out of it does not
resolve. -/
theorem noReferences_of_repeats {d : Json} (h : Repeats d) :
    d.externalReferences none = .ok [] := by
  obtain ⟨hd, -⟩ := h [] {} none (by simp)
  rw [run_resolve_empty] at hd
  change Uncached.resolveDocument (Uncached.resolveUrl [] []) d none = .ok d at hd
  obtain ⟨items, hi, hd⟩ := bind_eq_ok.1 hd
  obtain ⟨found, hf, -⟩ := bind_eq_ok.1 hd
  obtain ⟨hkeys, hfound⟩ := Uncached.targets_eq_ok.1 hf
  cases items with
  | nil => exact hi
  | cons item rest =>
    -- The first reference would have to lead to a document that is served.
    have hurl : item.url ∈ found.map Prod.fst := by
      rw [hkeys, distinctUrls, List.mem_eraseDups]
      refine List.mem_map.2 ⟨item, ?_, rfl⟩
      exact mem_otherReferences.2 ⟨by simp, by simp⟩
    obtain ⟨entry, he, -⟩ := List.mem_map.1 hurl
    obtain ⟨-, text, -, hl, -⟩ := Uncached.resolveUrl_eq_ok.1 (hfound entry he)
    simp at hl

/-- What comes of a resolution. -/
theorem yields_of_run {Input P : Json → Prop} {E : ResolveError → Prop}
    (hp : Preserves Input P E) {library : Library} {source : Source} {d : Json}
    (hl : Serves Input library) (hs : source.Supplies Input)
    (h : (run (resolve library source) {}).1 = .ok d) : P d :=
  (hp.resolve hl hs {} (holds_empty P)).2.ok d h

/-- A resolved document repeats exactly when no reference leads out of it, and that
is so when no reference stands directly under another `$ref` in the documents it
comes from. -/
theorem repeats_iff_of_resolve {library : Library} {source : Source} {d : Json}
    (hsource : source.Supplies WellFormed) (h : (run (resolve library source) {}).1 = .ok d) :
    (Repeats d ↔ ∀ sourceUrl, d.externalReferences sourceUrl = .ok []) ∧
      (Serves Plain library → source.Supplies Plain → Repeats d) := by
  have hserved : Serves WellFormed library := fun _ _ _ _ hr => wellFormed_of_read hr
  have hd : PropertiesDereferenced d :=
    (yields_of_run preserves_propertiesDereferenced hserved hsource h).2
  refine ⟨⟨fun hr => ?_, fun hn => ?_⟩, fun hplain hsupplies => ?_⟩
  · exact externalReferences_eq_nil (noReferences_of_repeats hr)
  · exact Stable.repeats ⟨hn, hd⟩
  · have hresolved : Resolved d := yields_of_run preserves_resolved hplain hsupplies h
    exact Stable.repeats ⟨externalReferences_of_closed hresolved.closed, hd⟩

theorem repeats_iff_of_resolve_inline :
    let document : Json :=
      .object [("properties", .object [("x", .object [("$ref", .string "http://h.example/b")])])]
    let d : Json := .object [("properties", .object [("x", .object [("type", .string "string")])])]
    (run (resolve [("http://h.example/b", Session.textSchema)] { document := some document })
        {}).1 = .ok d ∧ Repeats d := by
  intro document d
  have hplain : Plain document := by decide
  have hrun : (run (resolve [("http://h.example/b", Session.textSchema)]
      { document := some document }) {}).1 = .ok d := by decide +kernel
  have hall := repeats_iff_of_resolve (Source.supplies_document hplain.wellFormed none) hrun
  exact ⟨hrun, hall.2 (serves_single Session.read_textSchema (by decide))
    (Source.supplies_document hplain none)⟩

/-- The document that a stacked reference leaves is changed by a second resolution,
which fetches what the reference leads to. -/
theorem not_repeats_of_stacked :
    let library : Library := [("http://t.example/t", "\x7b\"a\":\"http://evil.example/\"\x7d")]
    let document : Json := .object [("x", .object
      [("$ref", .object [("$ref", .string "http://t.example/t#/a")])])]
    let d : Json := .object [("x", .object [("$ref", .string "http://evil.example/")])]
    let other : Library := [("http://evil.example/", Session.textSchema)]
    (run (resolve library { document := some document }) {}).1 = .ok d ∧
      (run (resolve other { document := some d }) {}).1 =
        .ok (.object [("x", .object [("type", .string "string")])]) ∧
      (run (resolve other { document := some d }) {}).2.fetched = ["http://evil.example/"] ∧
      ¬ Repeats d := by
  intro library document d other
  have hagain : (run (resolve other { document := some d }) {}).1 =
      .ok (.object [("x", .object [("type", .string "string")])]) := by decide +kernel
  refine ⟨by decide +kernel, hagain, by decide +kernel, fun h => ?_⟩
  obtain ⟨hsame, -⟩ := h other {} none (by simp)
  have hne : d ≠ .object [("x", .object [("type", .string "string")])] := by decide
  exact hne (Except.ok.inj (hsame.symm.trans hagain))

end Resolution
end Rulebook
