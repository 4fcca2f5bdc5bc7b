import Mathlib.Data.List.TakeWhile
import Rulebook.Proofs.Reference.Addressing
import Rulebook.Proofs.Resolution.Closed
import Rulebook.Proofs.Resolution.Transparency
import Rulebook.Proofs.Translation.Steps

/-! A document whose only property refers to another document as a whole. It resolves
to a copy of the other document under the name of the property. What a document says
of itself in scalars is the same before and after it is resolved. -/

namespace Rulebook
open Json Outcome

namespace Resolution

/-- The places of references are not inside a member that is a scalar. -/
theorem place_of_mem_externalReferences {members : Members} {sourceUrl : Option String}
    {items : List ExternalReference} {key : String} (hd : (Json.object members).WellFormed)
    (hi : (Json.object members).externalReferences sourceUrl = .ok items)
    (hr : Members.get? "$ref" members = none)
    (hv : ∀ v, Members.get? key members = some v → v.asArray? = none ∧ v.asObject? = none)
    {item : ExternalReference} (hm : item ∈ items) :
    ∃ segment rest, key ≠ segment ∧ item.nodePath = segment :: rest ∧
      item.path = segment :: (rest ++ ["$ref"]) := by
  obtain ⟨reference, hat, -, hp⟩ := at_of_mem_externalReferences hd hi hm
  cases hn : item.nodePath with
  | nil =>
    rw [hp, hn] at hat
    obtain ⟨v, hget, -⟩ := At.object_iff.1 hat
    simp [hr] at hget
  | cons segment rest =>
    rw [hn] at hp
    refine ⟨segment, rest, ?_, rfl, hp⟩
    rintro rfl
    rw [hp] at hat
    obtain ⟨v, hget, hat⟩ := At.object_iff.1 hat
    obtain ⟨ha, ho⟩ := hv v hget
    obtain ⟨hnil, -⟩ := hat.eq_of_scalar ha ho
    simp at hnil

theorem get?_foldl_makeInternal {own : List ExternalReference} {key : String} {document : Json}
    (h : ∀ item ∈ own, ∃ segment rest, key ≠ segment ∧ item.path = segment :: rest) :
    (own.foldl makeInternal document).get? key = document.get? key := by
  induction own generalizing document with
  | nil => rfl
  | cons item rest ih =>
    obtain ⟨⟨segment, more, hne, hp⟩, hrest⟩ := List.forall_mem_cons.1 h
    rw [List.foldl_cons, ih hrest, makeInternal, hp, modifyAt_cons, get?_modifyChild_of_ne hne]

theorem get?_foldlM_spliceItem {targets : List (String × Json)} {others : List ExternalReference}
    {key : String} {document d : Json}
    (h : ∀ item ∈ others, ∃ segment rest, key ≠ segment ∧ item.nodePath = segment :: rest)
    (hs : others.foldlM (spliceItem targets) document = .ok d) :
    d.get? key = document.get? key := by
  induction others generalizing document with
  | nil =>
    obtain rfl : document = d := by simpa using hs
    rfl
  | cons item rest ih =>
    obtain ⟨⟨segment, more, hne, hp⟩, hrest⟩ := List.forall_mem_cons.1 h
    rw [List.foldlM_cons] at hs
    obtain ⟨mid, hmid, hs⟩ := bind_eq_ok.1 hs
    rw [ih hrest hs]
    unfold spliceItem at hmid
    split at hmid
    · obtain ⟨part, -, rfl⟩ := map_eq_ok.1 hmid
      rw [splice, hp, modifyAt_cons, get?_modifyChild_of_ne hne]
    · rw [Except.ok.inj hmid]

theorem get?_dereferenceProperties {document d : Json} {key : String} (hk : key ≠ "properties")
    (h : dereferenceProperties document = .ok d) : d.get? key = document.get? key := by
  rcases dereferenceProperties_cases document with
    ⟨members, properties, rfl, -, heq⟩ | ⟨-, heq⟩
  · rw [heq] at h
    obtain ⟨others, -, rfl⟩ := map_eq_ok.1 h
    exact Members.get?_insert_of_ne hk _ _
  · rw [heq] at h
    rw [Except.ok.inj h]

/-- Resolving a document without a reference of its own leaves its scalars alone. -/
theorem get?_of_resolveDocument {request : String → Except ResolveError Json}
    {members : Members} {sourceUrl : Option String} {d : Json} {key : String}
    (hd : (Json.object members).WellFormed)
    (h : Uncached.resolveDocument request (.object members) sourceUrl = .ok d)
    (hr : Members.get? "$ref" members = none) (hk : key ≠ "properties")
    (hv : ∀ v, Members.get? key members = some v → v.asArray? = none ∧ v.asObject? = none) :
    d.get? key = Members.get? key members := by
  obtain ⟨items, hi, h⟩ := bind_eq_ok.1 h
  obtain ⟨found, -, h⟩ := bind_eq_ok.1 h
  obtain ⟨spliced, hs, h⟩ := bind_eq_ok.1 h
  have hplace := fun item (hm : item ∈ items) => place_of_mem_externalReferences hd hi hr hv hm
  rw [get?_dereferenceProperties hk h, get?_foldlM_spliceItem ?_ hs, get?_foldl_makeInternal ?_,
    get?_object]
  · intro item hm
    obtain ⟨segment, rest, hne, -, hp⟩ := hplace item (mem_ownReferences.1 hm).1
    exact ⟨segment, _, hne, hp⟩
  · intro item hm
    obtain ⟨segment, rest, hne, hp, -⟩ := hplace item (mem_otherReferences.1 hm).1
    exact ⟨segment, _, hne, hp⟩

/-- Whatever is served, what a URL resolves to is well-formed. -/
theorem wellFormed_of_resolveUrl {library : Library} {url : String} {d : Json}
    (h : Uncached.resolveUrl library [] url = .ok d) : d.WellFormed := by
  have hserves : Serves WellFormed library := fun _ _ _ _ hr => wellFormed_of_read hr
  obtain ⟨-, hyield⟩ :=
    preserves_propertiesDereferenced.resolveUrl hserves [] url {} (holds_empty _)
  obtain ⟨after, ha, -⟩ := follows_resolveUrl library [] url {} (trusted_empty library)
    (by simp [Unstored])
  rw [ha, h] at hyield
  exact (hyield.ok d rfl).1

end Resolution

/-- A document whose only property refers to another document. -/
def host (name url : String) : Json := singleProperty name (.object [("$ref", .string url)])

section Host

variable {library : Library} {name url : String} {document : Json}

theorem schemed_of_isFetchable (h : Url.isFetchable url) :
    Url.Schemed url ∧ url.toList.head? ≠ some '#' := by
  rcases Url.isFetchable_iff.1 h with ⟨rest, hrest⟩ | ⟨rest, hrest⟩
  · have hlower : "http".toList.all Char.isLower = true := by decide
    exact ⟨⟨"http".toList, rest, by decide, List.all_eq_true.1 hlower, hrest.symm⟩,
      by simp [← hrest]⟩
  · have hlower : "https".toList.all Char.isLower = true := by decide
    exact ⟨⟨"https".toList, rest, by decide, List.all_eq_true.1 hlower, hrest.symm⟩,
      by simp [← hrest]⟩

/-- The only reference of the host is the one that its property carries. -/
theorem externalReferences_host (hu : Url.isFetchable url) (hf : '#' ∉ url.toList) :
    (host name url).externalReferences none =
      .ok [⟨url, none, ["properties", name, "$ref"]⟩] := by
  have hleaves : (host name url).leaves {} = [⟨["properties", name, "$ref"], .string url⟩] := rfl
  obtain ⟨hscheme, hhead⟩ := schemed_of_isFetchable hu
  have hout : (⟨["properties", name, "$ref"], .string url⟩ : Leaf).outward? = some url :=
    Leaf.outward?_eq_some.2 ⟨rfl, rfl, hhead⟩
  have hsplits : Splits url url none := ⟨by simp, hf⟩
  have hitem : (host name url).externalReference? none ["properties", name, "$ref"] url =
      .ok ⟨url, none, ["properties", name, "$ref"]⟩ :=
    externalReference?_of_fetchable hsplits (absoluteUrl_of_schemed hscheme)
      (Url.isFetchable_iff.1 hu)
  unfold externalReferences
  rw [hleaves]
  simp only [List.filterMap_cons, hout, Option.map_some, List.filterMap_nil, List.mapM_cons, hitem]
  rfl

theorem splice_host (part : Json) :
    Resolution.splice (host name url) ⟨url, none, ["properties", name, "$ref"]⟩ part =
      singleProperty name part := by
  have hdisplay : (Json.object [("$ref", .string url)]).display = [] := by rfl
  have hpart : withDisplay [] part = part := by cases part <;> rfl
  unfold Resolution.splice host singleProperty
  simp [ExternalReference.nodePath, modifyAt, modifyChild_object, Members.modify, hdisplay, hpart]

theorem dereferenceProperties_singleProperty (name : String) (node : Json) :
    Resolution.dereferenceProperties (singleProperty name node) =
      (dereferenceProperty (singleProperty name node) node).map (singleProperty name) := by
  have heach : Resolution.dereferenceProperties (singleProperty name node) =
      Resolution.dereferenceEach (singleProperty name node) [(name, node)] >>= fun properties =>
        pure (Json.object [("properties", .object properties)]) := rfl
  rw [heach, Resolution.dereferenceEach]
  cases dereferenceProperty (singleProperty name node) node with
  | error e => rfl
  | ok v => rfl

/-- The host resolves to a copy of the whole other document, which is dereferenced
once more. -/
theorem resolve_host (hu : Url.isFetchable url) (hf : '#' ∉ url.toList)
    (hr : Resolution.Uncached.resolveUrl library [] url = .ok document) :
    Resolution.Uncached.resolve library { document := some (host name url) } =
      inlineReferences document document >>= fun part =>
        (dereferenceProperty (singleProperty name part) part).map (singleProperty name) := by
  have htargets : Resolution.Uncached.targets (Resolution.Uncached.resolveUrl library []) [url] =
      .ok [(url, document)] := Resolution.Uncached.targets_eq_ok.2 ⟨rfl, by simpa using hr⟩
  have hlookup : [(url, document)].lookup url = some document := by simp
  have hresolve : Resolution.Uncached.resolve library { document := some (host name url) } =
      (host name url).externalReferences none >>= fun items =>
        Resolution.Uncached.targets (Resolution.Uncached.resolveUrl library [])
            (Resolution.distinctUrls (Resolution.otherReferences none items)) >>= fun found =>
          Resolution.assemble ((Resolution.ownReferences none items).foldl
            Resolution.makeInternal (host name url)) (Resolution.otherReferences none items)
            found := rfl
  rw [hresolve, externalReferences_host hu hf]
  change (Resolution.Uncached.targets (Resolution.Uncached.resolveUrl library []) [url] >>=
    fun found => Resolution.assemble (host name url)
      [⟨url, none, ["properties", name, "$ref"]⟩] found) = _
  rw [htargets]
  change (List.foldlM (Resolution.spliceItem [(url, document)]) (host name url)
    [⟨url, none, ["properties", name, "$ref"]⟩] >>= Resolution.dereferenceProperties) = _
  rw [List.foldlM_cons, Resolution.spliceItem_of_lookup hlookup]
  have hwhole : Resolution.replacement document ⟨url, none, ["properties", name, "$ref"]⟩ =
      inlineReferences document document := rfl
  rw [hwhole]
  cases inlineReferences document document with
  | error e => rfl
  | ok part =>
    change Resolution.dereferenceProperties (Resolution.splice (host name url)
      ⟨url, none, ["properties", name, "$ref"]⟩ part) = _
    rw [splice_host, dereferenceProperties_singleProperty]
    rfl

end Host

end Rulebook
