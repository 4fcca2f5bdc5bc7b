import Rulebook.Proofs.Json.Leaves
import Rulebook.Reference.External

/-! The external references of a document are the texts under `$ref` that do
not begin with a hash sign, each listed once with its position. -/

namespace Rulebook

/-- A reference out of the document that it stands in. -/
def Outward (reference : String) : Prop := reference.toList.head? ≠ some '#'

instance (reference : String) : Decidable (Outward reference) :=
  inferInstanceAs (Decidable (_ ≠ _))

/-- A failure that neither complains of a reference out of a document nor of one that
leads back to where it stands. -/
structure ResolveError.Direct (e : ResolveError) : Prop where
  external : ∀ reference, e ≠ .externalReference reference
  circular : ∀ reference, e ≠ .circular reference

theorem Leaf.outward?_eq_some {leaf : Leaf} {reference : String} :
    leaf.outward? = some reference ↔
      leaf.lastSegment = "$ref" ∧ leaf.value = .string reference ∧ Outward reference := by
  unfold Leaf.outward? Outward
  by_cases hl : leaf.lastSegment = "$ref"
  · cases hv : leaf.value <;> simp [hl, Json.asString?, Option.filter_eq_some_iff]
  · simp [hl]

/-- A position whose last segment is `$ref` is that of a node and this key. -/
theorem eq_append_ref {path : List String} (h : path.getLast?.getD "" = "$ref") :
    path = path.dropLast ++ ["$ref"] := by
  cases hp : path.getLast? with
  | none => simp [hp] at h
  | some last =>
    obtain rfl : last = "$ref" := by simpa [hp] using h
    have hne : path ≠ [] := by
      rintro rfl
      simp at hp
    have hlast : path.getLast hne = "$ref" := by
      simpa [List.getLast?_eq_some_getLast hne] using hp
    rw [← hlast]
    exact (List.dropLast_append_getLast hne).symm

namespace Json
open Outcome

theorem path_of_externalReference? {document : Json} {sourceUrl : Option String}
    {path : List String} {reference : String} {item : ExternalReference}
    (h : document.externalReference? sourceUrl path reference = .ok item) : item.path = path := by
  obtain ⟨url, -, h⟩ := bind_eq_ok.1 h
  split at h
  · simp only [pure_eq_ok] at h
    rw [← h]
  · simp at h

variable {document : Json} {sourceUrl : Option String} {items : List ExternalReference}

/-- The references are read from the leaves, one after another. -/
theorem externalReferences_eq_ok :
    document.externalReferences sourceUrl = .ok items ↔
      List.Forall₂ (fun leaf item => ∃ reference, leaf.outward? = some reference ∧
          document.externalReference? sourceUrl leaf.path reference = .ok item)
        ((document.leaves {}).filter fun leaf => leaf.outward?.isSome) items := by
  unfold externalReferences
  rw [mapM_eq_ok]
  generalize document.leaves {} = leaves
  induction leaves generalizing items with
  | nil => simp
  | cons leaf rest ih =>
    cases hl : leaf.outward? with
    | none => simp [hl, ih]
    | some reference => simp [hl, ih, List.forall₂_cons_left_iff]

theorem paths_of_externalReferences (h : document.externalReferences sourceUrl = .ok items) :
    items.map ExternalReference.path =
      ((document.leaves {}).filter fun leaf => leaf.outward?.isSome).map Leaf.path := by
  have hf := externalReferences_eq_ok.1 h
  clear h
  generalize (document.leaves {}).filter (fun leaf => leaf.outward?.isSome) = leaves at hf ⊢
  induction hf with
  | nil => rfl
  | cons hitem _ ih =>
    obtain ⟨reference, -, hitem⟩ := hitem
    rw [List.map_cons, List.map_cons, path_of_externalReference? hitem, ih]

/-- A reference stands where its path says. -/
theorem at_of_mem_externalReferences (hd : document.WellFormed)
    (h : document.externalReferences sourceUrl = .ok items) {item : ExternalReference}
    (hm : item ∈ items) :
    ∃ reference, At document item.path (.string reference) ∧ Outward reference ∧
      item.path = item.nodePath ++ ["$ref"] := by
  have hpath : item.path ∈ items.map ExternalReference.path := List.mem_map.2 ⟨item, hm, rfl⟩
  rw [paths_of_externalReferences h] at hpath
  obtain ⟨leaf, hleaf, hp⟩ := List.mem_map.1 hpath
  obtain ⟨hleaf, hout⟩ := List.mem_filter.1 hleaf
  obtain ⟨reference, hr⟩ := Option.isSome_iff_exists.1 hout
  obtain ⟨hlast, hv, ho⟩ := Leaf.outward?_eq_some.1 hr
  have hat := ((mem_leaves_iff hd).1 hleaf).2.1
  rw [hp, hv] at hat
  refine ⟨reference, hat, ho, eq_append_ref ?_⟩
  rw [← hp]
  exact hlast

/-- Every text under `$ref` that leads out of the document is one of its
references. -/
theorem mem_externalReferences_of_at (hd : document.WellFormed)
    (h : document.externalReferences sourceUrl = .ok items) {node : List String}
    {reference : String} (hat : At document (node ++ ["$ref"]) (.string reference))
    (ho : Outward reference) :
    ∃ item ∈ items, item.path = node ++ ["$ref"] := by
  have hleaf : (⟨node ++ ["$ref"], .string reference⟩ : Leaf) ∈ document.leaves {} :=
    (mem_leaves_iff hd).2 ⟨by simp, hat, rfl⟩
  have hout : (⟨node ++ ["$ref"], .string reference⟩ : Leaf).outward? = some reference :=
    Leaf.outward?_eq_some.2 ⟨by simp [Leaf.lastSegment], rfl, ho⟩
  have hmem : node ++ ["$ref"] ∈ items.map ExternalReference.path := by
    rw [paths_of_externalReferences h]
    exact List.mem_map.2 ⟨_, List.mem_filter.2 ⟨hleaf, by simp [hout]⟩, rfl⟩
  obtain ⟨item, hm, hp⟩ := List.mem_map.1 hmem
  exact ⟨item, hm, hp⟩

/-- No reference is listed twice. -/
theorem nodup_externalReferences (hd : document.WellFormed)
    (h : document.externalReferences sourceUrl = .ok items) :
    (items.map ExternalReference.path).Nodup := by
  rw [paths_of_externalReferences h]
  exact (List.filter_sublist.map Leaf.path).nodup (nodup_leaves hd)

theorem direct_of_readBase {url : String} {e : ResolveError} (h : readBase url = .error e) :
    e.Direct := by
  obtain ⟨fault, -, rfl⟩ := mapError_eq_error.1 h
  exact ⟨by simp, by simp⟩

theorem direct_of_baseUrl {path : List String} {reference : String} {e : ResolveError}
    (h : document.baseUrl path sourceUrl reference = .error e) : e.Direct := by
  unfold baseUrl at h
  split at h
  · exact direct_of_readBase h
  · split at h
    · exact direct_of_readBase h
    · obtain rfl := Except.error.inj h
      exact ⟨by simp, by simp⟩

/-- A document whose references cannot be listed has one that cannot be read as
a URL, or whose URL cannot be fetched. -/
theorem direct_of_externalReferences {e : ResolveError}
    (h : document.externalReferences sourceUrl = .error e) : e.Direct := by
  obtain ⟨⟨path, reference⟩, -, h⟩ := mapM_eq_error h
  rcases bind_eq_error.1 h with h | ⟨url, -, h⟩
  · unfold absoluteUrl at h
    split at h
    · simp at h
    · rcases bind_eq_error.1 h with h | ⟨base, -, h⟩
      · exact direct_of_baseUrl h
      · rcases bind_eq_error.1 h with h | ⟨joined, -, h⟩
        · obtain ⟨fault, -, rfl⟩ := mapError_eq_error.1 h
          exact ⟨by simp, by simp⟩
        · simp at h
  · split at h
    · simp at h
    · obtain rfl := Except.error.inj h
      exact ⟨by simp, by simp⟩

end Json
end Rulebook
