import Rulebook.Proofs.Reference.Chain

/-! Following the references of a node in two documents. The account of the pointers
that may be followed only demands that none is followed twice, so where the pointers
followed name the same values in both, it comes to the same. -/

namespace Rulebook

namespace Pointer
open Json

def path? (pointer : String) : Option (List String) :=
  match pointer.toList with
  | '#' :: '/' :: segments =>
    (splitSlashes segments).mapM fun raw => decodeSegment (String.ofList raw)
  | _ => none

variable {pointer : String} {root target : Json}

theorem follow_eq_ok {segments : List (List Char)} {v w : Json} :
    follow pointer segments v = .ok w ↔
      ∃ path, segments.mapM (fun raw => decodeSegment (String.ofList raw)) = some path ∧
        v.at? path = some w := by
  induction segments generalizing v with
  | nil => simp [follow, at?]
  | cons raw rest ih =>
    rw [follow, List.mapM_cons]
    cases hs : decodeSegment (String.ofList raw) with
    | none => simp
    | some segment =>
      -- Both sides go on from the value below this segment, by the other segments.
      simp only [Option.bind_eq_bind, Option.bind_some, Option.pure_def]
      cases hrest : rest.mapM fun raw => decodeSegment (String.ofList raw) with
      | none =>
        simp only [hrest, reduceCtorEq, false_and, exists_false, iff_false] at ih
        cases hv : v.child? segment <;> simp [ih]
      | some path =>
        simp only [hrest, Option.some.injEq, exists_eq_left'] at ih
        cases hv : v.child? segment <;> simp [at?_cons, hv, ih]

/-- A pointer names what stands at its path. -/
theorem resolve_eq_ok (hp : isPointer pointer) :
    resolve root pointer = .ok target ↔
      ∃ path, path? pointer = some path ∧ root.at? path = some target := by
  unfold isPointer at hp
  split at hp
  · rename_i segments h
    simp only [resolve, path?, h]
    exact follow_eq_ok
  · simp at hp

theorem ne_nil_of_path? {path : List String} (h : path? pointer = some path) : path ≠ [] := by
  rintro rfl
  unfold path? at h
  split at h
  · rename_i segments _
    cases hs : splitSlashes segments with
    | nil => exact splitSlashes_ne_nil segments hs
    | cons raw rest =>
      rw [hs, List.mapM_cons] at h
      obtain ⟨_, -, h⟩ := Option.bind_eq_some_iff.1 h
      obtain ⟨_, -, h⟩ := Option.bind_eq_some_iff.1 h
      simp at h
  · simp at h

end Pointer

namespace Json
open Outcome

section Follows

variable {root node v : Json} {followed : List String}

theorem Bears.mem_references {pointer : String} {put : Json → Json}
    (h : Bears node (.string pointer) put) : pointer ∈ node.references := by
  obtain ⟨v, hv, hr⟩ := h.inside
  exact mem_references_of_get? hv hr

/-- The pointers that are allowed at first are all that can be followed. -/
theorem Follows.subset_references (h : Follows root node v followed) :
    followed ⊆ node.references ++ root.references := by
  induction h with
  | done => exact List.nil_subset _
  | self => exact List.nil_subset _
  | pointer hb _ ht _ ih =>
    have htarget := references_of_inside (Pointer.inside_of_resolve ht)
    refine List.cons_subset.2 ⟨List.mem_append_left _ hb.mem_references, List.Subset.trans ih ?_⟩
    exact List.append_subset.2 ⟨List.subset_append_of_subset_right _ htarget,
      List.subset_append_right _ _⟩

theorem dereferenceTraced_eq_ok :
    dereferenceTraced root node = .ok (v, followed) ↔ Follows root node v followed ∧
      followed.Nodup := by
  constructor
  · intro h
    obtain ⟨hfollows, hnodup, -⟩ := dereferenceWithin_eq_ok.1 h
    exact ⟨hfollows, hnodup⟩
  · rintro ⟨hfollows, hnodup⟩
    exact dereferenceWithin_eq_ok.2 ⟨hfollows, hnodup, hfollows.subset_references⟩

end Follows

section Texts

variable {root node v : Json} {s : String}

/-- The texts under `$ref` in members that are taken from two lists. -/
theorem mem_referencesOfMembers_or {members a b : Members} (h : ∀ m ∈ members, m ∈ a ∨ m ∈ b)
    (hs : s ∈ referencesOfMembers members) :
    s ∈ referencesOfMembers a ∨ s ∈ referencesOfMembers b := by
  rw [mem_referencesOfMembers, mem_referencesOfMembers]
  rcases mem_referencesOfMembers.1 hs with hm | ⟨m, hm, hs⟩
  · exact (h _ hm).imp .inl .inl
  · exact (h m hm).imp (fun hm => .inr ⟨m, hm, hs⟩) (fun hm => .inr ⟨m, hm, hs⟩)

theorem mem_references_of_display (hs : s ∈ referencesOfMembers node.display) :
    s ∈ node.references := by
  rcases mem_referencesOfMembers.1 hs with hm | ⟨m, hm, hs⟩
  · exact absurd (mem_display hm).1 (by decide : "$ref" ∉ displayFields)
  · exact references_of_inside (.of_get? (mem_display hm).2.1) hs

theorem mem_references_of_withDisplay (hs : s ∈ (withDisplay node.display v).references) :
    s ∈ node.references ∨ s ∈ v.references := by
  cases v with
  | object members =>
    have hlaid := mem_referencesOfMembers_or (fun _ hm => Members.mem_extend hm) hs
    exact hlaid.symm.imp_left mem_references_of_display
  | _ => exact .inr hs

theorem mem_references_of_selfReference (hs : s ∈ (selfReference root).references) :
    s ∈ root.references := by
  rcases mem_referencesOfMembers.1 hs with hm | ⟨m, hm, hs⟩
  · simp at hm
  · obtain rfl := List.mem_singleton.1 hm
    cases ht : root.get? "type" with
    | none => simp [ht, references] at hs
    | some t =>
      rw [ht] at hs
      exact references_of_inside (.of_get? ht) hs

theorem mem_references_of_getD (hs : s ∈ referencesOfMembers (v.asObject?.getD [])) :
    s ∈ v.references := by
  cases v with
  | object members => exact hs
  | _ => simp [asObject?, referencesOfMembers] at hs

theorem mem_references_of_mergeItems {items target : Json}
    (hs : s ∈ referencesOfMembers (mergeItems items target)) :
    s ∈ items.references ∨ s ∈ target.references := by
  have hmerged := mem_referencesOfMembers_or
    (fun _ hm => (Members.mem_extend hm).imp_left Members.mem_erase) hs
  exact hmerged.imp mem_references_of_getD mem_references_of_getD

/-- Where a reference is replaced, the texts under `$ref` are those of the node and of what
is put in its place. -/
theorem Bears.mem_references_put {reference target : Json} {put : Json → Json}
    (h : Bears node reference put) (hs : s ∈ (put target).references) :
    s ∈ node.references ∨ s ∈ target.references := by
  cases h with
  | own => exact .inr hs
  | @items members items _ _ hi _ =>
    have hput : s ∈ referencesOfMembers members ∨
        s ∈ referencesOfMembers [("items", .object (mergeItems items target))] := by
      refine mem_referencesOfMembers_or (fun m hm => ?_) hs
      rcases Members.mem_insert hm with rfl | hm
      · exact .inr (List.mem_singleton_self _)
      · exact .inl hm
    rcases hput with h | h
    · exact .inl h
    · have hmerged : s ∈ referencesOfMembers (mergeItems items target) := by
        simpa [referencesOfMembers, references] using h
      exact (mem_references_of_mergeItems hmerged).imp_left
        (references_of_inside (.member (Members.mem_of_get? hi) .here) ·)

/-- Following references comes upon no texts under `$ref` but those of the node and the
document. -/
theorem Follows.mem_references {followed : List String} (h : Follows root node v followed)
    (hs : s ∈ v.references) : s ∈ node.references ∨ s ∈ root.references := by
  induction h with
  | done => exact .inl hs
  | self hb => exact (hb.mem_references_put hs).imp_right mem_references_of_selfReference
  | pointer hb _ ht _ ih =>
    refine (hb.mem_references_put hs).imp_right fun hs => ?_
    exact (ih hs).elim (references_of_inside (Pointer.inside_of_resolve ht) ·) id

end Texts

/-- Any value but a text that is not allowed. -/
def Among (allowed : String → Prop) (v : Json) : Prop := ∀ s, v = .string s → allowed s

section Among

variable {allowed : String → Prop} {node v : Json}

/-- Only allowed texts stand under `$ref` if the references of the value are allowed. -/
theorem conforms_among_iff (hv : v.WellFormed) :
    Conforms (Among allowed) v ↔ ∀ s ∈ v.references, allowed s := by
  constructor
  · intro h s hs
    obtain ⟨members, hin, hm⟩ := mem_references.1 hs
    obtain ⟨hd, hall⟩ := h _ hin
    exact hall _ (hd.get?_of_mem hm) s rfl
  · intro h w hw
    refine ⟨hv w hw, ?_⟩
    rintro _ hr s rfl
    exact h s (mem_references_of_get? hw hr)

theorem Bears.among {pointer : String} {put : Json → Json} (h : Bears node (.string pointer) put)
    (hn : Conforms (Among allowed) node) : allowed pointer :=
  (conforms_among_iff hn.wellFormed).1 hn pointer h.mem_references

end Among

/-- Two documents in which the allowed pointers name the same values, where again only
allowed pointers stand. -/
structure Agree (allowed : String → Prop) (root other : Json) : Prop where
  self : selfReference other = selfReference root
  selfConforms : Conforms (Among allowed) (selfReference root)
  target : ∀ pointer target, allowed pointer → isPointer pointer →
    Pointer.resolve root pointer = .ok target →
      Pointer.resolve other pointer = .ok target ∧ Conforms (Among allowed) target

section Agree

variable {allowed : String → Prop} {root other node v : Json} {followed : List String}

/-- Following references comes to the same in documents that agree. -/
theorem Follows.agree (ha : Agree allowed root other) (hn : Conforms (Among allowed) node)
    (h : Follows root node v followed) :
    Follows other node v followed ∧ (∀ r ∈ followed, allowed r) ∧
      Conforms (Among allowed) v := by
  induction h with
  | done hd => exact ⟨.done hd, by simp, hn⟩
  | self hb =>
    have hself : Follows other _ _ [] := .self hb
    rw [ha.self] at hself
    exact ⟨hself, by simp, hb.conforms hn ha.selfConforms⟩
  | @pointer node target v put pointer more hb hp ht _ ih =>
    have hpointer : allowed pointer := hb.among hn
    obtain ⟨hother, htarget⟩ := ha.target pointer target hpointer hp ht
    obtain ⟨hfollows, hall, hv⟩ := ih htarget
    exact ⟨.pointer hb hp hother hfollows, List.forall_mem_cons.2 ⟨hpointer, hall⟩,
      hb.conforms hn hv⟩

theorem dereferenceTraced_agree (ha : Agree allowed root other)
    (hn : Conforms (Among allowed) node)
    (h : dereferenceTraced root node = .ok (v, followed)) :
    dereferenceTraced other node = .ok (v, followed) ∧ (∀ r ∈ followed, allowed r) ∧
      Conforms (Among allowed) v := by
  obtain ⟨hfollows, hnodup⟩ := dereferenceTraced_eq_ok.1 h
  obtain ⟨hother, hall⟩ := hfollows.agree ha hn
  exact ⟨dereferenceTraced_eq_ok.2 ⟨hother, hnodup⟩, hall⟩

end Agree

end Json
end Rulebook
