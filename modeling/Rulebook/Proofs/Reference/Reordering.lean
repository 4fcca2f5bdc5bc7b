import Mathlib.Data.List.Perm.Basic
import Rulebook.Proofs.Reference.External

/-! The members of one node in another order. The document keeps its leaves, and
it lists the same external references in another order. -/

namespace Rulebook
namespace Json
open Outcome

def reorder (place : List String) (members : Members) (document : Json) : Json :=
  document.modifyAt place fun _ => .object members

theorem asString?_of_at_object {v : Json} {place : List String} {members : Members}
    (h : At v place (.object members)) : v.asString? = none := by
  cases v with
  | string s =>
    cases h
  | _ => rfl

section Reorder

variable {document : Json} {place : List String} {members other : Members}

theorem WellFormed.reorder (hd : document.WellFormed) (hat : At document place (.object members))
    (hp : other.Perm members) : (document.reorder place other).WellFormed := by
  have hm : (Json.object members).WellFormed := Everywhere.inside hd hat.inside
  refine hd.modifyAt place fun _ _ => Everywhere.object ?_ fun m hmem => ?_
  · exact (hp.map Prod.fst).nodup_iff.2 hm.self
  · exact hm.members m (hp.subset hmem)

/-- The texts under the keys of a value stay as they are. -/
theorem text?_reorder (hat : At document place (.object members)) (hd : Members.Distinct members)
    (hp : other.Perm members) (key : String) :
    (document.reorder place other).text? key = document.text? key := by
  cases place with
  | nil =>
    obtain rfl := At.nil_iff.1 hat
    simp only [reorder, modifyAt_nil, text?, get?_object, hd.get?_of_perm hp]
  | cons segment rest =>
    rw [reorder, modifyAt_cons]
    unfold text?
    by_cases hk : key = segment
    · subst hk
      rw [get?_modifyChild_self]
      obtain ⟨x, hx, hat⟩ := At.cons_iff.1 hat
      cases document with
      | object ms =>
        obtain ⟨y, hy, hyx⟩ := At.object_iff.1 hx
        obtain rfl := At.nil_iff.1 hyx
        have hafter := asString?_of_at_object (hat.modifyAt_self fun _ => .object other)
        simp [hy, asString?_of_at_object hat, hafter]
      | _ => rfl
    · rw [get?_modifyChild_of_ne hk]

/-- What is at a position of the reordered document has the same texts as what is
there in the document. -/
theorem At.of_reorder {path : List String} {w : Json} (hat : At document place (.object members))
    (hd : Members.Distinct members) (hp : other.Perm members)
    (h : At (document.reorder place other) path w) :
    ∃ u, At document path u ∧ ∀ key, w.text? key = u.text? key := by
  induction path generalizing document place with
  | nil =>
    obtain rfl := At.nil_iff.1 h
    exact ⟨document, .here, text?_reorder hat hd hp⟩
  | cons segment more ih =>
    cases place with
    | nil =>
      obtain rfl := At.nil_iff.1 hat
      obtain ⟨x, hx, hw⟩ := At.object_iff.1 h
      rw [hd.get?_of_perm hp] at hx
      exact ⟨w, .member hx hw, fun _ => rfl⟩
    | cons first rest =>
      obtain ⟨y, hy, hw⟩ := At.cons_iff.1 h
      obtain ⟨x, hx, hbelow⟩ := At.cons_iff.1 hat
      rw [reorder, modifyAt_cons] at hy
      by_cases hs : segment = first
      · subst hs
        obtain rfl := (At.modifyChild_self_iff hx _).1 hy
        obtain ⟨u, hu, htext⟩ := ih hbelow hw
        exact ⟨u, hx.append hu, htext⟩
      · rw [At.modifyChild_of_ne_iff hx hs] at hy
        exact ⟨w, hy.append hw, fun _ => rfl⟩

/-- The leaves are where they were. -/
theorem At.reorder_iff {path : List String} {w : Json} (hat : At document place (.object members))
    (hd : Members.Distinct members) (hp : other.Perm members) (hw : w.isBranch = false) :
    At (document.reorder place other) path w ↔ At document path w := by
  induction place generalizing document path with
  | nil =>
    obtain rfl := At.nil_iff.1 hat
    rw [reorder, modifyAt_nil]
    cases path with
    | nil =>
      rw [At.nil_iff, At.nil_iff]
      constructor
      · rintro rfl
        obtain rfl : other = [] := by simpa [isBranch, FlattenOptions.descends] using hw
        rw [hp.nil_eq]
      · rintro rfl
        obtain rfl : members = [] := by simpa [isBranch, FlattenOptions.descends] using hw
        rw [hp.eq_nil]
    | cons segment more => rw [At.object_iff, At.object_iff, hd.get?_of_perm hp]
  | cons first rest ih =>
    obtain ⟨x, hx, hbelow⟩ := At.cons_iff.1 hat
    rw [reorder, modifyAt_cons]
    cases path with
    | nil =>
      -- what is around the node is a branch before and after
      have hafter := isBranch_of_at_cons ((At.modifyChild_self_iff hx
        (modifyAt rest fun _ => .object other)).2 rfl)
      rw [At.nil_iff, At.nil_iff]
      constructor
      · rintro rfl
        rw [hafter] at hw
        contradiction
      · rintro rfl
        rw [isBranch_of_at_cons hx] at hw
        contradiction
    | cons segment more =>
      rw [At.cons_iff, At.cons_iff (v := document)]
      by_cases hs : segment = first
      · subst hs
        simp only [At.modifyChild_self_iff hx, exists_eq_left']
        refine (ih hbelow).trans ?_
        constructor
        · exact fun hw => ⟨x, hx, hw⟩
        · rintro ⟨y, hy, hw⟩
          obtain rfl := hx.unique hy
          exact hw
      · simp only [At.modifyChild_of_ne_iff hx hs]

theorem leaves_reorder_perm (hwf : document.WellFormed)
    (hat : At document place (.object members)) (hp : other.Perm members) :
    ((document.reorder place other).leaves {}).Perm (document.leaves {}) := by
  have hd : Members.Distinct members := (Everywhere.inside hwf hat.inside).self
  have hwf' := hwf.reorder hat hp
  refine (List.perm_ext_iff_of_nodup (nodup_leaves hwf').of_map (nodup_leaves hwf).of_map).2 ?_
  intro leaf
  rw [mem_leaves_iff hwf', mem_leaves_iff hwf]
  refine and_congr_right fun _ => ?_
  constructor
  · rintro ⟨h, hb⟩
    exact ⟨(At.reorder_iff hat hd hp hb).1 h, hb⟩
  · rintro ⟨h, hb⟩
    exact ⟨(At.reorder_iff hat hd hp hb).2 h, hb⟩

/-- The absolute `id` nearest to a leaf stays the same. -/
theorem nearestId_reorder {path : List String} {w : Json}
    (hat : At document place (.object members)) (hd : Members.Distinct members)
    (hp : other.Perm members) (h : At (document.reorder place other) path w) :
    (document.reorder place other).nearestId path = document.nearestId path := by
  have hdepth : ∀ depth, ((document.reorder place other).at? (path.take depth)).bind absoluteId =
      (document.at? (path.take depth)).bind absoluteId := by
    intro depth
    have hsplit := h
    rw [← List.take_append_drop depth path] at hsplit
    obtain ⟨u, hu, -⟩ := hsplit.split
    obtain ⟨x, hx, htext⟩ := At.of_reorder hat hd hp hu
    rw [hu.at?_eq, hx.at?_eq]
    simp only [Option.bind_some, absoluteId, htext]
  unfold nearestId
  simp only [hdepth]

/-- A document with the members of a node in another order has the same external
references, in another order. -/
theorem externalReferences_reorder {sourceUrl : Option String} {items : List ExternalReference}
    (hwf : document.WellFormed) (hat : At document place (.object members))
    (hp : other.Perm members) (h : document.externalReferences sourceUrl = .ok items) :
    ∃ found, (document.reorder place other).externalReferences sourceUrl = .ok found ∧
      found.Perm items := by
  have hd : Members.Distinct members := (Everywhere.inside hwf hat.inside).self
  have hleaves := (leaves_reorder_perm hwf hat hp).filter fun leaf => leaf.outward?.isSome
  obtain ⟨found, hf, hperm⟩ := List.perm_comp_forall₂ hleaves (externalReferences_eq_ok.1 h)
  refine ⟨found, externalReferences_eq_ok.2 ?_, hperm⟩
  have hmem : ∀ leaf ∈ ((document.reorder place other).leaves {}).filter
      fun leaf => leaf.outward?.isSome, At (document.reorder place other) leaf.path leaf.value := by
    intro leaf hm
    exact ((mem_leaves_iff (hwf.reorder hat hp)).1 (List.mem_filter.1 hm).1).2.1
  refine ((List.forall₂_and_left _ _).2 ⟨hmem, hf⟩).imp ?_
  rintro leaf item ⟨hleaf, reference, hr, hitem⟩
  refine ⟨reference, hr, ?_⟩
  have hid := nearestId_reorder hat hd hp hleaf
  unfold externalReference? absoluteUrl baseUrl at hitem ⊢
  rw [hid]
  exact hitem

end Reorder

end Json
end Rulebook
