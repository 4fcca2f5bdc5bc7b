import Rulebook.Proofs.Reference.Closed

/-! Following the references of a node. It goes from pointer to pointer, none of them
twice, and what comes of it has no reference on itself or on its `items`. -/

namespace Rulebook
namespace Json
open Outcome

/-- There is no reference on a node, and none on its `items`. -/
def Dereferenced (v : Json) : Prop :=
  v.get? "$ref" = none ∧ ∀ items, v.get? "items" = some items → items.get? "$ref" = none

/-- Follow the references of a node by the pointers in `unused` alone. -/
def dereferenceWithin (root : Json) (unused : List String) (node : Json) :
    Except ResolveError (Json × List String) :=
  dereferenceWith (expandReference root unused) node

def withItems (members : Members) (items target : Json) : Json :=
  .object (Members.insert "items" (.object (mergeItems items target)) members)

/-- A reference is on the node, or on its `items`, or there is none to follow. -/
theorem dereferenceWith_cases (expand : Json → Except ResolveError (Json × List String))
    (node : Json) :
    (∃ reference, node.get? "$ref" = some reference ∧
      dereferenceWith expand node = expand reference) ∨
    (node.get? "$ref" = none ∧ ∃ members items reference, node = .object members ∧
      Members.get? "items" members = some items ∧ items.get? "$ref" = some reference ∧
      dereferenceWith expand node =
        (expand reference).map fun r => (withItems members items r.1, r.2)) ∨
    (Dereferenced node ∧ dereferenceWith expand node = .ok (node, [])) := by
  unfold dereferenceWith
  cases hr : node.get? "$ref" with
  | some reference => exact .inl ⟨reference, rfl, rfl⟩
  | none =>
    refine .inr ?_
    cases node with
    | object members =>
      cases hi : Members.get? "items" members with
      | none =>
        refine .inr ⟨⟨hr, by simp [hi]⟩, ?_⟩
        simp [hi]
      | some items =>
        cases hir : items.get? "$ref" with
        | none =>
          refine .inr ⟨⟨hr, by simp [hi, hir]⟩, ?_⟩
          simp [hi, hir]
        | some reference =>
          refine .inl ⟨rfl, members, items, reference, rfl, hi, hir, ?_⟩
          simp only [get?_object, hi, hir]
          cases expand reference <;> rfl
    | _ => exact .inr ⟨⟨hr, by simp [get?]⟩, rfl⟩

/-- There is nothing to follow from a dereferenced node. -/
theorem dereferenceWithin_of_dereferenced {root node : Json} {unused : List String}
    (h : node.Dereferenced) : dereferenceWithin root unused node = .ok (node, []) := by
  rcases dereferenceWith_cases (expandReference root unused) node with
    ⟨reference, hr, -⟩ | ⟨-, members, items, reference, rfl, hi, hir, -⟩ | ⟨-, he⟩
  · rw [h.1] at hr
    contradiction
  · rw [h.2 items hi] at hir
    contradiction
  · exact he

theorem dereferenceTraced_of_dereferenced {root node : Json} (h : node.Dereferenced) :
    dereferenceTraced root node = .ok (node, []) := dereferenceWithin_of_dereferenced h

theorem dereferenceProperty_eq_ok {document node v : Json} :
    dereferenceProperty document node = .ok v ↔
      ∃ target followed, dereferenceTraced document node = .ok (target, followed) ∧
        v = withDisplay node.display target := by
  unfold dereferenceProperty dereference
  cases dereferenceTraced document node with
  | error e => simp [Except.map]
  | ok r => simp [Except.map, Prod.ext_iff, eq_comm]

theorem dereferenceProperty_eq_error {document node : Json} {e : ResolveError} :
    dereferenceProperty document node = .error e ↔ dereferenceTraced document node = .error e := by
  simp [dereferenceProperty, dereference, map_eq_error]

theorem dereferenceProperty_of_dereferenced {document node : Json} (h : node.Dereferenced) :
    dereferenceProperty document node = .ok node :=
  dereferenceProperty_eq_ok.2
    ⟨node, [], dereferenceTraced_of_dereferenced h, (withDisplay_display node).symm⟩

theorem expandReference_string (root : Json) (unused : List String) (pointer : String) :
    expandReference root unused (.string pointer) =
      if pointer = "#" then .ok (selfReference root, [])
      else if !isPointer pointer then .error (.externalReference pointer)
      else if pointer ∈ unused then
        Pointer.resolve root pointer >>= fun target =>
          (dereferenceWithin root (without pointer unused) target).map fun r =>
            (r.1, pointer :: r.2)
      else .error (.circular pointer) := by
  rw [expandReference]
  split_ifs
  · rfl
  · rfl
  · cases Pointer.resolve root pointer with
    | error e => rfl
    | ok target =>
      simp only [dereferenceWithin, bind, Except.bind]
      cases dereferenceWith (expandReference root (without pointer unused)) target <;> rfl
  · rfl

theorem expandReference_of_asString?_none {root reference : Json} {unused : List String}
    (h : reference.asString? = none) :
    expandReference root unused reference = .error (.unsupported reference.compact .notText) := by
  rw [expandReference]
  cases reference <;> simp_all [asString?]

/-- A reference stands for the whole document or for what its pointer leads to. -/
theorem expandReference_eq_ok {root reference v : Json} {unused followed : List String} :
    expandReference root unused reference = .ok (v, followed) ↔
      reference = .string "#" ∧ v = selfReference root ∧ followed = [] ∨
        ∃ pointer target more, reference = .string pointer ∧ pointer ≠ "#" ∧ isPointer pointer ∧
          pointer ∈ unused ∧ Pointer.resolve root pointer = .ok target ∧
          dereferenceWithin root (without pointer unused) target = .ok (v, more) ∧
          followed = pointer :: more := by
  cases reference with
  | string pointer =>
    rw [expandReference_string]
    constructor
    · intro h
      split_ifs at h with hs hp hu
      · obtain ⟨rfl, rfl⟩ := Prod.mk.inj (Except.ok.inj h)
        exact .inl ⟨by rw [hs], rfl, rfl⟩
      · obtain ⟨target, ht, h⟩ := bind_eq_ok.1 h
        obtain ⟨⟨w, more⟩, hw, h⟩ := map_eq_ok.1 h
        obtain ⟨rfl, rfl⟩ := Prod.mk.inj h
        exact .inr ⟨pointer, target, more, rfl, hs, by simpa using hp, hu, ht, hw, rfl⟩
    · rintro (⟨hs, rfl, rfl⟩ | ⟨_, target, more, hp, hs, hptr, hu, ht, hw, rfl⟩)
      · simp [string.inj hs]
      · obtain rfl := string.inj hp
        simp only [hs, hptr, hu, ↓reduceIte, Bool.not_true, Bool.false_eq_true]
        exact bind_eq_ok.2 ⟨target, ht, by rw [hw]; rfl⟩
  | _ =>
    rw [expandReference_of_asString?_none rfl]
    simp

/-- A reference is on the node, or on its `items`, and the node becomes what the last
argument makes of the value that the reference stands for. -/
inductive Bears : Json → Json → (Json → Json) → Prop where
  | own {node reference : Json} (h : node.get? "$ref" = some reference) : Bears node reference id
  | items {members : Members} {items reference : Json}
      (hr : Members.get? "$ref" members = none) (hi : Members.get? "items" members = some items)
      (hir : items.get? "$ref" = some reference) :
      Bears (.object members) reference (withItems members items)

inductive Follows (root : Json) : Json → Json → List String → Prop where
  | done {node : Json} (h : node.Dereferenced) : Follows root node node []
  | self {node : Json} {put : Json → Json} (hb : Bears node (.string "#") put) :
      Follows root node (put (selfReference root)) []
  | pointer {node target v : Json} {put : Json → Json} {pointer : String} {more : List String}
      (hb : Bears node (.string pointer) put) (hp : isPointer pointer)
      (ht : Pointer.resolve root pointer = .ok target) (h : Follows root target v more) :
      Follows root node (put v) (pointer :: more)

section Follows

variable {root node v : Json} {unused followed : List String}

theorem Bears.inside {reference : Json} {put : Json → Json} (h : Bears node reference put) :
    ∃ v, Inside v node ∧ v.get? "$ref" = some reference := by
  cases h with
  | own h => exact ⟨_, .here, h⟩
  | items _ hi hir => exact ⟨_, .member (Members.mem_of_get? hi) .here, hir⟩

theorem Bears.dereferenceWith {reference : Json} {put : Json → Json} (h : Bears node reference put)
    (expand : Json → Except ResolveError (Json × List String)) :
    dereferenceWith expand node = (expand reference).map fun r => (put r.1, r.2) := by
  cases h with
  | own h =>
    have hwith : Json.dereferenceWith expand node = expand reference := by
      simp [Json.dereferenceWith, h]
    rw [hwith]
    cases expand reference <;> rfl
  | @items members items _ hr hi hir =>
    simp only [Json.dereferenceWith, get?_object, hr, hi, hir]
    cases expand reference <;> rfl

theorem bears_or_dereferenced (node : Json) :
    (∃ reference put, Bears node reference put) ∨ node.Dereferenced := by
  rcases dereferenceWith_cases (fun _ => .error (.circular "")) node with
    ⟨reference, hr, -⟩ | ⟨hr, members, items, reference, rfl, hi, hir, -⟩ | ⟨hd, -⟩
  · exact .inl ⟨reference, _, .own hr⟩
  · exact .inl ⟨reference, _, .items hr hi hir⟩
  · exact .inr hd

theorem follows_of_dereferenceWithin (h : dereferenceWithin root unused node = .ok (v, followed)) :
    Follows root node v followed ∧ followed.Nodup ∧ followed ⊆ unused := by
  induction hn : unused.length using Nat.strongRecOn generalizing unused node v followed with
  | ind n ih =>
    rcases bears_or_dereferenced node with ⟨reference, put, hb⟩ | hd
    · rw [dereferenceWithin, hb.dereferenceWith] at h
      obtain ⟨⟨w, trace⟩, hw, hput⟩ := map_eq_ok.1 h
      obtain ⟨rfl, rfl⟩ := Prod.mk.inj hput
      rcases expandReference_eq_ok.1 hw with
        ⟨rfl, rfl, rfl⟩ | ⟨pointer, target, more, rfl, -, hp, hu, ht, htarget, rfl⟩
      · exact ⟨.self hb, List.nodup_nil, List.nil_subset _⟩
      · have hlt := length_without_lt hu
        obtain ⟨hfollows, hnodup, hsub⟩ := ih _ (by omega) htarget rfl
        have hnot : pointer ∉ more := fun hm => by simpa [without] using hsub hm
        have hless : without pointer unused ⊆ unused := List.filter_subset_self _
        exact ⟨.pointer hb hp ht hfollows, List.nodup_cons.2 ⟨hnot, hnodup⟩,
          List.cons_subset.2 ⟨hu, List.Subset.trans hsub hless⟩⟩
    · rw [dereferenceWithin_of_dereferenced hd] at h
      obtain ⟨rfl, rfl⟩ := Prod.mk.inj (Except.ok.inj h)
      exact ⟨.done hd, List.nodup_nil, List.nil_subset _⟩

theorem Follows.dereferenceWithin (h : Follows root node v followed) (hnodup : followed.Nodup)
    (hsub : followed ⊆ unused) : dereferenceWithin root unused node = .ok (v, followed) := by
  induction h generalizing unused with
  | done hd => exact dereferenceWithin_of_dereferenced hd
  | self hb =>
    have hself : expandReference root unused (.string "#") = .ok (selfReference root, []) :=
      expandReference_eq_ok.2 (.inl ⟨rfl, rfl, rfl⟩)
    rw [Json.dereferenceWithin, hb.dereferenceWith, hself]
    rfl
  | @pointer node target v put pointer more hb hp ht h ih =>
    obtain ⟨hnot, hnodup⟩ := List.nodup_cons.1 hnodup
    obtain ⟨hu, hsub⟩ := List.cons_subset.1 hsub
    have hleft : more ⊆ without pointer unused := by
      intro r hr
      refine List.mem_filter.2 ⟨hsub hr, bne_iff_ne.2 ?_⟩
      rintro rfl
      exact hnot hr
    have hne : pointer ≠ "#" := ne_hash_of_isPointer hp
    have hexpand : expandReference root unused (.string pointer) = .ok (v, pointer :: more) :=
      expandReference_eq_ok.2
        (.inr ⟨pointer, target, more, rfl, hne, hp, hu, ht, ih hnodup hleft, rfl⟩)
    rw [Json.dereferenceWithin, hb.dereferenceWith, hexpand]
    rfl

/-- References are followed as long as the pointers are allowed and no pointer comes
twice. -/
theorem dereferenceWithin_eq_ok :
    dereferenceWithin root unused node = .ok (v, followed) ↔
      Follows root node v followed ∧ followed.Nodup ∧ followed ⊆ unused :=
  ⟨follows_of_dereferenceWithin, fun h => h.1.dereferenceWithin h.2.1 h.2.2⟩

end Follows

section Conforms

variable {q : Json → Prop} {root : Json}

theorem distinct_mergeItems {items target : Json} (hi : items.DistinctKeys) :
    (mergeItems items target).Distinct := by
  refine Members.Distinct.extend ?_ _
  cases items with
  | object members => exact (Members.Distinct.erase hi "$ref").1
  | _ => exact List.nodup_nil

/-- Where nothing of the items is left under a keyword, merged items have that of the target. -/
theorem get?_mergeItems_of_erase {items target : Json} {key : String} (ht : target.DistinctKeys)
    (he : Members.get? key (Members.erase "$ref" (items.asObject?.getD [])) = none) :
    Members.get? key (mergeItems items target) = target.get? key := by
  unfold mergeItems
  generalize Members.erase "$ref" (items.asObject?.getD []) = rest at he ⊢
  cases target with
  | object members => simp [asObject?, Members.get?_extend ht, he]
  | _ => exact he

/-- The `$ref` of merged items is that of the target. -/
theorem get?_ref_mergeItems {items target : Json} (hi : items.DistinctKeys)
    (ht : target.DistinctKeys) :
    Members.get? "$ref" (mergeItems items target) = target.get? "$ref" := by
  refine get?_mergeItems_of_erase ht (Members.get?_eq_none_iff.2 ?_)
  cases items with
  | object members => exact (Members.Distinct.erase hi "$ref").2
  | _ => simp [asObject?, Members.erase, Members.keys]

theorem Conforms.mergeItems {items target : Json} (hi : Conforms q items)
    (ht : Conforms q target) : Conforms q (.object (mergeItems items target)) := by
  have hd : Members.Distinct (Json.mergeItems items target) := distinct_mergeItems hi.self.1
  have hr := get?_ref_mergeItems hi.self.1 ht.self.1
  refine Everywhere.object (ht.self.of_get? hd hr) fun m hm => ?_
  rcases Members.mem_extend hm with hm | hm
  · cases items with
    | object members => exact Everywhere.members hi _ (Members.mem_erase hm)
    | _ => simp [asObject?, Members.erase] at hm
  · cases target with
    | object members => exact Everywhere.members ht _ hm
    | _ => simp [asObject?] at hm

theorem Conforms.withItems {members : Members} {items target : Json}
    (hm : Conforms q (.object members)) (hi : Conforms q items) (ht : Conforms q target) :
    Conforms q (withItems members items target) := by
  refine Everywhere.insert (Everywhere.members hm) (hi.mergeItems ht) ?_
  refine hm.self.of_get? (Members.Distinct.insert hm.self.1 _ _) ?_
  exact Members.get?_insert_of_ne (by decide) _ _

/-- Merged items have no reference when the target is dereferenced. -/
theorem dereferenced_withItems {members : Members} {items target : Json}
    (hr : Members.get? "$ref" members = none) (hi : items.DistinctKeys)
    (ht : target.DistinctKeys) (hd : target.Dereferenced) :
    (withItems members items target).Dereferenced := by
  refine ⟨?_, fun v hv => ?_⟩
  · rw [Json.withItems, get?_object, Members.get?_insert_of_ne (by decide), hr]
  · rw [Json.withItems, get?_object, Members.get?_insert_self] at hv
    obtain rfl := Option.some.inj hv
    rw [get?_object, get?_ref_mergeItems hi ht]
    exact hd.1

theorem dereferenced_selfReference (root : Json) : (selfReference root).Dereferenced := by
  simp [Dereferenced, selfReference, Members.get?]

theorem dereferenced_withDisplay {node v : Json} (h : v.Dereferenced) :
    (withDisplay node.display v).Dereferenced := by
  rw [Dereferenced, get?_withDisplay_of_notMem (by decide), get?_withDisplay_of_notMem (by decide)]
  exact h

section Bears

variable {node reference target : Json} {put : Json → Json}

theorem Bears.conforms (h : Bears node reference put) (hn : Conforms q node)
    (ht : Conforms q target) : Conforms q (put target) := by
  cases h with
  | own => exact ht
  | items _ hi _ => exact hn.withItems (Everywhere.get? hn hi) ht

theorem Bears.dereferenced (h : Bears node reference put) (hn : Conforms q node)
    (ht : Conforms q target) (hd : target.Dereferenced) : (put target).Dereferenced := by
  cases h with
  | own => exact hd
  | items hr hi _ =>
    have hitems : Conforms q _ := Everywhere.get? hn hi
    exact dereferenced_withItems hr hitems.self.1 ht.self.1 hd

end Bears

/-- What the references of a node lead to conforms to what the document and the node
do, and has no reference left. -/
theorem Follows.conforms {node v : Json} {followed : List String} (hroot : Conforms q root)
    (hn : Conforms q node) (h : Follows root node v followed) :
    Conforms q v ∧ v.Dereferenced := by
  induction h with
  | done hd => exact ⟨hn, hd⟩
  | self hb =>
    have hd := dereferenced_selfReference root
    exact ⟨hb.conforms hn hroot.selfReference, hb.dereferenced hn hroot.selfReference hd⟩
  | pointer hb _ ht _ ih =>
    obtain ⟨hv, hd⟩ := ih (Everywhere.inside hroot (Pointer.inside_of_resolve ht))
    exact ⟨hb.conforms hn hv, hb.dereferenced hn hv hd⟩

theorem Conforms.dereferenceWithin (hroot : Conforms q root) {unused followed : List String}
    {node v : Json} (hn : Conforms q node)
    (h : dereferenceWithin root unused node = .ok (v, followed)) :
    Conforms q v ∧ v.Dereferenced :=
  (follows_of_dereferenceWithin h).1.conforms hroot hn

theorem Conforms.dereferenceTraced (hroot : Conforms q root) {followed : List String}
    {node v : Json} (hn : Conforms q node) (h : dereferenceTraced root node = .ok (v, followed)) :
    Conforms q v ∧ v.Dereferenced :=
  hroot.dereferenceWithin hn h

/-- A dereferenced property conforms to what the document does. -/
theorem conforms_dereferenceProperty {q : Json → Prop} {document node v : Json}
    (hd : Conforms q document) (hn : Conforms q node)
    (h : dereferenceProperty document node = .ok v) : Conforms q v ∧ v.Dereferenced := by
  obtain ⟨target, followed, ht, rfl⟩ := dereferenceProperty_eq_ok.1 h
  obtain ⟨hc, hder⟩ := hd.dereferenceWithin hn ht
  exact ⟨hn.withDisplay hc, dereferenced_withDisplay hder⟩

/-- What a failure to follow references from a node complains of: a pointer that leads
nowhere or back, or a reference out of the document on the way. -/
theorem dereferenceWithin_eq_error {unused : List String} {node : Json} {e : ResolveError}
    (h : dereferenceWithin root unused node = .error e) :
    e.Local ∨ ∃ reference v, (Inside v node ∨ Inside v root) ∧
      v.get? "$ref" = some (.string reference) ∧ e = .externalReference reference := by
  induction hlen : unused.length using Nat.strongRecOn generalizing unused node with
  | ind n ih =>
    rcases bears_or_dereferenced node with ⟨reference, put, hb⟩ | hd
    · rw [Json.dereferenceWithin, hb.dereferenceWith, map_eq_error] at h
      obtain ⟨v, hv, hr⟩ := hb.inside
      cases reference with
      | string pointer =>
        rw [expandReference_string] at h
        split_ifs at h with hself hp hu
        · exact .inr ⟨pointer, v, .inl hv, hr, (Except.error.inj h).symm⟩
        · have hlt := length_without_lt hu
          rcases bind_eq_error.1 h with h | ⟨target, ht, h⟩
          · exact .inl (Pointer.direct_of_resolve h).local
          · refine (ih _ (by omega) (map_eq_error.1 h) rfl).imp_right ?_
            rintro ⟨r, w, hw, hget, he⟩
            have htarget := Pointer.inside_of_resolve ht
            exact ⟨r, w, .inr (hw.elim (fun hw => hw.trans htarget) id), hget, he⟩
        · exact .inl (.inr ⟨pointer, by simpa using hp, (Except.error.inj h).symm⟩)
      | _ =>
        rw [expandReference_of_asString?_none rfl] at h
        obtain rfl := Except.error.inj h
        exact .inl (.inl ⟨by simp, by simp⟩)
    · rw [dereferenceWithin_of_dereferenced hd] at h
      contradiction

/-- In a closed document a node fails to be dereferenced only for reasons that
lie inside the document. -/
theorem Closed.inward_of_dereferenceTraced (hroot : root.Closed) {node : Json}
    {e : ResolveError} (hn : node.Closed) (h : dereferenceTraced root node = .error e) :
    e.Inward := by
  rcases dereferenceWithin_eq_error h with h | ⟨r, v, hv, hget, rfl⟩
  · exact h.inward
  · have hclosed : v.Closed := hv.elim (Everywhere.inside hn) (Everywhere.inside hroot)
    intro reference he
    obtain rfl := ResolveError.externalReference.inj he
    exact (hclosed.self.2 _ hget).inward _ rfl

end Conforms

end Json

section Plain
open Json

/-- No reference stands under the `items` of a node. -/
def PlainItems (node : Json) : Prop :=
  ∀ items, node.get? "items" = some items → items.get? "$ref" = none

instance : DecidablePred PlainItems := fun node =>
  match h : node.get? "items" with
  | some items => decidable_of_iff (items.get? "$ref" = none) (by simp [PlainItems, h])
  | none => isTrue fun items hi => by simp [h] at hi

variable {root node v : Json} {followed : List String} {pointer : String}

/-- A node on which no reference stands under `items` gives way to what its reference leads to. -/
theorem PlainItems.bears {reference : Json} {put : Json → Json} (h : PlainItems node)
    (hb : Bears node reference put) : put = id := by
  cases hb with
  | own => rfl
  | items _ hi hir => simp [h _ hi] at hir

/-- Following references leads from values of a document to values of the document, or to what
stands for the whole of it. -/
theorem Json.Follows.everywhere {p : Json → Prop} (hplain : ∀ w, p w → PlainItems w)
    (h : Follows root node v followed) (hroot : Everywhere p root)
    (hself : Everywhere p (selfReference root)) (hnode : Everywhere p node) : Everywhere p v := by
  induction h with
  | done => exact hnode
  | self hb =>
    rw [(hplain _ hnode.self).bears hb]
    exact hself
  | pointer hb _ ht _ ih =>
    rw [(hplain _ hnode.self).bears hb]
    exact ih (hroot.inside (Pointer.inside_of_resolve ht))

theorem plainItems_selfReference (h : Everywhere PlainItems root) :
    Everywhere PlainItems (selfReference root) :=
  everywhere_selfReference h (fun items hi => by simp [selfReference, Members.get?] at hi)
    (fun items hi => by simp [get?] at hi)

theorem Json.Follows.plainItems (h : Follows root node v followed)
    (hroot : Everywhere PlainItems root) (hnode : Everywhere PlainItems node) :
    Everywhere PlainItems v :=
  h.everywhere (fun _ h => h) hroot (plainItems_selfReference hroot) hnode

/-- What a pointer leads to on its own is what it leads to on the way. -/
theorem Json.Follows.of_mem (h : Follows root node v followed) (hroot : Everywhere PlainItems root)
    (hnode : Everywhere PlainItems node) (hm : pointer ∈ followed) :
    ∃ target more, Pointer.resolve root pointer = .ok target ∧ Follows root target v more := by
  induction h with
  | done => simp at hm
  | self => simp at hm
  | @pointer node target v put first more hb hp ht h ih =>
    rw [hnode.self.bears hb]
    rcases List.mem_cons.1 hm with rfl | hm
    · exact ⟨target, more, ht, h⟩
    · exact ih (hroot.inside (Pointer.inside_of_resolve ht)) hm

end Plain

end Rulebook
