import Rulebook.Proofs.Reference.Chain

/-! A node whose references are followed, and a copy of it in which they have been
inlined. The first keeps the display text of the node alone, the copy that of every
node on the way; and only the first keeps what stands beside a reference under
`items`. -/

namespace Rulebook
namespace Json
open Outcome

def Copied (root v w : Json) : Prop := ∃ unused, inlineWithin root unused v = .ok w

section Inert

variable {expand : String → Except ResolveError Json}

theorem internalReference_of_get?_none {members : Members}
    (h : Members.get? "$ref" members = none) : internalReference members = none := by
  simp [internalReference, h]

/-- Inlining leaves a value alone in which no text stands under `$ref`. -/
theorem inlineWith_of_references_nil {v : Json} (h : v.references = []) :
    inlineWith expand v = .ok v ∧ inlineNameMap expand v = .ok v := by
  have hinside : ∀ {w : Json}, Inside w v → w.references = [] := fun hw =>
    List.subset_nil.1 (h ▸ references_of_inside hw)
  induction v using inductionOn with
  | scalar v ha ho =>
    rw [inlineNameMap_of_asObject?_none ho, inlineWith_scalar ha ho]
    exact ⟨rfl, rfl⟩
  | array items ih =>
    have hitem : ∀ v ∈ items, inlineWith expand v = .ok v ∧ inlineNameMap expand v = .ok v :=
      fun v hv => ih v hv (hinside (.item hv .here)) fun hw => hinside (.item hv hw)
    have hitems : inlineItems expand items = .ok items :=
      inlineItems_eq_ok.2 (List.forall₂_same.2 fun v hv => (hitem v hv).1)
    rw [inlineNameMap_of_asObject?_none rfl, inlineWith_array, hitems]
    exact ⟨rfl, rfl⟩
  | object members ih =>
    have hmember : ∀ m ∈ members,
        inlineWith expand m.2 = .ok m.2 ∧ inlineNameMap expand m.2 = .ok m.2 :=
      fun m hm => ih m hm (hinside (.member hm .here)) fun hw => hinside (.member hm hw)
    have hinternal : internalReference members = none := by
      cases hr : internalReference members with
      | none => rfl
      | some reference =>
        have hget : (Json.object members).get? "$ref" = some (.string reference) :=
          (internalReference_eq_some.1 hr).1
        have hmem := mem_references_of_get? .here hget
        simp [h] at hmem
    have hmembers : inlineMembers expand members = .ok members := by
      refine inlineMembers_eq_ok.2 (List.forall₂_same.2 fun m hm => ⟨rfl, ?_⟩)
      obtain ⟨hv, hmap⟩ := hmember m hm
      unfold inlineMember
      split_ifs
      · rfl
      · exact hmap
      · exact hv
    have hvalues : inlineValues expand members = .ok members :=
      inlineValues_eq_ok.2 (List.forall₂_same.2 fun m hm => ⟨rfl, (hmember m hm).1⟩)
    rw [inlineWith_object hinternal, hmembers, inlineNameMap_object, hvalues]
    exact ⟨rfl, rfl⟩

end Inert

def Kept (v w : Json) : Prop := v.asArray? = none → v.asObject? = none → w = v

theorem Kept.refl (v : Json) : Kept v v := fun _ _ => rfl

section Node

variable {expand : String → Except ResolveError Json} {v w : Json}

theorem kept_of_inlineWith (h : inlineWith expand v = .ok w) : Kept v w := by
  intro ha ho
  rw [inlineWith_scalar ha ho] at h
  exact (Except.ok.inj h).symm

theorem kept_of_inlineMember {key : String} (h : inlineMember expand key v = .ok w) : Kept v w := by
  intro ha ho
  unfold inlineMember at h
  rw [inlineNameMap_of_asObject?_none ho] at h
  split_ifs at h
  · exact (Except.ok.inj h).symm
  · exact kept_of_inlineWith h ha ho
  · exact kept_of_inlineWith h ha ho

/-- A node without a reference is copied member by member. -/
theorem get?_inlineWith (hv : v.get? "$ref" = none) (h : inlineWith expand v = .ok w)
    (key : String) :
    Option.Rel (fun x y => inlineMember expand key x = .ok y) (v.get? key) (w.get? key) := by
  cases v with
  | object members =>
    rw [inlineWith_object (internalReference_of_get?_none hv)] at h
    obtain ⟨others, ho, rfl⟩ := map_eq_ok.1 h
    exact (inlineMembers_eq_ok.1 ho).get? key
  | array items =>
    rw [inlineWith_array] at h
    obtain ⟨others, -, rfl⟩ := map_eq_ok.1 h
    exact .none
  | _ =>
    rw [inlineWith_scalar rfl rfl] at h
    obtain rfl := Except.ok.inj h
    exact .none

theorem get?_ref_inlineWith (hv : v.get? "$ref" = none) (h : inlineWith expand v = .ok w) :
    w.get? "$ref" = none := by
  rcases rel_cases (get?_inlineWith hv h "$ref") with ⟨-, hw⟩ | ⟨x, y, hx, -⟩
  · exact hw
  · simp [hv] at hx

theorem isObject_inlineWith (hv : v.get? "$ref" = none) (h : inlineWith expand v = .ok w) :
    w.isObject = v.isObject := by
  cases v with
  | object members =>
    rw [inlineWith_object (internalReference_of_get?_none hv)] at h
    obtain ⟨others, -, rfl⟩ := map_eq_ok.1 h
    rfl
  | array items =>
    rw [inlineWith_array] at h
    obtain ⟨others, -, rfl⟩ := map_eq_ok.1 h
    rfl
  | _ =>
    rw [inlineWith_scalar rfl rfl] at h
    rw [Except.ok.inj h]

theorem get?_eq_none_of_not_isObject {key : String} (h : v.isObject = false) :
    v.get? key = none := by
  cases v with
  | object members => simp [isObject, asObject?] at h
  | _ => rfl

end Node

inductive Refers (root node : Json) : Json → Prop where
  | whole (h : node.get? "$ref" = some (.string "#")) : Refers root node (selfReference root)
  | part {pointer : String} {target : Json} (h : node.get? "$ref" = some (.string pointer))
      (hp : isPointer pointer) (ht : Pointer.resolve root pointer = .ok target) :
      Refers root node target

def target? (root node : Json) : Option Json :=
  match node.get? "$ref" with
  | some (.string reference) =>
    if reference = "#" then some (selfReference root)
    else if isPointer reference then (Pointer.resolve root reference).toOption
    else none
  | _ => none

theorem refers_iff {root node v : Json} : Refers root node v ↔ target? root node = some v := by
  constructor
  · intro h
    cases h with
    | whole h => simp [target?, h]
    | part h hp ht => simp [target?, h, ne_hash_of_isPointer hp, hp, ht, Except.toOption]
  · intro h
    unfold target? at h
    split at h
    · rename_i reference hr
      split_ifs at h with hs hp
      · subst hs
        obtain rfl := Option.some.inj h
        exact .whole hr
      · cases ht : Pointer.resolve root reference with
        | error e => simp [ht, Except.toOption] at h
        | ok target =>
          obtain rfl : target = v := by simpa [ht, Except.toOption] using h
          exact .part hr hp ht
    · simp at h

instance {root node : Json} {p : Json → Prop} [DecidablePred p] :
    Decidable (∀ v, Refers root node v → p v) :=
  decidable_of_iff (∀ v ∈ target? root node, p v) (by simp [refers_iff])

theorem Refers.get?_ne_none {root node v : Json} (h : Refers root node v) :
    node.get? "$ref" ≠ none := by
  cases h with
  | whole h => simp [h]
  | part h => simp [h]

theorem Refers.everywhere {p : Json → Prop} {root node v : Json} (h : Refers root node v)
    (hroot : Everywhere p root) (hself : Everywhere p (selfReference root)) : Everywhere p v := by
  cases h with
  | whole => exact hself
  | part _ _ ht => exact hroot.inside (Pointer.inside_of_resolve ht)

theorem Refers.wellFormed {root node target : Json} (h : Refers root node target)
    (hroot : root.WellFormed) : target.WellFormed := by
  cases h with
  | whole _ => exact (Conforms.selfReference (wellFormed_iff_conforms.1 hroot)).wellFormed
  | part _ _ ht => exact Everywhere.inside hroot (Pointer.inside_of_resolve ht)

section Chain

variable {root node v w : Json} {unused others followed : List String}

/-- A reference that is followed and inlined: either way it comes to the whole
document, or goes on from the value that its pointer names. -/
theorem refers_of_expandReference {reference : Json} (hr : node.get? "$ref" = some reference)
    (hl : expandReference root unused reference = .ok (v, followed))
    (he : inlineWithin root others node = .ok w) :
    ∃ target u, Refers root node target ∧ w = withDisplay node.display u ∧
      (target = selfReference root ∧ v = target ∧ u = target ∨
        ∃ less fewer more, less.length < unused.length ∧
          dereferenceWithin root less target = .ok (v, more) ∧
          inlineWithin root fewer target = .ok u) := by
  obtain ⟨members, rfl⟩ : ∃ members, node = .object members := by
    cases node with
    | object members => exact ⟨members, rfl⟩
    | _ => simp [get?] at hr
  rw [inlineWithin_eq] at he
  rcases expandReference_eq_ok.1 hl with
    ⟨rfl, rfl, -⟩ | ⟨pointer, target, more, rfl, hne, hp, hu, ht, hd, -⟩
  · rw [inlineWith_reference (internalReference_eq_some.2 ⟨hr, .inl rfl⟩)] at he
    obtain ⟨u, hw, rfl⟩ := map_eq_ok.1 he
    rcases expandWithin_eq_ok.1 hw with ⟨-, rfl⟩ | ⟨hno, -⟩
    · exact ⟨_, _, .whole hr, rfl, .inl ⟨rfl, rfl, rfl⟩⟩
    · exact absurd rfl hno
  · rw [inlineWith_reference (internalReference_eq_some.2 ⟨hr, .inr hp⟩)] at he
    obtain ⟨u, hw, rfl⟩ := map_eq_ok.1 he
    rcases expandWithin_eq_ok.1 hw with ⟨hself, -⟩ | ⟨-, -, target', ht', hw⟩
    · exact absurd hself hne
    · obtain rfl := Except.ok.inj (ht.symm.trans ht')
      exact ⟨_, _, .part hr hp ht, rfl, .inr ⟨_, _, _, length_without_lt hu, hd, hw⟩⟩

/-- A member in which no text stands under `$ref` is copied as it is. -/
theorem get?_eq_of_inert {key : String} (hr : node.get? "$ref" = none)
    (hd : ∀ d, node.get? key = some d → d.references = [])
    (he : inlineWithin root others node = .ok w) : w.get? key = node.get? key := by
  rw [inlineWithin_eq] at he
  rcases rel_cases (get?_inlineWith hr he key) with ⟨hx, hy⟩ | ⟨d, y, hx, hy, hrel⟩
  · rw [hx, hy]
  · obtain ⟨hvalue, hmap⟩ := @inlineWith_of_references_nil (expandWithin root others) d (hd d hx)
    have hmember : inlineMember (expandWithin root others) key d = .ok d := by
      unfold inlineMember
      split_ifs
      · rfl
      · exact hmap
      · exact hvalue
    rw [hx, hy, Except.ok.inj (hmember.symm.trans hrel)]

/-- The `items` of a copy are a copy of the `items`. -/
theorem get?_items_inlineWithin (hr : node.get? "$ref" = none)
    (he : inlineWithin root others node = .ok w) :
    Option.Rel (fun x y => inlineWithin root others x = .ok y) (node.get? "items")
      (w.get? "items") := by
  rw [inlineWithin_eq] at he
  refine rel_imp (get?_inlineWith hr he "items") fun x y _ _ hrel => ?_
  rw [inlineWithin_eq]
  exact hrel

/-- The copy of a node whose references can be followed has no reference left, and
is an object when what they lead to is one. -/
theorem dereferenced_of_inlineWithin (hl : dereferenceWithin root unused node = .ok (v, followed))
    (he : inlineWithin root others node = .ok w) : w.Dereferenced ∧ w.isObject = v.isObject := by
  induction hlen : unused.length using Nat.strongRecOn
    generalizing unused others followed node v w with
  | ind n ih =>
    have hexpand : ∀ {x y t reference : Json} {more : List String}, x.get? "$ref" = some reference →
        expandReference root unused reference = .ok (t, more) →
        inlineWithin root others x = .ok y → y.Dereferenced ∧ y.isObject = t.isObject := by
      intro x y t reference more hx ht hy
      obtain ⟨target, u, -, rfl, hu⟩ := refers_of_expandReference hx ht hy
      rw [isObject_withDisplay]
      rcases hu with ⟨rfl, rfl, rfl⟩ | ⟨less, fewer, _, hlt, hd, hi⟩
      · exact ⟨dereferenced_withDisplay (dereferenced_selfReference root), rfl⟩
      · obtain ⟨hder, hobj⟩ := ih _ (by omega) hd hi rfl
        exact ⟨dereferenced_withDisplay hder, hobj⟩
    rcases dereferenceWith_cases (expandReference root unused) node with
      ⟨reference, hr, heq⟩ | ⟨hr, members, items, reference, rfl, hi, hir, heq⟩ | ⟨hd, heq⟩
    · rw [dereferenceWithin, heq] at hl
      exact hexpand hr hl he
    · rw [dereferenceWithin, heq] at hl
      obtain ⟨⟨t, more⟩, ht, hv⟩ := map_eq_ok.1 hl
      obtain ⟨rfl, -⟩ := Prod.mk.inj hv
      have hcopy := @get?_items_inlineWithin root (.object members) _ _ hr he
      rw [inlineWithin_eq] at he
      have hobj := isObject_inlineWith (v := .object members) hr he
      refine ⟨⟨get?_ref_inlineWith (v := .object members) hr he, fun z hz => ?_⟩, hobj⟩
      rw [get?_object, hi, hz, Option.rel_some_some] at hcopy
      exact (hexpand hir ht hcopy).1.1
    · rw [dereferenceWithin, heq] at hl
      obtain ⟨rfl, -⟩ := Prod.mk.inj (Except.ok.inj hl)
      rw [inlineWithin_eq] at he
      refine ⟨⟨get?_ref_inlineWith hd.1 he, fun z hz => ?_⟩, isObject_inlineWith hd.1 he⟩
      rcases rel_cases (get?_inlineWith hd.1 he "items") with ⟨-, hy⟩ | ⟨x, y, hx, hy, hrel⟩
      · simp [hy] at hz
      · obtain rfl := Option.some.inj (hy.symm.trans hz)
        exact get?_ref_inlineWith (hd.2 x hx) hrel

end Chain

inductive Leads (root node : Json) : Json → Prop where
  | here : Leads root node node
  | step {x y : Json} (h : Leads root node x) (hr : Refers root x y) : Leads root node y

theorem Leads.trans {root u v w : Json} (hu : Leads root u v) (hv : Leads root v w) :
    Leads root u w := by
  induction hv with
  | here => exact hu
  | step _ hr ih => exact ih.step hr

theorem Refers.leads {root v w : Json} (h : Refers root v w) : Leads root v w := .step .here h

theorem Leads.everywhere {p : Json → Prop} {root v w : Json} (h : Leads root v w)
    (hroot : Everywhere p root) (hself : Everywhere p (selfReference root))
    (hv : Everywhere p v) : Everywhere p w := by
  cases h with
  | here => exact hv
  | step _ hr => exact hr.everywhere hroot hself

theorem Leads.eq_of_get?_none {root v w : Json} (h : Leads root v w)
    (hv : v.get? "$ref" = none) : w = v := by
  induction h with
  | here => rfl
  | step _ hr ih =>
    subst ih
    exact absurd hv hr.get?_ne_none

/-- A node shows the same display text whether the references from it are followed
or inlined: a reference that another one leads to has no display text that the other
one lacks, and no reference is inside the display text where the chain ends. -/
structure Titled (root node : Json) : Prop where
  overlaid : ∀ x y z, Leads root node x → Refers root x y → Refers root y z →
    ∀ field ∈ displayFields, Members.get? field x.display = none →
      Members.get? field y.display = none
  inert : ∀ x, Leads root node x → x.get? "$ref" = none →
    ∀ field ∈ displayFields, ∀ d, x.get? field = some d → d.references = []

section Display

variable {root node v w : Json} {unused others followed : List String}

theorem Titled.of_refers (h : Titled root node) (hr : Refers root node v) : Titled root v where
  overlaid := fun x y z hx => h.overlaid x y z (hr.leads.trans hx)
  inert := fun x hx => h.inert x (hr.leads.trans hx)

theorem get?_display_or {field : String} (hf : field ∈ displayFields) (node : Json) :
    (Members.get? field node.display).or (node.get? field) = node.get? field := by
  rw [get?_display_of_mem hf]
  cases node.get? field with
  | none => rfl
  | some d => cases hd : d.isDisplay <;> simp [Option.filter, hd]

/-- Display text that a value has of its own may be laid over it. -/
theorem get?_withDisplay_self {field : String} (hf : field ∈ displayFields)
    (hv : v.get? field = node.get? field) (ho : v.isObject = node.isObject) :
    (withDisplay node.display v).get? field = node.get? field := by
  rw [get?_withDisplay, hv, ho, get?_display_or hf]
  cases hobj : node.isObject with
  | true => rfl
  | false => simp [get?_eq_none_of_not_isObject hobj]

/-- Only the `items` of a node without a reference can change when it is
dereferenced. -/
theorem get?_of_dereferenceWithin {key : String} (hr : node.get? "$ref" = none)
    (hk : key ≠ "items") (hl : dereferenceWithin root unused node = .ok (v, followed)) :
    v.get? key = node.get? key ∧ v.isObject = node.isObject := by
  rcases dereferenceWith_cases (expandReference root unused) node with
    ⟨reference, hr', -⟩ | ⟨-, members, items, reference, rfl, -, -, heq⟩ | ⟨-, heq⟩
  · rw [hr] at hr'
    contradiction
  · rw [dereferenceWithin, heq] at hl
    obtain ⟨⟨t, more⟩, -, hv⟩ := map_eq_ok.1 hl
    obtain ⟨rfl, -⟩ := Prod.mk.inj hv
    exact ⟨Members.get?_insert_of_ne hk _ _, rfl⟩
  · rw [dereferenceWithin, heq] at hl
    obtain ⟨rfl, -⟩ := Prod.mk.inj (Except.ok.inj hl)
    exact ⟨rfl, rfl⟩

/-- Followed or inlined, a node shows the same display text. -/
theorem Titled.get?_eq (ht : Titled root node)
    (hl : dereferenceWithin root unused node = .ok (v, followed))
    (he : inlineWithin root others node = .ok w) {field : String} (hf : field ∈ displayFields) :
    (withDisplay node.display v).get? field = w.get? field := by
  induction hlen : unused.length using Nat.strongRecOn
    generalizing unused others followed node v w with
  | ind n ih =>
    have hne : field ≠ "items" := by
      rintro rfl
      exact absurd hf (by decide)
    cases hr : node.get? "$ref" with
    | none =>
      obtain ⟨hv, hobj⟩ := get?_of_dereferenceWithin hr hne hl
      rw [get?_withDisplay_self hf hv hobj]
      exact (get?_eq_of_inert hr (ht.inert node .here hr field hf) he).symm
    | some reference =>
      have hexpand : expandReference root unused reference = .ok (v, followed) := by
        simpa [dereferenceWithin, dereferenceWith, hr] using hl
      obtain ⟨target, u, hrefers, rfl, hu⟩ := refers_of_expandReference hr hexpand he
      rcases hu with ⟨rfl, rfl, rfl⟩ | ⟨less, fewer, more, hlt, hd, hi⟩
      · rfl
      · have hobj := (dereferenced_of_inlineWithin hd hi).2
        have heq := ih _ (by omega) (ht.of_refers hrefers) hd hi rfl
        rw [get?_withDisplay] at heq
        rw [get?_withDisplay, get?_withDisplay, hobj]
        cases hv : v.isObject with
        | false => rfl
        | true =>
          simp only [hv, ↓reduceIte] at heq ⊢
          cases hnode : Members.get? field node.display with
          | some d => rfl
          | none =>
            rw [Option.none_or, Option.none_or, ← heq]
            cases htarget : target.get? "$ref" with
            | none => rw [(get?_of_dereferenceWithin htarget hne hd).1, get?_display_or hf]
            | some next =>
              have hnext : expandReference root less next = .ok (v, more) := by
                simpa [dereferenceWithin, dereferenceWith, htarget] using hd
              obtain ⟨z, _, hz, -⟩ := refers_of_expandReference htarget hnext hi
              rw [ht.overlaid node target z .here hrefers hz field hf hnode, Option.none_or]

end Display

end Json
end Rulebook
