import Rulebook.Proofs.Outcome
import Rulebook.Proofs.Json.WellFormed
import Rulebook.Reference.Inlining

/-! What inlining makes of a value, one equivalence for each kind of value. -/

namespace Rulebook

namespace Members

def Related (R : String → Json → Json → Prop) (members others : Members) : Prop :=
  List.Forall₂ (fun m n => m.1 = n.1 ∧ R m.1 m.2 n.2) members others

variable {R : String → Json → Json → Prop} {members others : Members}

theorem Related.keys_eq (h : Related R members others) : others.keys = members.keys := by
  induction h with
  | nil => rfl
  | cons hm _ ih =>
    simp only [keys] at ih
    simp [keys, ih, hm.1]

theorem Related.distinct (h : Related R members others) (hd : members.Distinct) :
    others.Distinct := by
  rw [Distinct, h.keys_eq]
  exact hd

theorem Related.get? (h : Related R members others) (key : String) :
    Option.Rel (R key) (get? key members) (get? key others) := by
  induction h with
  | nil => exact .none
  | @cons m n ms ns hm _ ih =>
    obtain ⟨k, v⟩ := m
    obtain ⟨l, w⟩ := n
    obtain ⟨rfl, hr⟩ : k = l ∧ R k v w := hm
    by_cases hk : k = key
    · subst hk
      simpa [Members.get?] using Option.Rel.some hr
    · simpa [Members.get?, hk] using ih

theorem Related.mem_right (h : Related R members others) {n : String × Json} (hn : n ∈ others) :
    ∃ v, (n.1, v) ∈ members ∧ R n.1 v n.2 := by
  induction h with
  | nil => simp at hn
  | cons hm _ ih =>
    rcases List.mem_cons.1 hn with rfl | hn
    · exact ⟨_, by rw [← hm.1]; simp, hm.1 ▸ hm.2⟩
    · obtain ⟨v, hv, hr⟩ := ih hn
      exact ⟨v, List.mem_cons_of_mem _ hv, hr⟩

section Each

variable {ε : Type} {f : String → Json → Except ε Json}

/-- When the values are worked off one after the other, each result stands under the
key of its value. -/
theorem related_iff_mapM : (members.mapM fun m => (f m.1 m.2).map (m.1, ·)) = .ok others ↔
    members.Related (fun key v w => f key v = .ok w) others := by
  rw [Outcome.mapM_eq_ok, Related]
  refine Outcome.forall₂_congr_of_mem fun m _ n => ?_
  obtain ⟨key, w⟩ := n
  rw [Outcome.map_eq_ok]
  constructor
  · rintro ⟨u, hu, hn⟩
    obtain ⟨hkey, rfl⟩ := Prod.mk.inj hn
    exact ⟨hkey, hu⟩
  · rintro ⟨hkey, hw⟩
    exact ⟨w, hw, Prod.ext hkey rfl⟩

theorem exists_error_of_mapM {e : ε}
    (h : (members.mapM fun m => (f m.1 m.2).map (m.1, ·)) = .error e) :
    ∃ m ∈ members, f m.1 m.2 = .error e := by
  obtain ⟨m, hm, he⟩ := Outcome.mapM_eq_error h
  exact ⟨m, hm, Outcome.map_eq_error.1 he⟩

end Each

end Members

namespace Json
open Outcome

variable {expand : String → Except ResolveError Json}

def inlineMember (expand : String → Except ResolveError Json) (key : String) (v : Json) :
    Except ResolveError Json :=
  if key ∈ dataKeywords then .ok v
  else if key ∈ nameMapKeywords then inlineNameMap expand v
  else inlineWith expand v

theorem inlineItems_eq_mapM (items : List Json) :
    inlineItems expand items = items.mapM (inlineWith expand) := by
  induction items with
  | nil => rfl
  | cons v rest ih => rw [inlineItems, List.mapM_cons, ih]

theorem inlineValues_eq_mapM (members : Members) :
    inlineValues expand members = members.mapM fun m => (inlineWith expand m.2).map (m.1, ·) := by
  induction members with
  | nil => rfl
  | cons m rest ih =>
    rw [inlineValues, List.mapM_cons, ih]
    cases inlineWith expand m.2 <;> rfl

theorem inlineMembers_eq_mapM (members : Members) :
    inlineMembers expand members =
      members.mapM fun m => (inlineMember expand m.1 m.2).map (m.1, ·) := by
  induction members with
  | nil => rfl
  | cons m rest ih =>
    rw [List.mapM_cons, ← ih, inlineMembers]
    simp only [inlineMember]
    split_ifs
    · rfl
    · cases inlineNameMap expand m.2 <;> rfl
    · cases inlineWith expand m.2 <;> rfl

theorem inlineItems_eq_ok {items others : List Json} :
    inlineItems expand items = .ok others ↔
      List.Forall₂ (fun v w => inlineWith expand v = .ok w) items others := by
  rw [inlineItems_eq_mapM, mapM_eq_ok]

theorem inlineValues_eq_ok {members others : Members} :
    inlineValues expand members = .ok others ↔
      members.Related (fun _ v w => inlineWith expand v = .ok w) others := by
  rw [inlineValues_eq_mapM]
  exact Members.related_iff_mapM (f := fun _ => inlineWith expand)

theorem inlineMembers_eq_ok {members others : Members} :
    inlineMembers expand members = .ok others ↔
      members.Related (fun key v w => inlineMember expand key v = .ok w) others := by
  rw [inlineMembers_eq_mapM]
  exact Members.related_iff_mapM

theorem inlineWith_reference {members : Members} {reference : String}
    (h : internalReference members = some reference) :
    inlineWith expand (.object members) =
      (expand reference).map (withDisplay (Json.object members).display) := by
  simp [inlineWith, h]

theorem inlineWith_object {members : Members} (h : internalReference members = none) :
    inlineWith expand (.object members) = (inlineMembers expand members).map .object := by
  simp [inlineWith, h]

theorem inlineWith_array (items : List Json) :
    inlineWith expand (.array items) = (inlineItems expand items).map .array := by
  simp [inlineWith]

theorem inlineWith_scalar {v : Json} (ha : v.asArray? = none) (ho : v.asObject? = none) :
    inlineWith expand v = .ok v := by
  cases v <;> simp_all [inlineWith, asArray?, asObject?]

theorem internalReference_eq_some {members : Members} {reference : String} :
    internalReference members = some reference ↔
      Members.get? "$ref" members = some (.string reference) ∧
        (reference = "#" ∨ isPointer reference) := by
  unfold internalReference
  cases h : Members.get? "$ref" members with
  | none => simp
  | some v => cases v <;> simp [asString?, Option.filter_eq_some_iff]

/-- A map of names that is no object is inlined like any other value. -/
theorem inlineNameMap_of_asObject?_none {v : Json} (h : v.asObject? = none) :
    inlineNameMap expand v = inlineWith expand v := by
  cases v <;> simp_all [inlineNameMap, inlineWith, asObject?]

theorem inlineNameMap_object (members : Members) :
    inlineNameMap expand (.object members) = (inlineValues expand members).map .object := by
  simp [inlineNameMap]

def expandWithin (root : Json) (unused : List String) (pointer : String) :
    Except ResolveError Json :=
  if pointer = "#" then .ok (selfReference root)
  else if pointer ∈ unused then do
    let target ← Pointer.resolve root pointer
    inlineWithin root (without pointer unused) target
  else .error (.circular pointer)

theorem inlineWithin_eq (root : Json) (unused : List String) (v : Json) :
    inlineWithin root unused v = inlineWith (expandWithin root unused) v := by
  rw [inlineWithin]
  rfl

theorem expandWithin_eq_ok {root w : Json} {unused : List String} {pointer : String} :
    expandWithin root unused pointer = .ok w ↔
      pointer = "#" ∧ w = selfReference root ∨
        pointer ≠ "#" ∧ pointer ∈ unused ∧ ∃ target, Pointer.resolve root pointer = .ok target ∧
          inlineWithin root (without pointer unused) target = .ok w := by
  unfold expandWithin
  by_cases hp : pointer = "#"
  · simp [hp, eq_comm]
  · by_cases hu : pointer ∈ unused
    · simp [hp, hu, bind_eq_ok]
    · simp [hp, hu]

end Json
end Rulebook
