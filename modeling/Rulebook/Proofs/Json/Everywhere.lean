import Rulebook.Json.Path
import Rulebook.Reference.Display

/-! Properties that hold of a value and of all values inside it, and how they
are kept when members are set or a value inside is changed. -/

namespace Rulebook
namespace Json

/-- One value is another one, or lies inside it at some depth. -/
inductive Inside (w : Json) : Json → Prop where
  | here : Inside w w
  | item {items : List Json} {v : Json} (hm : v ∈ items) (h : Inside w v) :
      Inside w (.array items)
  | member {members : Members} {key : String} {v : Json} (hm : (key, v) ∈ members)
      (h : Inside w v) : Inside w (.object members)

/-- A property of a value and of every value inside it. -/
def Everywhere (p : Json → Prop) (v : Json) : Prop := ∀ w, Inside w v → p w

theorem Inside.trans {u v w : Json} (hu : Inside u v) (hv : Inside v w) : Inside u w := by
  induction hv with
  | here => exact hu
  | item hm _ ih => exact .item hm ih
  | member hm _ ih => exact .member hm ih

theorem Inside.of_get? {v w : Json} {key : String} (h : v.get? key = some w) : Inside w v := by
  cases v with
  | object members => exact .member (Members.mem_of_get? h) .here
  | _ => simp [Json.get?] at h

namespace Everywhere

variable {p q : Json → Prop}

theorem self {v : Json} (h : Everywhere p v) : p v := h v .here

theorem inside {v w : Json} (h : Everywhere p v) (hw : Inside w v) : Everywhere p w :=
  fun u hu => h u (hu.trans hw)

theorem mono {v : Json} (h : Everywhere p v) (hpq : ∀ w, p w → q w) : Everywhere q v :=
  fun w hw => hpq w (h w hw)

theorem array {items : List Json} (h : p (.array items)) (hi : ∀ v ∈ items, Everywhere p v) :
    Everywhere p (.array items) := by
  intro w hw
  cases hw with
  | here => exact h
  | item hm hw => exact hi _ hm w hw

theorem object {members : Members} (h : p (.object members))
    (hm : ∀ m ∈ members, Everywhere p m.2) : Everywhere p (.object members) := by
  intro w hw
  cases hw with
  | here => exact h
  | member hk hw => exact hm _ hk w hw

theorem items {items : List Json} (h : Everywhere p (.array items)) :
    ∀ v ∈ items, Everywhere p v := fun _ hv => h.inside (.item hv .here)

theorem members {members : Members} (h : Everywhere p (.object members)) :
    ∀ m ∈ members, Everywhere p m.2 := fun _ hm => h.inside (.member hm .here)

/-- A value with nothing inside. -/
theorem scalar {v : Json} (h : p v) (ha : v.asArray? = none) (ho : v.asObject? = none) :
    Everywhere p v := by
  intro w hw
  cases hw with
  | here => exact h
  | item => simp [asArray?] at ha
  | member => simp [asObject?] at ho

theorem get? {v w : Json} {key : String} (h : Everywhere p v) (hw : v.get? key = some w) :
    Everywhere p w := h.inside (.of_get? hw)

theorem child? {v w : Json} {segment : String} (h : Everywhere p v)
    (hw : v.child? segment = some w) : Everywhere p w := by
  cases v with
  | object members => exact h.members _ (Members.mem_of_get? hw)
  | array items =>
    obtain ⟨i, -, hi⟩ := Option.bind_eq_some_iff.1 hw
    exact h.items _ (List.mem_of_getElem? hi)
  | _ => simp [Json.child?] at hw

theorem at? {v w : Json} {path : List String} (h : Everywhere p v)
    (hw : v.at? path = some w) : Everywhere p w := by
  induction path generalizing v with
  | nil =>
    obtain rfl : v = w := by simpa [Json.at?] using hw
    exact h
  | cons segment rest ih =>
    obtain ⟨u, hu, hw⟩ := Option.bind_eq_some_iff.1 hw
    exact ih (h.child? hu) hw

end Everywhere

/-- To prove a property of every value, prove it of a value from its items or
members. -/
theorem inductionOn {P : Json → Prop} (v : Json)
    (scalar : ∀ v : Json, v.asArray? = none → v.asObject? = none → P v)
    (array : ∀ items, (∀ v ∈ items, P v) → P (.array items))
    (object : ∀ members : Members, (∀ m ∈ members, P m.2) → P (.object members)) : P v := by
  match v with
  | .array items =>
    exact array items fun w _ => inductionOn w scalar array object
  | .object members =>
    exact object members fun m _ => inductionOn m.2 scalar array object
  | .null => exact scalar _ rfl rfl
  | .bool _ => exact scalar _ rfl rfl
  | .number _ => exact scalar _ rfl rfl
  | .string _ => exact scalar _ rfl rfl
decreasing_by
  · have := List.sizeOf_lt_of_mem ‹_›
    simp
    omega
  · have := List.sizeOf_lt_of_mem ‹_›
    obtain ⟨k, w⟩ := m
    simp at this ⊢
    omega

section Decidable

variable (p : Json → Prop) [DecidablePred p]

mutual

def checkEverywhere : Json → Bool
  | .array items => decide (p (.array items)) && checkItems items
  | .object members => decide (p (.object members)) && checkMembers members
  | v => decide (p v)

def checkItems : List Json → Bool
  | [] => true
  | v :: rest => checkEverywhere v && checkItems rest

def checkMembers : List (String × Json) → Bool
  | [] => true
  | (_, v) :: rest => checkEverywhere v && checkMembers rest

end

theorem checkItems_iff {items : List Json} :
    checkItems p items ↔ ∀ v ∈ items, checkEverywhere p v := by
  induction items with
  | nil => simp [checkItems]
  | cons v rest ih => simp [checkItems, ih]

theorem checkMembers_iff {members : Members} :
    checkMembers p members ↔ ∀ m ∈ members, checkEverywhere p m.2 := by
  induction members with
  | nil => simp [checkMembers]
  | cons m rest ih => simp [checkMembers, ih]

theorem checkEverywhere_iff (v : Json) : checkEverywhere p v ↔ Everywhere p v := by
  induction v using inductionOn with
  | scalar v ha ho =>
    have hc : checkEverywhere p v ↔ p v := by
      cases v <;> simp_all [checkEverywhere, asArray?, asObject?]
    exact hc.trans ⟨fun h => Everywhere.scalar h ha ho, Everywhere.self⟩
  | array items ih =>
    rw [checkEverywhere, Bool.and_eq_true, decide_eq_true_eq, checkItems_iff]
    constructor
    · rintro ⟨h, hi⟩
      exact Everywhere.array h fun v hv => (ih v hv).1 (hi v hv)
    · exact fun h => ⟨h.self, fun v hv => (ih v hv).2 (h.items v hv)⟩
  | object members ih =>
    rw [checkEverywhere, Bool.and_eq_true, decide_eq_true_eq, checkMembers_iff]
    constructor
    · rintro ⟨h, hm⟩
      exact Everywhere.object h fun m hk => (ih m hk).1 (hm m hk)
    · exact fun h => ⟨h.self, fun m hk => (ih m hk).2 (h.members m hk)⟩

instance : DecidablePred (Everywhere p) := fun v => decidable_of_iff _ (checkEverywhere_iff p v)

end Decidable

end Json
end Rulebook
