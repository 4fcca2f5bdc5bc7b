import Rulebook.Json.Members

/-!
Display text. The title and the description of a node that carries a reference
are laid over what the reference stands for.
-/

namespace Rulebook
namespace Json

def displayFields : List String := ["title", "description"]

/-- Whether a value counts as display text: all do but `null`, `false` and the
empty text. -/
def isDisplay : Json → Bool
  | .null => false
  | .bool b => b
  | .string s => s != ""
  | _ => true

def display (node : Json) : Members :=
  displayFields.filterMap fun field =>
    ((node.get? field).filter isDisplay).map fun v => (field, v)

/-- Lay display text over a value; only objects can take it. -/
def withDisplay (display : Members) : Json → Json
  | .object members => .object (Members.extend members display)
  | v => v

theorem mem_display {node : Json} {m : String × Json} (h : m ∈ node.display) :
    m.1 ∈ displayFields ∧ node.get? m.1 = some m.2 ∧ isDisplay m.2 := by
  obtain ⟨field, hf, hm⟩ := List.mem_filterMap.1 h
  obtain ⟨v, hv, rfl⟩ := Option.map_eq_some_iff.1 hm
  obtain ⟨hg, hd⟩ := Option.filter_eq_some_iff.1 hv
  exact ⟨hf, hg, hd⟩

theorem display_distinct (node : Json) : Members.Distinct node.display := by
  unfold display displayFields Members.Distinct Members.keys
  simp only [List.filterMap_cons, List.filterMap_nil]
  cases (node.get? "title").filter isDisplay <;>
    cases (node.get? "description").filter isDisplay <;> simp

theorem get?_display_of_notMem {key : String} (h : key ∉ displayFields) (node : Json) :
    Members.get? key node.display = none := by
  refine Members.get?_eq_none_iff.2 fun hk => h ?_
  obtain ⟨m, hm, rfl⟩ := List.mem_map.1 hk
  exact (mem_display hm).1

theorem get?_display_of_mem {key : String} (h : key ∈ displayFields) (node : Json) :
    Members.get? key node.display = (node.get? key).filter isDisplay := by
  cases hv : (node.get? key).filter isDisplay with
  | some v =>
    refine (display_distinct node).get?_of_mem (List.mem_filterMap.2 ⟨key, h, ?_⟩)
    rw [hv]
    rfl
  | none =>
    refine Members.get?_eq_none_iff.2 fun hk => ?_
    obtain ⟨m, hm, rfl⟩ := List.mem_map.1 hk
    obtain ⟨-, hg, hd⟩ := mem_display hm
    simp [hg, hd] at hv

theorem get?_withDisplay (node v : Json) (key : String) :
    (withDisplay node.display v).get? key =
      if v.isObject then (Members.get? key node.display).or (v.get? key) else none := by
  cases v with
  | object members =>
    simp [withDisplay, isObject, asObject?, Members.get?_extend (display_distinct node)]
  | _ => rfl

/-- Laying display text over a value changes only the fields of display text. -/
theorem get?_withDisplay_of_notMem {key : String} (h : key ∉ displayFields) (node v : Json) :
    (withDisplay node.display v).get? key = v.get? key := by
  rw [get?_withDisplay, get?_display_of_notMem h]
  cases v <;> rfl

/-- A node under its own display text is the node. -/
@[simp] theorem withDisplay_display (node : Json) : withDisplay node.display node = node := by
  cases node with
  | object members =>
    have hdisplay : ∀ m ∈ (Json.object members).display, Members.get? m.1 members = some m.2 :=
      fun m hm => (mem_display hm).2.1
    rw [withDisplay, Members.extend_of_get? hdisplay]
  | _ => rfl

@[simp] theorem isObject_withDisplay (node v : Json) :
    (withDisplay node.display v).isObject = v.isObject := by
  cases v <;> rfl

end Json
end Rulebook
