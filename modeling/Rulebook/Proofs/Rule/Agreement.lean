import Rulebook.Proofs.Rule.Fields
import Rulebook.Proofs.Schema.Agreement

/-! Nodes that read alike ask for the same rule. A keyword whose value is not used as
it stands is used only when it has nothing inside, and then it is copied as it is. -/

namespace Rulebook
namespace Rule
open Json Outcome

variable {root v w : Json} {path other : String}

def IsScalar (x : Json) : Prop := x.asArray? = none ∧ x.asObject? = none

theorem isScalar_of_coerceNumber {x : Json} {b : Binary64} (h : x.coerceNumber = some b) :
    IsScalar x := by
  cases x <;> simp_all [IsScalar, coerceNumber, asArray?, asObject?]

theorem isScalar_of_coerceFlag {x : Json} {b : Bool} (h : x.coerceFlag = some b) :
    IsScalar x := by
  cases x <;> simp_all [IsScalar, coerceFlag, asArray?, asObject?]

theorem isScalar_of_coerceCount {x : Json} {n : Nat} (h : x.coerceCount = some n) :
    IsScalar x := by
  obtain ⟨b, hb, -⟩ := Option.bind_eq_some_iff.1 h
  exact isScalar_of_coerceNumber hb

/-- Only a label and a default value are used whatever they are. -/
theorem isScalar_of_set {keyword : Keyword} (hk : keyword ∈ keywords) {x : Json}
    {rule next : Rule} (h : keyword.set x rule = some next) :
    keyword.name = "title" ∨ keyword.name = "default" ∨
      keyword.name ∉ displayFields ∧ IsScalar x := by
  have hnumber : ∀ {f : Binary64 → Rule}, x.coerceNumber.map f = some next → IsScalar x := by
    intro f h
    obtain ⟨b, hb, -⟩ := Option.map_eq_some_iff.1 h
    exact isScalar_of_coerceNumber hb
  have hflag : ∀ {f : Bool → Rule}, x.coerceFlag.map f = some next → IsScalar x := by
    intro f h
    obtain ⟨b, hb, -⟩ := Option.map_eq_some_iff.1 h
    exact isScalar_of_coerceFlag hb
  have hcount : ∀ {f : Nat → Rule}, x.coerceCount.map f = some next → IsScalar x := by
    intro f h
    obtain ⟨n, hn, -⟩ := Option.map_eq_some_iff.1 h
    exact isScalar_of_coerceCount hn
  simp only [keywords, List.mem_cons, List.not_mem_nil, or_false] at hk
  rcases hk with rfl | rfl | rfl | rfl | rfl | rfl | rfl | rfl | rfl | rfl
  · exact .inl rfl
  · exact .inr (.inr ⟨by decide, hnumber h⟩)
  · exact .inr (.inr ⟨by decide, hnumber h⟩)
  · exact .inr (.inr ⟨by decide, hflag h⟩)
  · exact .inr (.inr ⟨by decide, hflag h⟩)
  · exact .inr (.inr ⟨by decide, hnumber h⟩)
  · exact .inr (.inr ⟨by decide, hnumber h⟩)
  · exact .inr (.inr ⟨by decide, hcount h⟩)
  · exact .inr (.inr ⟨by decide, hcount h⟩)
  · exact .inr (.inl rfl)

/-- A value with nothing inside is found in the copy as well. -/
theorem get?_of_kept {key : String} {x : Json} (h : Option.Rel Kept (v.get? key) (w.get? key))
    (hx : v.get? key = some x) (hs : IsScalar x) :
    w.get? key = some x := by
  rcases rel_cases h with ⟨hv, -⟩ | ⟨y, z, hv, hw, hyz⟩
  · simp [hv] at hx
  · obtain rfl := Option.some.inj (hv.symm.trans hx)
    rw [hw, hyz hs.1 hs.2]

theorem get?_none_of_kept {key : String} (h : Option.Rel Kept (v.get? key) (w.get? key))
    (hx : v.get? key = none) : w.get? key = none := by
  rcases rel_cases h with ⟨-, hw⟩ | ⟨y, z, hv, -⟩
  · exact hw
  · simp [hv] at hx

section Alike

variable (ha : Alike root v w) (hd : ∀ field ∈ displayFields, v.get? field = w.get? field)
include ha hd

theorem applyKeyword_of_alike {keyword : Keyword} (hk : keyword ∈ keywords) {rule next : Rule}
    (h : applyKeyword path v rule keyword = .ok next) :
    applyKeyword other w rule keyword = .ok next := by
  have hfound : ∀ {x : Json}, w.get? keyword.name = some x → keyword.set x rule = some next →
      applyKeyword other w rule keyword = .ok next := by
    intro x hx hset
    simp only [applyKeyword, hx, hset]
    rfl
  cases hx : v.get? keyword.name with
  | none =>
    obtain rfl : rule = next := by simpa [applyKeyword, hx] using h
    have hnone : w.get? keyword.name = none := by
      by_cases hf : keyword.name ∈ displayFields
      · rw [← hd _ hf, hx]
      · exact get?_none_of_kept (ha.kept _ hf) hx
    simp [applyKeyword, hnone]
  | some x =>
    simp only [applyKeyword, hx, orInvalid_eq_ok] at h
    rcases isScalar_of_set hk h with ht | hdefault | ⟨hf, hs⟩
    · refine hfound ?_ h
      rw [ht, ← hd "title" (by decide), ← ht, hx]
    · refine hfound ?_ h
      rw [hdefault, ha.data "default" (by decide), ← hdefault, hx]
    · exact hfound (get?_of_kept (ha.kept _ hf) hx hs) h

theorem foldlM_applyKeyword_of_alike {list : List Keyword} (hk : ∀ k ∈ list, k ∈ keywords)
    {rule next : Rule} (h : list.foldlM (applyKeyword path v) rule = .ok next) :
    list.foldlM (applyKeyword other w) rule = .ok next := by
  induction list generalizing rule with
  | nil => exact h
  | cons keyword rest ih =>
    obtain ⟨hkeyword, hrest⟩ := List.forall_mem_cons.1 hk
    rw [List.foldlM_cons] at h ⊢
    obtain ⟨mid, hmid, h⟩ := bind_eq_ok.1 h
    exact bind_eq_ok.2 ⟨mid, applyKeyword_of_alike ha hd hkeyword hmid, ih hrest h⟩

omit hd in
theorem readPattern_of_alike {pattern : Option RulePattern}
    (h : readPattern path v = .ok pattern) : readPattern other w = .ok pattern := by
  unfold readPattern at h ⊢
  have hkept := ha.kept "pattern" (by decide)
  cases hx : v.get? "pattern" with
  | none =>
    rw [get?_none_of_kept hkept hx]
    simpa [hx] using h
  | some x =>
    simp only [hx] at h
    obtain ⟨source, hs, h⟩ := bind_eq_ok.1 h
    have hsource := orInvalid_eq_ok.1 hs
    have hscalar : IsScalar x := by
      cases x <;> simp_all [IsScalar, asString?, asArray?, asObject?]
    rw [get?_of_kept hkept hx hscalar]
    refine bind_eq_ok.2 ⟨source, orInvalid_eq_ok.2 hsource, ?_⟩
    split at h
    · simpa using h
    · simp at h

omit hd in
theorem readEnum_of_alike {values : Option (List Json)} (h : readEnum path v = .ok values) :
    readEnum other w = .ok values := by
  unfold readEnum at h ⊢
  rw [ha.data "enum" (by decide)]
  cases hx : v.get? "enum" with
  | none => simpa [hx] using h
  | some x =>
    simp only [hx] at h ⊢
    cases hlist : x.asArray? with
    | none => simp [hlist, orInvalid] at h
    | some list => simpa [hlist, orInvalid] using h

omit hd in
theorem isDecimal_of_alike :
    isDecimal w (Shape.classify w) = isDecimal v (Shape.classify v) := by
  unfold isDecimal
  rw [ha.shape.isArray_eq, declaredType_congr ha.type]
  cases hs : (Shape.classify v).isArray with
  | false => rfl
  | true =>
    simp only [↓reduceIte, ha.items (Shape.declaredType_of_isArray hs)]

omit ha in
theorem hintsOf_of_display (format : Option String) (allowsNone : Bool) :
    hintsOf w format allowsNone = hintsOf v format allowsNone := by
  have hdescription : w.text? "description" = v.text? "description" :=
    text?_congr (hd "description" (by decide)).symm
  simp only [hintsOf, hdescription]

/-- Nodes that read alike and show the same display text ask for the same rule. -/
theorem ofNode_of_alike {required blackbox : Bool} {rule : Rule}
    (h : ofNode path v required blackbox = .ok rule) :
    ofNode other w required blackbox = .ok rule := by
  obtain ⟨read, pattern, values, hread, hpattern, hvalues, rfl⟩ := ofNode_eq_ok.1 h
  rw [← ha.shape.ruleType_eq] at hread
  refine ofNode_eq_ok.2 ⟨read, pattern, values,
    foldlM_applyKeyword_of_alike ha hd (fun _ hk => hk) hread, readPattern_of_alike ha hpattern,
    readEnum_of_alike ha hvalues, ?_⟩
  have hformat : w.text? "format" = v.text? "format" := text?_congr ha.format
  simp only [ofParts, isDecimal_of_alike ha, hintsOf_of_display hd, hformat]

end Alike

end Rule
end Rulebook
