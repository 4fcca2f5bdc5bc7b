import Mathlib.Data.List.Perm.Basic
import Rulebook.Proofs.Json.Position

/-! Document order. Two positions that part somewhere are ordered by the members or
items that they go to there; of a position and one below it neither is first. -/

namespace Rulebook
namespace Json

/-- One key or index of a value stands before another one. -/
def Earlier : Json → String → String → Prop
  | .object members, key, other => [key, other].Sublist (Members.keys members)
  | .array _, segment, other => ∃ i j : Nat, segment = toString i ∧ other = toString j ∧ i < j
  | _, _, _ => False

/-- One position comes before another one: where they part, its key or index stands
before that of the other. -/
inductive Before : Json → List String → List String → Prop where
  | apart {v : Json} {segment other : String} {p q : List String} (h : v.Earlier segment other) :
      Before v (segment :: p) (other :: q)
  | under {v w : Json} {segment : String} {p q : List String} (hs : At v [segment] w)
      (h : Before w p q) : Before v (segment :: p) (segment :: q)

/-- In a list without repetition only one of two elements is first. -/
private theorem not_sublist_swap {keys : List String} {key other : String} (hk : keys.Nodup)
    (h : [key, other].Sublist keys) : ¬ [other, key].Sublist keys := by
  induction keys with
  | nil => simp at h
  | cons first rest ih =>
    obtain ⟨hfirst, hrest⟩ := List.nodup_cons.1 hk
    intro hback
    rcases List.sublist_cons_iff.1 h with hsub | ⟨_, he, hsub⟩ <;>
      rcases List.sublist_cons_iff.1 hback with hback' | ⟨_, he', hback'⟩
    · exact ih hrest hsub hback'
    · obtain ⟨rfl, rfl⟩ := List.cons.inj he'
      exact hfirst (hsub.subset (by simp))
    · obtain ⟨rfl, rfl⟩ := List.cons.inj he
      exact hfirst (hback'.subset (by simp))
    · obtain ⟨rfl, rfl⟩ := List.cons.inj he
      exact hfirst (hsub.subset (by simp [(List.cons.inj he').1]))

theorem Earlier.asymm {v : Json} (hv : v.DistinctKeys) {segment other : String}
    (h : v.Earlier segment other) : ¬ v.Earlier other segment := by
  cases v with
  | object members => exact not_sublist_swap hv h
  | array items =>
    obtain ⟨i, j, rfl, rfl, hij⟩ := h
    rintro ⟨j', i', hj, hi, hji⟩
    rw [toString_inj hj, toString_inj hi] at hij
    omega
  | _ => exact h.elim

theorem Earlier.ne {v : Json} (hv : v.DistinctKeys) {segment other : String}
    (h : v.Earlier segment other) : segment ≠ other := by
  rintro rfl
  exact h.asymm hv h

namespace Before

variable {v : Json} {p q : List String}

/-- Ordered positions part somewhere. -/
theorem not_prefix (hv : v.WellFormed) (h : Before v p q) : ¬ p <+: q ∧ ¬ q <+: p := by
  induction h with
  | apart h =>
    have hne := h.ne hv.self
    simp [List.cons_prefix_cons, hne, hne.symm]
  | under hs _ ih => simpa [List.cons_prefix_cons] using ih (hv.inside hs.inside)

theorem ne (hv : v.WellFormed) (h : Before v p q) : p ≠ q := by
  rintro rfl
  exact (h.not_prefix hv).1 List.prefix_rfl

theorem asymm (hv : v.WellFormed) (h : Before v p q) : ¬ Before v q p := by
  induction h with
  | apart h =>
    intro hback
    cases hback with
    | apart hback => exact h.asymm hv.self hback
    | under _ _ => exact h.ne hv.self rfl
  | under hs _ ih =>
    intro hback
    cases hback with
    | apart hback => exact hback.ne hv.self rfl
    | under hs' hback =>
      obtain rfl := hs.unique hs'
      exact ih (hv.inside hs.inside) hback

/-- Document order leaves no choice of how to list what stands at different positions. -/
theorem eq_of_pairwise {α : Type} {place : α → List String} {as bs : List α} (hv : v.WellFormed)
    (ha : as.Pairwise fun a b => Before v (place a) (place b))
    (hb : bs.Pairwise fun a b => Before v (place a) (place b)) (h : ∀ a, a ∈ as ↔ a ∈ bs) :
    as = bs := by
  have hne : ∀ {a b : α}, Before v (place a) (place b) → a ≠ b := by
    rintro a _ hab rfl
    exact hab.ne hv rfl
  have hperm : as.Perm bs := (List.perm_ext_iff_of_nodup (ha.imp hne) (hb.imp hne)).2 h
  exact hperm.eq_of_pairwise (fun _ _ _ _ hpq hqp => absurd hqp (hpq.asymm hv)) ha hb

end Before
end Json
end Rulebook
