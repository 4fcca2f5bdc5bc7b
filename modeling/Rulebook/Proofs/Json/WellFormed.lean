import Rulebook.Json.Reader
import Rulebook.Proofs.Json.Everywhere
import Rulebook.Proofs.Outcome

/-! Values in which no object has a key twice. Every value that is read from a
text is one. -/

namespace Rulebook
namespace Json

/-- No key of an object occurs twice; nothing is said of what lies inside. -/
def DistinctKeys : Json → Prop
  | .object members => Members.Distinct members
  | _ => True

instance : DecidablePred DistinctKeys
  | .object members => inferInstanceAs (Decidable (Members.keys members).Nodup)
  | .null | .bool _ | .number _ | .string _ | .array _ => isTrue trivial

/-- No object at any depth has a key twice. -/
def WellFormed (v : Json) : Prop := Everywhere DistinctKeys v

instance : DecidablePred WellFormed := inferInstanceAs (DecidablePred (Everywhere DistinctKeys))

namespace Everywhere

variable {p : Json → Prop}

theorem insert {members : Members} {v : Json} {key : String}
    (hm : ∀ m ∈ members, Everywhere p m.2) (hv : Everywhere p v)
    (h : p (.object (members.insert key v))) : Everywhere p (.object (members.insert key v)) := by
  refine object h fun m hk => ?_
  rcases Members.mem_insert hk with rfl | hk
  · exact hv
  · exact hm m hk

theorem extend {members added : Members} (hm : ∀ m ∈ members, Everywhere p m.2)
    (ha : ∀ m ∈ added, Everywhere p m.2) (h : p (.object (members.extend added))) :
    Everywhere p (.object (members.extend added)) := by
  refine object h fun m hk => ?_
  rcases Members.mem_extend hk with hk | hk
  · exact hm m hk
  · exact ha m hk

theorem display {node : Json} (h : Everywhere p node) :
    ∀ m ∈ node.display, Everywhere p m.2 :=
  fun _ hm => h.get? (mem_display hm).2.1

/-- A value stays good everywhere under display text that is good everywhere. -/
theorem withDisplay {node v : Json} (hn : Everywhere p node) (hv : Everywhere p v)
    (h : p (withDisplay node.display v)) : Everywhere p (withDisplay node.display v) := by
  cases v with
  | object members => exact extend hv.members hn.display h
  | _ => exact hv

end Everywhere

namespace Reader
open Outcome

theorem wellFormed_scalar {v : Json} (ha : v.asArray? = none) (ho : v.asObject? = none) :
    v.WellFormed := by
  refine Everywhere.scalar ?_ ha ho
  cases v <;> simp_all [DistinctKeys, asObject?]

theorem eq_of_word {value v : Json} {expected : List UInt8} {bytes rest : Input}
    (h : word value expected bytes = .ok (v, rest)) : v = value := by
  induction expected generalizing bytes with
  | nil => simp_all [word]
  | cons e more ih =>
    cases bytes with
    | nil => simp [word, stop] at h
    | cons b bytes =>
      simp only [word] at h
      split at h
      · exact ih h
      · simp [stop] at h

def IsNumber (v : Json) : Prop := ∃ n, v = .number n

theorem isNumber_double {positive : Bool} {significand : Nat} {e : Int} {bytes rest : Input}
    {v : Json} (h : double positive significand e bytes = .ok (v, rest)) : IsNumber v := by
  unfold double at h
  cases hx : scaleSignificand significand e with
  | none => simp [hx, stop] at h
  | some x =>
    simp only [hx, Option.elim_some, Except.ok.injEq, Prod.mk.injEq] at h
    exact ⟨_, h.1.symm⟩

theorem isNumber_exponent {positive : Bool} {significand : Nat} {e : Int} {bytes rest : Input}
    {v : Json} (h : exponent positive significand e bytes = .ok (v, rest)) : IsNumber v := by
  unfold exponent at h
  simp only at h
  split at h
  · simp [stop] at h
  · split at h
    · split at h
      · split_ifs at h
        · simp [stop] at h
        · simp only [Except.ok.injEq, Prod.mk.injEq] at h
          exact ⟨_, h.1.symm⟩
      · exact isNumber_double h
    · simp [stop] at h

theorem isNumber_fraction {positive : Bool} {significand : Nat} {e : Int} {bytes rest : Input}
    {v : Json} (h : fraction positive significand e bytes = .ok (v, rest)) : IsNumber v := by
  unfold fraction at h
  simp only at h
  split at h
  · simp [stopAt] at h
  · split at h
    · exact isNumber_exponent h
    · exact isNumber_exponent h
    · exact isNumber_double h

theorem isNumber_whole {positive : Bool} {significand : Nat} {bytes rest : Input} {v : Json}
    (h : whole positive significand bytes = .ok (v, rest)) : IsNumber v := by
  unfold whole at h
  rw [dite_eq_iff] at h
  rcases h with ⟨hf, h⟩ | ⟨-, h⟩
  · simp only [Except.ok.injEq, Prod.mk.injEq] at h
    exact ⟨_, h.1.symm⟩
  · exact isNumber_double h

theorem isNumber_number {positive : Bool} {bytes rest : Input} {v : Json}
    (h : number positive bytes = .ok (v, rest)) : IsNumber v := by
  unfold number at h
  split at h
  · simp [stop] at h
  · split at h
    · simp [stop] at h
    · split at h
      · simp [stopAt] at h
      · simp only at h
        split at h
        · exact isNumber_fraction h
        · exact isNumber_exponent h
        · exact isNumber_exponent h
        · split at h
          · exact isNumber_whole h
          · exact isNumber_double h

theorem IsNumber.wellFormed {v : Json} (h : IsNumber v) : v.WellFormed := by
  obtain ⟨n, rfl⟩ := h
  exact wellFormed_scalar rfl rfl

def Reads (step : Step Json) : Prop :=
  ∀ bytes v rest, step bytes = .ok (v, rest) → v.WellFormed

theorem wellFormed_items {step : Step Json} (hs : Reads step) {rounds : Nat} {acc vs : List Json}
    {bytes rest : Input} (hacc : ∀ v ∈ acc, v.WellFormed)
    (h : items step rounds acc bytes = .ok (vs, rest)) : ∀ v ∈ vs, v.WellFormed := by
  induction rounds generalizing acc bytes with
  | zero => simp [items, stop] at h
  | succ rounds ih =>
    have hnext : ∀ bytes', (step bytes' >>= fun p => items step rounds (p.1 :: acc) p.2) =
        .ok (vs, rest) → ∀ v ∈ vs, v.WellFormed := by
      intro bytes' h
      obtain ⟨⟨v, more⟩, hv, h⟩ := bind_eq_ok.1 h
      exact ih (List.forall_mem_cons.2 ⟨hs _ _ _ hv, hacc⟩) h
    simp only [items] at h
    split at h
    · simp [stop] at h
    · split at h
      · simp only [Except.ok.injEq, Prod.mk.injEq] at h
        simpa [← h.1] using hacc
      · split at h
        · exact hnext _ h
        · split at h
          · split at h
            · simp [stop] at h
            · split at h
              · simp [stop] at h
              · exact hnext _ h
          · simp [stop] at h

theorem wellFormed_members {step : Step Json} (hs : Reads step) {rounds : Nat} {first : Bool}
    {acc ms : Members} {bytes rest : Input} (hd : Members.Distinct acc)
    (hacc : ∀ m ∈ acc, m.2.WellFormed)
    (h : members step rounds first acc bytes = .ok (ms, rest)) : (Json.object ms).WellFormed := by
  induction rounds generalizing acc bytes first with
  | zero => simp [members, stop] at h
  | succ rounds ih =>
    have hnext : ∀ bytes', (member step bytes' >>= fun p =>
        members step rounds false (acc.insert p.1.1 p.1.2) p.2) = .ok (ms, rest) →
        (Json.object ms).WellFormed := by
      intro bytes' h
      obtain ⟨⟨⟨k, v⟩, more⟩, hm, h⟩ := bind_eq_ok.1 h
      have hv : v.WellFormed := by
        obtain ⟨⟨key, more'⟩, -, hm⟩ := bind_eq_ok.1 hm
        simp only at hm
        split at hm
        · simp [stop] at hm
        · split at hm
          · obtain ⟨⟨w, last⟩, hw, hm⟩ := bind_eq_ok.1 hm
            simp only [pure_eq_ok, Prod.mk.injEq] at hm
            rw [← hm.1.2]
            exact hs _ _ _ hw
          · simp [stop] at hm
      refine ih (hd.insert k v) (fun m hk => ?_) h
      rcases Members.mem_insert hk with rfl | hk
      · exact hv
      · exact hacc m hk
    simp only [members] at h
    split at h
    · simp [stop] at h
    · split at h
      · simp only [Except.ok.injEq, Prod.mk.injEq] at h
        rw [← h.1]
        exact Everywhere.object hd hacc
      · split at h
        · split at h
          · exact hnext _ h
          · simp [stop] at h
        · split at h
          · split at h
            · simp [stop] at h
            · split at h
              · exact hnext _ h
              · split at h <;> simp [stop] at h
          · simp [stop] at h

/-- A value is well formed when the values that may nest in it are. -/
theorem reads_value_of_nested {depth : Nat} (hn : ∀ d, depth = d + 1 → Reads (value d)) :
    Reads (value depth) := by
  intro bytes v rest h
  have hword : ∀ {value : Json} {expected : List UInt8} {bytes : Input}, value.WellFormed →
      word value expected bytes = .ok (v, rest) → v.WellFormed := by
    intro value expected bytes hv hw
    rwa [eq_of_word hw]
  unfold value at h
  split at h
  · simp [stop] at h
  · split_ifs at h
    · exact hword (wellFormed_scalar rfl rfl) h
    · exact hword (wellFormed_scalar rfl rfl) h
    · exact hword (wellFormed_scalar rfl rfl) h
    · exact (isNumber_number h).wellFormed
    · exact (isNumber_number h).wellFormed
    · obtain ⟨⟨s, more⟩, -, h⟩ := bind_eq_ok.1 h
      simp only [pure_eq_ok, Prod.mk.injEq] at h
      rw [← h.1]
      exact wellFormed_scalar rfl rfl
    · cases depth with
      | zero => simp [stop] at h
      | succ d =>
        obtain ⟨⟨vs, more⟩, hvs, h⟩ := bind_eq_ok.1 h
        simp only [pure_eq_ok, Prod.mk.injEq] at h
        rw [← h.1]
        exact Everywhere.array trivial (wellFormed_items (hn d rfl) (by simp) hvs)
    · cases depth with
      | zero => simp [stop] at h
      | succ d =>
        obtain ⟨⟨ms, more⟩, hms, h⟩ := bind_eq_ok.1 h
        simp only [pure_eq_ok, Prod.mk.injEq] at h
        rw [← h.1]
        exact wellFormed_members (hn d rfl) (by simp [Members.Distinct, Members.keys]) (by simp) hms
    · simp [stop] at h

theorem reads_value (depth : Nat) : Reads (value depth) := by
  induction depth with
  | zero => exact reads_value_of_nested fun d hd => by omega
  | succ depth ih =>
    refine reads_value_of_nested fun d hd => ?_
    obtain rfl : depth = d := by omega
    exact ih

end Reader

/-- Whatever is read from a text is well formed. -/
theorem wellFormed_of_read {s : String} {v : Json} (h : read s = .ok v) : v.WellFormed := by
  unfold read at h
  simp only at h
  split at h
  · rename_i w hw
    obtain rfl : w = v := by simpa using h
    obtain ⟨⟨u, rest⟩, hu, hw⟩ := Outcome.bind_eq_ok.1 hw
    simp only at hw
    split at hw
    · obtain rfl : u = w := by simpa using hw
      exact Reader.reads_value _ _ _ _ hu
    · simp [Reader.stop] at hw
  · simp at h

end Json
end Rulebook
