import Rulebook.Json.Members

/-!
Walking into a JSON value by object keys and array indices, and changing the
value at a place without touching any other place.
-/

namespace Rulebook

/-- The number that a segment spells: decimal digits, with an optional plus
sign. -/
def decimal? (segment : String) : Option Nat :=
  let digits := match segment.toList with
    | '+' :: rest => rest
    | chars => chars
  if digits.isEmpty || !digits.all Char.isDigit then none
  else some (Nat.ofDigitChars 10 digits 0)

def arrayIndex? (segment : String) : Option Nat := (decimal? segment).filter (· < 2 ^ 64)

/-- An index is spelled by its decimal digits. -/
@[simp] theorem decimal?_repr (n : Nat) : decimal? n.repr = some n := by
  have hd : ∀ c ∈ Nat.toDigits 10 n, c.isDigit := fun c hc =>
    Nat.isDigit_of_mem_toDigits (by decide) (by decide) hc
  unfold decimal?
  rw [Nat.toList_repr]
  cases hn : Nat.toDigits 10 n with
  | nil => exact absurd hn Nat.toDigits_ne_nil
  | cons c rest =>
    rw [hn] at hd
    have hc : c ≠ '+' := by
      rintro rfl
      exact absurd (hd '+' (by simp)) (by decide)
    have hall : (c :: rest).all Char.isDigit = true := List.all_eq_true.2 hd
    have hv : Nat.ofDigitChars 10 (c :: rest) 0 = n := by
      rw [← hn]
      exact Nat.ofDigitChars_ten_toDigits
    split
    · rename_i h
      exact absurd (List.cons.inj h).1 hc
    · simp [hall, hv]

theorem toString_inj {m n : Nat} (h : toString m = toString n) : m = n := by
  have hd : decimal? m.repr = decimal? n.repr := congrArg decimal? h
  simpa using hd

namespace Json

/-- The value one step below, under a key or an index. An index past the end
names nothing, however large it is. -/
def child? (segment : String) : Json → Option Json
  | .object members => Members.get? segment members
  | .array items => (decimal? segment).bind (items[·]?)
  | _ => none

def at? : List String → Json → Option Json
  | [], v => some v
  | segment :: rest, v => (v.child? segment).bind (at? rest)

end Json

def Members.modify (key : String) (f : Json → Json) : Members → Members
  | [] => []
  | (k, v) :: rest => if k = key then (k, f v) :: rest else (k, v) :: modify key f rest

namespace Members

theorem get?_modify_self (key : String) (f : Json → Json) (members : Members) :
    get? key (modify key f members) = (get? key members).map f := by
  induction members with
  | nil => rfl
  | cons m rest ih =>
    obtain ⟨k, v⟩ := m
    by_cases hk : k = key <;> simp [modify, get?, hk, ih]

theorem get?_modify_of_ne {key other : String} (h : other ≠ key) (f : Json → Json)
    (members : Members) : get? other (modify key f members) = get? other members := by
  induction members with
  | nil => rfl
  | cons m rest ih =>
    obtain ⟨k, v⟩ := m
    by_cases hk : k = key
    · subst hk
      simp [modify, get?, Ne.symm h]
    · by_cases ho : k = other
      · subst ho
        simp [modify, get?, hk]
      · simp [modify, get?, hk, ho, ih]

@[simp] theorem keys_modify (key : String) (f : Json → Json) (members : Members) :
    (modify key f members).keys = members.keys := by
  induction members with
  | nil => rfl
  | cons m rest ih =>
    obtain ⟨k, v⟩ := m
    simp only [keys] at ih
    by_cases hk : k = key <;> simp [modify, keys, hk, ih]

/-- Where no key occurs twice, a change is made at every member of that key. -/
theorem modify_eq_map {key : String} {members : Members} (hd : Distinct members)
    (f : Json → Json) :
    modify key f members = members.map fun m => (m.1, if m.1 = key then f m.2 else m.2) := by
  induction members with
  | nil => rfl
  | cons m rest ih =>
    obtain ⟨k, v⟩ := m
    obtain ⟨hk, hrest⟩ := List.nodup_cons.1 hd
    by_cases h : k = key
    · subst h
      have hsame : ∀ m ∈ rest, (m.1, if m.1 = k then f m.2 else m.2) = m := by
        intro m hm
        have hne : m.1 ≠ k := by
          rintro rfl
          exact hk (List.mem_map.2 ⟨m, hm, rfl⟩)
        simp [hne]
      simp [modify, List.map_congr_left hsame]
    · simp [modify, h, ih hrest]

/-- A change that leaves the value under the key as it is changes nothing. -/
theorem modify_eq_self {key : String} {f : Json → Json} {members : Members}
    (h : ∀ v, get? key members = some v → f v = v) : modify key f members = members := by
  induction members with
  | nil => rfl
  | cons m rest ih =>
    obtain ⟨k, v⟩ := m
    by_cases hk : k = key
    · subst hk
      simp [modify, h v (by simp [get?])]
    · simp only [get?, hk, ↓reduceIte] at h
      simp [modify, hk, ih h]

theorem mem_modify {key : String} {f : Json → Json} {members : Members} {m : String × Json}
    (h : m ∈ modify key f members) : m ∈ members ∨ ∃ v, (key, v) ∈ members ∧ m = (key, f v) := by
  induction members with
  | nil => simp [modify] at h
  | cons n rest ih =>
    obtain ⟨k, v⟩ := n
    by_cases hk : k = key
    · subst hk
      simp only [modify, ↓reduceIte, List.mem_cons] at h
      rcases h with rfl | h
      · exact .inr ⟨v, by simp, rfl⟩
      · exact .inl (List.mem_cons_of_mem _ h)
    · simp only [modify, hk, ↓reduceIte, List.mem_cons] at h
      rcases h with rfl | h
      · exact .inl (by simp)
      · rcases ih h with h | ⟨w, hw, rfl⟩
        · exact .inl (List.mem_cons_of_mem _ h)
        · exact .inr ⟨w, List.mem_cons_of_mem _ hw, rfl⟩

end Members

namespace Json

def modifyChild (segment : String) (f : Json → Json) : Json → Json
  | .object members => .object (Members.modify segment f members)
  | .array items =>
    match decimal? segment with
    | some i => .array (items.modify i f)
    | none => .array items
  | v => v

/-- Change the value at a path; nothing changes when the path leads nowhere. -/
def modifyAt : List String → (Json → Json) → Json → Json
  | [], f, v => f v
  | segment :: rest, f, v => v.modifyChild segment (modifyAt rest f)

/-- A path into a value is the way to its child and the way on from there. -/
theorem at?_cons (segment : String) (rest : List String) (v : Json) :
    v.at? (segment :: rest) = (v.child? segment).bind (at? rest) := rfl

end Json
end Rulebook
