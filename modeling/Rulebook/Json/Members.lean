import Rulebook.Json.Basic

/-!
Operations on the members of an object. Setting a key that is present keeps
its position; removing a member moves the last one into its place.
-/

namespace Rulebook
namespace Members

def get? (key : String) : Members → Option Json
  | [] => none
  | (k, v) :: rest => if k = key then some v else get? key rest

def contains (key : String) (members : Members) : Bool := (get? key members).isSome

def keys (members : Members) : List String := members.map Prod.fst

/-- Set a key, at its position when it is present and at the end otherwise. -/
def insert (key : String) (value : Json) : Members → Members
  | [] => [(key, value)]
  | (k, v) :: rest => if k = key then (k, value) :: rest else (k, v) :: insert key value rest

/-- Remove a key; the last member takes the place of the removed one. -/
def erase (key : String) : Members → Members
  | [] => []
  | (k, v) :: rest =>
    if k = key then
      match rest.getLast? with
      | some last => last :: rest.dropLast
      | none => []
    else (k, v) :: erase key rest

def extend (members added : Members) : Members :=
  added.foldl (fun acc (k, v) => insert k v acc) members

/-- Objects as they are read: no key occurs twice. -/
def Distinct (members : Members) : Prop := members.keys.Nodup

@[simp] theorem get?_nil (key : String) : get? key [] = none := rfl

theorem get?_cons (key k : String) (v : Json) (rest : Members) :
    get? key ((k, v) :: rest) = if k = key then some v else get? key rest := rfl

/-- A key that was set reads back. -/
@[simp] theorem get?_insert_self (key : String) (value : Json) (members : Members) :
    get? key (insert key value members) = some value := by
  induction members with
  | nil => simp [insert, get?]
  | cons m rest ih =>
    obtain ⟨k, v⟩ := m
    by_cases h : k = key <;> simp [insert, get?, h, ih]

/-- Setting a key leaves every other key alone. -/
theorem get?_insert_of_ne {key other : String} (h : other ≠ key) (value : Json)
    (members : Members) : get? other (insert key value members) = get? other members := by
  induction members with
  | nil => simp [insert, get?, Ne.symm h]
  | cons m rest ih =>
    obtain ⟨k, v⟩ := m
    by_cases hk : k = key
    · subst hk; simp [insert, get?, Ne.symm h]
    · by_cases ho : k = other
      · subst ho; simp [insert, get?, h]
      · simp [insert, get?, hk, ho, ih]

/-- Setting a key to the value it has changes nothing. -/
theorem insert_get? {key : String} {value : Json} {members : Members}
    (h : get? key members = some value) : insert key value members = members := by
  induction members with
  | nil => simp at h
  | cons m rest ih =>
    obtain ⟨k, v⟩ := m
    by_cases hk : k = key
    · simp only [get?, hk, ↓reduceIte, Option.some.injEq] at h
      simp [insert, hk, h]
    · simp only [get?, hk, ↓reduceIte] at h
      simp [insert, hk, ih h]

theorem mem_of_get? {key : String} {value : Json} {members : Members}
    (h : get? key members = some value) : (key, value) ∈ members := by
  induction members with
  | nil => simp at h
  | cons m rest ih =>
    obtain ⟨k, v⟩ := m
    by_cases hk : k = key
    · simp only [get?, hk, ↓reduceIte, Option.some.injEq] at h
      simp [hk, h]
    · simp only [get?, hk, ↓reduceIte] at h
      exact List.mem_cons_of_mem _ (ih h)

/-- Where no key occurs twice, every member can be looked up. -/
theorem Distinct.get?_of_mem {key : String} {value : Json} {members : Members}
    (hd : Distinct members) (h : (key, value) ∈ members) : get? key members = some value := by
  induction members with
  | nil => simp at h
  | cons m rest ih =>
    obtain ⟨k, v⟩ := m
    obtain ⟨hk, hrest⟩ := List.nodup_cons.1 hd
    rcases List.mem_cons.1 h with h | h
    · obtain ⟨rfl, rfl⟩ := Prod.mk.inj h
      simp [get?]
    · have hne : k ≠ key := by
        rintro rfl
        exact hk (List.mem_map.2 ⟨_, h, rfl⟩)
      simp [get?, hne, ih hrest h]

theorem get?_eq_none_iff {key : String} {members : Members} :
    get? key members = none ↔ key ∉ members.keys := by
  induction members with
  | nil => simp [keys]
  | cons m rest ih =>
    obtain ⟨k, v⟩ := m
    simp only [keys] at ih
    by_cases hk : k = key
    · simp [get?, keys, hk]
    · simp [get?, keys, hk, ih, Ne.symm hk]

theorem mem_insert {key : String} {value : Json} {members : Members} {m : String × Json}
    (h : m ∈ insert key value members) : m = (key, value) ∨ m ∈ members := by
  induction members with
  | nil => simpa [insert] using h
  | cons n rest ih =>
    obtain ⟨k, v⟩ := n
    by_cases hk : k = key
    · simp only [insert, hk, ↓reduceIte, List.mem_cons] at h
      exact h.imp_right (List.mem_cons_of_mem _)
    · simp only [insert, hk, ↓reduceIte, List.mem_cons] at h
      rcases h with rfl | h
      · exact .inr (by simp)
      · exact (ih h).imp_right (List.mem_cons_of_mem _)

theorem keys_insert (key : String) (value : Json) (members : Members) :
    (insert key value members).keys =
      if key ∈ members.keys then members.keys else members.keys ++ [key] := by
  induction members with
  | nil => simp [insert, keys]
  | cons n rest ih =>
    obtain ⟨k, v⟩ := n
    simp only [keys] at ih
    by_cases hk : k = key
    · simp [insert, keys, hk]
    · by_cases hr : key ∈ rest.map Prod.fst <;> simp [insert, keys, hk, ih, hr, Ne.symm hk]

theorem Distinct.insert {members : Members} (h : Distinct members) (key : String)
    (value : Json) : Distinct (members.insert key value) := by
  unfold Distinct at *
  rw [keys_insert]
  split
  · exact h
  · rename_i hk
    exact List.nodup_append.2 ⟨h, by simp, by rintro a ha b hb rfl; simp_all⟩

theorem mem_extend {members added : Members} {m : String × Json}
    (h : m ∈ extend members added) : m ∈ members ∨ m ∈ added := by
  induction added generalizing members with
  | nil => exact .inl h
  | cons n rest ih =>
    rcases ih h with h | h
    · rcases mem_insert h with rfl | h
      · exact .inr (by simp)
      · exact .inl h
    · exact .inr (List.mem_cons_of_mem _ h)

theorem Distinct.extend {members : Members} (h : Distinct members) (added : Members) :
    Distinct (members.extend added) := by
  induction added generalizing members with
  | nil => exact h
  | cons n rest ih => exact ih (h.insert n.1 n.2)

/-- Only keys that are set can change. -/
theorem get?_extend_of_notMem {key : String} {added : Members} (h : key ∉ added.keys)
    (members : Members) : get? key (extend members added) = get? key members := by
  induction added generalizing members with
  | nil => rfl
  | cons n rest ih =>
    simp only [keys, List.map_cons, List.mem_cons, not_or] at h
    rw [extend, List.foldl_cons, ← extend, ih h.2]
    exact get?_insert_of_ne h.1 n.2 members

/-- Of the members that are set, the last one under a key stays. -/
theorem get?_extend_of_mem {key : String} {value : Json} {added : Members}
    (hd : Distinct added) (h : (key, value) ∈ added) (members : Members) :
    get? key (extend members added) = some value := by
  induction added generalizing members with
  | nil => simp at h
  | cons n rest ih =>
    obtain ⟨hn, hrest⟩ := List.nodup_cons.1 hd
    rw [extend, List.foldl_cons, ← extend]
    rcases List.mem_cons.1 h with rfl | h
    · rw [get?_extend_of_notMem hn]
      simp
    · exact ih hrest h _

theorem get?_extend {added : Members} (hd : Distinct added) (key : String) (members : Members) :
    get? key (extend members added) = (get? key added).or (get? key members) := by
  cases h : get? key added with
  | none => simpa using get?_extend_of_notMem (get?_eq_none_iff.1 h) members
  | some value => simpa using get?_extend_of_mem hd (mem_of_get? h) members

/-- Setting members that are there already changes nothing. -/
theorem extend_of_get? {members added : Members}
    (h : ∀ m ∈ added, get? m.1 members = some m.2) : extend members added = members := by
  induction added with
  | nil => rfl
  | cons m rest ih =>
    obtain ⟨k, v⟩ := m
    obtain ⟨hm, hrest⟩ := List.forall_mem_cons.1 h
    rw [extend, List.foldl_cons, ← extend]
    simp only [insert_get? hm]
    exact ih hrest

theorem erase_perm {key : String} {value : Json} {members : Members}
    (h : get? key members = some value) :
    List.Perm ((key, value) :: erase key members) members := by
  induction members with
  | nil => simp at h
  | cons m rest ih =>
    obtain ⟨k, v⟩ := m
    by_cases hk : k = key
    · subst hk
      obtain rfl : v = value := by simpa [get?] using h
      refine .cons _ ?_
      cases hl : rest.getLast? with
      | none => simp [erase, List.getLast?_eq_none_iff.1 hl]
      | some last =>
        obtain ⟨front, rfl⟩ := List.getLast?_eq_some_iff.1 hl
        simpa [erase] using (List.perm_append_singleton last front).symm
    · simp only [get?, hk, ↓reduceIte] at h
      simp only [erase, hk, ↓reduceIte]
      exact (List.Perm.swap _ _ _).trans (.cons _ (ih h))

theorem erase_of_get?_none {key : String} {members : Members} (h : get? key members = none) :
    erase key members = members := by
  induction members with
  | nil => rfl
  | cons m rest ih =>
    obtain ⟨k, v⟩ := m
    by_cases hk : k = key
    · simp [get?, hk] at h
    · simp only [get?, hk, ↓reduceIte] at h
      simp [erase, hk, ih h]

theorem mem_erase {key : String} {members : Members} {m : String × Json}
    (h : m ∈ erase key members) : m ∈ members := by
  cases hk : get? key members with
  | none => rwa [erase_of_get?_none hk] at h
  | some value => exact (erase_perm hk).subset (List.mem_cons_of_mem _ h)

theorem Distinct.erase {members : Members} (h : Distinct members) (key : String) :
    Distinct (members.erase key) ∧ key ∉ (members.erase key).keys := by
  cases hk : get? key members with
  | none =>
    rw [erase_of_get?_none hk]
    exact ⟨h, get?_eq_none_iff.1 hk⟩
  | some value =>
    have hp : (keys ((key, value) :: Members.erase key members)).Nodup :=
      (((erase_perm hk).map Prod.fst).nodup_iff).2 h
    obtain ⟨hn, hd⟩ := List.nodup_cons.1 hp
    exact ⟨hd, hn⟩

/-- Where no key occurs twice, the order of the members does not matter. -/
theorem Distinct.get?_of_perm {members other : Members} (hd : Distinct members)
    (hp : other.Perm members) (key : String) : get? key other = get? key members := by
  have hother : Distinct other := (hp.map Prod.fst).nodup_iff.2 hd
  refine Option.ext fun v => ?_
  constructor
  · intro h
    exact hd.get?_of_mem (hp.subset (mem_of_get? h))
  · intro h
    exact hother.get?_of_mem (hp.symm.subset (mem_of_get? h))

end Members

namespace Json

def get? (key : String) : Json → Option Json
  | .object members => Members.get? key members
  | _ => none

def text? (key : String) (v : Json) : Option String := (v.get? key).bind asString?

@[simp] theorem get?_object (key : String) (members : Members) :
    (Json.object members).get? key = Members.get? key members := rfl

end Json
end Rulebook
