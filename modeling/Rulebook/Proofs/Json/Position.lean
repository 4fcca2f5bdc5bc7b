import Rulebook.Proofs.Json.WellFormed

/-! Positions in a value. A position is a path of keys and of indices that are
written without a sign or leading zeros, so that no place has two of them. -/

namespace Rulebook
namespace Json

/-- A path of keys and plain indices leads from a value to one inside it. -/
inductive At : Json → List String → Json → Prop where
  | here {v : Json} : At v [] v
  | member {members : Members} {key : String} {rest : List String} {v w : Json}
      (hk : Members.get? key members = some v) (h : At v rest w) :
      At (.object members) (key :: rest) w
  | item {items : List Json} {i : Nat} {rest : List String} {v w : Json}
      (hi : items[i]? = some v) (h : At v rest w) : At (.array items) (toString i :: rest) w

@[simp] theorem child?_object (segment : String) (members : Members) :
    (Json.object members).child? segment = Members.get? segment members := rfl

@[simp] theorem child?_array_toString (i : Nat) (items : List Json) :
    (Json.array items).child? (toString i) = items[i]? := by
  simp [child?]

namespace At

theorem at?_eq {v w : Json} {path : List String} (h : At v path w) : v.at? path = some w := by
  induction h with
  | here => rfl
  | member hk _ ih => simp [at?_cons, hk, ih]
  | item hi _ ih => rw [at?_cons, child?_array_toString, hi, Option.bind_some, ih]

theorem unique {v w u : Json} {path : List String} (hw : At v path w) (hu : At v path u) :
    w = u := by
  have h := hw.at?_eq
  rw [hu.at?_eq] at h
  exact (Option.some.inj h).symm

theorem inside {v w : Json} {path : List String} (h : At v path w) : Inside w v := by
  induction h with
  | here => exact .here
  | member hk _ ih => exact .member (Members.mem_of_get? hk) ih
  | item hi _ ih => exact .item (List.mem_of_getElem? hi) ih

theorem nil_iff {v w : Json} : At v [] w ↔ v = w := by
  constructor
  · intro h
    cases h
    rfl
  · rintro rfl
    exact .here

theorem object_iff {members : Members} {key : String} {rest : List String} {w : Json} :
    At (.object members) (key :: rest) w ↔
      ∃ v, Members.get? key members = some v ∧ At v rest w := by
  constructor
  · intro h
    cases h with
    | member hk h => exact ⟨_, hk, h⟩
  · rintro ⟨v, hk, h⟩
    exact .member hk h

theorem array_iff {items : List Json} {segment : String} {rest : List String} {w : Json} :
    At (.array items) (segment :: rest) w ↔
      ∃ (i : Nat) (v : Json), segment = toString i ∧ items[i]? = some v ∧ At v rest w := by
  constructor
  · intro h
    generalize hs : segment :: rest = path at h
    cases h with
    | here => simp at hs
    | item hi h =>
      obtain ⟨rfl, rfl⟩ := List.cons.inj hs
      exact ⟨_, _, rfl, hi, h⟩
  · rintro ⟨i, v, rfl, hi, h⟩
    exact .item hi h

theorem index_iff {items : List Json} {i : Nat} {rest : List String} {w : Json} :
    At (.array items) (toString i :: rest) w ↔ ∃ v, items[i]? = some v ∧ At v rest w := by
  rw [array_iff]
  constructor
  · rintro ⟨j, v, hj, hv, hw⟩
    obtain rfl := toString_inj hj
    exact ⟨v, hv, hw⟩
  · rintro ⟨v, hv, hw⟩
    exact ⟨i, v, rfl, hv, hw⟩

/-- Nothing is inside a scalar. -/
theorem eq_of_scalar {v w : Json} {path : List String} (ha : v.asArray? = none)
    (ho : v.asObject? = none) (h : At v path w) : path = [] ∧ w = v := by
  cases h with
  | here => exact ⟨rfl, rfl⟩
  | member hk h => simp [asObject?] at ho
  | item hi h => simp [asArray?] at ha

/-- What is no index is a key. -/
theorem of_key {v w : Json} {key : String} {rest : List String} (hk : decimal? key = none)
    (h : At v (key :: rest) w) : ∃ u, v.get? key = some u ∧ At u rest w := by
  cases v with
  | object members => exact At.object_iff.1 h
  | array items =>
    obtain ⟨i, _, rfl, -⟩ := At.array_iff.1 h
    simp at hk
  | null => cases h
  | bool b => cases h
  | number n => cases h
  | string s => cases h

theorem append {u v w : Json} {path more : List String} (hv : At u path v) (hw : At v more w) :
    At u (path ++ more) w := by
  induction hv with
  | here => exact hw
  | member hk _ ih => exact .member hk (ih hw)
  | item hi _ ih => exact .item hi (ih hw)

/-- The way to a place leads over every place on the path to it. -/
theorem split {u w : Json} {path more : List String} (h : At u (path ++ more) w) :
    ∃ v, At u path v ∧ At v more w := by
  induction path generalizing u with
  | nil => exact ⟨u, .here, h⟩
  | cons segment rest ih =>
    rw [List.cons_append] at h
    generalize hs : segment :: (rest ++ more) = whole at h
    cases h with
    | here => simp at hs
    | member hk h =>
      obtain ⟨rfl, rfl⟩ := List.cons.inj hs
      obtain ⟨v, hv, hw⟩ := ih h
      exact ⟨v, .member hk hv, hw⟩
    | item hi h =>
      obtain ⟨rfl, rfl⟩ := List.cons.inj hs
      obtain ⟨v, hv, hw⟩ := ih h
      exact ⟨v, .item hi hv, hw⟩

end At

/-- In a well-formed value everything inside has a position. -/
theorem WellFormed.exists_at {v w : Json} (hv : v.WellFormed) (h : Inside w v) :
    ∃ path, At v path w := by
  induction h with
  | here => exact ⟨[], .here⟩
  | item hm _ ih =>
    obtain ⟨i, hi⟩ := List.getElem?_of_mem hm
    obtain ⟨path, hp⟩ := ih (hv.items _ hm)
    exact ⟨toString i :: path, .item hi hp⟩
  | member hm _ ih =>
    obtain ⟨path, hp⟩ := ih (hv.members _ hm)
    exact ⟨_ :: path, .member (Members.Distinct.get?_of_mem hv.self hm) hp⟩

theorem modifyAt_nil (f : Json → Json) (v : Json) : v.modifyAt [] f = f v := rfl

theorem modifyAt_cons (segment : String) (rest : List String) (f : Json → Json) (v : Json) :
    v.modifyAt (segment :: rest) f = v.modifyChild segment (modifyAt rest f) := rfl

theorem modifyChild_object (segment : String) (f : Json → Json) (members : Members) :
    (Json.object members).modifyChild segment f = .object (members.modify segment f) := rfl

theorem modifyChild_array (segment : String) (f : Json → Json) (items : List Json) :
    (Json.array items).modifyChild segment f =
      .array ((decimal? segment).elim items fun i => items.modify i f) := by
  rw [modifyChild]
  cases decimal? segment <;> rfl

@[simp] theorem modifyChild_array_toString (i : Nat) (f : Json → Json) (items : List Json) :
    (Json.array items).modifyChild (toString i) f = .array (items.modify i f) := by
  simp [modifyChild_array]

theorem modifyAt_append (path more : List String) (f : Json → Json) (v : Json) :
    v.modifyAt (path ++ more) f = v.modifyAt path (modifyAt more f) := by
  induction path generalizing v with
  | nil => rfl
  | cons segment rest ih =>
    have h : modifyAt (rest ++ more) f = modifyAt rest (modifyAt more f) := funext ih
    rw [List.cons_append, modifyAt_cons, modifyAt_cons, h]

theorem get?_modifyChild_of_ne {key segment : String} (h : key ≠ segment) (f : Json → Json)
    (v : Json) : (v.modifyChild segment f).get? key = v.get? key := by
  cases v with
  | object members => exact Members.get?_modify_of_ne h f members
  | array items => rw [modifyChild_array]; rfl
  | _ => rfl

theorem get?_modifyChild_self (key : String) (f : Json → Json) (v : Json) :
    (v.modifyChild key f).get? key = (v.get? key).map f := by
  cases v with
  | object members => exact Members.get?_modify_self key f members
  | array items => rw [modifyChild_array]; rfl
  | _ => rfl

/-- A change at a place that is not there changes nothing. -/
theorem modifyAt_of_at?_none {path : List String} {v : Json} (h : v.at? path = none)
    (f : Json → Json) : v.modifyAt path f = v := by
  induction path generalizing v with
  | nil => simp [Json.at?] at h
  | cons segment rest ih =>
    rw [at?_cons] at h
    rw [modifyAt_cons]
    cases v with
    | object members =>
      rw [child?_object] at h
      rw [modifyChild_object, Members.modify_eq_self fun u hu => ih (by simpa [hu] using h)]
    | array items =>
      rw [modifyChild_array]
      cases hi : decimal? segment with
      | none => rfl
      | some i =>
        congr 1
        refine List.ext_getElem? fun j => ?_
        rw [Option.elim_some, List.getElem?_modify]
        by_cases hij : i = j
        · subst hij
          cases hu : items[i]? with
          | none => rfl
          | some u => simp [ih (v := u) (by simpa [child?, hi, hu] using h)]
        · simp [hij]
    | _ => rfl

/-- Changing a place below a value does not turn it into a text. -/
theorem modifyAt_cons_eq_string {segment : String} {rest : List String} {f : Json → Json}
    {v : Json} {s : String} (h : v.modifyAt (segment :: rest) f = .string s) : v = .string s := by
  rw [modifyAt_cons] at h
  cases v with
  | array items => simp [modifyChild_array] at h
  | object members => simp [modifyChild_object] at h
  | _ => exact h

/-- A place below a value whose child was changed is a place below that child,
or below another one. -/
theorem At.of_modifyChild {segment other : String} {f : Json → Json} {v w : Json}
    {rest : List String} (h : At (v.modifyChild segment f) (other :: rest) w) :
    other ≠ segment ∧ At v (other :: rest) w ∨ ∃ u, At v [other] u ∧ At (f u) rest w := by
  cases v with
  | object members =>
    obtain ⟨u, hu, h⟩ := At.object_iff.1 h
    by_cases ho : other = segment
    · subst ho
      rw [Members.get?_modify_self] at hu
      obtain ⟨x, hx, rfl⟩ := Option.map_eq_some_iff.1 hu
      exact .inr ⟨x, .member hx .here, h⟩
    · rw [Members.get?_modify_of_ne ho] at hu
      exact .inl ⟨ho, .member hu h⟩
  | array items =>
    cases hd : decimal? segment with
    | none =>
      rw [modifyChild_array, hd, Option.elim_none] at h
      obtain ⟨i, u, rfl, hu, h⟩ := At.array_iff.1 h
      refine .inl ⟨?_, .item hu h⟩
      rintro rfl
      simp at hd
    | some n =>
      rw [modifyChild_array, hd, Option.elim_some] at h
      obtain ⟨i, u, rfl, hu, h⟩ := At.array_iff.1 h
      by_cases hi : n = i
      · subst hi
        rw [List.getElem?_modify_eq] at hu
        obtain ⟨x, hx, rfl⟩ := Option.map_eq_some_iff.1 hu
        exact .inr ⟨x, .item hx .here, h⟩
      · rw [List.getElem?_modify_ne _ _ hi] at hu
        refine .inl ⟨?_, .item hu h⟩
        rintro rfl
        exact hi (by simpa using hd.symm)
  | null => cases h
  | bool b => cases h
  | number n => cases h
  | string s => cases h

theorem At.cons_iff {v w : Json} {segment : String} {rest : List String} :
    At v (segment :: rest) w ↔ ∃ u, At v [segment] u ∧ At u rest w := by
  constructor
  · exact fun h : At v ([segment] ++ rest) w => h.split
  · rintro ⟨u, hu, hw⟩
    exact hu.append hw

theorem At.modifyChild_self_iff {v x u : Json} {segment : String} (h : At v [segment] x)
    (f : Json → Json) : At (v.modifyChild segment f) [segment] u ↔ f x = u := by
  cases h with
  | member hk h =>
    obtain rfl := At.nil_iff.1 h
    rw [modifyChild_object, At.object_iff, Members.get?_modify_self, hk]
    simp [At.nil_iff]
  | item hi h =>
    obtain rfl := At.nil_iff.1 h
    rw [modifyChild_array_toString, At.index_iff, List.getElem?_modify_eq, hi]
    simp [At.nil_iff]

theorem At.modifyChild_of_ne_iff {v x u : Json} {segment other : String} (h : At v [segment] x)
    (hne : other ≠ segment) (f : Json → Json) :
    At (v.modifyChild segment f) [other] u ↔ At v [other] u := by
  cases h with
  | member hk h =>
    rw [modifyChild_object, At.object_iff, At.object_iff, Members.get?_modify_of_ne hne]
  | @item items i _ _ _ hi h =>
    rw [modifyChild_array_toString, At.array_iff, At.array_iff]
    refine exists_congr fun j => exists_congr fun y => and_congr_right fun hj => ?_
    have hij : i ≠ j := fun he => hne (by rw [hj, he])
    rw [List.getElem?_modify_ne _ _ hij]

/-- Changing a place changes what is there. -/
theorem At.modifyAt_self {v u : Json} {place : List String} (h : At v place u)
    (f : Json → Json) : At (v.modifyAt place f) place (f u) := by
  induction place generalizing v with
  | nil => exact At.nil_iff.2 (by rw [At.nil_iff.1 h, modifyAt_nil])
  | cons segment rest ih =>
    obtain ⟨x, hx, hu⟩ := At.cons_iff.1 h
    exact At.cons_iff.2 ⟨_, (At.modifyChild_self_iff hx _).2 rfl, ih hu⟩

/-- Changing a place leaves alone what is neither around it nor inside it. -/
theorem At.modifyAt_iff {v w u : Json} {place path : List String} (h : At v place u)
    (hin : ¬ place <+: path) (hout : ¬ path <+: place) (f : Json → Json) :
    At (v.modifyAt place f) path w ↔ At v path w := by
  induction place generalizing v path with
  | nil => exact absurd List.nil_prefix hin
  | cons segment rest ih =>
    obtain ⟨x, hx, hu⟩ := At.cons_iff.1 h
    cases path with
    | nil => exact absurd List.nil_prefix hout
    | cons other more =>
      rw [modifyAt_cons, At.cons_iff, At.cons_iff (v := v)]
      by_cases ho : other = segment
      · subst ho
        rw [List.cons_prefix_cons] at hin hout
        have hstep := ih hu (fun hp => hin ⟨rfl, hp⟩) fun hp => hout ⟨rfl, hp⟩
        simp only [At.modifyChild_self_iff hx, exists_eq_left', hstep]
        constructor
        · exact fun hw => ⟨x, hx, hw⟩
        · rintro ⟨y, hy, hw⟩
          obtain rfl := hx.unique hy
          exact hw
      · simp only [At.modifyChild_of_ne_iff hx ho]

/-- A value stays well formed when a place in it is changed to a well-formed
value. -/
theorem WellFormed.modifyAt {v : Json} (h : v.WellFormed) (path : List String)
    {f : Json → Json} (hf : ∀ u, u.WellFormed → (f u).WellFormed) :
    (v.modifyAt path f).WellFormed := by
  induction path generalizing v with
  | nil => exact hf v h
  | cons segment rest ih =>
    rw [modifyAt_cons]
    cases v with
    | object members =>
      have hd : Members.Distinct (Members.modify segment (Json.modifyAt rest f) members) := by
        rw [Members.Distinct, Members.keys_modify]
        exact h.self
      refine Everywhere.object hd fun m hm => ?_
      rcases Members.mem_modify hm with hm | ⟨u, hu, rfl⟩
      · exact h.members m hm
      · exact ih (h.members _ hu)
    | array items =>
      rw [modifyChild_array]
      cases decimal? segment with
      | none => exact h
      | some i =>
        refine Everywhere.array trivial fun u hu => ?_
        obtain ⟨j, hj⟩ := List.getElem?_of_mem hu
        rw [Option.elim_some, List.getElem?_modify] at hj
        obtain ⟨x, hx, rfl⟩ := Option.map_eq_some_iff.1 hj
        have hxw := h.items x (List.mem_of_getElem? hx)
        split
        · exact ih hxw
        · exact hxw
    | _ => exact h

end Json
end Rulebook
