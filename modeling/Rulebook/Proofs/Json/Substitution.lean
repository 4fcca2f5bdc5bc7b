import Rulebook.Proofs.Json.Position

/-! Changing several places of a value one after another. A change inside a place
that is changed as well counts as a part of that change, so the changes together
are one substitution at the outermost places. -/

namespace Rulebook
namespace Json

abbrev Replacement := List String → Option (Json → Json)

namespace Replacement

def under (new : Replacement) (segment : String) : Replacement := fun path => new (segment :: path)

/-- Nothing that a position lies inside of is replaced. -/
def Topmost (new : Replacement) (path : List String) : Prop :=
  ∀ front, front <+: path → front ≠ path → new front = none

theorem topmost_nil (new : Replacement) : new.Topmost [] := by
  intro front hp hne
  exact absurd (List.prefix_nil.1 hp) hne

theorem topmost_cons {new : Replacement} {segment : String} {rest : List String} :
    new.Topmost (segment :: rest) ↔ new [] = none ∧ (new.under segment).Topmost rest := by
  constructor
  · intro h
    refine ⟨h [] List.nil_prefix (by simp), fun front hp hne => ?_⟩
    exact h (segment :: front) (List.cons_prefix_cons.2 ⟨rfl, hp⟩) (by simpa using hne)
  · rintro ⟨hnil, h⟩ front hp hne
    cases front with
    | nil => exact hnil
    | cons other front =>
      obtain ⟨rfl, hfront⟩ := List.cons_prefix_cons.1 hp
      exact h front hfront (by simpa using hne)

end Replacement

mutual

/-- Replace the values at some positions. Of two positions, one inside the other,
only the outer one counts. -/
def substitute (new : Replacement) : Json → Json
  | .object members =>
    match new [] with
    | some f => f (.object members)
    | none => .object (substituteMembers new members)
  | .array items =>
    match new [] with
    | some f => f (.array items)
    | none => .array (substituteItems new 0 items)
  | v => ((new []).getD id) v

def substituteMembers (new : Replacement) : List (String × Json) → List (String × Json)
  | [] => []
  | (k, v) :: rest => (k, substitute (new.under k) v) :: substituteMembers new rest

def substituteItems (new : Replacement) (index : Nat) : List Json → List Json
  | [] => []
  | v :: rest =>
    substitute (new.under (toString index)) v :: substituteItems new (index + 1) rest

end

section Substitute

variable {new other : Replacement}

theorem substituteMembers_eq (new : Replacement) (members : Members) :
    substituteMembers new members = members.map fun m => (m.1, m.2.substitute (new.under m.1)) := by
  induction members with
  | nil => rfl
  | cons m rest ih => simp [substituteMembers, ih]

theorem substituteItems_eq (new : Replacement) (index : Nat) (items : List Json) :
    substituteItems new index items =
      (items.zipIdx index).map fun m => m.1.substitute (new.under (toString m.2)) := by
  induction items generalizing index with
  | nil => rfl
  | cons v rest ih => simp [substituteItems, ih]

theorem substitute_of_some {f : Json → Json} (h : new [] = some f) (v : Json) :
    v.substitute new = f v := by
  cases v <;> simp [substitute, h]

theorem substitute_object (h : new [] = none) (members : Members) :
    (Json.object members).substitute new =
      .object (members.map fun m => (m.1, m.2.substitute (new.under m.1))) := by
  simp [substitute, h, substituteMembers_eq]

theorem substitute_array (h : new [] = none) (items : List Json) :
    (Json.array items).substitute new =
      .array (items.zipIdx.map fun m => m.1.substitute (new.under (toString m.2))) := by
  simp [substitute, h, substituteItems_eq]

theorem substitute_scalar (h : new [] = none) {v : Json} (ha : v.asArray? = none)
    (ho : v.asObject? = none) : v.substitute new = v := by
  cases v <;> simp_all [substitute, asArray?, asObject?]

theorem get?_map_substitute (key : String) (members : Members) :
    Members.get? key (members.map fun m => (m.1, m.2.substitute (new.under m.1))) =
      (Members.get? key members).map (substitute (new.under key)) := by
  induction members with
  | nil => rfl
  | cons m rest ih =>
    obtain ⟨k, v⟩ := m
    by_cases hk : k = key
    · subst hk
      simp [Members.get?]
    · simp [Members.get?, hk, ih]

/-- What is not inside a replaced place stays where it was. -/
theorem At.substitute {v w : Json} {path : List String} (h : At v path w)
    (htop : new.Topmost path) :
    At (v.substitute new) path (w.substitute fun more => new (path ++ more)) := by
  induction h generalizing new with
  | here => exact .here
  | member hk _ ih =>
    obtain ⟨hnil, htop⟩ := Replacement.topmost_cons.1 htop
    rw [substitute_object hnil]
    refine .member ?_ (ih htop)
    rw [get?_map_substitute, hk]
    rfl
  | item hi _ ih =>
    obtain ⟨hnil, htop⟩ := Replacement.topmost_cons.1 htop
    rw [substitute_array hnil]
    refine .item ?_ (ih htop)
    rw [List.getElem?_map, List.getElem?_zipIdx, hi]
    simp

theorem At.substitute_of_some {v w : Json} {path : List String} {f : Json → Json} (h : At v path w)
    (htop : new.Topmost path) (hnew : new path = some f) : At (v.substitute new) path (f w) := by
  have hat := h.substitute htop
  have hhere : (fun more => new (path ++ more)) [] = some f := by simpa using hnew
  rwa [@Json.substitute_of_some _ f hhere w] at hat

/-- The two replacements at a value itself agree, or there is none. -/
theorem substitute_eq_or_none {v : Json} (h : (new []).map (· v) = (other []).map (· v)) :
    v.substitute new = v.substitute other ∨ new [] = none ∧ other [] = none := by
  cases hn : new [] with
  | some f =>
    rw [hn, Option.map_some] at h
    obtain ⟨g, hg, hgv⟩ := Option.map_eq_some_iff.1 h.symm
    refine .inl ?_
    rw [substitute_of_some hn, substitute_of_some hg, hgv]
  | none =>
    rw [hn, Option.map_none] at h
    exact .inr ⟨rfl, Option.map_eq_none_iff.1 h.symm⟩

/-- Two substitutions agree when they replace the same values at the outermost
places. -/
theorem substitute_congr {v : Json} (hv : v.WellFormed)
    (h : ∀ path w, At v path w → new.Topmost path →
      (new path).map (· w) = (other path).map (· w)) :
    v.substitute new = v.substitute other := by
  induction v using inductionOn generalizing new other with
  | scalar v ha ho =>
    rcases substitute_eq_or_none (h [] v .here (Replacement.topmost_nil new)) with he | ⟨hn, hg⟩
    · exact he
    · rw [substitute_scalar hn ha ho, substitute_scalar hg ha ho]
  | array items ih =>
    rcases substitute_eq_or_none (h [] _ .here (Replacement.topmost_nil new)) with he | ⟨hn, hg⟩
    · exact he
    · rw [substitute_array hn, substitute_array hg]
      congr 1
      refine List.map_congr_left fun m hm => ?_
      have hi := List.mem_zipIdx_iff_getElem?.1 hm
      have hu := List.mem_of_getElem? hi
      exact ih m.1 hu (hv.items _ hu) fun path w hat htop =>
        h _ w (.item hi hat) (Replacement.topmost_cons.2 ⟨hn, htop⟩)
  | object members ih =>
    rcases substitute_eq_or_none (h [] _ .here (Replacement.topmost_nil new)) with he | ⟨hn, hg⟩
    · exact he
    · rw [substitute_object hn, substitute_object hg]
      congr 1
      refine List.map_congr_left fun m hm => ?_
      have hk := Members.Distinct.get?_of_mem hv.self hm
      have hm2 : m.2.substitute (new.under m.1) = m.2.substitute (other.under m.1) :=
        ih m hm (hv.members m hm) fun path w hat htop =>
          h _ w (.member hk hat) (Replacement.topmost_cons.2 ⟨hn, htop⟩)
      rw [hm2]

/-- A substitution does not see what it replaces. -/
theorem substitute_modifyAt {v u : Json} {path : List String} {f g : Json → Json}
    (hat : At v path u) (hv : v.WellFormed) (htop : new.Topmost path) (hnew : new path = some f)
    (hf : f (g u) = f u) : (v.modifyAt path g).substitute new = v.substitute new := by
  induction hat generalizing new with
  | here => rw [modifyAt_nil, substitute_of_some hnew, substitute_of_some hnew, hf]
  | @member members key rest v w hk _ ih =>
    obtain ⟨hnil, htop⟩ := Replacement.topmost_cons.1 htop
    rw [modifyAt_cons, modifyChild_object, substitute_object hnil, substitute_object hnil,
      Members.modify_eq_map hv.self, List.map_map]
    congr 1
    refine List.map_congr_left fun m hm => ?_
    by_cases hkey : m.1 = key
    · have hm2 := Members.Distinct.get?_of_mem hv.self hm
      rw [hkey, hk] at hm2
      obtain rfl := Option.some.inj hm2
      have hv2 := ih (hv.members m hm) htop hnew hf
      simp only [Function.comp, hkey, ↓reduceIte, hv2]
    · simp only [Function.comp, hkey, ↓reduceIte]
  | @item items i rest v w hi _ ih =>
    obtain ⟨hnil, htop⟩ := Replacement.topmost_cons.1 htop
    have hv2 := ih (hv.items v (List.mem_of_getElem? hi)) htop hnew hf
    rw [modifyAt_cons, modifyChild_array_toString, substitute_array hnil, substitute_array hnil]
    congr 1
    refine List.ext_getElem? fun j => ?_
    simp only [List.getElem?_map, List.getElem?_zipIdx, List.getElem?_modify, Nat.zero_add,
      Option.map_eq_map]
    by_cases hij : i = j
    · subst hij
      simp only [hi, Option.map_some, ↓reduceIte, hv2]
    · simp only [hij, ↓reduceIte, Option.map_id']

end Substitute

abbrev Edit := List String × (Json → Json)

def applyEdits (edits : List Edit) (v : Json) : Json :=
  edits.foldl (fun v edit => v.modifyAt edit.1 edit.2) v

namespace Edit

def below (segment : String) (edits : List Edit) : List Edit :=
  edits.filterMap fun edit =>
    match edit.1 with
    | [] => none
    | other :: rest => if other = segment then some (rest, edit.2) else none

def within : List String → List Edit → List Edit
  | [], edits => edits
  | segment :: rest, edits => within rest (below segment edits)

def combined (edits : List Edit) : Replacement := fun path =>
  if path ∈ edits.map Prod.fst then some (applyEdits (within path edits)) else none

theorem below_cons (segment other : String) (path : List String) (f : Json → Json)
    (rest : List Edit) :
    below segment ((other :: path, f) :: rest) =
      if other = segment then (path, f) :: below segment rest else below segment rest := by
  by_cases h : other = segment <;> simp [below, h]

theorem mem_below {segment : String} {edits : List Edit} {path : List String} {f : Json → Json} :
    (path, f) ∈ below segment edits ↔ (segment :: path, f) ∈ edits := by
  unfold below
  rw [List.mem_filterMap]
  constructor
  · rintro ⟨⟨p, g⟩, hm, h⟩
    cases p with
    | nil => simp at h
    | cons other rest =>
      by_cases ho : other = segment
      · subst ho
        obtain ⟨rfl, rfl⟩ : rest = path ∧ g = f := by simpa using h
        exact hm
      · simp [ho] at h
  · intro hm
    exact ⟨_, hm, by simp⟩

theorem mem_paths_below {segment : String} {edits : List Edit} {path : List String} :
    path ∈ (below segment edits).map Prod.fst ↔ segment :: path ∈ edits.map Prod.fst := by
  simp [mem_below]

theorem mem_within {path : List String} {edits : List Edit} {more : List String}
    {f : Json → Json} : (more, f) ∈ within path edits ↔ (path ++ more, f) ∈ edits := by
  induction path generalizing edits with
  | nil => rfl
  | cons segment rest ih => rw [within, ih, mem_below, List.cons_append]

theorem within_append (path : List String) (edits more : List Edit) :
    within path (edits ++ more) = within path edits ++ within path more := by
  induction path generalizing edits more with
  | nil => rfl
  | cons segment rest ih => simp only [within, below, List.filterMap_append, ih]

theorem within_cons_self (path : List String) (f : Json → Json) (rest : List Edit) :
    within path ((path, f) :: rest) = ([], f) :: within path rest := by
  induction path generalizing rest with
  | nil => rfl
  | cons segment path ih => simp only [within, below_cons, ↓reduceIte, ih]

theorem combined_under (segment : String) (edits : List Edit) :
    (combined edits).under segment = combined (below segment edits) := by
  funext path
  simp only [Replacement.under, combined, mem_paths_below, within]

end Edit
open Edit

section Edits

variable {edits : List Edit}

theorem applyEdits_cons (edit : Edit) (rest : List Edit) (v : Json) :
    applyEdits (edit :: rest) v = applyEdits rest (v.modifyAt edit.1 edit.2) := rfl

theorem applyEdits_append (edits more : List Edit) (v : Json) :
    applyEdits (edits ++ more) v = applyEdits more (applyEdits edits v) :=
  List.foldl_append

/-- Changes at places that are not there change nothing. -/
theorem applyEdits_of_at?_none {v : Json} (h : ∀ edit ∈ edits, v.at? edit.1 = none) :
    applyEdits edits v = v := by
  induction edits with
  | nil => rfl
  | cons edit rest ih =>
    obtain ⟨hedit, hrest⟩ := List.forall_mem_cons.1 h
    rw [applyEdits_cons, modifyAt_of_at?_none hedit, ih hrest]

/-- A value that is put in place of the whole, again and again, is what is left. -/
theorem applyEdits_const {w : Json} (hne : edits ≠ []) (h : ∀ edit ∈ edits, edit = ([], fun _ => w))
    (v : Json) : applyEdits edits v = w := by
  induction edits generalizing v with
  | nil => exact absurd rfl hne
  | cons edit rest ih =>
    obtain ⟨rfl, hrest⟩ := List.forall_mem_cons.1 h
    rw [applyEdits_cons, modifyAt_nil]
    cases rest with
    | nil => rfl
    | cons next rest => exact ih (by simp) hrest w

/-- Changes below other keys leave a member alone. -/
theorem get?_applyEdits {key : String}
    (h : ∀ edit ∈ edits, ∃ segment rest, edit.1 = segment :: rest ∧ key ≠ segment) (v : Json) :
    (applyEdits edits v).get? key = v.get? key := by
  induction edits generalizing v with
  | nil => rfl
  | cons edit rest ih =>
    obtain ⟨⟨segment, path, hp, hne⟩, hrest⟩ := List.forall_mem_cons.1 h
    rw [applyEdits_cons, ih hrest, hp, modifyAt_cons, get?_modifyChild_of_ne hne]

/-- Changes below an object are made in each member on its own. -/
theorem applyEdits_object {members : Members} (hd : Members.Distinct members)
    (hne : [] ∉ edits.map Prod.fst) :
    applyEdits edits (.object members) =
      .object (members.map fun m => (m.1, applyEdits (below m.1 edits) m.2)) := by
  induction edits generalizing members with
  | nil => simp [applyEdits, below]
  | cons edit rest ih =>
    obtain ⟨path, f⟩ := edit
    cases path with
    | nil => simp at hne
    | cons segment path =>
      have hrest : [] ∉ rest.map Prod.fst := by simpa using hne
      have hkeys : Members.Distinct (Members.modify segment (modifyAt path f) members) := by
        rwa [Members.Distinct, Members.keys_modify]
      rw [applyEdits_cons, modifyAt_cons, modifyChild_object, ih hkeys hrest,
        Members.modify_eq_map hd, List.map_map]
      congr 1
      refine List.map_congr_left fun m _ => ?_
      by_cases hm : segment = m.1
      · simp [below_cons, hm, applyEdits_cons]
      · simp [below_cons, hm, Ne.symm hm]

/-- Changes below an array are made in each item on its own. -/
theorem applyEdits_array {items : List Json}
    (hindex : ∀ edit ∈ edits, ∃ (i : Nat) (rest : List String), edit.1 = toString i :: rest) :
    applyEdits edits (.array items) =
      .array (items.zipIdx.map fun m => applyEdits (below (toString m.2) edits) m.1) := by
  induction edits generalizing items with
  | nil => simp [applyEdits, below]
  | cons edit rest ih =>
    obtain ⟨path, f⟩ := edit
    obtain ⟨⟨i, path, rfl⟩, hrest⟩ := List.forall_mem_cons.1 hindex
    rw [applyEdits_cons, modifyAt_cons, modifyChild_array_toString, ih hrest]
    congr 1
    refine List.ext_getElem? fun j => ?_
    simp only [List.getElem?_map, List.getElem?_zipIdx, List.getElem?_modify, Nat.zero_add,
      Option.map_eq_map]
    by_cases hij : i = j
    · subst hij
      cases items[i]? <;>
        simp only [↓reduceIte, Option.map_some, Option.map_none, below_cons, applyEdits_cons]
    · have hne : toString i ≠ toString j := fun h => hij (toString_inj h)
      cases items[j]? <;>
        simp only [hij, ↓reduceIte, Option.map_some, Option.map_none, below_cons, hne]

theorem notMem_nil_of_below (h : ∀ edit ∈ edits, ∃ segment rest, edit.1 = segment :: rest) :
    [] ∉ edits.map Prod.fst := by
  intro hm
  obtain ⟨edit, hm, hp⟩ := List.mem_map.1 hm
  obtain ⟨segment, rest, hcons⟩ := h edit hm
  simp [hp] at hcons

/-- Below a child, changes at places of the value are at places of the child. -/
theorem exists_at_of_mem_below {v u : Json} {segment : String}
    (hat : ∀ path ∈ edits.map Prod.fst, ∃ w, At v path w) (hu : At v [segment] u) :
    ∀ path ∈ (below segment edits).map Prod.fst, ∃ w, At u path w := by
  intro path hp
  obtain ⟨w, hw⟩ := hat _ (mem_paths_below.1 hp)
  obtain ⟨x, hx, hw⟩ := At.cons_iff.1 hw
  obtain rfl := hx.unique hu
  exact ⟨w, hw⟩

/-- The value itself is changed, or the changes are all below it. -/
theorem applyEdits_root_or_below (edits : List Edit) :
    (∀ v, applyEdits edits v = v.substitute (combined edits)) ∨
      ∀ edit ∈ edits, ∃ segment rest, edit.1 = segment :: rest := by
  by_cases hroot : [] ∈ edits.map Prod.fst
  · refine .inl fun v => ?_
    have hnew : combined edits [] = some (applyEdits edits) := by simp [combined, hroot, within]
    exact (substitute_of_some hnew v).symm
  · refine .inr fun edit hm => ?_
    cases hp : edit.1 with
    | nil => exact absurd (List.mem_map.2 ⟨edit, hm, hp⟩) hroot
    | cons segment rest => exact ⟨segment, rest, rfl⟩

/-- Changes that are made one after another, at places of the value as it was,
make one substitution. -/
theorem applyEdits_eq_substitute {v : Json} (hv : v.WellFormed)
    (hat : ∀ path ∈ edits.map Prod.fst, ∃ w, At v path w) :
    applyEdits edits v = v.substitute (combined edits) := by
  induction v using inductionOn generalizing edits with
  | scalar v ha ho =>
    rcases applyEdits_root_or_below edits with hroot | hbelow
    · exact hroot v
    · have hnone : edits = [] := by
        refine List.eq_nil_iff_forall_not_mem.2 fun edit hm => ?_
        obtain ⟨segment, rest, hp⟩ := hbelow edit hm
        obtain ⟨w, hw⟩ := hat edit.1 (List.mem_map.2 ⟨edit, hm, rfl⟩)
        rw [hp] at hw
        cases hw <;> simp_all [asArray?, asObject?]
      subst hnone
      rw [substitute_scalar (by simp [combined]) ha ho]
      rfl
  | array items ih =>
    rcases applyEdits_root_or_below edits with hroot | hbelow
    · exact hroot _
    · have hindex : ∀ edit ∈ edits, ∃ (i : Nat) (rest : List String),
          edit.1 = toString i :: rest := by
        intro edit hm
        obtain ⟨segment, rest, hp⟩ := hbelow edit hm
        obtain ⟨w, hw⟩ := hat edit.1 (List.mem_map.2 ⟨edit, hm, rfl⟩)
        rw [hp] at hw
        obtain ⟨i, _, rfl, -⟩ := At.array_iff.1 hw
        exact ⟨i, rest, hp⟩
      rw [applyEdits_array hindex,
        substitute_array (by simp [combined, notMem_nil_of_below hbelow])]
      congr 1
      refine List.map_congr_left fun m hm => ?_
      have hi := List.mem_zipIdx_iff_getElem?.1 hm
      have hu := List.mem_of_getElem? hi
      rw [combined_under]
      exact ih m.1 hu (hv.items _ hu) (exists_at_of_mem_below hat (.item hi .here))
  | object members ih =>
    rcases applyEdits_root_or_below edits with hroot | hbelow
    · exact hroot _
    · have hnil := notMem_nil_of_below hbelow
      rw [applyEdits_object hv.self hnil, substitute_object (by simp [combined, hnil])]
      congr 1
      refine List.map_congr_left fun m hm => ?_
      have hk := Members.Distinct.get?_of_mem hv.self hm
      rw [combined_under, ih m hm (hv.members m hm)
        (exists_at_of_mem_below hat (.member hk .here))]

end Edits

end Json
end Rulebook
