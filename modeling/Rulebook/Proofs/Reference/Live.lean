import Rulebook.Proofs.Json.Everywhere
import Rulebook.Proofs.Reference.Inlining

/-! The references that inlining replaces. It enters neither data and definitions nor
what stands beside such a reference, and everything under a name of a property. -/

namespace Rulebook
namespace Json
open Outcome

section Texts

variable {s : String}

theorem mem_referencesOfItems {items : List Json} :
    s ∈ referencesOfItems items ↔ ∃ v ∈ items, s ∈ v.references := by
  induction items with
  | nil => simp [referencesOfItems]
  | cons v rest ih => simp [referencesOfItems, ih]

theorem mem_referencesOfMembers {members : Members} :
    s ∈ referencesOfMembers members ↔
      ("$ref", .string s) ∈ members ∨ ∃ m ∈ members, s ∈ m.2.references := by
  induction members with
  | nil => simp [referencesOfMembers]
  | cons m rest ih =>
    obtain ⟨k, v⟩ := m
    have hhead : (s ∈ if k = "$ref" then v.asString?.toList else []) ↔
        ("$ref", Json.string s) = (k, v) := by
      by_cases hk : k = "$ref"
      · cases v <;> simp [hk, asString?, eq_comm]
      · simp [hk, Ne.symm hk]
    simp only [referencesOfMembers, List.mem_append, List.mem_cons, exists_eq_or_imp, hhead, ih]
    exact or_or_or_comm

theorem referencesOfMembers_subset {few more : Members} (h : few ⊆ more) :
    referencesOfMembers few ⊆ referencesOfMembers more := by
  intro s hs
  refine mem_referencesOfMembers.2 ((mem_referencesOfMembers.1 hs).imp (h ·) ?_)
  exact fun ⟨m, hm, hs⟩ => ⟨m, h hm, hs⟩

/-- The texts that stand under `$ref` in some object of a value. -/
theorem mem_references {v : Json} :
    s ∈ v.references ↔ ∃ members, Inside (.object members) v ∧ ("$ref", .string s) ∈ members := by
  constructor
  · intro h
    induction v using inductionOn with
    | scalar v ha ho => cases v <;> simp_all [references, asArray?, asObject?]
    | array items ih =>
      obtain ⟨v, hv, hs⟩ := mem_referencesOfItems.1 (by simpa [references] using h)
      obtain ⟨members, hin, hm⟩ := ih v hv hs
      exact ⟨members, .item hv hin, hm⟩
    | object members ih =>
      rcases mem_referencesOfMembers.1 (by simpa [references] using h) with hm | ⟨m, hm, hs⟩
      · exact ⟨members, .here, hm⟩
      · obtain ⟨others, hin, ho⟩ := ih m hm hs
        exact ⟨others, .member hm hin, ho⟩
  · rintro ⟨members, hin, hm⟩
    induction hin with
    | here =>
      rw [references]
      exact mem_referencesOfMembers.2 (.inl hm)
    | item hv _ ih =>
      rw [references]
      exact mem_referencesOfItems.2 ⟨_, hv, ih⟩
    | member hk _ ih =>
      rw [references]
      exact mem_referencesOfMembers.2 (.inr ⟨_, hk, ih⟩)

theorem mem_references_of_get? {v w : Json} (hw : Inside w v)
    (hr : w.get? "$ref" = some (.string s)) : s ∈ v.references := by
  cases w with
  | object members => exact mem_references.2 ⟨members, hw, Members.mem_of_get? hr⟩
  | _ => simp [get?] at hr

theorem references_of_inside {v w : Json} (h : Inside w v) : w.references ⊆ v.references := by
  intro s hs
  obtain ⟨members, hin, hm⟩ := mem_references.1 hs
  exact mem_references.2 ⟨members, hin.trans h, hm⟩

end Texts

def liveReference (v : Json) : Option String := v.asObject?.bind internalReference

/-- The schemas that one member of a node holds. Under a keyword for names each name
has one of its own. -/
def memberSchemas (key : String) (v : Json) : List Json :=
  if key ∈ dataKeywords then []
  else if key ∈ nameMapKeywords then
    match v.asObject? with
    | some names => names.map Prod.snd
    | none => [v]
  else [v]

/-- The schemas directly below a value. There are none beside a reference that is
replaced. -/
def subschemas : Json → List Json
  | .object members =>
    match internalReference members with
    | some _ => []
    | none => members.flatMap fun m => memberSchemas m.1 m.2
  | .array items => items
  | _ => []

/-- A reference that is live in a value: it is on the value itself, or live in a
schema below it. -/
inductive Live (reference : String) : Json → Prop where
  | here {v : Json} (h : v.liveReference = some reference) : Live reference v
  | within {v w : Json} (hw : w ∈ v.subschemas) (h : Live reference w) : Live reference v

mutual

def replaceLive (table : String → Json) : Json → Json
  | .object members =>
    match internalReference members with
    | some reference => withDisplay (Json.object members).display (table reference)
    | none => .object (replaceMembers table members)
  | .array items => .array (replaceItems table items)
  | v => v

def replaceItems (table : String → Json) : List Json → List Json
  | [] => []
  | v :: rest => replaceLive table v :: replaceItems table rest

def replaceMembers (table : String → Json) : List (String × Json) → List (String × Json)
  | [] => []
  | (k, v) :: rest =>
    (k, if k ∈ dataKeywords then v
      else if k ∈ nameMapKeywords then replaceNames table v
      else replaceLive table v) :: replaceMembers table rest

def replaceNames (table : String → Json) : Json → Json
  | .object members => .object (replaceValues table members)
  | .array items => .array (replaceItems table items)
  | v => v

def replaceValues (table : String → Json) : List (String × Json) → List (String × Json)
  | [] => []
  | (k, v) :: rest => (k, replaceLive table v) :: replaceValues table rest

end

section Layer

variable {expand : String → Except ResolveError Json} {v w : Json}

theorem inlineWith_of_liveReference {reference : String} (h : v.liveReference = some reference) :
    inlineWith expand v = (expand reference).map (withDisplay v.display) := by
  cases v with
  | object members => exact inlineWith_reference h
  | _ => simp [liveReference, asObject?] at h

theorem liveReference_eq_some {reference : String} :
    v.liveReference = some reference ↔
      v.get? "$ref" = some (.string reference) ∧ (reference = "#" ∨ isPointer reference) := by
  cases v with
  | object members => exact internalReference_eq_some
  | _ => simp [liveReference, asObject?, get?]

theorem ne_hash_of_isPointer {pointer : String} (h : isPointer pointer) :
    pointer ≠ "#" := by
  rintro rfl
  exact absurd h (by decide)

theorem Live.internal {reference : String} (h : Live reference v) :
    reference = "#" ∨ isPointer reference := by
  induction h with
  | here h => exact (liveReference_eq_some.1 h).2
  | within _ _ ih => exact ih

theorem mem_subschemas_object {members : Members} :
    w ∈ (Json.object members).subschemas ↔
      (Json.object members).liveReference = none ∧ ∃ m ∈ members, w ∈ memberSchemas m.1 m.2 := by
  have hr : (Json.object members).liveReference = internalReference members := rfl
  rw [hr]
  cases h : internalReference members with
  | some reference => simp [subschemas, h]
  | none => simp [subschemas, h]

theorem inside_of_mem_memberSchemas {key : String} (h : w ∈ memberSchemas key v) :
    Inside w v := by
  unfold memberSchemas at h
  split at h
  · simp at h
  · split at h
    · cases v with
      | object names =>
        obtain ⟨m, hm, rfl⟩ := List.mem_map.1 h
        exact .member hm .here
      | _ =>
        rw [List.mem_singleton.1 h]
        exact .here
    · rw [List.mem_singleton.1 h]
      exact .here

theorem inside_of_mem_subschemas (h : w ∈ v.subschemas) : Inside w v := by
  cases v with
  | object members =>
    obtain ⟨-, m, hm, hw⟩ := mem_subschemas_object.1 h
    exact .member hm (inside_of_mem_memberSchemas hw)
  | array items => exact .item h .here
  | _ => simp [subschemas] at h

theorem Live.mem_references {reference : String} (h : Live reference v) :
    reference ∈ v.references := by
  induction h with
  | here h => exact mem_references_of_get? .here (liveReference_eq_some.1 h).1
  | within hw _ ih => exact references_of_inside (inside_of_mem_subschemas hw) ih

/-- To prove a property of every value, prove it of a value from the schemas directly
below it. -/
theorem subschemaInduction {P : Json → Prop} (v : Json)
    (step : ∀ v : Json, (∀ w ∈ v.subschemas, P w) → P v) : P v := by
  have hall : Everywhere P v := by
    induction v using inductionOn with
    | scalar v ha ho =>
      refine Everywhere.scalar (step v fun w hw => ?_) ha ho
      cases v <;> simp_all [subschemas, asArray?, asObject?]
    | array items ih =>
      exact Everywhere.array (step _ fun w hw => (ih w hw).self) ih
    | object members ih =>
      refine Everywhere.object (step _ fun w hw => ?_) ih
      obtain ⟨-, m, hm, hw⟩ := mem_subschemas_object.1 hw
      exact ih m hm w (inside_of_mem_memberSchemas hw)
  exact hall.self

def replaceMember (table : String → Json) (key : String) (v : Json) : Json :=
  if key ∈ dataKeywords then v
  else if key ∈ nameMapKeywords then replaceNames table v
  else replaceLive table v

theorem replaceItems_eq (table : String → Json) (items : List Json) :
    replaceItems table items = items.map (replaceLive table) := by
  induction items with
  | nil => rfl
  | cons v rest ih => rw [replaceItems, ih, List.map_cons]

theorem replaceMembers_eq (table : String → Json) (members : Members) :
    replaceMembers table members = members.map fun m => (m.1, replaceMember table m.1 m.2) := by
  induction members with
  | nil => rfl
  | cons m rest ih =>
    rw [replaceMembers, ih, List.map_cons]
    rfl

theorem replaceValues_eq (table : String → Json) (members : Members) :
    replaceValues table members = members.map fun m => (m.1, replaceLive table m.2) := by
  induction members with
  | nil => rfl
  | cons m rest ih => rw [replaceValues, ih, List.map_cons]

theorem replaceLive_of_liveReference {table : String → Json} {reference : String}
    (h : v.liveReference = some reference) :
    v.replaceLive table = withDisplay v.display (table reference) := by
  cases v with
  | object members =>
    have hr : internalReference members = some reference := h
    simp [replaceLive, hr]
  | _ => simp [liveReference, asObject?] at h

theorem replaceLive_object {table : String → Json} {members : Members}
    (h : (Json.object members).liveReference = none) :
    (Json.object members).replaceLive table =
      .object (members.map fun m => (m.1, replaceMember table m.1 m.2)) := by
  have hr : internalReference members = none := h
  simp [replaceLive, hr, replaceMembers_eq]

theorem replaceLive_scalar {table : String → Json} (ha : v.asArray? = none)
    (ho : v.asObject? = none) : v.replaceLive table = v := by
  cases v <;> simp_all [replaceLive, asArray?, asObject?]

section Replaced

variable {table : String → Json}

/-- A member is inlined when the schemas in it are. -/
theorem inlineMember_of_schemas {key : String}
    (h : ∀ w ∈ memberSchemas key v, inlineWith expand w = .ok (w.replaceLive table)) :
    inlineMember expand key v = .ok (replaceMember table key v) := by
  unfold memberSchemas at h
  unfold inlineMember replaceMember
  split_ifs at h ⊢ with hdata hnames
  · rfl
  · cases v with
    | object names =>
      have hvalues : inlineValues expand names = .ok (replaceValues table names) := by
        rw [inlineValues_eq_ok, replaceValues_eq, Members.Related, List.forall₂_map_right_iff,
          List.forall₂_same]
        intro m hm
        exact ⟨rfl, h m.2 (List.mem_map.2 ⟨m, hm, rfl⟩)⟩
      rw [inlineNameMap_object, hvalues]
      rfl
    | array items =>
      rw [inlineNameMap_of_asObject?_none rfl]
      exact h _ (List.mem_singleton_self _)
    | _ => rfl
  · exact h _ (List.mem_singleton_self _)

theorem inlineWith_of_subschemas (hr : v.liveReference = none)
    (h : ∀ w ∈ v.subschemas, inlineWith expand w = .ok (w.replaceLive table)) :
    inlineWith expand v = .ok (v.replaceLive table) := by
  cases v with
  | object members =>
    have hmembers : inlineMembers expand members =
        .ok (members.map fun m => (m.1, replaceMember table m.1 m.2)) := by
      rw [inlineMembers_eq_ok, Members.Related, List.forall₂_map_right_iff, List.forall₂_same]
      intro m hm
      refine ⟨rfl, inlineMember_of_schemas fun w hw => h w ?_⟩
      exact mem_subschemas_object.2 ⟨hr, m, hm, hw⟩
    rw [inlineWith_object hr, hmembers, replaceLive_object hr]
    rfl
  | array items =>
    have hitems : inlineItems expand items = .ok (items.map (replaceLive table)) := by
      rw [inlineItems_eq_ok, List.forall₂_map_right_iff, List.forall₂_same]
      exact h
    rw [inlineWith_array, hitems, replaceLive, replaceItems_eq]
    rfl
  | _ => rw [inlineWith_scalar rfl rfl, replaceLive_scalar rfl rfl]

/-- Where every live reference is expanded, a value is inlined to what the expansions
make of it. -/
theorem inlineWith_of_live (h : ∀ reference, Live reference v →
    expand reference = .ok (table reference)) :
    inlineWith expand v = .ok (v.replaceLive table) := by
  induction v using subschemaInduction with
  | step v ih =>
    cases hr : v.liveReference with
    | some reference =>
      rw [inlineWith_of_liveReference hr, h reference (.here hr), replaceLive_of_liveReference hr]
      rfl
    | none =>
      refine inlineWith_of_subschemas hr fun w hw => ih w hw fun reference hl => ?_
      exact h reference (.within hw hl)

end Replaced

section Succeeds

theorem exists_of_inlineItems {items others : List Json}
    (h : inlineItems expand items = .ok others) (hw : w ∈ items) :
    ∃ u, inlineWith expand w = .ok u := by
  obtain ⟨u, -, hu⟩ := exists_of_mem_right (inlineItems_eq_ok.1 h).flip hw
  exact ⟨u, hu⟩

theorem exists_of_inlineMember {key : String} {u : Json}
    (h : inlineMember expand key v = .ok u) (hw : w ∈ memberSchemas key v) :
    ∃ x, inlineWith expand w = .ok x := by
  unfold inlineMember at h
  unfold memberSchemas at hw
  split_ifs at h hw with hdata hnames
  · simp at hw
  · cases v with
    | object names =>
      obtain ⟨m, hm, rfl⟩ := List.mem_map.1 hw
      rw [inlineNameMap_object] at h
      obtain ⟨others, ho, -⟩ := map_eq_ok.1 h
      obtain ⟨n, -, -, hn⟩ := exists_of_mem_right (inlineValues_eq_ok.1 ho).flip hm
      exact ⟨n.2, hn⟩
    | _ =>
      rw [List.mem_singleton.1 hw]
      rw [inlineNameMap_of_asObject?_none rfl] at h
      exact ⟨u, h⟩
  · rw [List.mem_singleton.1 hw]
    exact ⟨u, h⟩

theorem exists_of_inlineWith {u : Json} (h : inlineWith expand v = .ok u)
    (hw : w ∈ v.subschemas) : ∃ x, inlineWith expand w = .ok x := by
  cases v with
  | object members =>
    obtain ⟨hr, m, hm, hw⟩ := mem_subschemas_object.1 hw
    rw [inlineWith_object hr] at h
    obtain ⟨others, ho, -⟩ := map_eq_ok.1 h
    obtain ⟨n, -, -, hn⟩ := exists_of_mem_right (inlineMembers_eq_ok.1 ho).flip hm
    exact exists_of_inlineMember hn hw
  | array items =>
    rw [inlineWith_array] at h
    obtain ⟨others, ho, -⟩ := map_eq_ok.1 h
    exact exists_of_inlineItems ho hw
  | _ => simp [subschemas] at hw

/-- A value that is inlined has no live reference that cannot be expanded. -/
theorem exists_expand_of_live {reference : String} {u : Json} (hl : Live reference v)
    (h : inlineWith expand v = .ok u) : ∃ x, expand reference = .ok x := by
  induction hl generalizing u with
  | here hr =>
    rw [inlineWith_of_liveReference hr] at h
    obtain ⟨x, hx, -⟩ := map_eq_ok.1 h
    exact ⟨x, hx⟩
  | within hw _ ih =>
    obtain ⟨x, hx⟩ := exists_of_inlineWith h hw
    exact ih hx

/-- Inlining depends on what the live references are expanded to alone. -/
theorem inlineWith_of_expand {other : String → Except ResolveError Json}
    (h : inlineWith expand v = .ok w)
    (hother : ∀ reference x, Live reference v → expand reference = .ok x →
      other reference = .ok x) : inlineWith other v = .ok w := by
  have hexpand : ∀ reference, Live reference v →
      expand reference = .ok ((expand reference).toOption.getD .null) := by
    intro reference hl
    obtain ⟨x, hx⟩ := exists_expand_of_live hl h
    rw [hx]
    rfl
  have hw := inlineWith_of_live hexpand
  obtain rfl := Except.ok.inj (h.symm.trans hw)
  exact inlineWith_of_live fun reference hl => hother reference _ hl (hexpand reference hl)

end Succeeds

section Fails

variable {e : ResolveError}

theorem inlineItems_eq_error {items : List Json} (h : inlineItems expand items = .error e) :
    ∃ v ∈ items, inlineWith expand v = .error e := by
  rw [inlineItems_eq_mapM] at h
  exact mapM_eq_error h

theorem inlineValues_eq_error {members : Members} (h : inlineValues expand members = .error e) :
    ∃ m ∈ members, inlineWith expand m.2 = .error e := by
  rw [inlineValues_eq_mapM] at h
  exact Members.exists_error_of_mapM (f := fun _ => inlineWith expand) h

theorem inlineMembers_eq_error {members : Members} (h : inlineMembers expand members = .error e) :
    ∃ m ∈ members, inlineMember expand m.1 m.2 = .error e := by
  rw [inlineMembers_eq_mapM] at h
  exact Members.exists_error_of_mapM h

theorem inlineMember_eq_error {key : String} (h : inlineMember expand key v = .error e) :
    ∃ w ∈ memberSchemas key v, inlineWith expand w = .error e := by
  unfold inlineMember at h
  unfold memberSchemas
  split_ifs at h ⊢ with hdata hnames
  · cases v with
    | object names =>
      rw [inlineNameMap_object, map_eq_error] at h
      obtain ⟨m, hm, he⟩ := inlineValues_eq_error h
      exact ⟨m.2, List.mem_map.2 ⟨m, hm, rfl⟩, he⟩
    | _ =>
      rw [inlineNameMap_of_asObject?_none rfl] at h
      exact ⟨_, List.mem_singleton_self _, h⟩
  · exact ⟨v, List.mem_singleton_self v, h⟩

theorem exists_subschema_of_error (hr : v.liveReference = none)
    (h : inlineWith expand v = .error e) : ∃ w ∈ v.subschemas, inlineWith expand w = .error e := by
  cases v with
  | object members =>
    rw [inlineWith_object hr, map_eq_error] at h
    obtain ⟨m, hm, he⟩ := inlineMembers_eq_error h
    obtain ⟨w, hw, he⟩ := inlineMember_eq_error he
    exact ⟨w, mem_subschemas_object.2 ⟨hr, m, hm, hw⟩, he⟩
  | array items =>
    rw [inlineWith_array, map_eq_error] at h
    exact inlineItems_eq_error h
  | _ => simp [inlineWith] at h

/-- A value that fails to be inlined has a live reference that fails to be expanded. -/
theorem exists_live_of_error (h : inlineWith expand v = .error e) :
    ∃ reference, Live reference v ∧ expand reference = .error e := by
  induction v using subschemaInduction with
  | step v ih =>
    cases hr : v.liveReference with
    | some reference =>
      rw [inlineWith_of_liveReference hr, map_eq_error] at h
      exact ⟨reference, .here hr, h⟩
    | none =>
      obtain ⟨w, hw, he⟩ := exists_subschema_of_error hr h
      obtain ⟨reference, hl, he⟩ := ih w hw he
      exact ⟨reference, .within hw hl, he⟩

end Fails

end Layer

end Json
end Rulebook
