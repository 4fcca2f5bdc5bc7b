import Rulebook.Proofs.Reference.Expansion

/-! Values that no longer depend on the document they were inlined in. A reference can be
left in such a value only where one reference stands directly under another `$ref`: what
the inner one stands for may be a text, and that text is then a reference of its own. -/

namespace Rulebook
namespace Json
open Outcome

/-- A value that stands at a live position of another one: among data and definitions
there is none, and under a keyword for names there is one for each name. -/
inductive LiveAt (w : Json) : Json → Prop where
  | here : LiveAt w w
  | item {items : List Json} {v : Json} (hv : v ∈ items) (h : LiveAt w v) : LiveAt w (.array items)
  | member {members : Members} {key : String} {x v : Json} (hm : (key, x) ∈ members)
      (hv : v ∈ memberSchemas key x) (h : LiveAt w v) : LiveAt w (.object members)

/-- No reference into a document stands at a live position. -/
def Independent (v : Json) : Prop := ∀ w, LiveAt w v → w.liveReference = none

section Independent

variable {v : Json}

theorem LiveAt.of_subschema {u w : Json} (hw : w ∈ v.subschemas) (h : LiveAt u w) : LiveAt u v := by
  cases v with
  | object members =>
    obtain ⟨-, m, hm, hw⟩ := mem_subschemas_object.1 hw
    exact .member hm hw h
  | array items => exact .item hw h
  | _ => simp [subschemas] at hw

theorem independent_iff : Independent v ↔ ∀ reference, ¬ Live reference v := by
  constructor
  · intro h reference hl
    obtain ⟨w, hw, hr⟩ : ∃ w, LiveAt w v ∧ w.liveReference = some reference := by
      clear h
      induction hl with
      | here hr => exact ⟨_, .here, hr⟩
      | within hw _ ih =>
        obtain ⟨u, hu, hr⟩ := ih
        exact ⟨u, .of_subschema hw hu, hr⟩
    simp [h w hw] at hr
  · intro h w hw
    induction hw with
    | here => exact Option.eq_none_iff_forall_not_mem.2 fun reference hr => h reference (.here hr)
    | item hv _ ih => exact ih fun reference hl => h reference (.within hv hl)
    | @member members key x v hm hv _ ih =>
      have hr : (Json.object members).liveReference = none :=
        Option.eq_none_iff_forall_not_mem.2 fun reference hr => h reference (.here hr)
      refine ih fun reference hl => h reference (.within ?_ hl)
      exact mem_subschemas_object.2 ⟨hr, (key, x), hm, hv⟩

end Independent

section Replaced

variable {table : String → Json} {v : Json}

/-- The schemas of a member are replaced one by one. -/
theorem memberSchemas_replaceMember (table : String → Json) (key : String) (v : Json) :
    memberSchemas key (replaceMember table key v) =
      (memberSchemas key v).map (replaceLive table) := by
  unfold memberSchemas replaceMember
  split_ifs
  · rfl
  · cases v with
    | object names => simp [replaceNames, replaceValues_eq, asObject?]
    | array items => simp [replaceNames, replaceLive, asObject?]
    | _ => rfl
  · rfl

theorem replaceMember_of_schemas {key : String}
    (h : ∀ w ∈ memberSchemas key v, w.replaceLive table = w) : replaceMember table key v = v := by
  unfold memberSchemas at h
  unfold replaceMember
  split_ifs at h ⊢
  · rfl
  · cases v with
    | object names =>
      have hnames : ∀ m ∈ names, (m.1, m.2.replaceLive table) = id m := by
        intro m hm
        rw [h m.2 (List.mem_map.2 ⟨m, hm, rfl⟩)]
        rfl
      rw [replaceNames, replaceValues_eq, List.map_congr_left hnames, List.map_id]
    | array items => exact h _ (List.mem_singleton_self _)
    | _ => rfl
  · exact h v (List.mem_singleton_self v)

/-- Nothing is replaced in a value without live references. -/
theorem replaceLive_of_not_live (h : ∀ reference, ¬ Live reference v) : v.replaceLive table = v := by
  induction v using subschemaInduction with
  | step v ih =>
    have hr : v.liveReference = none :=
      Option.eq_none_iff_forall_not_mem.2 fun reference hr => h reference (.here hr)
    have hbelow : ∀ w ∈ v.subschemas, w.replaceLive table = w :=
      fun w hw => ih w hw fun reference hl => h reference (.within hw hl)
    cases v with
    | object members =>
      have hmembers : ∀ m ∈ members, (m.1, replaceMember table m.1 m.2) = id m := by
        intro m hm
        have hschemas : ∀ w ∈ memberSchemas m.1 m.2, w.replaceLive table = w :=
          fun w hw => hbelow w (mem_subschemas_object.2 ⟨hr, m, hm, hw⟩)
        rw [replaceMember_of_schemas hschemas]
        rfl
      rw [replaceLive_object hr, List.map_congr_left hmembers, List.map_id]
    | array items =>
      have hitems : ∀ w ∈ items, w.replaceLive table = id w := hbelow
      rw [replaceLive, replaceItems_eq, List.map_congr_left hitems, List.map_id]
    | _ => rfl

/-- A copy of an independent value is the value itself, whatever document its references
would be read in. -/
theorem inlineReferences_of_independent {root : Json} (h : Independent v) :
    inlineReferences root v = .ok v := by
  have hnone := independent_iff.1 h
  have hcopy : inlineReferences root v = .ok (v.replaceLive fun _ => .null) := by
    rw [inlineReferences, inlineWithin_eq]
    exact inlineWith_of_live fun reference hl => absurd hl (hnone reference)
  rw [hcopy, replaceLive_of_not_live hnone]

/-- A node without a reference is replaced member by member. -/
theorem get?_replaceLive (hr : v.liveReference = none) (key : String) :
    (v.replaceLive table).get? key = (v.get? key).map (replaceMember table key) := by
  cases v with
  | object members =>
    rw [replaceLive_object hr]
    clear hr
    induction members with
    | nil => rfl
    | cons m rest ih =>
      obtain ⟨k, x⟩ := m
      by_cases hk : k = key
      · subst hk
        simp [Members.get?]
      · simpa [Members.get?, hk] using ih
  | _ => rfl

end Replaced

/-- A live reference that a value has, but not under the given keys of the value itself. -/
inductive Uncovered (covered : List String) : Json → Prop where
  | here {v : Json} {reference : String} (h : v.liveReference = some reference) :
      Uncovered covered v
  | item {items : List Json} {v : Json} {reference : String} (hv : v ∈ items)
      (h : Live reference v) : Uncovered covered (.array items)
  | member {members : Members} {key reference : String} {x v : Json} (hm : (key, x) ∈ members)
      (hk : key ∉ covered) (hv : v ∈ memberSchemas key x) (h : Live reference v) :
      Uncovered covered (.object members)

section Uncovered

variable {covered : List String} {node v : Json}

theorem uncovered_nil : Uncovered [] v ↔ ∃ reference, Live reference v := by
  constructor
  · rintro (h | ⟨hv, h⟩ | @⟨members, key, reference, x, v, hm, -, hv, h⟩)
    · exact ⟨_, .here h⟩
    · exact ⟨_, .within hv h⟩
    · cases hr : (Json.object members).liveReference with
      | some own => exact ⟨own, .here hr⟩
      | none => exact ⟨_, .within (mem_subschemas_object.2 ⟨hr, _, hm, hv⟩) h⟩
  · rintro ⟨reference, h⟩
    cases h with
    | here h => exact .here h
    | within hw h =>
      cases v with
      | object members =>
        obtain ⟨-, m, hm, hw⟩ := mem_subschemas_object.1 hw
        exact .member hm List.not_mem_nil hw h
      | array items => exact .item hw h
      | _ => simp [subschemas] at hw

theorem not_live_of_scalar {reference : String} (ha : v.asArray? = none) (ho : v.asObject? = none) :
    ¬ Live reference v := by
  rintro (h | ⟨hw, -⟩)
  · simp [liveReference, ho] at h
  · cases v <;> simp_all [subschemas, asArray?, asObject?]

theorem liveReference_withDisplay (node v : Json) :
    (withDisplay node.display v).liveReference = v.liveReference := by
  refine Option.ext fun reference => ?_
  rw [liveReference_eq_some, liveReference_eq_some, get?_withDisplay_of_notMem (by decide)]

theorem eq_of_mem_memberSchemas {key : String} {x : Json} (hx : x.asObject? = none)
    (h : v ∈ memberSchemas key x) : v = x := by
  unfold memberSchemas at h
  rw [hx] at h
  split_ifs at h
  · simp at h
  · exact List.mem_singleton.1 h
  · exact List.mem_singleton.1 h

/-- What is covered in a value that is no object makes no difference. -/
theorem Uncovered.of_not_isObject {other : List String} (ho : v.asObject? = none)
    (h : Uncovered covered v) : Uncovered other v := by
  cases h with
  | here h => exact .here h
  | item hv h => exact .item hv h
  | member => simp [asObject?] at ho

/-- Display text with nothing inside covers what stands under its keys. -/
theorem uncovered_withDisplay
    (hplain : ∀ m ∈ node.display, m.2.asArray? = none ∧ m.2.asObject? = none)
    (hv : v.DistinctKeys) :
    Uncovered covered (withDisplay node.display v) ↔
      Uncovered (covered ++ node.display.keys) v := by
  cases v with
  | object members =>
    have hlive := liveReference_withDisplay node (.object members)
    have hlaid : Members.Distinct (Members.extend members node.display) :=
      Members.Distinct.extend hv _
    rw [withDisplay] at hlive ⊢
    constructor
    · rintro (h | - | @⟨_, key, reference, x, v, hm, hk, hv, h⟩)
      · exact .here (hlive ▸ h)
      · by_cases hc : key ∈ Members.keys node.display
        · obtain ⟨⟨_, d⟩, hd, rfl⟩ := List.mem_map.1 hc
          have hget := Members.get?_extend_of_mem (display_distinct node) hd members
          obtain rfl : x = d := Option.some.inj ((hlaid.get?_of_mem hm).symm.trans hget)
          obtain ⟨harray, hobject⟩ := hplain _ hd
          obtain rfl := eq_of_mem_memberSchemas hobject hv
          exact absurd h (not_live_of_scalar harray hobject)
        · have hin : (key, x) ∈ members :=
            (Members.mem_extend hm).resolve_right fun hd => hc (List.mem_map.2 ⟨_, hd, rfl⟩)
          refine .member hin (fun hkey => ?_) hv h
          exact (List.mem_append.1 hkey).elim hk hc
    · rintro (h | - | @⟨_, key, reference, x, v, hm, hk, hv', h⟩)
      · exact .here (hlive.trans h)
      · obtain ⟨hk, hc⟩ := not_or.1 (fun hkey => hk (List.mem_append.2 hkey))
        have hget : Members.get? key (Members.extend members node.display) = some x := by
          rw [Members.get?_extend_of_notMem hc]
          exact Members.Distinct.get?_of_mem hv hm
        exact .member (Members.mem_of_get? hget) hk hv' h
  | _ => exact ⟨.of_not_isObject rfl, .of_not_isObject rfl⟩

end Uncovered

/-- Inlining leaves a reference behind. It makes one of the text that a reference directly
under another `$ref` stands for. Display text is laid over the copies of the nodes that
the references on the way lead to, and covers what stands under its keys. -/
inductive Exposes (root : Json) : List String → Json → Prop where
  | stacked {covered : List String} {v x : Json} {pointer reference : String}
      (hv : v.liveReference = none) (hx : v.get? "$ref" = some x)
      (hp : x.liveReference = some pointer) (hs : standIn root pointer = .string reference)
      (hr : reference = "#" ∨ isPointer reference) : Exposes root covered v
  | item {covered : List String} {items : List Json} {w : Json} (hw : w ∈ items)
      (h : Exposes root [] w) : Exposes root covered (.array items)
  | member {covered : List String} {members : Members} {key : String} {x w : Json}
      (hr : (Json.object members).liveReference = none) (hm : (key, x) ∈ members)
      (hk : key ∉ covered) (hw : w ∈ memberSchemas key x) (h : Exposes root [] w) :
      Exposes root covered (.object members)
  | through {covered : List String} {v target : Json} {pointer : String}
      (hv : v.liveReference = some pointer) (hp : isPointer pointer)
      (ht : Pointer.resolve root pointer = .ok target)
      (h : Exposes root (covered ++ Members.keys v.display) target) : Exposes root covered v

def hasPlainLabels (node : Json) : Bool :=
  (node.text? "$ref").isNone || displayFields.all fun field =>
    (node.get? field).all fun d => d.asArray?.isNone && d.asObject?.isNone

def PlainLabels (v : Json) : Prop := Everywhere (fun node => node.hasPlainLabels) v

instance : DecidablePred PlainLabels :=
  inferInstanceAs (DecidablePred (Everywhere fun node => node.hasPlainLabels))

/-- Documents whose own texts are copied without a reference in them: neither the labels
beside a reference nor the type of the document can hold one. -/
structure PlainRoot (root : Json) : Prop where
  wellFormed : root.WellFormed
  labels : root.PlainLabels
  type : ∀ t, root.get? "type" = some t → Everywhere (fun w => w.asObject? = none) t

section Exposes

variable {root v w r : Json} {covered unused : List String}

theorem PlainLabels.display (h : v.PlainLabels) {reference : String}
    (hr : v.liveReference = some reference) :
    ∀ m ∈ v.display, m.2.asArray? = none ∧ m.2.asObject? = none := by
  intro m hm
  obtain ⟨hfield, hget, -⟩ := mem_display hm
  have htext : v.text? "$ref" = some reference := by
    rw [text?, (liveReference_eq_some.1 hr).1]
    rfl
  have hnode := h.self
  simp only [hasPlainLabels, htext, Option.isNone_some, Bool.false_or, List.all_eq_true] at hnode
  simpa [hget] using hnode m.1 hfield

theorem not_live_of_everywhere (h : Everywhere (fun w => w.asObject? = none) v)
    (reference : String) : ¬ Live reference v := by
  intro hl
  induction hl with
  | here hr => simp [liveReference, h.self] at hr
  | within hw _ ih => exact ih (h.inside (inside_of_mem_subschemas hw))

/-- What stands for the whole document has no reference. -/
theorem PlainRoot.not_uncovered_selfReference (h : PlainRoot root) :
    ¬ Uncovered covered (selfReference root) := by
  rintro (hr | - | ⟨hm, -, hv, hl⟩)
  · simp [liveReference, selfReference, asObject?, internalReference, Members.get?] at hr
  · obtain ⟨rfl, rfl⟩ := Prod.mk.inj (List.mem_singleton.1 hm)
    have htype : Everywhere (fun w => w.asObject? = none)
        ((root.get? "type").getD (.string "object")) := by
      cases ht : root.get? "type" with
      | some t => exact h.type t ht
      | none => exact Everywhere.scalar rfl rfl rfl
    exact not_live_of_everywhere (htype.inside (inside_of_mem_memberSchemas hv)) _ hl

/-- The schemas of a value that was inlined were inlined. -/
theorem inlineReferences_of_mem_subschemas (h : inlineReferences root v = .ok r)
    (hw : w ∈ v.subschemas) : inlineReferences root w = .ok (w.replaceLive (standIn root)) := by
  rw [inlineReferences, inlineWithin_eq] at h
  obtain ⟨u, hu⟩ := exists_of_inlineWith h hw
  rw [← inlineWithin_eq] at hu
  have hcopy := inlineReferences_of_inlineWithin hu
  rw [hcopy, replaceLive_of_inlineReferences hcopy]

/-- A reference that is left behind shows in the copy. -/
theorem Exposes.uncovered (hroot : PlainRoot root) (hv : v.WellFormed) (hl : v.PlainLabels)
    (h : Exposes root covered v) (hr : inlineReferences root v = .ok r) : Uncovered covered r := by
  induction h generalizing r with
  | @stacked _ v x pointer reference hnone hx hp hs href =>
    have hget : (v.replaceLive (standIn root)).get? "$ref" = some (.string reference) := by
      have hkey : replaceMember (standIn root) "$ref" x = x.replaceLive (standIn root) := rfl
      rw [get?_replaceLive hnone, hx, Option.map_some, hkey, replaceLive_of_liveReference hp, hs]
      rfl
    rw [replaceLive_of_inlineReferences hr]
    exact .here (liveReference_eq_some.2 ⟨hget, href⟩)
  | @item _ items w hw _ ih =>
    have hcopy := inlineReferences_of_mem_subschemas hr hw
    obtain ⟨reference, hlive⟩ := uncovered_nil.1 (ih (hv.items w hw) (hl.items w hw) hcopy)
    rw [replaceLive_of_inlineReferences hr, replaceLive, replaceItems_eq]
    exact .item (List.mem_map.2 ⟨w, hw, rfl⟩) hlive
  | @member _ members key x w hnone hm hk hw _ ih =>
    have hsub := mem_subschemas_object.2 ⟨hnone, (key, x), hm, hw⟩
    have hin := inside_of_mem_subschemas hsub
    have hcopy := inlineReferences_of_mem_subschemas hr hsub
    obtain ⟨reference, hlive⟩ := uncovered_nil.1 (ih (hv.inside hin) (hl.inside hin) hcopy)
    have hreplaced : w.replaceLive (standIn root) ∈
        memberSchemas key (replaceMember (standIn root) key x) := by
      rw [memberSchemas_replaceMember]
      exact List.mem_map.2 ⟨w, hw, rfl⟩
    rw [replaceLive_of_inlineReferences hr, replaceLive_object hnone]
    exact .member (List.mem_map.2 ⟨(key, x), hm, rfl⟩) hk hreplaced hlive
  | @through _ v target pointer hlive hp ht _ ih =>
    obtain ⟨found, hf, hcopy⟩ := standIn_of_reached hr (.live (.here hlive) hp)
    obtain rfl : target = found := Except.ok.inj (ht.symm.trans hf)
    have hin := Pointer.inside_of_resolve ht
    have hwf : (standIn root pointer).WellFormed :=
      WellFormed.inlineWithin hroot.wellFormed (hroot.wellFormed.inside hin) hcopy
    rw [replaceLive_of_inlineReferences hr, replaceLive_of_liveReference hlive,
      uncovered_withDisplay (hl.display hlive) hwf.self]
    exact ih (hroot.wellFormed.inside hin) (hroot.labels.inside hin) hcopy

/-- A value whose copy has a reference has one in the copy of a schema below it, or it has
got one under `$ref`. -/
theorem exposes_of_replaceLive (hnone : v.liveReference = none)
    (h : Uncovered covered (v.replaceLive (standIn root)))
    (hbelow : ∀ w ∈ v.subschemas, ∀ reference,
      Live reference (w.replaceLive (standIn root)) → Exposes root [] w) :
    Exposes root covered v := by
  cases v with
  | object members =>
    rw [replaceLive_object hnone] at h
    rcases h with @⟨_, reference, h⟩ | - | @⟨_, key, reference, y, u, hm, hk, hu, hlive⟩
    · rw [← replaceLive_object hnone] at h
      obtain ⟨hget, href⟩ := liveReference_eq_some.1 h
      rw [get?_replaceLive hnone] at hget
      obtain ⟨x, hx, hreplaced⟩ := Option.map_eq_some_iff.1 hget
      have hcopy : x.replaceLive (standIn root) = .string reference := hreplaced
      cases hp : x.liveReference with
      | some pointer =>
        rw [replaceLive_of_liveReference hp] at hcopy
        have hs : standIn root pointer = .string reference := by
          cases hstand : standIn root pointer <;> simp_all [withDisplay]
        exact .stacked hnone hx hp hs href
      | none =>
        -- Only the text itself is copied to a text, and it would be a live reference.
        have hsame : x = .string reference := by
          cases x with
          | object others => simp [replaceLive_object hp] at hcopy
          | array items => simp [replaceLive] at hcopy
          | _ => exact hcopy
        subst hsame
        exact absurd (liveReference_eq_some.2 ⟨hx, href⟩) (by simp [hnone])
    · obtain ⟨⟨_, x⟩, hx, hsame⟩ := List.mem_map.1 hm
      obtain ⟨rfl, rfl⟩ := Prod.mk.inj hsame
      rw [memberSchemas_replaceMember] at hu
      obtain ⟨w, hw, rfl⟩ := List.mem_map.1 hu
      have hsub := mem_subschemas_object.2 ⟨hnone, _, hx, hw⟩
      exact .member hnone hx hk hw (hbelow w hsub reference hlive)
  | array items =>
    rw [replaceLive, replaceItems_eq] at h
    rcases h with h | ⟨hu, hlive⟩ | -
    · simp [liveReference, asObject?] at h
    · obtain ⟨w, hw, rfl⟩ := List.mem_map.1 hu
      exact .item hw (hbelow w hw _ hlive)
  | _ =>
    rcases h with h | - | -
    simp [replaceLive, liveReference, asObject?] at h

/-- A reference that shows in a copy was left behind. -/
theorem Uncovered.exposes (hroot : PlainRoot root) (hv : v.WellFormed) (hl : v.PlainLabels)
    (hr : inlineWithin root unused v = .ok r) (h : Uncovered covered r) :
    Exposes root covered v := by
  induction hn : unused.length using Nat.strongRecOn generalizing unused v r covered with
  | ind n ihentered =>
    induction v using subschemaInduction generalizing r covered with
    | step v ih =>
      cases hlive : v.liveReference with
      | some pointer =>
        rw [inlineWithin_eq, inlineWith_of_liveReference hlive] at hr
        obtain ⟨u, hu, rfl⟩ := map_eq_ok.1 hr
        have hplain := hl.display hlive
        rcases expandWithin_eq_ok.1 hu with ⟨-, rfl⟩ | ⟨hne, hmem, target, ht, hu⟩
        · have hself : (selfReference root).DistinctKeys := by
            simp [DistinctKeys, selfReference, Members.Distinct, Members.keys]
          exact absurd ((uncovered_withDisplay hplain hself).1 h) hroot.not_uncovered_selfReference
        · have hp : isPointer pointer := (liveReference_eq_some.1 hlive).2.resolve_left hne
          have hin := Pointer.inside_of_resolve ht
          have htarget : target.WellFormed := hroot.wellFormed.inside hin
          have hwf : u.WellFormed := WellFormed.inlineWithin hroot.wellFormed htarget hu
          have hlt : (without pointer unused).length < unused.length := length_without_lt hmem
          exact .through hlive hp ht (ihentered _ (by omega) htarget (hroot.labels.inside hin) hu
            ((uncovered_withDisplay hplain hwf.self).1 h) rfl)
      | none =>
        have hbelow : ∀ w ∈ v.subschemas, ∀ reference,
            Live reference (w.replaceLive (standIn root)) → Exposes root [] w := by
          intro w hw reference hlast
          have hin := inside_of_mem_subschemas hw
          rw [inlineWithin_eq] at hr
          obtain ⟨u, hu⟩ := exists_of_inlineWith hr hw
          rw [← inlineWithin_eq] at hu
          have hcopy := replaceLive_of_inlineReferences (inlineReferences_of_inlineWithin hu)
          rw [← hcopy] at hlast
          exact ih w hw (hv.inside hin) (hl.inside hin) hu (uncovered_nil.2 ⟨reference, hlast⟩)
        obtain rfl := replaceLive_of_inlineReferences (inlineReferences_of_inlineWithin hr)
        exact exposes_of_replaceLive hlive h hbelow

/-- Nothing is left behind where no reference stands directly under a `$ref`. -/
theorem not_exposes_of_unstacked (hroot : Conforms Unstacked root) (hv : Conforms Unstacked v) :
    ¬ Exposes root covered v := by
  intro h
  induction h with
  | stacked _ hx hp =>
    exact (hv.self.2 _ hx) _ (liveReference_eq_some.1 hp).1
  | item hw _ ih => exact ih (hv.items _ hw)
  | member hr hm _ hw _ ih =>
    exact ih (hv.inside (inside_of_mem_subschemas (mem_subschemas_object.2 ⟨hr, _, hm, hw⟩)))
  | through _ _ ht _ ih => exact ih (hroot.inside (Pointer.inside_of_resolve ht))

end Exposes

/-- An inlined value stands on its own exactly when inlining left no reference behind: no
live position has a reference into a document then, and the value comes back from any
document as it is. That is so wherever no reference stands directly under a `$ref`. -/
theorem independent_iff_of_inlineReferences {root v r : Json} (hroot : PlainRoot root)
    (hv : v.WellFormed) (hlabels : v.PlainLabels) (h : inlineReferences root v = .ok r) :
    ((r.Independent ∧ ∀ other, inlineReferences other r = .ok r) ↔ ¬ Exposes root [] v) ∧
      (Conforms Unstacked root → Conforms Unstacked v →
        r.Independent ∧ ∀ other, inlineReferences other r = .ok r) := by
  have hstands : r.Independent → ∀ other, inlineReferences other r = .ok r :=
    fun hr _ => inlineReferences_of_independent hr
  have hclosed : ¬ Exposes root [] v → r.Independent := by
    intro hnot
    refine independent_iff.2 fun reference hl => hnot ?_
    exact (uncovered_nil.2 ⟨reference, hl⟩).exposes hroot hv hlabels h
  refine ⟨⟨fun hr hexposed => ?_, fun hnot => ?_⟩, fun hr hs => ?_⟩
  · obtain ⟨reference, hl⟩ := uncovered_nil.1 (hexposed.uncovered hroot hv hlabels h)
    exact independent_iff.1 hr.1 reference hl
  · exact ⟨hclosed hnot, hstands (hclosed hnot)⟩
  · have hindependent := hclosed (not_exposes_of_unstacked hr hs)
    exact ⟨hindependent, hstands hindependent⟩

/-- Names of properties are no keywords: what stands under them is copied, while a default
value is data and keeps its reference. -/
theorem independent_iff_of_inlineReferences_names :
    let email := Json.object [("type", .string "string"), ("format", .string "email")]
    let refer := Json.object [("$ref", .string "#/definitions/email"), ("title", .string "Mail")]
    let copy := Json.object
      [("type", .string "string"), ("format", .string "email"), ("title", .string "Mail")]
    let root := Json.object [("definitions", .object [("email", email)])]
    let v := Json.object [("properties", .object [("default", refer), ("enum", refer)]),
      ("patternProperties", .object [("^definitions$", refer)]), ("default", refer)]
    let r := Json.object [("properties", .object [("default", copy), ("enum", copy)]),
      ("patternProperties", .object [("^definitions$", copy)]), ("default", refer)]
    PlainRoot root ∧ v.WellFormed ∧ v.PlainLabels ∧ inlineReferences root v = .ok r ∧
      r.Independent ∧ ∀ other, inlineReferences other r = .ok r := by
  intro email refer copy root v r
  have hroot : PlainRoot root := ⟨by decide, by decide, fun t ht => by simp [root, Members.get?] at ht⟩
  have hcopy : inlineReferences root v = .ok r := by decide +kernel
  have hall := independent_iff_of_inlineReferences hroot (v := v) (by decide) (by decide) hcopy
  exact ⟨hroot, by decide, by decide, hcopy, hall.2 (by decide) (by decide)⟩

/-- The copy of a reference directly under a `$ref` may be a text that is a reference of its
own. It is read in whatever document the copy comes to. -/
theorem not_independent_of_stacked :
    let root := Json.object [("x", .string "#")]
    let v := Json.object [("$ref", .object [("$ref", .string "#/x")])]
    let r := Json.object [("$ref", .string "#")]
    let other := Json.object [("type", .string "string")]
    PlainRoot root ∧ v.WellFormed ∧ v.PlainLabels ∧ inlineReferences root v = .ok r ∧
      ¬ r.Independent ∧ inlineReferences other r = .ok other ∧ r ≠ other := by
  intro root v r other
  have hroot : PlainRoot root := ⟨by decide, by decide, fun t ht => by simp [root, Members.get?] at ht⟩
  refine ⟨hroot, by decide, by decide, by decide +kernel, fun h => ?_, by decide +kernel, by decide⟩
  exact absurd (h r .here) (by decide)

end Json
end Rulebook
