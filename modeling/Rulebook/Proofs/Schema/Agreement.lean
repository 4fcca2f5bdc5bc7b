import Rulebook.Proofs.Reference.Copying
import Rulebook.Proofs.Schema.Shape

/-! The shape of a node whose references are followed, and that of its copy. They
agree when nothing that a shape is read from is changed by inlining. -/

namespace Rulebook

namespace Shape

/-- The same shape, but for declared properties, which are copies. -/
inductive Agrees (root : Json) : Shape → Shape → Prop where
  | scalar (kind : Scalar) : Agrees root (.scalar kind) (.scalar kind)
  | undeclared (isOpen : Bool) : Agrees root (.object none [] isOpen) (.object none [] isOpen)
  | declared {properties copies : Members} (names : List String) (isOpen : Bool)
      (h : properties.Related (fun _ => Json.Copied root) copies) :
      Agrees root (.object (some properties) names isOpen) (.object (some copies) names isOpen)
  | array {element other : Shape} (h : Agrees root element other) :
      Agrees root (.array element) (.array other)

namespace Agrees

variable {root : Json} {shape other : Shape}

theorem toScalar_eq (h : Agrees root shape other) : other.toScalar = shape.toScalar := by
  cases h <;> rfl

theorem ruleType_eq (h : Agrees root shape other) : other.ruleType = shape.ruleType := by
  cases h with
  | array h => simp only [ruleType, h.toScalar_eq]
  | _ => rfl

theorem isArray_eq (h : Agrees root shape other) : other.isArray = shape.isArray := by
  cases h <;> rfl

theorem isOpenObject_eq (h : Agrees root shape other) :
    other.isOpenObject = shape.isOpenObject := by
  cases h <;> rfl

theorem isOpen_eq (h : Agrees root shape other) : other.isOpen = shape.isOpen := by
  cases h with
  | array h => exact h.isOpenObject_eq
  | _ => rfl

/-- The declared properties of one shape are copies of those of the other. -/
theorem subProperties_rel (h : Agrees root shape other) :
    Option.Rel (fun a b => a.1.Related (fun _ => Json.Copied root) b.1 ∧ a.2 = b.2)
      shape.subProperties other.subProperties := by
  induction h with
  | scalar kind => exact .none
  | undeclared isOpen => exact .none
  | declared names isOpen h => exact .some ⟨h, rfl⟩
  | array _ ih => exact ih

end Agrees

/-- Arrays agree when their `items` do. -/
theorem agrees_ofItems {root x y : Json} (h : Agrees root (classify x) (classify y))
    (ht : y.text? "type" = x.text? "type") (format : Option String) :
    Agrees root (ofItems (some x) (some (classify x)) format)
      (ofItems (some y) (some (classify y)) format) := by
  rw [ofItems_classify, ofItems_classify, ht]
  refine .array ?_
  generalize classify x = shape at h
  generalize classify y = other at h
  cases h with
  | scalar kind => cases kind <;> exact .scalar _
  | undeclared isOpen => exact .undeclared isOpen
  | declared names isOpen h => exact .declared names isOpen h
  | array h => exact .array h

end Shape

namespace Json
open Outcome Shape

/-- The `items` of an array that carries no reference. -/
def HasItems (node items : Json) : Prop :=
  node.get? "$ref" = none ∧ node.declaredType = some "array" ∧ node.get? "items" = some items

inductive Read (root node : Json) : Json → Prop where
  | here : Read root node node
  | target {x y : Json} (h : Read root node x) (hr : Refers root x y) : Read root node y
  | items {x y : Json} (h : Read root node x) (hi : HasItems x y) : Read root node y

theorem Read.trans {root u v w : Json} (hu : Read root u v) (hv : Read root v w) :
    Read root u w := by
  induction hv with
  | here => exact hu
  | target _ hr ih => exact ih.target hr
  | items _ hi ih => exact ih.items hi

theorem Read.everywhere {p : Json → Prop} {root v w : Json} (h : Read root v w)
    (hroot : Everywhere p root) (hself : Everywhere p (selfReference root))
    (hv : Everywhere p v) : Everywhere p w := by
  induction h with
  | here => exact hv
  | target _ hr _ => exact hr.everywhere hroot hself
  | items _ hi ih => exact ih.get? hi.2.2

/-- A node has the same shape whether the references from it are followed or
inlined: what is beside a reference under `items` is not read, no reference is
under `items` of `items`, the keywords that are read hold no reference, and an
`additionalProperties` counts as true together with what it refers to. -/
structure Readable (root node : Json) : Prop where
  beside : ∀ x y z, Read root node x → HasItems x y → Refers root y z →
    ∀ key ∈ Shape.keywords, y.get? key = none
  nested : ∀ x y z, Read root node x → HasItems x y → HasItems y z → z.get? "$ref" = none
  inert : ∀ x, Read root node x → x.get? "$ref" = none →
    ∀ key ∈ ["type", "format", "required"], ∀ d, x.get? key = some d → d.references = []
  openness : ∀ x a f, Read root node x → x.get? "additionalProperties" = some a →
    Leads root a f → f.isTruthy = a.isTruthy

variable {root node v w : Json} {unused others followed : List String}

theorem Readable.of_read (h : Readable root node) (hr : Read root node v) : Readable root v where
  beside := fun x y z hx => h.beside x y z (hr.trans hx)
  nested := fun x y z hx => h.nested x y z (hr.trans hx)
  inert := fun x hx => h.inert x (hr.trans hx)
  openness := fun x a f hx => h.openness x a f (hr.trans hx)

@[simp] theorem isTruthy_withDisplay (node v : Json) :
    (withDisplay node.display v).isTruthy = v.isTruthy := by
  cases v <;> rfl

/-- A copy counts as true when all that the references of the value lead to does. -/
theorem isTruthy_of_inlineWithin (h : ∀ f, Leads root v f → f.isTruthy = v.isTruthy)
    (he : inlineWithin root others v = .ok w) : w.isTruthy = v.isTruthy := by
  induction hlen : others.length using Nat.strongRecOn generalizing others v w with
  | ind n ih =>
    rw [inlineWithin_eq] at he
    cases v with
    | object members =>
      cases hr : internalReference members with
      | none =>
        rw [inlineWith_object hr] at he
        obtain ⟨copies, -, rfl⟩ := map_eq_ok.1 he
        rfl
      | some reference =>
        rw [inlineWith_reference hr] at he
        obtain ⟨u, hu, rfl⟩ := map_eq_ok.1 he
        rw [isTruthy_withDisplay]
        obtain ⟨hget, hkind⟩ := internalReference_eq_some.1 hr
        rcases expandWithin_eq_ok.1 hu with ⟨rfl, rfl⟩ | ⟨hne, hmem, target, ht, hw⟩
        · exact h _ (@Refers.whole root (.object members) hget).leads
        · have hrefers : Refers root (.object members) target :=
            .part hget (hkind.resolve_left hne) ht
          have htarget := h target hrefers.leads
          have hlt := length_without_lt hmem
          rw [← htarget]
          refine ih _ (by omega) (fun f hf => ?_) hw rfl
          rw [h f (hrefers.leads.trans hf), htarget]
    | array items =>
      rw [inlineWith_array] at he
      obtain ⟨copies, -, rfl⟩ := map_eq_ok.1 he
      rfl
    | _ =>
      rw [inlineWith_scalar rfl rfl] at he
      rw [Except.ok.inj he]

/-- The copy of a map of names is a map of copies. -/
theorem related_of_inlineNameMap (h : inlineNameMap (expandWithin root others) v = .ok w) :
    Option.Rel (Members.Related fun _ => Copied root) v.asObject? w.asObject? := by
  cases v with
  | object members =>
    rw [inlineNameMap_object] at h
    obtain ⟨copies, hc, rfl⟩ := map_eq_ok.1 h
    refine .some ((inlineValues_eq_ok.1 hc).imp fun m n hm => ⟨hm.1, others, ?_⟩)
    rw [inlineWithin_eq]
    exact hm.2
  | array items =>
    rw [inlineNameMap_of_asObject?_none rfl, inlineWith_array] at h
    obtain ⟨copies, -, rfl⟩ := map_eq_ok.1 h
    exact .none
  | _ =>
    rw [inlineNameMap_of_asObject?_none rfl, inlineWith_scalar rfl rfl] at h
    obtain rfl := Except.ok.inj h
    exact .none

/-- The declared properties of a copied node. -/
theorem related_properties (hr : node.get? "$ref" = none)
    (he : inlineWithin root others node = .ok w) :
    Option.Rel (Members.Related fun _ => Copied root) ((node.get? "properties").bind asObject?)
      ((w.get? "properties").bind asObject?) := by
  rw [inlineWithin_eq] at he
  rcases rel_cases (get?_inlineWith hr he "properties") with ⟨hx, hy⟩ | ⟨x, y, hx, hy, hrel⟩
  · rw [hx, hy]
    exact .none
  · rw [hx, hy]
    exact related_of_inlineNameMap hrel

theorem text?_congr {key : String} (h : w.get? key = v.get? key) : w.text? key = v.text? key := by
  rw [text?, h, text?]

theorem declaredType_congr (h : w.get? "type" = v.get? "type") :
    w.declaredType = v.declaredType := by
  rw [declaredType, h, declaredType]

theorem requiredNames_congr (h : w.get? "required" = v.get? "required") :
    w.requiredNames = v.requiredNames := by
  rw [requiredNames, h, requiredNames]

/-- The type, the format and the required names of a copied node are those of the node. -/
theorem Readable.get?_inlineWithin (hread : Readable root node) (hr : node.get? "$ref" = none)
    (he : inlineWithin root others node = .ok w) :
    ∀ key ∈ ["type", "format", "required"], w.get? key = node.get? key :=
  fun key hk => get?_eq_of_inert hr (hread.inert node .here hr key hk) he

/-- A copied node allows undeclared properties when the node does. -/
theorem isOpen_of_inlineWithin (hread : Readable root node) (hr : node.get? "$ref" = none)
    (he : inlineWithin root others node = .ok w) :
    (w.get? "additionalProperties").any isTruthy =
      (node.get? "additionalProperties").any isTruthy := by
  rw [inlineWithin_eq] at he
  rcases rel_cases (get?_inlineWith hr he "additionalProperties") with
    ⟨hx, hy⟩ | ⟨a, b, hx, hy, hrel⟩
  · rw [hx, hy]
  · have hb : inlineWithin root others a = .ok b := by
      rw [inlineWithin_eq]
      exact hrel
    simp only [hx, hy, Option.any_some]
    exact isTruthy_of_inlineWithin (fun f hf => hread.openness node a f .here hx hf) hb

/-- Shapes agree when what they are read from does. -/
theorem agrees_of_get? (hr : v.get? "$ref" = none) (hr' : w.get? "$ref" = none)
    (htype : w.get? "type" = v.get? "type") (hformat : w.get? "format" = v.get? "format")
    (hrequired : w.get? "required" = v.get? "required")
    (hopen : (w.get? "additionalProperties").any isTruthy =
      (v.get? "additionalProperties").any isTruthy)
    (hproperties : Option.Rel (Members.Related fun _ => Copied root)
      ((v.get? "properties").bind asObject?) ((w.get? "properties").bind asObject?))
    (hitems : v.declaredType = some "array" →
      Option.Rel (fun x y => Agrees root (classify x) (classify y) ∧ y.get? "type" = x.get? "type")
        (v.get? "items") (w.get? "items")) : Agrees root (classify v) (classify w) := by
  have ht := declaredType_congr htype
  have hf : w.text? "format" = v.text? "format" := text?_congr hformat
  by_cases hobject : v.declaredType = some "object"
  · rw [classify_of_object hr hobject, classify_of_object hr' (ht.trans hobject), hopen,
      requiredNames_congr hrequired]
    generalize (v.get? "properties").bind asObject? = properties at hproperties
    generalize (w.get? "properties").bind asObject? = copies at hproperties
    cases hproperties with
    | none => exact .undeclared _
    | some h => exact .declared _ _ h
  · by_cases harray : v.declaredType = some "array"
    · have hrel := hitems harray
      rw [classify_of_array hr harray, classify_of_array hr' (ht.trans harray), hf]
      generalize v.get? "items" = items at hrel
      generalize w.get? "items" = copies at hrel
      cases hrel with
      | none => exact .array (.scalar _)
      | some h => exact agrees_ofItems h.1 (text?_congr h.2) _
    · rw [classify_of_other hr hobject harray,
        classify_of_other hr' (ht ▸ hobject) (ht ▸ harray), ht, hf]
      exact .scalar _

/-- A node whose `items` carry no reference at any depth has the shape of its copy. -/
theorem agrees_of_inlineWithin (hread : Readable root node) (hr : node.get? "$ref" = none)
    (hitems : ∀ z, HasItems node z → z.get? "$ref" = none)
    (he : inlineWithin root others node = .ok w) : Agrees root (classify node) (classify w) := by
  have hstep : ∀ {node w : Json}, Readable root node → node.get? "$ref" = none →
      (∀ z, HasItems node z → z.get? "$ref" = none) → inlineWithin root others node = .ok w →
      (∀ x y, HasItems node x → inlineWithin root others x = .ok y →
        Agrees root (classify x) (classify y)) → Agrees root (classify node) (classify w) := by
    intro node w hread hr hitems he hnext
    have hkept := hread.get?_inlineWithin hr he
    refine agrees_of_get? hr (get?_ref_inlineWith hr (inlineWithin_eq root others node ▸ he))
      (hkept "type" (by decide)) (hkept "format" (by decide)) (hkept "required" (by decide))
      (isOpen_of_inlineWithin hread hr he) (related_properties hr he) fun harray => ?_
    refine rel_imp (get?_items_inlineWithin hr he) fun x y hx _ hxy => ?_
    have hhas : HasItems node x := ⟨hr, harray, hx⟩
    have hxread := hread.of_read (.items .here hhas)
    exact ⟨hnext x y hhas hxy,
      hxread.get?_inlineWithin (hitems x hhas) hxy "type" (by decide)⟩
  induction node using inductionOn generalizing w with
  | scalar node ha ho =>
    refine hstep hread hr hitems he fun x y hx _ => ?_
    have hnone : node.get? "items" = none :=
      get?_eq_none_of_not_isObject (by simp [isObject, ho])
    simp [HasItems, hnone] at hx
  | array items => exact hstep hread hr hitems he fun x y hx _ => by simp [HasItems, get?] at hx
  | object members ih =>
    refine hstep hread hr hitems he fun x y hx hxy => ?_
    have hmem := Members.mem_of_get? hx.2.2
    exact ih _ hmem (hread.of_read (.items .here hx)) (hitems x hx)
      (fun z hz => hread.nested _ x z .here hx hz) hxy

/-- A node whose references were followed and its copy read alike, but for their
display text. -/
structure Alike (root v w : Json) : Prop where
  shape : Agrees root (classify v) (classify w)
  type : w.get? "type" = v.get? "type"
  format : w.get? "format" = v.get? "format"
  items : v.declaredType = some "array" →
    (w.get? "items").bind declaredType = (v.get? "items").bind declaredType
  kept : ∀ key, key ∉ displayFields → Option.Rel Kept (v.get? key) (w.get? key)
  data : ∀ key ∈ dataKeywords, w.get? key = v.get? key

/-- Display text that is laid over either of the two does not matter. -/
theorem Alike.withDisplay_right (h : Alike root v w) (node : Json) :
    Alike root v (withDisplay node.display w) where
  shape := by rw [classify_withDisplay]; exact h.shape
  type := by rw [get?_withDisplay_of_notMem (by decide)]; exact h.type
  format := by rw [get?_withDisplay_of_notMem (by decide)]; exact h.format
  items := fun ha => by rw [get?_withDisplay_of_notMem (by decide)]; exact h.items ha
  kept := fun key hk => by rw [get?_withDisplay_of_notMem hk]; exact h.kept key hk
  data := fun key hk => by
    rw [get?_withDisplay_of_notMem (by revert key; decide)]
    exact h.data key hk

theorem Alike.withDisplay_left (h : Alike root v w) (node : Json) :
    Alike root (withDisplay node.display v) w where
  shape := by rw [classify_withDisplay]; exact h.shape
  type := by rw [get?_withDisplay_of_notMem (by decide)]; exact h.type
  format := by rw [get?_withDisplay_of_notMem (by decide)]; exact h.format
  items := fun ha => by
    rw [get?_withDisplay_of_notMem (by decide)]
    refine h.items ?_
    rw [← ha]
    exact (declaredType_congr (get?_withDisplay_of_notMem (by decide) node v)).symm
  kept := fun key hk => by rw [get?_withDisplay_of_notMem hk]; exact h.kept key hk
  data := fun key hk => by
    rw [get?_withDisplay_of_notMem (by revert key; decide)]
    exact h.data key hk

structure ItemsAlike (root node x y : Json) : Prop where
  kept : Kept x y
  reads : node.declaredType = some "array" →
    Agrees root (classify x) (classify y) ∧ y.get? "type" = x.get? "type"

/-- A node without a reference whose `items` read like those of its copy. -/
theorem alike_of_items (hread : Readable root node) (hr : node.get? "$ref" = none)
    (hl : dereferenceWithin root unused node = .ok (v, followed))
    (he : inlineWithin root others node = .ok w)
    (hitems : Option.Rel (ItemsAlike root node) (v.get? "items") (w.get? "items")) :
    Alike root v w := by
  have hv : ∀ key, key ≠ "items" → v.get? key = node.get? key := fun key hk =>
    (get?_of_dereferenceWithin hr hk hl).1
  have hkept := hread.get?_inlineWithin hr he
  have htype : w.get? "type" = v.get? "type" :=
    (hkept _ (by decide)).trans (hv _ (by decide)).symm
  have hformat : w.get? "format" = v.get? "format" :=
    (hkept _ (by decide)).trans (hv _ (by decide)).symm
  have hrequired : w.get? "required" = v.get? "required" :=
    (hkept _ (by decide)).trans (hv _ (by decide)).symm
  have hdeclared : v.declaredType = node.declaredType := declaredType_congr (hv _ (by decide))
  have hcopied := he
  rw [inlineWithin_eq] at hcopied
  refine ⟨?_, htype, hformat, fun ha => ?_, fun key hk => ?_, fun key hk => ?_⟩
  · refine agrees_of_get? ((hv _ (by decide)).trans hr) (get?_ref_inlineWith hr hcopied) htype
      hformat hrequired ?_ ?_ fun ha => ?_
    · rw [hv _ (by decide)]
      exact isOpen_of_inlineWithin hread hr he
    · rw [hv _ (by decide)]
      exact related_properties hr he
    · exact rel_imp hitems fun _ _ _ _ hxy => hxy.reads (hdeclared ▸ ha)
  · rcases rel_cases hitems with ⟨hx, hy⟩ | ⟨x, y, hx, hy, -, hxy⟩
    · rw [hx, hy]
    · rw [hx, hy]
      exact declaredType_congr (hxy (hdeclared ▸ ha)).2
  · by_cases hi : key = "items"
    · subst hi
      exact rel_imp hitems fun _ _ _ _ hxy => hxy.kept
    · rw [hv key hi]
      exact rel_imp (get?_inlineWith hr hcopied key) fun _ _ _ _ => kept_of_inlineMember
  · rw [hv key (by rintro rfl; exact absurd hk (by decide))]
    rcases rel_cases (get?_inlineWith hr hcopied key) with ⟨hx, hy⟩ | ⟨x, y, hx, hy, hxy⟩
    · rw [hx, hy]
    · rw [inlineMember, if_pos hk] at hxy
      rw [hx, hy, Except.ok.inj hxy]

theorem alike_selfReference (root : Json) :
    Alike root (selfReference root) (selfReference root) := by
  have hitems : (selfReference root).get? "items" = none := by
    simp [selfReference, Members.get?]
  have hproperties : (selfReference root).get? "properties" = none := by
    simp [selfReference, Members.get?]
  have hr := (dereferenced_selfReference root).1
  refine ⟨?_, rfl, rfl, fun _ => rfl, fun key _ => ?_, fun _ _ => rfl⟩
  · refine agrees_of_get? hr hr rfl rfl rfl rfl ?_ fun _ => ?_
    · rw [hproperties]
      exact .none
    · rw [hitems]
      exact .none
  · cases (selfReference root).get? key with
    | none => exact .none
    | some v => exact .some (Kept.refl v)

/-- Where the items of a node lack a keyword, merged items have that of the target. -/
theorem get?_mergeItems {items target : Json} {key : String} (ht : target.DistinctKeys)
    (hk : items.get? key = none) :
    Members.get? key (mergeItems items target) = target.get? key := by
  refine get?_mergeItems_of_erase ht ?_
  cases items with
  | object members =>
    refine Members.get?_eq_none_iff.2 fun hmem => ?_
    obtain ⟨m, hm, hkey⟩ := List.mem_map.1 hmem
    exact Members.get?_eq_none_iff.1 hk (List.mem_map.2 ⟨m, Members.mem_erase hm, hkey⟩)
  | _ => rfl

/-- Items whose reference is merged into them read like what it leads to, when no
keyword stands beside it. -/
theorem itemsAlike_mergeItems {items t y reference : Json} {more : List String}
    (hread : Readable root node) (hr : node.get? "$ref" = none)
    (hi : node.get? "items" = some items) (hitems : items.WellFormed)
    (hir : items.get? "$ref" = some reference)
    (ht : expandReference root unused reference = .ok (t, more))
    (hy : inlineWithin root others items = .ok y)
    (halike : Read root node items → Alike root t y ∧ t.WellFormed) :
    ItemsAlike root node (.object (mergeItems items t)) y := by
  refine ⟨fun _ ho => by simp [asObject?] at ho, fun ha => ?_⟩
  have hhas : HasItems node items := ⟨hr, ha, hi⟩
  obtain ⟨htarget, hwf⟩ := halike (.items .here hhas)
  obtain ⟨target, _, hrefers, -⟩ := refers_of_expandReference hir ht hy
  have hmerged : ∀ key ∈ Shape.keywords,
      Members.get? key (mergeItems items t) = t.get? key := fun key hk =>
    get?_mergeItems hwf.self (hread.beside _ items target .here hhas hrefers key hk)
  have hshape : classify (.object (mergeItems items t)) = classify t :=
    classify_congr (get?_ref_mergeItems hitems.self hwf.self) hmerged
  refine ⟨?_, ?_⟩
  · rw [hshape]
    exact htarget.shape
  · rw [get?_object, hmerged "type" (by decide)]
    exact htarget.type

/-- Items without a reference read like their copy. -/
theorem itemsAlike_of_dereferenced (hread : Readable root node) (hd : node.Dereferenced)
    (he : inlineWithin root others node = .ok w) :
    Option.Rel (ItemsAlike root node) (node.get? "items") (w.get? "items") := by
  refine rel_imp (get?_items_inlineWithin hd.1 he) fun x y hx _ hxy => ⟨?_, fun ha => ?_⟩
  · rw [inlineWithin_eq] at hxy
    exact kept_of_inlineWith hxy
  · have hhas : HasItems node x := ⟨hd.1, ha, hx⟩
    have hxr := hd.2 x hx
    have hxread := hread.of_read (.items .here hhas)
    refine ⟨agrees_of_inlineWithin hxread hxr (fun z hz => ?_) hxy, ?_⟩
    · exact hread.nested node x z .here hhas hz
    · exact hxread.get?_inlineWithin hxr hxy "type" (by decide)

/-- Whether the references of a node are followed or inlined, it reads alike. -/
theorem Readable.alike (hread : Readable root node) (hroot : root.WellFormed)
    (hnode : node.WellFormed) (hl : dereferenceWithin root unused node = .ok (v, followed))
    (he : inlineWithin root others node = .ok w) : Alike root v w := by
  induction hlen : unused.length using Nat.strongRecOn
    generalizing unused others followed node v w with
  | ind n ih =>
    -- a reference under which the two ways part, on the node or on its items
    have hexpand : ∀ {x y t reference : Json} {more : List String}, Read root node x →
        x.get? "$ref" = some reference → expandReference root unused reference = .ok (t, more) →
        inlineWithin root others x = .ok y → Alike root t y ∧ t.WellFormed := by
      intro x y t reference more hx hr ht hy
      obtain ⟨target, u, hrefers, rfl, hu⟩ := refers_of_expandReference hr ht hy
      rcases hu with ⟨rfl, rfl, rfl⟩ | ⟨less, fewer, _, hlt, hd, hi⟩
      · exact ⟨(alike_selfReference root).withDisplay_right x,
          Conforms.wellFormed (Conforms.selfReference (wellFormed_iff_conforms.1 hroot))⟩
      · have htarget : target.WellFormed := hrefers.wellFormed hroot
        have hwf := (Conforms.dereferenceWithin (wellFormed_iff_conforms.1 hroot)
          (wellFormed_iff_conforms.1 htarget) hd).1
        exact ⟨(ih _ (by omega) (hread.of_read (hx.target hrefers)) htarget hd hi rfl
          ).withDisplay_right x, hwf.wellFormed⟩
    have hl' := hl
    rcases dereferenceWith_cases (expandReference root unused) node with
      ⟨reference, hr, heq⟩ | ⟨hr, members, items, reference, rfl, hi, hir, heq⟩ | ⟨hd, heq⟩
    · rw [dereferenceWithin, heq] at hl
      exact (hexpand .here hr hl he).1
    · rw [dereferenceWithin, heq] at hl
      obtain ⟨⟨t, more⟩, ht, hv⟩ := map_eq_ok.1 hl
      obtain ⟨rfl, -⟩ := Prod.mk.inj hv
      refine alike_of_items hread hr hl' he ?_
      rcases rel_cases (@get?_items_inlineWithin root (.object members) _ _ hr he) with
        ⟨hx, -⟩ | ⟨x, y, hx, hy, hxy⟩
      · rw [get?_object, hi] at hx
        contradiction
      obtain rfl := Option.some.inj (hi.symm.trans hx)
      rw [hy, withItems, get?_object, Members.get?_insert_self]
      exact .some (itemsAlike_mergeItems hread hr hi (Everywhere.get? hnode hi) hir ht hxy
        fun hx => hexpand hx hir ht hxy)
    · rw [dereferenceWithin, heq] at hl
      obtain ⟨rfl, -⟩ := Prod.mk.inj (Except.ok.inj hl)
      exact alike_of_items hread hd.1 hl' he (itemsAlike_of_dereferenced hread hd he)

end Json
end Rulebook
