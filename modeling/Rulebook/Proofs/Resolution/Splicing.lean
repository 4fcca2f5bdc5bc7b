import Rulebook.Proofs.Json.Substitution
import Rulebook.Proofs.Reference.Reordering
import Rulebook.Proofs.Resolution.Closed

/-! What the splices of a document come to. They are made one after another, at
places that were listed before the first of them, while the document changes
under them. Together they put in place of each outermost node what its reference
stands for, provided that no reference inside such a node disturbs it. -/

namespace Rulebook
namespace Json

def labels (node : Json) : Members := node.display.filter fun m => m.2.asString?.isSome

/-- Changes away from the display text leave it as it is. -/
theorem display_applyEdits {edits : List Edit}
    (h : ∀ edit ∈ edits, ∃ segment rest, edit.1 = segment :: rest ∧ segment ∉ displayFields)
    (v : Json) : (applyEdits edits v).display = v.display := by
  unfold display
  refine List.filterMap_congr fun field hf => ?_
  rw [get?_applyEdits fun edit hm => ?_]
  obtain ⟨segment, rest, hp, hs⟩ := h edit hm
  exact ⟨segment, rest, hp, fun he => hs (he ▸ hf)⟩

/-- Where the display text is all text, there is nothing inside it. -/
theorem isDisplay_of_at_cons {v w : Json} {segment : String} {rest : List String}
    (h : At v (segment :: rest) w) : v.isDisplay ∧ v.asString? = none := by
  cases v with
  | object members => exact ⟨rfl, rfl⟩
  | array items => exact ⟨rfl, rfl⟩
  | null => cases h
  | bool b => cases h
  | number n => cases h
  | string s => cases h

theorem decimal?_of_mem_displayFields {field : String} (h : field ∈ displayFields) :
    decimal? field = none := by
  simp only [displayFields, List.mem_cons, List.not_mem_nil, or_false] at h
  rcases h with rfl | rfl <;> decide

/-- Where all display text is text, no field of it is a container. -/
theorem asString?_of_display_eq_labels {node v : Json} {field : String}
    (h : node.display = node.labels) (hf : field ∈ displayFields) (hv : node.get? field = some v)
    (hd : v.isDisplay) : v.asString?.isSome := by
  have hm : (field, v) ∈ node.display := by
    refine Members.mem_of_get? ?_
    rw [get?_display_of_mem hf, hv]
    simp [hd]
  rw [h] at hm
  exact (List.mem_filter.1 hm).2

end Json

namespace Resolution
open Json Outcome

def internalEdits (own : List ExternalReference) : List Edit :=
  own.map fun item => (item.path, fun _ => .string ("#" ++ item.fragment.getD ""))

def spliceEdits (others : List ExternalReference) (part : ExternalReference → Json) : List Edit :=
  others.map fun item => (item.nodePath, fun node => withDisplay node.display (part item))

def allEdits (own others : List ExternalReference) (part : ExternalReference → Json) :
    List Edit :=
  internalEdits own ++ spliceEdits others part

/-- What is to be at the places of references: the part that the reference stands
for, under the labels of its node, and a pointer for one to the document's own
URL. -/
def replaced (own others : List ExternalReference) (part : ExternalReference → Json) :
    Replacement := fun path =>
  ((others.find? fun item => item.nodePath = path).map fun item node =>
      withDisplay node.labels (part item)).or
    ((own.find? fun item => item.path = path).map fun item _ =>
      .string ("#" ++ item.fragment.getD ""))

def Outermost (others : List ExternalReference) (item : ExternalReference) : Prop :=
  ∀ other ∈ others, other.nodePath <+: item.nodePath → other = item

/-- The changes at the node of a reference and inside it leave there what the
reference stands for, under the labels of the node. -/
def Undisturbed (document : Json) (own others : List ExternalReference)
    (part : ExternalReference → Json) (item : ExternalReference) : Prop :=
  ∀ node, At document item.nodePath node →
    applyEdits (Edit.within item.nodePath (allEdits own others part)) node =
      withDisplay node.labels (part item)

/-- The display text of the node of a reference is all text, and the places of
the references inside the node are not there any more once it is replaced. -/
structure Clear (document : Json) (others : List ExternalReference)
    (part : ExternalReference → Json) (item : ExternalReference) : Prop where
  labelled : ∀ node, At document item.nodePath node → node.display = node.labels
  apart : ∀ node, At document item.nodePath node → ∀ other ∈ others, ∀ more, more ≠ [] →
    other.nodePath = item.nodePath ++ more → (withDisplay node.labels (part item)).at? more = none

/-- Each reference has a target, and the part that stands for it. -/
def Replaces (targets : List (String × Json)) (part : ExternalReference → Json)
    (others : List ExternalReference) : Prop :=
  ∀ item ∈ others, ∃ target, targets.lookup item.url = some target ∧
    replacement target item = .ok (part item)

theorem foldl_makeInternal_eq (own : List ExternalReference) (document : Json) :
    own.foldl makeInternal document = applyEdits (internalEdits own) document := by
  unfold applyEdits internalEdits
  rw [List.foldl_map]
  rfl

theorem foldlM_spliceItem_eq {targets : List (String × Json)} {others : List ExternalReference}
    {part : ExternalReference → Json} (h : Replaces targets part others) (document : Json) :
    others.foldlM (spliceItem targets) document =
      .ok (applyEdits (spliceEdits others part) document) := by
  induction others generalizing document with
  | nil => rfl
  | cons item rest ih =>
    obtain ⟨⟨target, ht, hp⟩, hrest⟩ := List.forall_mem_cons.1 h
    have hitem : spliceItem targets document item = .ok (splice document item (part item)) := by
      rw [spliceItem_of_lookup ht, hp]
      rfl
    rw [List.foldlM_cons, hitem]
    exact ih hrest _

theorem find?_eq_some_iff_of_nodup {α β : Type} [DecidableEq β] {key : α → β} {l : List α}
    (hn : (l.map key).Nodup) {a : α} {b : β} :
    l.find? (fun x => key x = b) = some a ↔ a ∈ l ∧ key a = b := by
  constructor
  · intro h
    exact ⟨List.mem_of_find?_eq_some h, by simpa using List.find?_some h⟩
  · rintro ⟨ha, rfl⟩
    have hsome : (l.find? fun x => key x = key a).isSome := List.find?_isSome.2 ⟨a, ha, by simp⟩
    obtain ⟨x, hx⟩ := Option.isSome_iff_exists.1 hsome
    have hk : key x = key a := by simpa using List.find?_some hx
    rw [hx, List.inj_on_of_nodup_map hn (List.mem_of_find?_eq_some hx) ha hk]

theorem find?_eq_of_perm {α β : Type} [DecidableEq β] {key : α → β} {l l' : List α}
    (hn : (l.map key).Nodup) (hp : l'.Perm l) (b : β) :
    l'.find? (fun x => key x = b) = l.find? (fun x => key x = b) := by
  have hn' : (l'.map key).Nodup := (hp.map key).nodup_iff.2 hn
  refine Option.ext fun a => ?_
  rw [find?_eq_some_iff_of_nodup hn, find?_eq_some_iff_of_nodup hn', hp.mem_iff]

/-- Where the references of a document stand: those to its own URL at texts, the
others in objects, and no two of a kind at one place. -/
structure Listed (document : Json) (own others : List ExternalReference) : Prop where
  own_at : ∀ item ∈ own, item.path = item.nodePath ++ ["$ref"] ∧
    ∃ s, At document item.path (.string s)
  other_at : ∀ item ∈ others, ∃ members, At document item.nodePath (.object members)
  own_unique : (own.map ExternalReference.path).Nodup
  other_unique : (others.map ExternalReference.nodePath).Nodup

theorem listed_of_externalReferences {document : Json} {sourceUrl : Option String}
    {items : List ExternalReference} (hd : document.WellFormed)
    (h : document.externalReferences sourceUrl = .ok items) :
    Listed document (ownReferences sourceUrl items) (otherReferences sourceUrl items) := by
  have hnodup := nodup_externalReferences hd h
  have hnode : ∀ item ∈ items, item.path = item.nodePath ++ ["$ref"] := by
    intro item hm
    obtain ⟨_, -, -, hp⟩ := at_of_mem_externalReferences hd h hm
    exact hp
  constructor
  · intro item hm
    obtain ⟨s, hat, -, hp⟩ := at_of_mem_externalReferences hd h (mem_ownReferences.1 hm).1
    exact ⟨hp, s, hat⟩
  · intro item hm
    obtain ⟨s, hat, -, hp⟩ := at_of_mem_externalReferences hd h (mem_otherReferences.1 hm).1
    rw [hp] at hat
    obtain ⟨node, hnode, hat⟩ := hat.split
    obtain ⟨v, hv, -⟩ := hat.of_key decimal?_ref
    cases node with
    | object members => exact ⟨members, hnode⟩
    | _ => simp [get?] at hv
  · exact (ownReferences_sublist sourceUrl items).map ExternalReference.path |>.nodup hnodup
  · have hothers :=
      ((otherReferences_sublist sourceUrl items).map ExternalReference.path).nodup hnodup
    have hmap : (otherReferences sourceUrl items).map ExternalReference.path =
        ((otherReferences sourceUrl items).map ExternalReference.nodePath).map (· ++ ["$ref"]) := by
      rw [List.map_map]
      exact List.map_congr_left fun item hm => hnode item (mem_otherReferences.1 hm).1
    rw [hmap] at hothers
    exact hothers.of_map _

namespace Listed

variable {document : Json} {own others : List ExternalReference} {part : ExternalReference → Json}

theorem allEdits_append (before after : List ExternalReference) (item : ExternalReference) :
    allEdits own (before ++ item :: after) part =
      allEdits own before part ++
        (item.nodePath, fun node => withDisplay node.display (part item)) ::
          spliceEdits after part := by
  simp [allEdits, spliceEdits]

/-- A change is at the text of a reference to the document's own URL, or at the
node of another one. -/
theorem mem_allEdits {path : List String} {f : Json → Json}
    (h : (path, f) ∈ allEdits own others part) :
    (∃ item ∈ own, item.path = path ∧ f = fun _ => .string ("#" ++ item.fragment.getD "")) ∨
      ∃ item ∈ others, item.nodePath = path ∧
        f = fun node => withDisplay node.display (part item) := by
  rcases List.mem_append.1 h with h | h
  · obtain ⟨item, hm, he⟩ := List.mem_map.1 h
    obtain ⟨rfl, rfl⟩ := Prod.mk.inj he
    exact .inl ⟨item, hm, rfl, rfl⟩
  · obtain ⟨item, hm, he⟩ := List.mem_map.1 h
    obtain ⟨rfl, rfl⟩ := Prod.mk.inj he
    exact .inr ⟨item, hm, rfl, rfl⟩

theorem replaced_of_mem_others (hl : Listed document own others) {item : ExternalReference}
    (hm : item ∈ others) :
    replaced own others part item.nodePath =
      some fun node => withDisplay node.labels (part item) := by
  have hf : others.find? (fun other => other.nodePath = item.nodePath) = some item :=
    (find?_eq_some_iff_of_nodup hl.other_unique).2 ⟨hm, rfl⟩
  simp [replaced, hf]

/-- There is no place inside the text of a reference. -/
theorem eq_nil_of_at (hl : Listed document own others) {item : ExternalReference}
    (hm : item ∈ own) {more : List String} {w : Json} (h : At document (item.path ++ more) w) :
    more = [] ∧ ∃ s, w = .string s := by
  obtain ⟨-, s, hs⟩ := hl.own_at item hm
  obtain ⟨u, hu, hw⟩ := h.split
  obtain rfl := hs.unique hu
  obtain ⟨hnil, hw⟩ := hw.eq_of_scalar rfl rfl
  exact ⟨hnil, s, hw⟩

/-- The node of a reference is not at the text of one to the document's own URL, nor
inside it. -/
theorem not_prefix (hl : Listed document own others) {item other : ExternalReference}
    (hm : item ∈ own) (ho : other ∈ others) : ¬ item.path <+: other.nodePath := by
  rintro ⟨more, hp⟩
  obtain ⟨members, hat⟩ := hl.other_at other ho
  rw [← hp] at hat
  obtain ⟨-, s, hs⟩ := hl.eq_nil_of_at hm hat
  simp at hs

theorem replaced_of_mem_own (hl : Listed document own others) {item : ExternalReference}
    (hm : item ∈ own) :
    replaced own others part item.path =
      some fun _ => .string ("#" ++ item.fragment.getD "") := by
  have hf : own.find? (fun other => other.path = item.path) = some item :=
    (find?_eq_some_iff_of_nodup hl.own_unique).2 ⟨hm, rfl⟩
  have hn : others.find? (fun other => other.nodePath = item.path) = none := by
    refine List.find?_eq_none.2 fun other ho hp => ?_
    have hp : other.nodePath = item.path := by simpa using hp
    exact hl.not_prefix hm ho ⟨[], by simp [hp]⟩
  simp [replaced, hf, hn]

theorem mem_paths_allEdits {path : List String} :
    path ∈ (allEdits own others part).map Prod.fst ↔
      (∃ item ∈ own, item.path = path) ∨ ∃ item ∈ others, item.nodePath = path := by
  simp [allEdits, internalEdits, spliceEdits]

/-- Exactly the places that are to be replaced are changed. -/
theorem replaced_eq_none_iff {path : List String} :
    replaced own others part path = none ↔
      Edit.combined (allEdits own others part) path = none := by
  simp only [replaced, Edit.combined, mem_paths_allEdits, Option.or_eq_none_iff,
    Option.map_eq_none_iff, List.find?_eq_none, ite_eq_right_iff, reduceCtorEq, imp_false, not_or,
    not_exists, not_and, decide_eq_true_eq]
  exact And.comm

theorem combined_of_mem_others {item : ExternalReference} (hm : item ∈ others) :
    Edit.combined (allEdits own others part) item.nodePath =
      some (applyEdits (Edit.within item.nodePath (allEdits own others part))) := by
  have hp : item.nodePath ∈ (allEdits own others part).map Prod.fst :=
    mem_paths_allEdits.2 (.inr ⟨item, hm, rfl⟩)
  simp only [Edit.combined, hp, ↓reduceIte]

/-- A reference to the document's own URL is made internal and not changed again. -/
theorem combined_of_mem_own (hl : Listed document own others) {item : ExternalReference}
    (hm : item ∈ own) (w : Json) :
    (Edit.combined (allEdits own others part) item.path).map (· w) =
      some (.string ("#" ++ item.fragment.getD "")) := by
  have hp : item.path ∈ (allEdits own others part).map Prod.fst :=
    mem_paths_allEdits.2 (.inl ⟨item, hm, rfl⟩)
  simp only [Edit.combined, hp, ↓reduceIte, Option.map_some, Option.some.injEq]
  apply applyEdits_const
  · obtain ⟨⟨path, f⟩, hf, rfl⟩ := List.mem_map.1 hp
    have hmem : ([], f) ∈ Edit.within item.path (allEdits own others part) :=
      Edit.mem_within.2 (by simpa using hf)
    exact List.ne_nil_of_mem hmem
  · rintro ⟨more, f⟩ hmem
    rcases mem_allEdits (Edit.mem_within.1 hmem) with
      ⟨other, ho, hpath, rfl⟩ | ⟨other, ho, hpath, -⟩
    · obtain ⟨-, s, hs⟩ := hl.own_at other ho
      rw [hpath] at hs
      obtain ⟨rfl, -⟩ := hl.eq_nil_of_at hm hs
      rw [List.append_nil] at hpath
      rw [List.inj_on_of_nodup_map hl.own_unique ho hm hpath]
    · exact absurd ⟨more, hpath.symm⟩ (hl.not_prefix hm ho)

/-- Nothing around an outermost node is changed. -/
theorem topmost_combined (hl : Listed document own others) {item : ExternalReference}
    (hm : item ∈ others) (ho : Outermost others item) :
    (Edit.combined (allEdits own others part)).Topmost item.nodePath := by
  intro front hp hne
  refine replaced_eq_none_iff.1 ?_
  by_contra hsome
  rw [replaced_eq_none_iff, Edit.combined, ite_eq_right_iff] at hsome
  simp only [reduceCtorEq, imp_false, not_not] at hsome
  rcases mem_paths_allEdits.1 hsome with ⟨other, hother, rfl⟩ | ⟨other, hother, rfl⟩
  · exact hl.not_prefix hother hm hp
  · exact hne (by rw [ho other hother hp])

theorem topmost_replaced (hl : Listed document own others) {item : ExternalReference}
    (hm : item ∈ others) (ho : Outermost others item) :
    (replaced own others part).Topmost item.nodePath := fun front hp hne =>
  replaced_eq_none_iff.2 (hl.topmost_combined hm ho front hp hne)

/-- What is to be at an outermost node is there after the substitution. -/
theorem at_substitute_replaced (hl : Listed document own others) {item : ExternalReference}
    (hm : item ∈ others) (ho : Outermost others item) {node : Json}
    (hnode : At document item.nodePath node) :
    At (document.substitute (replaced own others part)) item.nodePath
      (withDisplay node.labels (part item)) :=
  hnode.substitute_of_some (hl.topmost_replaced hm ho) (hl.replaced_of_mem_others hm)

theorem outermost_of_topmost (hl : Listed document own others) {item : ExternalReference}
    (hm : item ∈ others) (ht : (Edit.combined (allEdits own others part)).Topmost item.nodePath) :
    Outermost others item := by
  intro other ho hp
  refine List.inj_on_of_nodup_map hl.other_unique ho hm ?_
  by_contra hne
  have hnone := ht _ hp hne
  rw [combined_of_mem_others ho] at hnone
  simp at hnone

/-- The changes make what they are to make exactly when no outermost node is
disturbed. -/
theorem applyEdits_eq_iff (hl : Listed document own others) (hd : document.WellFormed) :
    applyEdits (allEdits own others part) document =
        document.substitute (replaced own others part) ↔
      ∀ item ∈ others, Outermost others item → Undisturbed document own others part item := by
  have hat : ∀ path ∈ (allEdits own others part).map Prod.fst, ∃ w, At document path w := by
    intro path hp
    rcases mem_paths_allEdits.1 hp with ⟨item, hm, rfl⟩ | ⟨item, hm, rfl⟩
    · exact ⟨_, (hl.own_at item hm).2.choose_spec⟩
    · exact ⟨_, (hl.other_at item hm).choose_spec⟩
  rw [applyEdits_eq_substitute hd hat]
  constructor
  · intro he item hm ho node hnode
    have hcombined : Edit.combined (allEdits own others part) item.nodePath = some _ :=
      combined_of_mem_others hm
    have hchanged := hnode.substitute_of_some (hl.topmost_combined hm ho) hcombined
    rw [he] at hchanged
    exact hchanged.unique (hl.at_substitute_replaced hm ho hnode)
  · intro h
    refine substitute_congr hd fun path w hw htop => ?_
    by_cases hp : path ∈ (allEdits own others part).map Prod.fst
    · rcases mem_paths_allEdits.1 hp with ⟨item, hm, rfl⟩ | ⟨item, hm, rfl⟩
      · rw [hl.combined_of_mem_own hm, hl.replaced_of_mem_own hm, Option.map_some]
      · have hund := h item hm (hl.outermost_of_topmost hm htop) w hw
        rw [combined_of_mem_others hm, hl.replaced_of_mem_others hm, Option.map_some,
          Option.map_some, hund]
    · have hnone : Edit.combined (allEdits own others part) path = none := by
        simp only [Edit.combined, hp, ↓reduceIte]
      rw [hnone, replaced_eq_none_iff.2 hnone]

/-- What is changed inside a node is not its display text, when that is all text. -/
theorem notMem_displayFields_of_within (hl : Listed document own others)
    {item : ExternalReference} {node : Json} (hnode : At document item.nodePath node)
    (hlabels : node.display = node.labels) {segment : String} {rest : List String}
    {f : Json → Json} (hf : (item.nodePath ++ segment :: rest, f) ∈ allEdits own others part) :
    segment ∉ displayFields := by
  intro hfield
  have hinner : ∃ t w, node.get? segment = some t ∧ At t rest w ∧ (rest = [] → w.isObject) := by
    rcases mem_allEdits hf with ⟨other, ho, hp, -⟩ | ⟨other, ho, hp, -⟩
    · obtain ⟨hpath, s, hs⟩ := hl.own_at other ho
      have hlast : (segment :: rest).getLast? = some "$ref" := by
        have h := congrArg List.getLast? hpath
        rwa [hp, List.getLast?_append_of_ne_nil _ (by simp), List.getLast?_concat] at h
      rw [hp] at hs
      obtain ⟨u, hu, hs⟩ := hs.split
      obtain rfl := hnode.unique hu
      obtain ⟨t, ht, hs⟩ := hs.of_key (decimal?_of_mem_displayFields hfield)
      refine ⟨t, _, ht, hs, ?_⟩
      rintro rfl
      obtain rfl : segment = "$ref" := by simpa using hlast
      exact absurd hfield (by decide)
    · obtain ⟨members, hs⟩ := hl.other_at other ho
      rw [hp] at hs
      obtain ⟨u, hu, hs⟩ := hs.split
      obtain rfl := hnode.unique hu
      obtain ⟨t, ht, hs⟩ := hs.of_key (decimal?_of_mem_displayFields hfield)
      exact ⟨t, _, ht, hs, fun _ => rfl⟩
  obtain ⟨t, w, ht, hw, hobject⟩ := hinner
  have hcontainer : t.isDisplay ∧ t.asString? = none := by
    cases rest with
    | cons next rest => exact isDisplay_of_at_cons hw
    | nil =>
      obtain rfl := At.nil_iff.1 hw
      cases t with
      | object members => exact ⟨rfl, rfl⟩
      | _ => exact absurd (hobject rfl) (by simp [isObject, asObject?])
  have htext := asString?_of_display_eq_labels hlabels hfield ht hcontainer.1
  rw [hcontainer.2] at htext
  simp at htext

/-- The changes that come before that of a node leave its display text alone. -/
theorem display_before {before after : List ExternalReference} {item : ExternalReference}
    (hl : Listed document own (before ++ item :: after)) {node : Json}
    (hnode : At document item.nodePath node) (hlabels : node.display = node.labels)
    (hne : ∀ other ∈ before, other.nodePath ≠ item.nodePath) :
    (applyEdits (Edit.within item.nodePath (allEdits own before part)) node).display =
      node.display := by
  refine display_applyEdits ?_ node
  rintro ⟨more, f⟩ hmore
  have hf := Edit.mem_within.1 hmore
  have hall : (item.nodePath ++ more, f) ∈ allEdits own (before ++ item :: after) part := by
    rw [allEdits_append]
    exact List.mem_append_left _ hf
  cases more with
  | cons segment rest =>
    exact ⟨segment, rest, rfl, hl.notMem_displayFields_of_within hnode hlabels hall⟩
  | nil =>
    rw [List.append_nil] at hf
    rcases mem_allEdits hf with ⟨other, ho, hp, -⟩ | ⟨other, ho, hp, -⟩
    · exact absurd ⟨[], by simpa using hp⟩ (hl.not_prefix ho (List.mem_append_cons_self))
    · exact absurd hp (hne other ho)

/-- A clear reference is not disturbed: the changes inside its node that come first
do not reach the labels, and those that come later find nothing to change. -/
theorem undisturbed_of_clear (hl : Listed document own others) {item : ExternalReference}
    (hm : item ∈ others) (hc : Clear document others part item) :
    Undisturbed document own others part item := by
  intro node hnode
  have hlabels := hc.labelled node hnode
  obtain ⟨before, after, rfl⟩ := List.append_of_mem hm
  have hunique := hl.other_unique
  rw [List.map_append, List.map_cons, List.nodup_middle, List.nodup_cons, ← List.map_append]
    at hunique
  have hne : ∀ other ∈ before ++ after, other.nodePath ≠ item.nodePath := by
    intro other ho he
    exact hunique.1 (List.mem_map.2 ⟨other, ho, he⟩)
  have hfirst : (applyEdits (Edit.within item.nodePath (allEdits own before part)) node).display =
      node.display :=
    hl.display_before hnode hlabels fun other ho => hne other (List.mem_append_left _ ho)
  rw [allEdits_append, Edit.within_append, Edit.within_cons_self, applyEdits_append,
    applyEdits_cons, modifyAt_nil]
  simp only [hfirst, hlabels]
  refine applyEdits_of_at?_none ?_
  rintro ⟨more, f⟩ hmore
  obtain ⟨other, ho, he⟩ := List.mem_map.1 (Edit.mem_within.1 hmore)
  have hp : other.nodePath = item.nodePath ++ more := (Prod.mk.inj he).1
  refine hc.apart node hnode other (by simp [ho]) more ?_ hp
  rintro rfl
  exact hne other (List.mem_append_right _ ho) (by simpa using hp)

end Listed

section Reordered

variable {document : Json} {own others own' others' : List ExternalReference}
  {part : ExternalReference → Json} {item : ExternalReference} {members other : Members}

theorem labels_of_perm (hd : Members.Distinct members) (hp : other.Perm members) :
    (Json.object other).labels = (Json.object members).labels := by
  unfold labels display
  simp only [get?_object, hd.get?_of_perm hp]

theorem display_of_perm (hd : Members.Distinct members) (hp : other.Perm members) :
    (Json.object other).display = (Json.object members).display := by
  unfold display
  simp only [get?_object, hd.get?_of_perm hp]

/-- What is to be at the places of references does not depend on the order in
which the references are listed. -/
theorem replaced_of_perm (hl : Listed document own others) (ho : own'.Perm own)
    (hp : others'.Perm others) : replaced own' others' part = replaced own others part := by
  funext path
  have hown := find?_eq_of_perm hl.own_unique ho path
  have hothers := find?_eq_of_perm hl.other_unique hp path
  unfold replaced
  rw [hown, hothers]

theorem outermost_of_perm (hp : others'.Perm others) :
    Outermost others' item ↔ Outermost others item := by
  unfold Outermost
  simp only [hp.mem_iff]

/-- The order of the members of an outermost node does not make a reference less
clear. -/
theorem Clear.reorder {first : ExternalReference} (hfirst : first ∈ others)
    (hout : Outermost others first) (hat : At document first.nodePath (.object members))
    (hd : Members.Distinct members) (hp : other.Perm members) (hperm : others'.Perm others)
    (hm : item ∈ others) (ho : Outermost others item) (hc : Clear document others part item) :
    Clear (document.reorder first.nodePath other) others' part item := by
  have hnode : ∀ node, At (document.reorder first.nodePath other) item.nodePath node →
      ∃ u, At document item.nodePath u ∧ node.display = u.display ∧ node.labels = u.labels := by
    intro node h
    by_cases hi : item = first
    · subst hi
      obtain rfl := (hat.modifyAt_self fun _ => .object other).unique h
      exact ⟨_, hat, display_of_perm hd hp, labels_of_perm hd hp⟩
    · have hin : ¬ first.nodePath <+: item.nodePath := fun hpre => hi (ho first hfirst hpre).symm
      have hout : ¬ item.nodePath <+: first.nodePath := fun hpre => hi (hout item hm hpre)
      exact ⟨node, (hat.modifyAt_iff hin hout _).1 h, rfl, rfl⟩
  constructor
  · intro node h
    obtain ⟨u, hu, hdisplay, hlabels⟩ := hnode node h
    rw [hdisplay, hlabels, hc.labelled u hu]
  · intro node h inner hinner more hne hpath
    obtain ⟨u, hu, -, hlabels⟩ := hnode node h
    rw [hlabels]
    exact hc.apart u hu inner (hperm.mem_iff.1 hinner) more hne hpath

end Reordered

/-- A document whose references to its own URL are made internal and whose other
references are replaced. -/
def spliceAll (targets : List (String × Json)) (sourceUrl : Option String)
    (items : List ExternalReference) (document : Json) : Except ResolveError Json :=
  (otherReferences sourceUrl items).foldlM (spliceItem targets)
    ((ownReferences sourceUrl items).foldl makeInternal document)

/-- The splices are what a document goes through before its properties are
dereferenced. -/
theorem assemble_eq_bind (targets : List (String × Json)) (sourceUrl : Option String)
    (items : List ExternalReference) (document : Json) :
    assemble ((ownReferences sourceUrl items).foldl makeInternal document)
        (otherReferences sourceUrl items) targets =
      spliceAll targets sourceUrl items document >>= dereferenceProperties := rfl

theorem spliceAll_eq {targets : List (String × Json)} {sourceUrl : Option String}
    {items : List ExternalReference} {part : ExternalReference → Json}
    (h : Replaces targets part (otherReferences sourceUrl items)) (document : Json) :
    spliceAll targets sourceUrl items document =
      .ok (applyEdits (allEdits (ownReferences sourceUrl items) (otherReferences sourceUrl items)
        part) document) := by
  rw [spliceAll, foldl_makeInternal_eq, foldlM_spliceItem_eq h, allEdits, applyEdits_append]

/-- The splices put in place of each outermost node the part that its reference
stands for, under the labels of the node, and change nothing else, exactly when
no such node is disturbed by the references inside it. That is so when every
outermost reference is clear, and then the order of the keys of the nodes does
not matter. -/
theorem spliceAll_eq_substitute_iff {document : Json} {sourceUrl : Option String}
    {items : List ExternalReference} {targets : List (String × Json)}
    {part : ExternalReference → Json} (hd : document.WellFormed)
    (hi : document.externalReferences sourceUrl = .ok items)
    (hpart : Replaces targets part (otherReferences sourceUrl items)) :
    ∃ final, spliceAll targets sourceUrl items document = .ok final ∧
      (final = document.substitute
          (replaced (ownReferences sourceUrl items) (otherReferences sourceUrl items) part) ↔
        ∀ item ∈ otherReferences sourceUrl items,
          Outermost (otherReferences sourceUrl items) item →
          Undisturbed document (ownReferences sourceUrl items) (otherReferences sourceUrl items)
            part item) ∧
      ((∀ item ∈ otherReferences sourceUrl items,
          Outermost (otherReferences sourceUrl items) item →
          Clear document (otherReferences sourceUrl items) part item) →
        final = document.substitute
          (replaced (ownReferences sourceUrl items) (otherReferences sourceUrl items) part) ∧
        ∀ item ∈ otherReferences sourceUrl items,
          Outermost (otherReferences sourceUrl items) item →
          ∀ members other, At document item.nodePath (.object members) → other.Perm members →
            ∃ found, (document.reorder item.nodePath other).externalReferences sourceUrl =
                .ok found ∧
              ∀ served, Replaces served part (otherReferences sourceUrl found) →
                spliceAll served sourceUrl found (document.reorder item.nodePath other) =
                  .ok final) := by
  have hl := listed_of_externalReferences hd hi
  have hiff := @Listed.applyEdits_eq_iff _ _ _ part hl hd
  refine ⟨_, spliceAll_eq hpart document, hiff, fun hclear => ?_⟩
  have hfinal := hiff.2 fun item hm ho => hl.undisturbed_of_clear hm (hclear item hm ho)
  refine ⟨hfinal, fun item hm ho members other hat hp => ?_⟩
  obtain ⟨found, hf, hperm⟩ := externalReferences_reorder hd hat hp hi
  refine ⟨found, hf, fun served hserved => ?_⟩
  have hd' := hd.reorder hat hp
  have hl' := listed_of_externalReferences hd' hf
  have hdistinct : Members.Distinct members := (Everywhere.inside hd hat.inside).self
  have hown := ownReferences_perm sourceUrl hperm
  have hothers := otherReferences_perm sourceUrl hperm
  have hafter := (@Listed.applyEdits_eq_iff _ _ _ part hl' hd').2 fun inner hinner hout =>
    hl'.undisturbed_of_clear hinner <|
      (hclear inner (hothers.mem_iff.1 hinner) ((outermost_of_perm hothers).1 hout)).reorder hm ho
        hat hdistinct hp hothers (hothers.mem_iff.1 hinner) ((outermost_of_perm hothers).1 hout)
  rw [spliceAll_eq hserved, hafter, hfinal, replaced_of_perm hl hown hothers]
  congr 1
  refine substitute_modifyAt hat hd (hl.topmost_replaced hm ho) (hl.replaced_of_mem_others hm) ?_
  simp only [labels_of_perm hdistinct hp]

/-- A document with one node in its definitions. -/
def definition (node : Members) : Json :=
  .object [("definitions", .object [("n", .object node)])]

/-- A document with a part under the key `foo`. -/
def firstDocument : Json :=
  .object [("foo", .object [("type", .string "number")]), ("type", .string "object")]

def secondDocument : Json := .object [("type", .string "string")]

def twoDocuments : List (String × Json) :=
  [("http://t.example/x", firstDocument), ("http://t.example/y", secondDocument)]

/-- A reference to the first document at the node, and one to the second under a
key of the node. -/
def nestedReferences (key : String) : List ExternalReference :=
  [⟨"http://t.example/x", none, ["definitions", "n", "$ref"]⟩,
    ⟨"http://t.example/y", none, ["definitions", "n", key, "$ref"]⟩]

def nestedNode (key : String) : Members :=
  [("$ref", .string "http://t.example/x"),
    (key, .object [("$ref", .string "http://t.example/y")])]

def wholeDocument (item : ExternalReference) : Json := (twoDocuments.lookup item.url).getD .null

theorem replaces_nestedReferences (key : String) :
    Replaces twoDocuments wholeDocument (nestedReferences key) := by
  have hx : inlineReferences firstDocument firstDocument = .ok firstDocument := by decide +kernel
  have hy : inlineReferences secondDocument secondDocument = .ok secondDocument := by
    decide +kernel
  intro item hm
  simp only [nestedReferences, List.mem_cons, List.not_mem_nil, or_false] at hm
  rcases hm with rfl | rfl
  · exact ⟨firstDocument, rfl, hx⟩
  · exact ⟨secondDocument, rfl, hy⟩

theorem clear_nestedReferences_bar {item : ExternalReference}
    (hm : item ∈ nestedReferences "bar") (ho : Outermost (nestedReferences "bar") item) :
    Clear (definition (nestedNode "bar")) (nestedReferences "bar") wholeDocument item := by
  have hat : At (definition (nestedNode "bar")) ["definitions", "n"] (.object (nestedNode "bar")) :=
    .member rfl (.member rfl .here)
  simp only [nestedReferences, List.mem_cons, List.not_mem_nil, or_false] at hm
  rcases hm with rfl | rfl
  · refine ⟨fun node hnode => ?_, fun node hnode other hother more hne hpath => ?_⟩
    · obtain rfl := hat.unique hnode
      decide
    · obtain rfl := hat.unique hnode
      simp only [nestedReferences, List.mem_cons, List.not_mem_nil, or_false] at hother
      rcases hother with rfl | rfl
      · exact absurd (List.self_eq_append_right.1 hpath) hne
      · obtain rfl : ["bar"] = more := (List.append_right_inj ["definitions", "n"]).1 hpath
        decide +kernel
  · have houter := ho ⟨"http://t.example/x", none, ["definitions", "n", "$ref"]⟩
      (by simp [nestedReferences]) ⟨["bar"], rfl⟩
    simp at houter

/-- Where the part has nothing under the key of the inner reference, the node is
replaced as a whole, in whichever order its keys stand. -/
theorem spliceAll_eq_substitute_bar :
    spliceAll twoDocuments none (nestedReferences "bar") (definition (nestedNode "bar")) =
        .ok ((definition (nestedNode "bar")).substitute
          (replaced [] (nestedReferences "bar") wholeDocument)) ∧
      spliceAll twoDocuments none (nestedReferences "bar").reverse
          (definition (nestedNode "bar").reverse) =
        spliceAll twoDocuments none (nestedReferences "bar") (definition (nestedNode "bar")) := by
  have hi : (definition (nestedNode "bar")).externalReferences none =
      .ok (nestedReferences "bar") := by decide +kernel
  have hi' : (definition (nestedNode "bar").reverse).externalReferences none =
      .ok (nestedReferences "bar").reverse := by decide +kernel
  have hpart := replaces_nestedReferences "bar"
  obtain ⟨final, hf, -, hall⟩ := spliceAll_eq_substitute_iff (by decide) hi hpart
  obtain ⟨hfinal, horder⟩ := hall fun item hm ho => clear_nestedReferences_bar hm ho
  obtain ⟨found, hfound, hsame⟩ := horder ⟨"http://t.example/x", none, ["definitions", "n", "$ref"]⟩
    (by decide) (by unfold Outermost; decide +kernel) (nestedNode "bar") (nestedNode "bar").reverse
    (.member rfl (.member rfl .here)) (List.reverse_perm _)
  obtain rfl := Except.ok.inj (hi'.symm.trans hfound)
  refine ⟨by rw [hf, hfinal]; rfl, (hsame twoDocuments fun item hm => ?_).trans hf.symm⟩
  exact hpart item (List.mem_reverse.1 (mem_otherReferences.1 hm).1)

/-- A key of the node that carries a reference leads, once the node is replaced, to a
part of the other document. The reference under that key is spliced there, unless it
comes first. -/
theorem spliceAll_ne_substitute_foo :
    (definition (nestedNode "foo")).externalReferences none = .ok (nestedReferences "foo") ∧
      Replaces twoDocuments wholeDocument (nestedReferences "foo") ∧
      spliceAll twoDocuments none (nestedReferences "foo") (definition (nestedNode "foo")) ≠
        .ok ((definition (nestedNode "foo")).substitute
          (replaced [] (nestedReferences "foo") wholeDocument)) ∧
      (definition (nestedNode "foo").reverse).externalReferences none =
        .ok (nestedReferences "foo").reverse ∧
      spliceAll twoDocuments none (nestedReferences "foo").reverse
          (definition (nestedNode "foo").reverse) ≠
        spliceAll twoDocuments none (nestedReferences "foo") (definition (nestedNode "foo")) := by
  refine ⟨by decide +kernel, replaces_nestedReferences "foo", ?_, by decide +kernel, ?_⟩
  · decide +kernel
  · decide +kernel

end Resolution
end Rulebook
