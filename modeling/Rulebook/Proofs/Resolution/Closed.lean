import Rulebook.Proofs.Reference.Chain
import Rulebook.Proofs.Resolution.Invariant

/-! Resolved documents are closed. A splice leaves a stray reference only where
there was one before, and never at the node that it replaces; every stray
reference of a document is at a node that is replaced or made internal. -/

namespace Rulebook
namespace Json
open Outcome

def StrayAt (v : Json) (path : List String) : Prop :=
  ∃ node w, At v path node ∧ node.get? "$ref" = some w ∧ ¬ w.Settled

theorem closed_iff_forall_not_strayAt {v : Json} (hv : v.WellFormed) :
    v.Closed ↔ ∀ path, ¬ StrayAt v path := by
  constructor
  · rintro h path ⟨node, w, hat, hw, hs⟩
    exact hs ((Everywhere.inside h hat.inside).self.2 w hw)
  · intro h node hin
    refine ⟨hv node hin, fun w hw => ?_⟩
    by_contra hs
    obtain ⟨path, hat⟩ := hv.exists_at hin
    exact h path ⟨node, w, hat, hw, hs⟩

theorem strayAt_nil {v : Json} : StrayAt v [] ↔ ∃ w, v.get? "$ref" = some w ∧ ¬ w.Settled := by
  simp [StrayAt, At.nil_iff]

theorem strayAt_cons {v : Json} {segment : String} {rest : List String} :
    StrayAt v (segment :: rest) ↔ ∃ u, At v [segment] u ∧ StrayAt u rest := by
  constructor
  · rintro ⟨node, w, hat, hw⟩
    obtain ⟨u, hu, hat⟩ := At.cons_iff.1 hat
    exact ⟨u, hu, node, w, hat, hw⟩
  · rintro ⟨u, hu, node, w, hat, hw⟩
    exact ⟨node, w, hu.append hat, hw⟩

/-- A change below a value does not settle or unsettle it, unless the change is
to what stands under its `$ref`. -/
theorem settled_of_modifyAt {f : Json → Json} {rest : List String} {v : Json} (hne : rest ≠ [])
    (hlast : rest.getLast? ≠ some "$ref") (h : v.Settled) : (v.modifyAt rest f).Settled := by
  obtain ⟨segment, more, rfl⟩ := List.exists_cons_of_ne_nil hne
  constructor
  · intro r hr
    exact h.inward r (modifyAt_cons_eq_string hr)
  · intro r hr
    rw [modifyAt_cons] at hr
    by_cases hs : segment = "$ref"
    · subst hs
      rw [get?_modifyChild_self] at hr
      obtain ⟨u, hu, hr⟩ := Option.map_eq_some_iff.1 hr
      cases more with
      | nil => simp at hlast
      | cons next rest =>
        rw [modifyAt_cons_eq_string hr] at hu
        exact h.unstacked r hu
    · rw [get?_modifyChild_of_ne (Ne.symm hs)] at hr
      exact h.unstacked r hr

/-- A change that leaves no stray reference of its own leaves none elsewhere. -/
theorem strayAt_of_modifyAt {place path : List String} {f : Json → Json} {v : Json}
    (hf : ∀ u p, StrayAt (f u) p → StrayAt u p ∧ p ≠ []) (hlast : place.getLast? ≠ some "$ref")
    (h : StrayAt (v.modifyAt place f) path) : StrayAt v path ∧ path ≠ place := by
  induction place generalizing v path with
  | nil => exact hf v path h
  | cons segment rest ih =>
    cases path with
    | nil =>
      refine ⟨?_, by simp⟩
      rw [strayAt_nil, modifyAt_cons] at h
      obtain ⟨w, hw, hs⟩ := h
      rw [strayAt_nil]
      by_cases hseg : segment = "$ref"
      · subst hseg
        rw [get?_modifyChild_self] at hw
        obtain ⟨u, hu, rfl⟩ := Option.map_eq_some_iff.1 hw
        have hne : rest ≠ [] := by
          rintro rfl
          simp at hlast
        have hl : rest.getLast? ≠ some "$ref" := by
          rwa [List.getLast?_cons_of_ne_nil hne] at hlast
        exact ⟨u, hu, fun hset => hs (settled_of_modifyAt hne hl hset)⟩
      · rw [get?_modifyChild_of_ne (Ne.symm hseg)] at hw
        exact ⟨w, hw, hs⟩
    | cons other more =>
      obtain ⟨node, w, hat, hw, hs⟩ := h
      rw [modifyAt_cons] at hat
      rcases At.of_modifyChild hat with ⟨hne, hat⟩ | ⟨u, hu, hat⟩
      · exact ⟨⟨node, w, hat, hw, hs⟩, fun he => hne (List.cons.inj he).1⟩
      · have hl : rest.getLast? ≠ some "$ref" := by
          cases rest with
          | nil => simp
          | cons next rest => rwa [List.getLast?_cons_cons] at hlast
        obtain ⟨hstray, hne⟩ := ih hl ⟨node, w, hat, hw, hs⟩
        exact ⟨strayAt_cons.2 ⟨u, hu, hstray⟩, fun he => hne (List.cons.inj he).2⟩

end Json

namespace Resolution
open Json Outcome

/-- A closed value under the display text of a node has no stray reference but
those in that display text. -/
theorem strayAt_of_withDisplay {part node : Json} (hp : part.Closed) (path : List String)
    (h : StrayAt (withDisplay node.display part) path) : StrayAt node path ∧ path ≠ [] := by
  have hno := (closed_iff_forall_not_strayAt hp.wellFormed).1 hp
  cases path with
  | nil =>
    rw [strayAt_nil, get?_withDisplay_of_notMem (by decide)] at h
    exact absurd (strayAt_nil.2 h) (hno [])
  | cons segment rest =>
    refine ⟨?_, by simp⟩
    cases part with
    | object members =>
      obtain ⟨u, hu, hstray⟩ := strayAt_cons.1 h
      obtain ⟨v, hv, hat⟩ := At.object_iff.1 hu
      obtain rfl := At.nil_iff.1 hat
      rw [Members.get?_extend (display_distinct node)] at hv
      cases hd : Members.get? segment node.display with
      | some x =>
        obtain rfl : x = v := by simpa [hd] using hv
        have hx := (mem_display (Members.mem_of_get? hd)).2.1
        cases node with
        | object members => exact strayAt_cons.2 ⟨x, .member hx .here, hstray⟩
        | _ => simp [get?] at hx
      | none =>
        rw [hd, Option.none_or] at hv
        exact absurd (strayAt_cons.2 ⟨v, .member hv .here, hstray⟩) (hno _)
    | _ => exact absurd h (hno _)

theorem strayAt_of_makeInternal {document : Json} {item : ExternalReference}
    {path : List String} (hpath : item.path = item.nodePath ++ ["$ref"])
    (hlast : item.nodePath.getLast? ≠ some "$ref") (h : StrayAt (makeInternal document item) path) :
    StrayAt document path ∧ path ≠ item.nodePath := by
  rw [makeInternal, hpath, modifyAt_append] at h
  refine strayAt_of_modifyAt (fun u p hstray => ?_) hlast h
  have hset : Settled (.string ("#" ++ item.fragment.getD "")) := by
    constructor
    · rintro r hr
      obtain rfl := Json.string.inj hr
      simp [Outward]
    · intro r hr
      simp [get?] at hr
  rw [modifyAt_cons] at hstray
  cases p with
  | nil =>
    obtain ⟨w, hw, hs⟩ := strayAt_nil.1 hstray
    rw [get?_modifyChild_self] at hw
    obtain ⟨x, -, rfl⟩ := Option.map_eq_some_iff.1 hw
    exact absurd hset hs
  | cons other more =>
    refine ⟨?_, by simp⟩
    obtain ⟨node, w, hat, hw, hs⟩ := hstray
    rcases At.of_modifyChild hat with ⟨-, hat⟩ | ⟨x, -, hat⟩
    · exact ⟨node, w, hat, hw, hs⟩
    · cases more with
      | nil =>
        obtain rfl := At.nil_iff.1 hat
        simp [get?, modifyAt] at hw
      | cons => cases hat

theorem wellFormed_makeInternal {document : Json} (h : document.WellFormed)
    (item : ExternalReference) : (makeInternal document item).WellFormed :=
  h.modifyAt _ fun _ _ => wellFormed_iff_conforms.2
    (Everywhere.scalar (carries_of_asObject?_none rfl) rfl rfl)

theorem WellFormed.withDisplay {node v : Json} (hn : node.WellFormed) (hv : v.WellFormed) :
    (withDisplay node.display v).WellFormed :=
  Conforms.wellFormed <|
    (wellFormed_iff_conforms.1 hn).withDisplay (wellFormed_iff_conforms.1 hv)

theorem wellFormed_splice {document part : Json} (h : document.WellFormed)
    (hp : part.WellFormed) (item : ExternalReference) :
    (splice document item part).WellFormed :=
  h.modifyAt _ fun _ hu => WellFormed.withDisplay hu hp

/-- References whose nodes are not what stands under another `$ref`. -/
def Placed (items : List ExternalReference) : Prop :=
  ∀ item ∈ items, item.path = item.nodePath ++ ["$ref"] ∧ item.nodePath.getLast? ≠ some "$ref"

/-- References to the document's own URL are made internal one after another. -/
theorem strayAt_of_foldl_makeInternal {own : List ExternalReference} {document : Json}
    {path : List String} (hown : Placed own)
    (h : StrayAt (own.foldl makeInternal document) path) :
    StrayAt document path ∧ ∀ item ∈ own, path ≠ item.nodePath := by
  induction own generalizing document with
  | nil => exact ⟨h, by simp⟩
  | cons item rest ih =>
    obtain ⟨hpath, hlast⟩ := hown item (by simp)
    obtain ⟨hstray, hrest⟩ := ih (fun x hx => hown x (List.mem_cons_of_mem _ hx)) h
    obtain ⟨hstray, hne⟩ := strayAt_of_makeInternal hpath hlast hstray
    exact ⟨hstray, List.forall_mem_cons.2 ⟨hne, hrest⟩⟩

theorem wellFormed_foldl_makeInternal {own : List ExternalReference} {document : Json}
    (h : document.WellFormed) : (own.foldl makeInternal document).WellFormed := by
  induction own generalizing document with
  | nil => exact h
  | cons item rest ih => exact ih (wellFormed_makeInternal h item)

def namedPart (target : Json) (item : ExternalReference) : Except ResolveError Json :=
  match item.fragment with
  | some pointer => Pointer.resolve target ("#" ++ pointer)
  | none => .ok target

theorem replacement_eq (target : Json) (item : ExternalReference) :
    replacement target item = namedPart target item >>= inlineReferences target := by
  unfold replacement namedPart
  cases item.fragment <;> rfl

theorem inside_of_namedPart {target part : Json} {item : ExternalReference}
    (h : namedPart target item = .ok part) : Inside part target := by
  unfold namedPart at h
  split at h
  · exact Pointer.inside_of_resolve h
  · obtain rfl := Except.ok.inj h
    exact .here

theorem closed_replacement {target part : Json} {item : ExternalReference} (ht : target.Closed)
    (h : replacement target item = .ok part) : part.Closed := by
  rw [replacement_eq] at h
  obtain ⟨fragment, hf, h⟩ := bind_eq_ok.1 h
  exact Closed.inlineReferences ht (Everywhere.inside ht (inside_of_namedPart hf)) h

theorem wellFormed_replacement {target part : Json} {item : ExternalReference}
    (ht : target.WellFormed) (h : replacement target item = .ok part) : part.WellFormed := by
  rw [replacement_eq] at h
  obtain ⟨fragment, hf, h⟩ := bind_eq_ok.1 h
  exact WellFormed.inlineWithin ht (Everywhere.inside ht (inside_of_namedPart hf)) h

theorem local_of_replacement {target : Json} {item : ExternalReference} {e : ResolveError}
    (h : replacement target item = .error e) : e.Local := by
  rw [replacement_eq] at h
  rcases bind_eq_error.1 h with h | ⟨fragment, -, h⟩
  · unfold namedPart at h
    split at h
    · exact (Pointer.direct_of_resolve h).local
    · simp at h
  · exact local_of_inlineWithin h

def Covers (targets : List (String × Json)) (items : List ExternalReference) : Prop :=
  ∀ item ∈ items, ∃ target, targets.lookup item.url = some target

theorem spliceItem_of_lookup {targets : List (String × Json)} {item : ExternalReference}
    {target : Json} (h : targets.lookup item.url = some target) (document : Json) :
    spliceItem targets document item = (replacement target item).map (splice document item) := by
  simp [spliceItem, h]

theorem local_of_foldlM_spliceItem {targets : List (String × Json)}
    {items : List ExternalReference} {document : Json} {e : ResolveError}
    (h : items.foldlM (spliceItem targets) document = .error e) : e.Local := by
  induction items generalizing document with
  | nil => simp at h
  | cons item rest ih =>
    rw [List.foldlM_cons] at h
    rcases bind_eq_error.1 h with h | ⟨mid, -, h⟩
    · unfold spliceItem at h
      split at h
      · exact local_of_replacement (map_eq_error.1 h)
      · simp at h
    · exact ih h

theorem wellFormed_foldlM_spliceItem {targets : List (String × Json)}
    {items : List ExternalReference} {document d : Json}
    (ht : ∀ url target, targets.lookup url = some target → target.WellFormed)
    (hd : document.WellFormed) (h : items.foldlM (spliceItem targets) document = .ok d) :
    d.WellFormed := by
  induction items generalizing document with
  | nil =>
    obtain rfl : document = d := by simpa using h
    exact hd
  | cons item rest ih =>
    rw [List.foldlM_cons] at h
    obtain ⟨mid, hmid, h⟩ := bind_eq_ok.1 h
    refine ih ?_ h
    unfold spliceItem at hmid
    split at hmid
    · rename_i target htarget
      obtain ⟨part, hpart, rfl⟩ := map_eq_ok.1 hmid
      exact wellFormed_splice hd (wellFormed_replacement (ht _ _ htarget) hpart) item
    · obtain rfl := Except.ok.inj hmid
      exact hd

/-- After all splices no stray reference is left at a node that was replaced. -/
theorem strayAt_of_foldlM_spliceItem {targets : List (String × Json)}
    {items : List ExternalReference} {document d : Json} {path : List String}
    (hcover : Covers targets items)
    (ht : ∀ url target, targets.lookup url = some target → target.Closed) (hitems : Placed items)
    (h : items.foldlM (spliceItem targets) document = .ok d) (hs : StrayAt d path) :
    StrayAt document path ∧ ∀ item ∈ items, path ≠ item.nodePath := by
  induction items generalizing document with
  | nil =>
    obtain rfl : document = d := by simpa using h
    exact ⟨hs, by simp⟩
  | cons item rest ih =>
    rw [List.foldlM_cons] at h
    obtain ⟨mid, hmid, h⟩ := bind_eq_ok.1 h
    obtain ⟨target, htarget⟩ := hcover item (by simp)
    rw [spliceItem_of_lookup htarget] at hmid
    obtain ⟨part, hpart, rfl⟩ := map_eq_ok.1 hmid
    have hclosed := closed_replacement (ht _ _ htarget) hpart
    obtain ⟨hs, hrest⟩ := ih (fun x hx => hcover x (List.mem_cons_of_mem _ hx))
      (fun x hx => hitems x (List.mem_cons_of_mem _ hx)) h
    obtain ⟨hs, hne⟩ := strayAt_of_modifyAt
      (fun u p => @strayAt_of_withDisplay _ u hclosed p) (hitems item (by simp)).2 hs
    exact ⟨hs, List.forall_mem_cons.2 ⟨hne, hrest⟩⟩

/-- Each top-level property is without a reference on itself or on its `items`. -/
def PropertiesDereferenced (d : Json) : Prop :=
  ∀ properties, d.get? "properties" = some (.object properties) →
    ∀ m ∈ properties, m.2.Dereferenced

theorem dereferenceEach_eq_mapM (document : Json) (properties : Members) :
    dereferenceEach document properties =
      properties.mapM fun m => (dereferenceProperty document m.2).map (m.1, ·) := by
  induction properties with
  | nil => rfl
  | cons m rest ih =>
    rw [dereferenceEach, List.mapM_cons, ih]
    cases dereferenceProperty document m.2 <;> rfl

theorem dereferenceEach_eq_ok {document : Json} {properties others : Members} :
    dereferenceEach document properties = .ok others ↔
      properties.Related (fun _ v w => dereferenceProperty document v = .ok w) others := by
  rw [dereferenceEach_eq_mapM]
  exact Members.related_iff_mapM (f := fun _ => dereferenceProperty document)

theorem dereferenceEach_eq_error {document : Json} {properties : Members} {e : ResolveError}
    (h : dereferenceEach document properties = .error e) :
    ∃ m ∈ properties, dereferenceProperty document m.2 = .error e := by
  rw [dereferenceEach_eq_mapM] at h
  exact Members.exists_error_of_mapM (f := fun _ => dereferenceProperty document) h

/-- Either the properties of a document are dereferenced, or it has none that
are an object. -/
theorem dereferenceProperties_cases (document : Json) :
    (∃ members properties, document = .object members ∧
      Members.get? "properties" members = some (.object properties) ∧
      dereferenceProperties document = (dereferenceEach document properties).map fun others =>
        .object (Members.insert "properties" (.object others) members)) ∨
    ((∀ properties, document.get? "properties" ≠ some (.object properties)) ∧
      dereferenceProperties document = .ok document) := by
  cases document with
  | object members =>
    cases hp : Members.get? "properties" members with
    | none =>
      refine .inr ⟨by simp [hp], ?_⟩
      simp [dereferenceProperties, hp]
    | some v =>
      cases v with
      | object properties =>
        refine .inl ⟨members, properties, rfl, hp, ?_⟩
        simp only [dereferenceProperties, get?_object, hp, Option.bind_some, asObject?]
        cases dereferenceEach (.object members) properties <;> rfl
      | _ =>
        refine .inr ⟨by simp [hp], ?_⟩
        simp [dereferenceProperties, hp, asObject?]
  | _ => exact .inr ⟨by simp [get?], rfl⟩

/-- A property that is called `$ref` is settled after it is dereferenced. -/
theorem settled_dereferenceProperty {document node v : Json} (hd : document.Closed)
    (hn : node.Closed) (hs : node.Settled) (h : dereferenceProperty document node = .ok v) :
    v.Settled := by
  have hder := (conforms_dereferenceProperty hd hn h).2
  refine ⟨?_, fun r hr => by simp [hder.1] at hr⟩
  rintro r rfl
  obtain ⟨target, followed, ht, hv⟩ := dereferenceProperty_eq_ok.1 h
  obtain rfl : target = .string r := by
    cases target <;> simp_all [withDisplay]
  rcases dereferenceWith_cases (expandReference document (references node ++ references document))
    node with ⟨reference, hr, he⟩ | ⟨-, members, items, reference, rfl, -, -, he⟩ | ⟨-, he⟩
  · rw [dereferenceTraced, he] at ht
    rcases expandReference_eq_ok.1 ht with ⟨rfl, -, -⟩ | ⟨pointer, _, _, rfl, -⟩
    · exact absurd hr (hs.unstacked _)
    · exact absurd hr (hs.unstacked _)
  · rw [dereferenceTraced, he] at ht
    obtain ⟨x, -, hx⟩ := map_eq_ok.1 ht
    simp [withItems] at hx
  · rw [dereferenceTraced, he] at ht
    obtain ⟨rfl, -⟩ := Prod.mk.inj (Except.ok.inj ht)
    exact hs.inward r rfl

/-- A document keeps what it conforms to when its properties are dereferenced,
unless a property that is called `$ref` loses it. -/
theorem conforms_dereferenceProperties {q : Json → Prop} {document d : Json}
    (h : Conforms q document)
    (hq : ∀ node v, Conforms q node → q node → dereferenceProperty document node = .ok v → q v)
    (hd : dereferenceProperties document = .ok d) :
    Conforms q d ∧ PropertiesDereferenced d := by
  rcases dereferenceProperties_cases document with
    ⟨members, properties, rfl, hp, he⟩ | ⟨hnone, he⟩
  · have hprops : Conforms q (.object properties) := Everywhere.get? h hp
    rw [he] at hd
    obtain ⟨others, ho, rfl⟩ := map_eq_ok.1 hd
    have hrel := dereferenceEach_eq_ok.1 ho
    have heach : ∀ m ∈ others, Conforms q m.2 ∧ m.2.Dereferenced := by
      intro m hm
      obtain ⟨v, hv, hvm⟩ := hrel.mem_right hm
      exact conforms_dereferenceProperty h (Everywhere.members hprops _ hv) hvm
    have hothers : Conforms q (.object others) := by
      refine Everywhere.object ⟨hrel.distinct hprops.self.1, fun w hw => ?_⟩
        fun m hm => (heach m hm).1
      have href := hrel.get? "$ref"
      rw [get?_object] at hw
      rw [hw] at href
      cases hv : Members.get? "$ref" properties with
      | none => simp [hv] at href
      | some v =>
        rw [hv, Option.rel_some_some] at href
        exact hq v w (Everywhere.get? hprops hv) (hprops.self.2 v hv) href
    refine ⟨Everywhere.insert (Everywhere.members h) hothers ?_, ?_⟩
    · refine h.self.of_get? (Members.Distinct.insert h.self.1 _ _) ?_
      exact Members.get?_insert_of_ne (by decide) _ _
    · intro ps hps m hm
      rw [get?_object, Members.get?_insert_self] at hps
      obtain rfl := Json.object.inj (Option.some.inj hps)
      exact (heach m hm).2
  · obtain rfl : document = d := Except.ok.inj (he ▸ hd)
    exact ⟨h, fun ps hps => absurd hps (hnone ps)⟩

theorem inward_of_dereferenceProperties {document : Json} {e : ResolveError}
    (h : document.Closed) (he : dereferenceProperties document = .error e) : e.Inward := by
  rcases dereferenceProperties_cases document with
    ⟨members, properties, rfl, hp, heq⟩ | ⟨-, heq⟩
  · rw [heq, map_eq_error] at he
    obtain ⟨m, hm, hme⟩ := dereferenceEach_eq_error he
    have hprops : (Json.object properties).Closed := Everywhere.get? h hp
    exact h.inward_of_dereferenceTraced (Everywhere.members hprops m hm)
      (dereferenceProperty_eq_error.1 hme)
  · simp [heq] at he

structure Resolved (d : Json) : Prop where
  closed : d.Closed
  dereferenced : PropertiesDereferenced d

/-- A document in which no reference stands directly under another `$ref`. -/
def Plain (document : Json) : Prop := Conforms Unstacked document

instance : DecidablePred Plain := inferInstanceAs (DecidablePred (Conforms Unstacked))

theorem decimal?_ref : decimal? "$ref" = none := by decide

theorem placed_of_externalReferences {document : Json} {sourceUrl : Option String}
    {items : List ExternalReference} (hd : Plain document)
    (h : document.externalReferences sourceUrl = .ok items) : Placed items := by
  intro item hm
  obtain ⟨reference, hat, -, hpath⟩ := at_of_mem_externalReferences hd.wellFormed h hm
  refine ⟨hpath, fun hlast => ?_⟩
  have hnode : item.nodePath = item.nodePath.dropLast ++ ["$ref"] :=
    eq_append_ref (by simp [hlast])
  rw [hpath, hnode, List.append_assoc] at hat
  obtain ⟨outer, houter, hat⟩ := hat.split
  obtain ⟨v, hv, hat⟩ := hat.of_key decimal?_ref
  obtain ⟨w, hw, hat⟩ := hat.of_key decimal?_ref
  obtain rfl := At.nil_iff.1 hat
  exact (Everywhere.inside hd houter.inside).self.2 v hv reference hw

/-- A stray reference of a plain document is one that is replaced or made
internal. -/
theorem mem_nodePaths_of_strayAt {document : Json} {sourceUrl : Option String}
    {items : List ExternalReference} (hd : Plain document)
    (h : document.externalReferences sourceUrl = .ok items) {path : List String}
    (hs : StrayAt document path) : ∃ item ∈ items, path = item.nodePath := by
  obtain ⟨node, v, hat, hv, hset⟩ := hs
  have hun : v.Unstacked := (Everywhere.inside hd hat.inside).self.2 v hv
  obtain ⟨reference, rfl, ho⟩ : ∃ r, v = .string r ∧ Outward r := by
    by_contra hno
    refine hset ⟨fun r hr ho => hno ⟨r, hr, ho⟩, hun⟩
  have href : At document (path ++ ["$ref"]) (.string reference) := by
    refine hat.append ?_
    cases node with
    | object members => exact .member hv .here
    | _ => simp [get?] at hv
  obtain ⟨item, hm, hp⟩ := mem_externalReferences_of_at hd.wellFormed h href ho
  exact ⟨item, hm, by simp [ExternalReference.nodePath, hp]⟩

theorem covers_of_keys {sourceUrl : Option String} {items : List ExternalReference}
    {found : List (String × Json)}
    (hk : found.map Prod.fst = distinctUrls (otherReferences sourceUrl items)) :
    Covers found (otherReferences sourceUrl items) := by
  intro item hm
  have hurl : item.url ∈ found.map Prod.fst := by
    rw [hk, distinctUrls, List.mem_eraseDups]
    exact List.mem_map.2 ⟨item, hm, rfl⟩
  obtain ⟨entry, he, hu⟩ := List.mem_map.1 hurl
  cases hl : found.lookup item.url with
  | some target => exact ⟨target, rfl⟩
  | none =>
    have hne := List.lookup_eq_none_iff.1 hl entry he
    simp [hu] at hne

theorem mem_of_lookup {found : List (String × Json)} {url : String} {target : Json}
    (h : found.lookup url = some target) : (url, target) ∈ found := by
  obtain ⟨before, after, rfl, -⟩ := List.lookup_eq_some_iff.1 h
  simp

/-- From a plain document with resolved targets comes a resolved document. -/
theorem preserves_resolved : Preserves Plain Resolved ResolveError.Inward where
  listed := fun h => (direct_of_externalReferences h).local.inward
  failed := fun h r hr => absurd hr (h r)
  assembled := by
    intro document sourceUrl items found hd hi hk hv
    have hplaced := placed_of_externalReferences hd hi
    have hown : Placed (ownReferences sourceUrl items) := by
      intro item hm
      exact hplaced item (mem_ownReferences.1 hm).1
    have hother : Placed (otherReferences sourceUrl items) := by
      intro item hm
      exact hplaced item (mem_otherReferences.1 hm).1
    have hwf : ((ownReferences sourceUrl items).foldl makeInternal document).WellFormed :=
      wellFormed_foldl_makeInternal hd.wellFormed
    have htargets : ∀ url target, found.lookup url = some target → target.Closed :=
      fun url target ht => (hv _ (mem_of_lookup ht)).closed
    unfold assemble
    cases hs : (otherReferences sourceUrl items).foldlM (spliceItem found)
        ((ownReferences sourceUrl items).foldl makeInternal document) with
    | error e => exact yields_error (local_of_foldlM_spliceItem hs).inward
    | ok spliced =>
      have hwf' := wellFormed_foldlM_spliceItem
        (fun url target ht => (htargets url target ht).wellFormed) hwf hs
      have hclosed : spliced.Closed := by
        refine (closed_iff_forall_not_strayAt hwf').2 fun path hp => ?_
        obtain ⟨hp, hnother⟩ :=
          strayAt_of_foldlM_spliceItem (covers_of_keys hk) htargets hother hs hp
        obtain ⟨hp, hnown⟩ := strayAt_of_foldl_makeInternal hown hp
        obtain ⟨item, hm, hpath⟩ := mem_nodePaths_of_strayAt hd hi hp
        by_cases ho : some item.url = sourceUrl
        · exact hnown item (mem_ownReferences.2 ⟨hm, ho⟩) hpath
        · exact hnother item (mem_otherReferences.2 ⟨hm, ho⟩) hpath
      refine ⟨fun d h => ?_, fun e h => inward_of_dereferenceProperties hclosed h⟩
      obtain ⟨hdc, hdp⟩ := conforms_dereferenceProperties hclosed
        (fun node v hn hs h => settled_dereferenceProperty hclosed hn hs h) h
      exact ⟨hdc, hdp⟩

/-- Whatever the references of a document are, it resolves to a well-formed one
whose top-level properties are dereferenced. -/
theorem preserves_propertiesDereferenced :
    Preserves WellFormed (fun d => d.WellFormed ∧ PropertiesDereferenced d) fun _ => True where
  listed := fun _ => trivial
  failed := fun _ => trivial
  assembled := by
    intro document sourceUrl items found hd hi hk hv
    refine ⟨fun d h => ?_, fun _ _ => trivial⟩
    obtain ⟨spliced, hs, h⟩ := bind_eq_ok.1 h
    have hwf := wellFormed_foldlM_spliceItem (fun url target ht => (hv _ (mem_of_lookup ht)).1)
      (wellFormed_foldl_makeInternal hd) hs
    obtain ⟨hdc, hdp⟩ := conforms_dereferenceProperties (wellFormed_iff_conforms.1 hwf)
      (fun _ _ _ _ _ => trivial) h
    exact ⟨hdc.wellFormed, hdp⟩

end Resolution
end Rulebook
