import Rulebook.Proofs.Rule.Agreement
import Rulebook.Proofs.Translation.Steps

/-! A walk through copies. It comes to the same rules as the walk through the
properties that were copied, and meets no reference on its way. -/

namespace Rulebook
open Json Outcome

/-- The nodes that the walk through the properties of a document comes to. -/
inductive Visited (root : Json) : Json → Prop where
  | declared {properties : Members} {m : String × Json}
      (h : root.get? "properties" = some (.object properties)) (hm : m ∈ properties) :
      Visited root m.2
  | inner {node target : Json} {followed : List String} {properties : Members}
      {names : List String} {m : String × Json} (h : Visited root node)
      (hd : dereferenceTraced root node = .ok (target, followed))
      (hs : (Shape.classify (withDisplay node.display target)).innerProperties =
        some (properties, names)) (hm : m ∈ properties) : Visited root m.2

/-- A document whose properties read the same in a copy: whatever the walk through
them comes to is titled and shaped the same when its references are inlined. -/
structure Portable (root : Json) : Prop where
  titled : ∀ node, Visited root node → Titled root node
  readable : ∀ node, Visited root node → Readable root node

/-- What each value of a document has to be like for the document to read the same in a copy. No
reference stands under its `items` or its `additionalProperties`. As a reference to another
reference, it has the display text that the other one has. Otherwise there is no
reference in its display text, or in the keywords that its shape is read from. -/
structure PortableNode (root node : Json) : Prop where
  plain : PlainItems node
  closed : ∀ a, node.get? "additionalProperties" = some a → a.get? "$ref" = none
  overlaid : ∀ y, Refers root node y → ∀ z, Refers root y z →
    ∀ field ∈ displayFields, Members.get? field node.display = none →
      Members.get? field y.display = none
  inert : node.get? "$ref" = none → ∀ key ∈ displayFields ++ ["type", "format", "required"],
    ∀ d, node.get? key = some d → d.references = []

instance (root : Json) : DecidablePred (PortableNode root) := fun node =>
  decidable_of_iff
    (PlainItems node ∧ (∀ a ∈ node.get? "additionalProperties", a.get? "$ref" = none) ∧
      (∀ y, Refers root node y → ∀ z, Refers root y z →
        ∀ field ∈ displayFields, Members.get? field node.display = none →
          Members.get? field y.display = none) ∧
      (node.get? "$ref" = none → ∀ key ∈ displayFields ++ ["type", "format", "required"],
        ∀ d ∈ node.get? key, d.references = []))
    ⟨fun ⟨hp, hc, ho, hi⟩ => ⟨hp, hc, ho, hi⟩, fun ⟨hp, hc, ho, hi⟩ => ⟨hp, hc, ho, hi⟩⟩

section Portable

variable {root node : Json}

theorem portableNode_of_not_isObject (h : node.isObject = false) : PortableNode root node where
  plain := fun items hi => by simp [get?_eq_none_of_not_isObject h] at hi
  closed := fun a ha => by simp [get?_eq_none_of_not_isObject h] at ha
  overlaid := fun y hy => absurd (get?_eq_none_of_not_isObject h) hy.get?_ne_none
  inert := fun _ key _ d hd => by simp [get?_eq_none_of_not_isObject h] at hd

theorem portableNode_selfReference (hr : root.get? "$ref" = none)
    (h : Everywhere (PortableNode root) root) :
    Everywhere (PortableNode root) (selfReference root) := by
  have htype : ∀ d, root.get? "type" = some d → d.references = [] :=
    fun d hd => h.self.inert hr "type" (by decide) d hd
  have hget : ∀ key, key ≠ "type" → (selfReference root).get? key = none := fun key hk => by
    simp [selfReference, Members.get?, Ne.symm hk]
  refine everywhere_selfReference h ⟨fun items hi => ?_, fun a ha => ?_, fun y hy => ?_,
    fun _ key _ d hd => ?_⟩ (portableNode_of_not_isObject rfl)
  · simp [hget "items" (by decide)] at hi
  · simp [hget "additionalProperties" (by decide)] at ha
  · exact absurd (hget "$ref" (by decide)) hy.get?_ne_none
  · by_cases hk : key = "type"
    · subst hk
      cases ht : root.get? "type" with
      | some type =>
        obtain rfl : type = d := by simpa [selfReference, Members.get?, ht] using hd
        exact htype _ ht
      | none =>
        obtain rfl : Json.string "object" = d := by
          simpa [selfReference, Members.get?, ht] using hd
        rfl
    · simp [hget key hk] at hd

/-- A document whose root is no reference reads the same in a copy if each value in it does. -/
theorem portable_of_everywhere (hr : root.get? "$ref" = none)
    (h : Everywhere (PortableNode root) root) : Portable root := by
  have hself := portableNode_selfReference hr h
  have hvisited : ∀ node, Visited root node → Everywhere (PortableNode root) node := by
    intro node hnode
    induction hnode with
    | declared hp hm => exact (h.get? hp).members _ hm
    | inner _ hd hs hm ih =>
      have hfollows := (follows_of_dereferenceWithin hd).1
      rw [Shape.classify_withDisplay] at hs
      exact everywhere_innerProperties
        (hfollows.everywhere (fun _ hw => hw.plain) h hself ih) hs _ hm
  refine ⟨fun node hnode => ⟨fun x y z hx hy hz => ?_, fun x hx hxr field hf => ?_⟩,
    fun node hnode => ⟨fun x y z hx hi hy => ?_, fun x y z hx hi hz => ?_,
      fun x hx hxr key hk => ?_, fun x a f hx ha hf => ?_⟩⟩
  · exact (hx.everywhere h hself (hvisited node hnode)).self.overlaid y hy z hz
  · exact (hx.everywhere h hself (hvisited node hnode)).self.inert hxr field
      (List.mem_append_left _ hf)
  · have hx := (hx.everywhere h hself (hvisited node hnode)).self
    exact absurd (hx.plain y hi.2.2) hy.get?_ne_none
  · have hx := hx.everywhere h hself (hvisited node hnode)
    exact (hx.get? hi.2.2).self.plain z hz.2.2
  · exact (hx.everywhere h hself (hvisited node hnode)).self.inert hxr key
      (List.mem_append_right _ hk)
  · have hx := (hx.everywhere h hself (hvisited node hnode)).self
    rw [hf.eq_of_get?_none (hx.closed a ha)]

end Portable

section Walk

variable {root host : Json}

theorem Visited.wellFormed (hroot : root.WellFormed) {node : Json} (h : Visited root node) :
    node.WellFormed := by
  induction h with
  | declared h hm =>
    have hprops := Everywhere.get? hroot h
    exact Everywhere.members hprops _ hm
  | inner _ hd hs hm ih =>
    have htarget := (Conforms.dereferenceTraced (wellFormed_iff_conforms.1 hroot)
      (wellFormed_iff_conforms.1 ih) hd).1
    have hresolved := (wellFormed_iff_conforms.1 ih).withDisplay htarget
    exact everywhere_innerProperties hresolved.wellFormed hs _ hm

/-- The properties below a copy are copies of those below the node. -/
theorem innerProperties_rel {shape other : Shape} (h : Shape.Agrees root shape other) :
    Option.Rel (fun a b => a.1.Related (fun _ => Copied root) b.1 ∧ a.2 = b.2)
      shape.innerProperties other.innerProperties := by
  unfold Shape.innerProperties
  rw [h.isOpen_eq]
  cases shape.isOpen with
  | true => exact .none
  | false => exact h.subProperties_rel

def Expansion.entry (lead : String) (e : Expansion) : String × Rule := (lead ++ e.key, e.rule)

/-- A copy is given the rule of the node, with what stands before its key. -/
theorem exists_ofNode_copied {place other : Place} {name lead : String} {node w : Json}
    {here : Expansion} (halike : Alike root node w)
    (hdisplay : ∀ field ∈ displayFields, node.get? field = w.get? field)
    (hlead : other.lead = lead ++ place.lead) (hrequired : other.required = place.required)
    (hhere : Expansion.ofNode place name node = .ok here) :
    ∃ moved, Expansion.ofNode other name w = .ok moved ∧ moved.entry "" = here.entry lead := by
  obtain ⟨rule, hrule, rfl⟩ := map_eq_ok.1 hhere
  have hcopy := @Rule.ofNode_of_alike _ _ _ _ (other.lead ++ name) halike hdisplay _ _ _ hrule
  refine ⟨_, map_eq_ok.2 ⟨rule, ?_, rfl⟩, ?_⟩
  · rw [hrequired, halike.shape.isOpen_eq]
    exact hcopy
  · simp only [Expansion.entry, hlead, String.append_assoc, String.empty_append]

/-- The walk through copies of properties comes to the rules of the properties, with
what stands before their keys. -/
theorem exists_walk_copied (hroot : root.WellFormed) (hportable : Portable root)
    {unused : List String} {place : Place} {properties : List (String × Json)}
    {expansions : List Expansion} (h : walk root unused place properties = .ok expansions)
    (hvisited : ∀ m ∈ properties, Visited root m.2) {copies : Members}
    (hcopies : Members.Related (fun _ => Copied root) properties copies) (lead : String)
    (spare : List String) {other : Place} (hlead : other.lead = lead ++ place.lead)
    (hrequired : other.required = place.required) :
    ∃ moved, walk host spare other copies = .ok moved ∧
      moved.map (Expansion.entry "") = expansions.map (Expansion.entry lead) := by
  induction unused, place, properties, expansions, h using walk_induction generalizing copies other
    spare with
  | nil =>
    cases hcopies
    exact ⟨[], walk_nil _ _ _, rfl⟩
  | cons unused place name node target rest followed here inner others hd hf hhere hin _ hrest =>
    obtain ⟨⟨_, w⟩, more, ⟨rfl, spent, hw⟩, hmore, rfl⟩ := List.forall₂_cons_left_iff.1 hcopies
    have hnode : Visited root node := hvisited (name, node) (by simp)
    have hwf := hnode.wellFormed hroot
    have halike : Alike root (withDisplay node.display target) w :=
      ((hportable.readable node hnode).alike hroot hwf hd hw).withDisplay_left node
    have hdisplay : ∀ field ∈ displayFields,
        (withDisplay node.display target).get? field = w.get? field := fun _ hf =>
      (hportable.titled node hnode).get?_eq hd hw hf
    have hder := (dereferenced_of_inlineWithin hd hw).1
    obtain ⟨moved, hmoved, hkey⟩ :=
      exists_ofNode_copied halike hdisplay hlead hrequired hhere
    have hbelow : ∃ moved, walkInner host (withoutAll [] spare) other name w = .ok moved ∧
        moved.map (Expansion.entry "") = inner.map (Expansion.entry lead) := by
      rcases hin with ⟨hnone, rfl⟩ | ⟨ps, names, hsome, -, ihinner⟩
      · rcases rel_cases (innerProperties_rel halike.shape) with ⟨-, hnone'⟩ | ⟨_, _, hsome, -⟩
        · exact ⟨[], walkInner_of_none hnone', rfl⟩
        · simp [hnone] at hsome
      · rcases rel_cases (innerProperties_rel halike.shape) with
          ⟨hnone, -⟩ | ⟨found, ⟨qs, _⟩, hfound, hsome', hrel, rfl⟩
        · simp [hsome] at hnone
        · obtain rfl := Option.some.inj (hsome.symm.trans hfound)
          rw [walkInner_of_some hsome']
          refine ihinner (fun m hm => .inner hnode hd hsome hm) hrel _ ?_ rfl
          simp only [Place.below, hlead, halike.shape.isArray_eq, String.append_assoc]
    obtain ⟨movedInner, hinner', hentries⟩ := hbelow
    obtain ⟨movedRest, hrest', hothers'⟩ := hrest
      (fun m hm => hvisited m (List.mem_cons_of_mem _ hm)) hmore spare hlead hrequired
    refine ⟨moved :: movedInner ++ movedRest, ?_, ?_⟩
    · rw [walk_cons, dereferenceTraced_of_dereferenced hder]
      simp only [repeated?, List.find?_nil, withDisplay_display, hmoved, hinner', hrest']
      rfl
    · simp only [List.map_append, List.map_cons, hentries, hothers', hkey]

end Walk

end Rulebook
