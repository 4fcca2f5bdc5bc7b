import Rulebook.Proofs.Reference.Chain
import Rulebook.Proofs.Rule.Fields
import Rulebook.Proofs.Schema.Nesting
import Rulebook.Proofs.Validation.RuleKey

/-! Where expanded properties are declared. The walk expands every property that is declared
at the place where it starts or below a property that it has expanded, and no other. Where
names are distinct, so are the locations of the properties. -/

namespace Rulebook
open Json Outcome

def Expansion.place (e : Expansion) (names : List String) : Place where
  location := e.location ++ List.replicate (Shape.classify e.node).arrayDepth .element
  lead := e.key ++ (if (Shape.classify e.node).isArray then ".$." else ".")
  required := names

theorem place_of_ofNode {place : Place} {name : String} {resolved : Json} {e : Expansion}
    (h : Expansion.ofNode place name resolved = .ok e) (names : List String) :
    place.below name (Shape.classify resolved) names = e.place names ∧ e.node = resolved := by
  obtain ⟨rule, -, rfl⟩ := map_eq_ok.1 h
  exact ⟨rfl, rfl⟩

/-- The property of a name is declared where some properties are, or below one that has been
expanded. -/
inductive Declares (place : Place) (properties : List (String × Json))
    (expansions : List Expansion) : Place → String → Json → Prop where
  | here {name : String} {node : Json} (h : (name, node) ∈ properties) :
      Declares place properties expansions place name node
  | below {e : Expansion} {inner : Members} {names : List String} {name : String} {node : Json}
      (he : e ∈ expansions)
      (hs : (Shape.classify e.node).innerProperties = some (inner, names))
      (h : (name, node) ∈ inner) : Declares place properties expansions (e.place names) name node

/-- An expansion is what a declared property makes at its place. -/
structure Expansion.Of (root : Json) (place : Place) (name : String) (node : Json)
    (e : Expansion) : Prop where
  node : dereferenceProperty root node = .ok e.node
  made : Expansion.ofNode place name e.node = .ok e

section Walk

variable {root : Json} {unused : List String} {place : Place}
  {properties : List (String × Json)} {expansions : List Expansion}

theorem of_of_dereferenceTraced {name : String} {node target : Json} {followed : List String}
    {here : Expansion} (hd : dereferenceTraced root node = .ok (target, followed))
    (hhere : Expansion.ofNode place name (withDisplay node.display target) = .ok here) :
    here.Of root place name node := by
  obtain ⟨-, hnode⟩ := place_of_ofNode hhere []
  refine ⟨?_, hnode ▸ hhere⟩
  rw [hnode]
  exact dereferenceProperty_eq_ok.2 ⟨target, followed, hd, rfl⟩

/-- Every expansion is of a declared property. -/
theorem declared_of_walk (h : walk root unused place properties = .ok expansions) :
    ∀ f ∈ expansions, ∃ spot name node, Declares place properties expansions spot name node ∧
      f.Of root spot name node := by
  induction unused, place, properties, expansions, h using walk_induction with
  | nil => simp
  | cons unused place name node target rest followed here inner outer hd hf hhere hinner _ ih =>
    intro f hf
    rcases List.mem_append.1 hf with hf | hf
    · rcases List.mem_cons.1 hf with rfl | hf
      · exact ⟨place, name, node, .here List.mem_cons_self, of_of_dereferenceTraced hd hhere⟩
      · rcases hinner with ⟨-, rfl⟩ | ⟨declared, names, hs, hw, ihinner⟩
        · simp at hf
        · obtain ⟨spot, other, value, hdeclares, hof⟩ := ihinner f hf
          obtain ⟨hplace, hnode⟩ := place_of_ofNode hhere names
          refine ⟨spot, other, value, ?_, hof⟩
          cases hdeclares with
          | here hm => exact hplace ▸ .below (by simp) (hnode ▸ hs) hm
          | below he hs hm => exact .below (by simp [he]) hs hm
    · obtain ⟨spot, other, value, hdeclares, hof⟩ := ih f hf
      refine ⟨spot, other, value, ?_, hof⟩
      cases hdeclares with
      | here hm => exact .here (List.mem_cons_of_mem _ hm)
      | below he hs hm => exact .below (by simp [he]) hs hm

/-- Every declared property is expanded. -/
theorem exists_expansion_of_declares (h : walk root unused place properties = .ok expansions)
    {spot : Place} {name : String} {node : Json}
    (hdeclares : Declares place properties expansions spot name node) :
    ∃ f ∈ expansions, f.Of root spot name node := by
  induction unused, place, properties, expansions, h using walk_induction generalizing
    spot name node with
  | nil => cases hdeclares with
    | here hm => simp at hm
    | below he => simp at he
  | cons unused place first value target rest followed here inner outer hd hf hhere hinner _ ih =>
    cases hdeclares with
    | here hm =>
      rcases List.mem_cons.1 hm with hm | hm
      · obtain ⟨rfl, rfl⟩ := Prod.mk.inj hm
        exact ⟨here, by simp, of_of_dereferenceTraced hd hhere⟩
      · obtain ⟨f, hf, hof⟩ := ih (.here hm)
        exact ⟨f, by simp [hf], hof⟩
    | @below e declared names _ _ he hs hm =>
      rcases List.mem_append.1 he with he | he
      · rcases hinner with ⟨hnone, rfl⟩ | ⟨properties, names', hs', hw, ihinner⟩
        · obtain rfl := List.mem_singleton.1 he
          rw [(place_of_ofNode hhere []).2, hnone] at hs
          simp at hs
        · rcases List.mem_cons.1 he with rfl | he
          · obtain ⟨hplace, hnode⟩ := place_of_ofNode hhere names
            obtain ⟨rfl, rfl⟩ := Prod.mk.inj (Option.some.inj (hs.symm.trans (hnode ▸ hs')))
            obtain ⟨f, hf, hof⟩ := ihinner (.here hm)
            exact ⟨f, by simp [hf], hplace ▸ hof⟩
          · obtain ⟨f, hf, hof⟩ := ihinner (.below he hs hm)
            exact ⟨f, by simp [hf], hof⟩
      · obtain ⟨f, hf, hof⟩ := ih (.below he hs hm)
        exact ⟨f, by simp [hf], hof⟩

structure Expansion.Heads (e : Expansion) (place : Place) (name : String) : Prop where
  location : ∃ more, e.location = place.location ++ .property name :: more
  key : ∃ tail, e.key = place.lead ++ name ++ tail ∧ (tail = "" ∨ ∃ rest, tail = "." ++ rest)

/-- Of two expansions the second lies below the first, or they go different ways from some
place on. -/
inductive Expansion.Precedes (e f : Expansion) : Prop where
  | below {more : List Step} {rest : String} (hm : more ≠ []) (hl : f.location = e.location ++ more)
      (hk : f.key = e.key ++ "." ++ rest) : Precedes e f
  | apart {place : Place} {name other : String} (hne : name ≠ other) (he : e.Heads place name)
      (hf : f.Heads place other) : Precedes e f

theorem heads_of_ofNode {name : String} {resolved : Json} {here : Expansion}
    (h : Expansion.ofNode place name resolved = .ok here) : here.Heads place name := by
  obtain ⟨rule, -, rfl⟩ := map_eq_ok.1 h
  exact ⟨⟨[], rfl⟩, "", String.append_empty.symm, .inl rfl⟩

/-- The properties below another one have its location and its key in front. -/
theorem after_of_below {e : Expansion} {name other : String} {shape : Shape} {names : List String}
    (h : e.Heads (place.below name shape names) other) :
    ∃ more rest, more ≠ [] ∧ e.location = place.location ++ .property name :: more ∧
      e.key = place.lead ++ name ++ "." ++ rest := by
  obtain ⟨⟨more, hlocation⟩, tail, hkey, -⟩ := h
  obtain ⟨lead, hlead⟩ := lead_below place name shape names
  refine ⟨List.replicate shape.arrayDepth .element ++ .property other :: more,
    lead ++ other ++ tail, by simp, ?_, ?_⟩
  · rw [hlocation, Place.below]
    simp
  · rw [hkey, hlead]
    simp only [String.append_assoc]

theorem heads_of_below {e : Expansion} {name other : String} {shape : Shape} {names : List String}
    (h : e.Heads (place.below name shape names) other) : e.Heads place name := by
  obtain ⟨more, rest, -, hlocation, hkey⟩ := after_of_below h
  exact ⟨⟨more, hlocation⟩, "." ++ rest, by rw [hkey, String.append_assoc], .inr ⟨rest, rfl⟩⟩

theorem precedes_of_below {name other : String} {resolved : Json} {here f : Expansion}
    {shape : Shape} {names : List String}
    (hhere : Expansion.ofNode place name resolved = .ok here)
    (hf : f.Heads (place.below name shape names) other) : here.Precedes f := by
  obtain ⟨more, rest, hmore, hlocation, hkey⟩ := after_of_below hf
  obtain ⟨rule, -, rfl⟩ := map_eq_ok.1 hhere
  refine .below hmore ?_ hkey
  rw [hlocation, List.append_assoc, List.singleton_append]

/-- Every expansion belongs to one of the properties of the place where the walk starts. -/
theorem heads_of_walk (h : walk root unused place properties = .ok expansions) :
    ∀ e ∈ expansions, ∃ name ∈ Members.keys properties, e.Heads place name := by
  induction unused, place, properties, expansions, h using walk_induction with
  | nil => simp
  | cons unused place name node target rest followed here inner outer hd hf hhere hinner _ ih =>
    intro e he
    rcases List.mem_append.1 he with he | he
    · refine ⟨name, List.mem_cons_self, ?_⟩
      rcases List.mem_cons.1 he with rfl | he
      · exact heads_of_ofNode hhere
      · rcases hinner with ⟨-, rfl⟩ | ⟨declared, names, hs, hw, ihinner⟩
        · simp at he
        · obtain ⟨other, -, hheads⟩ := ihinner e he
          exact heads_of_below hheads
    · obtain ⟨other, hm, hheads⟩ := ih e he
      exact ⟨other, List.mem_cons_of_mem _ hm, hheads⟩

/-- Where names are distinct, every expansion precedes those that come after it. -/
theorem pairwise_precedes_of_walk (hroot : root.WellFormed)
    (hnames : Members.Distinct properties) (hnodes : ∀ m ∈ properties, m.2.WellFormed)
    (h : walk root unused place properties = .ok expansions) :
    expansions.Pairwise Expansion.Precedes := by
  induction unused, place, properties, expansions, h using walk_induction with
  | nil => exact List.Pairwise.nil
  | cons unused place name node target rest followed here inner outer hd hf hhere hinner houter
      ih =>
    obtain ⟨hfresh, hdistinct⟩ := List.nodup_cons.1 hnames
    obtain ⟨hnode, hothers⟩ := List.forall_mem_cons.1 hnodes
    have hbelow : ∀ e ∈ inner, ∃ shape names other,
        e.Heads (place.below name shape names) other := by
      rcases hinner with ⟨-, rfl⟩ | ⟨declared, names, hs, hw, -⟩
      · simp
      · intro e he
        obtain ⟨other, -, hheads⟩ := heads_of_walk hw e he
        exact ⟨_, names, other, hheads⟩
    have hfirst : (here :: inner).Pairwise Expansion.Precedes := by
      refine List.pairwise_cons.2 ⟨fun f hm => ?_, ?_⟩
      · obtain ⟨shape, names, other, hheads⟩ := hbelow f hm
        exact precedes_of_below hhere hheads
      · rcases hinner with ⟨-, rfl⟩ | ⟨declared, names, hs, hw, ihinner⟩
        · exact List.Pairwise.nil
        · have hnodeConforms := wellFormed_iff_conforms.1 hnode
          have htarget := ((wellFormed_iff_conforms.1 hroot).dereferenceTraced hnodeConforms hd).1
          have hresolved := wellFormed_iff_conforms.2 (hnodeConforms.withDisplay htarget)
          have hdeclared : (Json.object declared).WellFormed :=
            Everywhere.inside hresolved (inside_of_innerProperties hs)
          exact ihinner hdeclared.self (Everywhere.members hdeclared)
    refine List.pairwise_append.2 ⟨hfirst, ih hdistinct hothers, fun e he f hm => ?_⟩
    obtain ⟨other, hother, hf⟩ := heads_of_walk houter f hm
    have hne : name ≠ other := by
      rintro rfl
      exact hfresh hother
    refine .apart hne ?_ hf
    rcases List.mem_cons.1 he with rfl | he
    · exact heads_of_ofNode hhere
    · obtain ⟨shape, names, inside, hheads⟩ := hbelow e he
      exact heads_of_below hheads

theorem Expansion.Precedes.location_ne {e f : Expansion} (h : e.Precedes f) :
    e.location ≠ f.location := by
  cases h with
  | below hm hl =>
    rw [hl]
    simpa using hm
  | apart hne he hf =>
    obtain ⟨more, he⟩ := he.location
    obtain ⟨more', hf⟩ := hf.location
    rw [he, hf]
    simp [hne]

end Walk

def expansionsOf (document : Json) : Except TranslateError (List Expansion) :=
  match documentProperties document with
  | some properties => expandProperties properties document.requiredNames document
  | none => .ok []

theorem translate_eq_map (document : Json) :
    translate document = (expansionsOf document).map RuleTable.ofExpansions := by
  rw [translate, expansionsOf]
  cases documentProperties document <;> rfl

theorem expands_iff {document : Json} {e : Expansion} :
    Expands document e ↔ ∃ expansions, expansionsOf document = .ok expansions ∧ e ∈ expansions := by
  rw [Expands, expansionsOf]
  cases documentProperties document <;> simp

/-- The schema whose properties a location goes on with: the document, or what lies in the
arrays of an expanded property. -/
inductive SchemaAt (document : Json) (expansions : List Expansion) : List Step → Json → Prop where
  | document : SchemaAt document expansions [] document
  | below {e : Expansion} {schema : Json} {depth : Nat} (he : e ∈ expansions)
      (hv : e.node.itemsAt depth = some schema) :
      SchemaAt document expansions (e.location ++ List.replicate depth .element) schema

section Document

variable {document : Json} {expansions : List Expansion}

theorem walk_of_expansionsOf (h : expansionsOf document = .ok expansions) :
    (∃ properties, documentProperties document = some properties ∧
      walk document (pointersOf properties document) { required := document.requiredNames }
        properties = .ok expansions) ∨ expansions = [] := by
  unfold expansionsOf at h
  split at h
  · exact .inl ⟨_, ‹_›, h⟩
  · exact .inr (Except.ok.inj h).symm

theorem pairwise_precedes (hd : document.WellFormed)
    (h : expansionsOf document = .ok expansions) : expansions.Pairwise Expansion.Precedes := by
  rcases walk_of_expansionsOf h with ⟨properties, hp, hwalk⟩ | rfl
  · have hproperties : (Json.object properties).WellFormed :=
      Everywhere.inside hd (inside_of_documentProperties hp)
    exact pairwise_precedes_of_walk hd hproperties.self (Everywhere.members hproperties) hwalk
  · exact List.Pairwise.nil

/-- A location is the location of one expansion. -/
theorem nodup_locations (hd : document.WellFormed) (h : expansionsOf document = .ok expansions) :
    (expansions.map Expansion.location).Nodup :=
  List.pairwise_map.2 ((pairwise_precedes hd h).imp fun hp => hp.location_ne)

theorem documentProperties_of_declaredBy {schema : Json} {properties : Members}
    {names : List String} (h : Shape.DeclaredBy schema properties names) :
    documentProperties schema = some properties := by
  simp [documentProperties, h.declared, asObject?]

/-- Every expansion is made, at its place, of a property of the schema that is found there. -/
theorem exists_schema (h : expansionsOf document = .ok expansions) {e : Expansion}
    (he : e ∈ expansions) :
    ∃ spot name node schema properties, e.Of document spot name node ∧
      SchemaAt document expansions spot.location schema ∧
      documentProperties schema = some properties ∧ (name, node) ∈ properties ∧
      spot.required = schema.requiredNames := by
  rcases walk_of_expansionsOf h with ⟨properties, hp, hwalk⟩ | rfl
  · obtain ⟨spot, name, node, hdeclares, hof⟩ := declared_of_walk hwalk e he
    cases hdeclares with
    | here hm => exact ⟨_, name, node, document, properties, hof, .document, hp, hm, rfl⟩
    | @below outer inner names _ _ houter hs hm =>
      obtain ⟨schema, hat, hdeclared, -⟩ :=
        Shape.exists_declaredBy (innerProperties_eq_some.1 hs).2
      exact ⟨_, name, node, schema, inner, hof, .below houter hat,
        documentProperties_of_declaredBy hdeclared, hm, hdeclared.required⟩
  · simp at he

end Document

end Rulebook
