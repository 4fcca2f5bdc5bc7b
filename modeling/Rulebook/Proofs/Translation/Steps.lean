import Rulebook.Proofs.Json.Everywhere
import Rulebook.Proofs.Outcome
import Rulebook.Proofs.Schema.Shape
import Rulebook.Translation.Walk

/-! One step of the walk: the property that comes first, those below it, and
the rest. -/

namespace Rulebook
open Outcome

def Expansion.ofNode (place : Place) (name : String) (resolved : Json) :
    Except TranslateError Expansion :=
  (Rule.ofNode (place.lead ++ name) resolved (place.required.contains name)
    (Shape.classify resolved).isOpen).map fun rule =>
      { location := place.location ++ [.property name]
        key := place.lead ++ name
        required := place.required.contains name
        node := resolved
        rule }

def walkInner (root : Json) (unused : List String) (place : Place) (name : String)
    (resolved : Json) : Except TranslateError (List Expansion) :=
  match (Shape.classify resolved).innerProperties with
  | some (properties, names) =>
    walk root unused (place.below name (Shape.classify resolved) names) properties
  | none => .ok []

@[simp] theorem walk_nil (root : Json) (unused : List String) (place : Place) :
    walk root unused place [] = .ok [] := by
  rw [walk]

theorem walk_cons (root : Json) (unused : List String) (place : Place) (name : String)
    (node : Json) (rest : List (String × Json)) :
    walk root unused place ((name, node) :: rest) =
      match Json.dereferenceTraced root node with
      | .error e => .error (.resolve e)
      | .ok (target, followed) =>
        match repeated? unused followed with
        | some pointer => .error (.resolve (.circular pointer))
        | none =>
          Expansion.ofNode place name (Json.withDisplay node.display target) >>= fun here =>
            walkInner root (withoutAll followed unused) place name
                (Json.withDisplay node.display target) >>= fun inner =>
              walk root unused place rest >>= fun others => pure (here :: inner ++ others) := by
  rw [walk]
  split
  · rename_i e h
    simp [h]
  · rename_i target followed h
    simp only [h]
    split
    · rename_i pointer hr
      simp [hr]
    · rename_i hr
      generalize Json.withDisplay node.display target = resolved
      simp only [hr, Expansion.ofNode, walkInner]
      cases Rule.ofNode (place.lead ++ name) resolved (place.required.contains name)
          (Shape.classify resolved).isOpen with
      | error e => rfl
      | ok rule =>
        cases (Shape.classify resolved).innerProperties with
        | none => rfl
        | some inner => rfl

theorem mem_withoutAll {unused followed : List String} {r : String} :
    r ∈ withoutAll followed unused ↔ r ∈ unused ∧ r ∉ followed := by
  simp [withoutAll]

theorem repeated?_eq_none {unused followed : List String} :
    repeated? unused followed = none ↔ ∀ r ∈ followed, r ∈ unused := by
  simp [repeated?]

theorem innerProperties_eq_some {shape : Shape} {properties : Members} {names : List String} :
    shape.innerProperties = some (properties, names) ↔
      shape.isOpen = false ∧ shape.subProperties = some (properties, names) := by
  unfold Shape.innerProperties
  cases shape.isOpen <;> simp

/-- The properties below a node lie inside it. -/
theorem inside_of_innerProperties {v : Json} {properties : Members} {names : List String}
    (h : (Shape.classify v).innerProperties = some (properties, names)) :
    Json.Inside (.object properties) v :=
  Shape.inside_of_subProperties (innerProperties_eq_some.1 h).2

theorem everywhere_innerProperties {p : Json → Prop} {v : Json} {properties : Members}
    {names : List String} (hv : Json.Everywhere p v)
    (h : (Shape.classify v).innerProperties = some (properties, names)) :
    ∀ m ∈ properties, Json.Everywhere p m.2 :=
  Json.Everywhere.members (hv.inside (inside_of_innerProperties h))

/-- A property is expanded when the pointers followed from it are allowed, and its node,
those below it and the rest are expanded. -/
theorem walk_cons_eq_ok {root node : Json} {unused : List String} {place : Place} {name : String}
    {rest : List (String × Json)} {expansions : List Expansion} :
    walk root unused place ((name, node) :: rest) = .ok expansions ↔
      ∃ target followed here inner outer,
        Json.dereferenceTraced root node = .ok (target, followed) ∧ (∀ r ∈ followed, r ∈ unused) ∧
        Expansion.ofNode place name (Json.withDisplay node.display target) = .ok here ∧
        walkInner root (withoutAll followed unused) place name
          (Json.withDisplay node.display target) = .ok inner ∧
        walk root unused place rest = .ok outer ∧ expansions = here :: inner ++ outer := by
  rw [walk_cons]
  constructor
  · intro h
    cases hd : Json.dereferenceTraced root node with
    | error e => simp [hd] at h
    | ok traced =>
      obtain ⟨target, followed⟩ := traced
      simp only [hd] at h
      cases hr : repeated? unused followed with
      | some pointer => simp [hr] at h
      | none =>
        simp only [hr] at h
        obtain ⟨here, hhere, h⟩ := bind_eq_ok.1 h
        obtain ⟨inner, hinner, h⟩ := bind_eq_ok.1 h
        obtain ⟨outer, houter, h⟩ := bind_eq_ok.1 h
        exact ⟨target, followed, here, inner, outer, rfl, repeated?_eq_none.1 hr, hhere, hinner,
          houter, (pure_eq_ok.1 h).symm⟩
  · rintro ⟨target, followed, here, inner, outer, hd, hr, hhere, hinner, houter, rfl⟩
    simp only [hd, repeated?_eq_none.2 hr]
    rw [hhere, hinner, houter]
    rfl

def singleProperty (name : String) (node : Json) : Json :=
  .object [("properties", .object [(name, node)])]

/-- A property is expanded when its node, those below it and the rest are. -/
theorem walk_cons_of_ok {root node target : Json} {unused followed : List String} {place : Place}
    {name : String} {rest : List (String × Json)} {here : Expansion}
    {inner others : List Expansion} (hd : Json.dereferenceTraced root node = .ok (target, followed))
    (hr : repeated? unused followed = none)
    (hhere : Expansion.ofNode place name (Json.withDisplay node.display target) = .ok here)
    (hinner : walkInner root (withoutAll followed unused) place name
      (Json.withDisplay node.display target) = .ok inner)
    (hrest : walk root unused place rest = .ok others) :
    walk root unused place ((name, node) :: rest) = .ok (here :: inner ++ others) := by
  rw [walk_cons, hd]
  simp only [hr]
  rw [hhere, hinner, hrest]
  rfl

theorem walkInner_of_some {root resolved : Json} {unused : List String} {place : Place}
    {name : String} {properties : Members} {names : List String}
    (h : (Shape.classify resolved).innerProperties = some (properties, names)) :
    walkInner root unused place name resolved =
      walk root unused (place.below name (Shape.classify resolved) names) properties := by
  rw [walkInner, h]

theorem walkInner_of_none {root resolved : Json} {unused : List String} {place : Place}
    {name : String} (h : (Shape.classify resolved).innerProperties = none) :
    walkInner root unused place name resolved = .ok [] := by
  rw [walkInner, h]

theorem walkInner_eq_ok {root resolved : Json} {unused : List String} {place : Place}
    {name : String} {inner : List Expansion} :
    walkInner root unused place name resolved = .ok inner ↔
      ((Shape.classify resolved).innerProperties = none ∧ inner = []) ∨
        ∃ properties names, (Shape.classify resolved).innerProperties = some (properties, names) ∧
          walk root unused (place.below name (Shape.classify resolved) names) properties =
            .ok inner := by
  unfold walkInner
  cases (Shape.classify resolved).innerProperties with
  | none => simp [eq_comm]
  | some found =>
    obtain ⟨properties, names⟩ := found
    simp

/-- What holds of every walk that comes to its end: it holds of no properties, and of a
first property and the rest if it holds of the rest and of what is below the first. -/
@[elab_as_elim]
theorem walk_induction {root : Json}
    {motive : ∀ (unused : List String) (place : Place) (properties : List (String × Json))
      (expansions : List Expansion), walk root unused place properties = .ok expansions → Prop}
    (nil : ∀ unused place, motive unused place [] [] (walk_nil root unused place))
    (cons : ∀ (unused : List String) (place : Place) (name : String) (node target : Json)
      (rest : List (String × Json)) (followed : List String) (here : Expansion)
      (inner outer : List Expansion) (_ : Json.dereferenceTraced root node = .ok (target, followed))
      (_ : ∀ r ∈ followed, r ∈ unused)
      (_ : Expansion.ofNode place name (Json.withDisplay node.display target) = .ok here)
      (_ : ((Shape.classify (Json.withDisplay node.display target)).innerProperties = none ∧
          inner = []) ∨
        ∃ (properties : Members) (names : List String)
          (_ : (Shape.classify (Json.withDisplay node.display target)).innerProperties =
            some (properties, names))
          (hw : walk root (withoutAll followed unused)
            (place.below name (Shape.classify (Json.withDisplay node.display target)) names)
            properties = .ok inner), motive _ _ _ _ hw)
      (houter : walk root unused place rest = .ok outer) (_ : motive unused place rest outer houter)
      (h : walk root unused place ((name, node) :: rest) = .ok (here :: inner ++ outer)),
      motive unused place ((name, node) :: rest) (here :: inner ++ outer) h)
    (unused : List String) (place : Place) (properties : List (String × Json))
    (expansions : List Expansion) (h : walk root unused place properties = .ok expansions) :
    motive unused place properties expansions h := by
  induction unused, place, properties using walk.induct root generalizing expansions with
  | case1 unused place =>
    obtain rfl : [] = expansions := by simpa using h
    exact nil unused place
  | case2 unused place name node rest fault hd => simp [walk_cons, hd] at h
  | case3 unused place name node rest target followed hd pointer hr => simp [walk_cons, hd, hr] at h
  | case4 unused place name node rest target followed hd hr resolved shape =>
    rename_i ihinner ihrest
    obtain ⟨_, _, here, inner, outer, hd', hf, hhere, hinner, houter, rfl⟩ := walk_cons_eq_ok.1 h
    obtain ⟨rfl, rfl⟩ := Prod.mk.inj (Except.ok.inj (hd.symm.trans hd'))
    refine cons unused place name node target rest followed here inner outer hd hf hhere ?_ houter
      (ihrest outer houter) h
    rcases walkInner_eq_ok.1 hinner with hnone | ⟨properties, names, hs, hw⟩
    · exact .inl hnone
    · exact .inr ⟨properties, names, hs, hw, ihinner properties names hs inner hw⟩

section Keys

variable {root : Json} {unused : List String} {place : Place} {name : String} {resolved : Json}
  {properties : Members} {expansions : List Expansion}

theorem ofNode_eq_ok {here : Expansion} (h : Expansion.ofNode place name resolved = .ok here) :
    here.key = place.lead ++ name ∧
      Rule.ofNode (place.lead ++ name) resolved (place.required.contains name)
        (Shape.classify resolved).isOpen = .ok here.rule := by
  obtain ⟨rule, hrule, rfl⟩ := map_eq_ok.1 h
  exact ⟨rfl, hrule⟩

theorem lead_below (place : Place) (name : String) (shape : Shape) (names : List String) :
    ∃ more, (place.below name shape names).lead = place.lead ++ name ++ "." ++ more := by
  unfold Place.below
  cases shape.isArray with
  | false => exact ⟨"", String.append_empty.symm⟩
  | true =>
    refine ⟨"$.", ?_⟩
    show place.lead ++ name ++ ("." ++ "$.") = _
    exact String.append_assoc.symm

/-- Every key begins with what its place puts before the names. -/
theorem lead_of_walk (h : walk root unused place properties = .ok expansions) {e : Expansion}
    (he : e ∈ expansions) : ∃ rest, e.key = place.lead ++ rest := by
  induction unused, place, properties, expansions, h using walk_induction generalizing e with
  | nil => simp at he
  | cons unused place name node target rest followed here inner outer hd hf hhere hinner _ ih =>
    rcases List.mem_append.1 he with he | he
    · rcases List.mem_cons.1 he with rfl | he
      · exact ⟨name, (ofNode_eq_ok hhere).1⟩
      · rcases hinner with ⟨-, rfl⟩ | ⟨properties, names, hs, hw, ihinner⟩
        · simp at he
        · obtain ⟨below, hkey⟩ := ihinner he
          obtain ⟨more, hlead⟩ := lead_below place name _ names
          refine ⟨name ++ "." ++ more ++ below, ?_⟩
          rw [hkey, hlead]
          simp only [String.append_assoc]
    · exact ih he

/-- A point follows the name of a property in the keys below it. -/
theorem key_of_walkInner {inner : List Expansion}
    (h : walkInner root unused place name resolved = .ok inner) {e : Expansion} (he : e ∈ inner) :
    ∃ rest, e.key = place.lead ++ name ++ "." ++ rest := by
  rcases walkInner_eq_ok.1 h with ⟨-, rfl⟩ | ⟨declared, names, hs, hw⟩
  · simp at he
  · obtain ⟨rest, hkey⟩ := lead_of_walk hw he
    obtain ⟨more, hlead⟩ := lead_below place name (Shape.classify resolved) names
    refine ⟨more ++ rest, ?_⟩
    rw [hkey, hlead, String.append_assoc]

end Keys

/-- A property without a reference is expanded when those below it are. -/
theorem walk_single {root node : Json} {unused : List String} {place : Place} {name : String}
    {properties : Members} {names : List String} {here : Expansion} {inner : List Expansion}
    (hd : Json.dereferenceTraced root node = .ok (node, []))
    (hhere : Expansion.ofNode place name node = .ok here)
    (hs : (Shape.classify node).innerProperties = some (properties, names))
    (h : walk root unused (place.below name (Shape.classify node) names) properties = .ok inner) :
    walk root unused place [(name, node)] = .ok (here :: inner) := by
  have hinner : walkInner root (withoutAll [] unused) place name node = .ok inner := by
    rw [withoutAll_nil, walkInner_of_some hs]
    exact h
  rw [← List.append_nil (here :: inner)]
  refine walk_cons_of_ok hd rfl ?_ ?_ (walk_nil _ _ _)
  · rw [Json.withDisplay_display]
    exact hhere
  · rw [Json.withDisplay_display]
    exact hinner

def textNode : Json := .object [("type", .string "string")]

/-- A text expands to one rule, under its name. -/
theorem walk_textNode (root : Json) (unused : List String) (place : Place) (name : String) :
    ∃ here, walk root unused place [(name, textNode)] = .ok [here] ∧
      here.location = place.location ++ [.property name] ∧ here.key = place.lead ++ name := by
  obtain ⟨here, hhere, hlocation, hkey⟩ : ∃ here, Expansion.ofNode place name textNode = .ok here ∧
      here.location = place.location ++ [.property name] ∧ here.key = place.lead ++ name :=
    ⟨_, rfl, rfl, rfl⟩
  exact ⟨here, walk_cons_of_ok rfl rfl hhere (walkInner_of_none rfl) (walk_nil _ _ _), hlocation,
    hkey⟩

/-- The properties of a document lie inside it. -/
theorem inside_of_documentProperties {document : Json} {properties : Members}
    (h : documentProperties document = some properties) :
    Json.Inside (.object properties) document := by
  unfold documentProperties at h
  rcases Option.or_eq_some_iff.1 h with h | ⟨-, h⟩
  · obtain ⟨v, hv, hobj⟩ := Option.bind_eq_some_iff.1 h
    obtain rfl : v = .object properties := by
      cases v <;> simp_all [Json.asObject?]
    exact .of_get? hv
  · obtain rfl : document = .object properties := by
      cases document <;> simp_all [Json.asObject?]
    exact .here

/-- The rules of a document are those of its expansions. -/
theorem translate_of_walk {document : Json} {properties : Members} {expansions : List Expansion}
    (hp : documentProperties document = some properties)
    (h : expandProperties properties document.requiredNames document = .ok expansions) :
    translate document = .ok (RuleTable.ofExpansions expansions) := by
  simp [translate, hp, translateProperties, h, Except.map]

end Rulebook
