import Rulebook.Proofs.Translation.Declarations

/-! The rules above expanded properties. A property below which others are expanded is an
object or an array around one, and its rule is never for a black box. The rule says so in its
type when there is at most one array: of arrays in arrays it says that they hold texts. -/

namespace Rulebook
open Json Outcome

namespace Step

/-- The elements at the end of a location are told from the property before them. -/
theorem append_elements_inj {a b : List Step} {name other : String} {depth depth' : Nat}
    (h : a ++ [.property name] ++ List.replicate depth .element =
      b ++ [.property other] ++ List.replicate depth' .element) :
    a ++ [.property name] = b ++ [.property other] ∧ depth = depth' := by
  induction depth generalizing depth' with
  | zero =>
    cases depth' with
    | zero => exact ⟨by simpa using h, rfl⟩
    | succ depth' =>
      rw [List.replicate_succ', List.replicate_zero, List.append_nil, ← List.append_assoc] at h
      simpa using (List.append_inj' h rfl).2
  | succ depth ih =>
    rw [List.replicate_succ', ← List.append_assoc] at h
    cases depth' with
    | zero =>
      rw [List.replicate_zero, List.append_nil] at h
      simpa using (List.append_inj' h rfl).2
    | succ depth' =>
      rw [List.replicate_succ', ← List.append_assoc] at h
      obtain ⟨hlocation, hdepth⟩ := ih (List.append_inj' h rfl).1
      exact ⟨hlocation, by rw [hdepth]⟩

end Step

section Document

variable {document : Json} {rules : RuleTable} {expansions : List Expansion} {e f : Expansion}
  {depth : Nat} {name : String}

/-- What is expanded at a location below an expanded property is declared by it. -/
theorem exists_inner_of_location (hd : document.WellFormed)
    (h : expansionsOf document = .ok expansions) (he : e ∈ expansions) (hf : f ∈ expansions)
    (hbelow : f.location = e.location ++ List.replicate depth .element ++ [.property name]) :
    (Shape.classify e.node).arrayDepth = depth ∧ ∃ inner names node,
      (Shape.classify e.node).innerProperties = some (inner, names) ∧ (name, node) ∈ inner ∧
        f.Of document (e.place names) name node := by
  rcases walk_of_expansionsOf h with ⟨properties, hp, hwalk⟩ | rfl
  · have hlast : ∀ e ∈ expansions, ∃ before name, e.location = before ++ [.property name] :=
      fun e he => (expands_iff.2 ⟨expansions, h, he⟩).keyed.last
    obtain ⟨spot, other, node, hdeclares, hof⟩ := declared_of_walk hwalk f hf
    obtain ⟨before, last, hlocation⟩ := hlast e he
    have hplace : f.location = spot.location ++ [.property other] := by
      obtain ⟨rule, -, heq⟩ := map_eq_ok.1 hof.made
      rw [← heq]
    obtain ⟨hat, hname⟩ := List.append_inj' (hplace.symm.trans hbelow) rfl
    obtain rfl : other = name := by simpa using hname
    cases hdeclares with
    | here hm => simp [hlocation] at hat
    | @below outer inner names _ _ houter hs hm =>
      obtain ⟨before', last', hlocation'⟩ := hlast outer houter
      rw [Expansion.place, hlocation, hlocation'] at hat
      obtain ⟨hsame, hdepth⟩ := Step.append_elements_inj hat
      have hlocations := hlocation'.trans (hsame.trans hlocation.symm)
      obtain rfl : outer = e := List.inj_on_of_nodup_map (nodup_locations hd h) houter he hlocations
      exact ⟨hdepth, inner, names, node, hs, hm, hof⟩
  · simp at he

end Document

/-- A property below which another one is expanded has a rule that is not for a black box, and
the other one is declared by an object around which the arrays on the way lie. There is at
most one such array exactly when the rule has the type of an object or of an array of
objects, and then the object is not open. -/
theorem container_iff_shallow {document : Json} {rules : RuleTable} {e f : Expansion}
    {depth : Nat} {name : String} (hd : document.WellFormed)
    (h : translate document = .ok rules) (he : Expands document e) (hf : Expands document f)
    (hbelow : f.location = e.location ++ List.replicate depth .element ++ [.property name]) :
    f.key = e.key ++ (if depth = 0 then "." else ".$.") ++ name ∧
      e.rule.blackbox = false ∧
      (∃ schema properties, e.node.itemsAt depth = some schema ∧
        schema.declaredType = some "object" ∧
        schema.get? "properties" = some (.object properties) ∧ name ∈ Members.keys properties ∧
        (depth ≤ 1 → (schema.get? "additionalProperties").any isTruthy = false)) ∧
      (e.rule.type = (if depth = 0 then .single .object else .arrayOf .object) ↔ depth ≤ 1) ∧
      ((∀ other, Expands document other → other.key = e.key → other = e) →
        rules.get? e.key = some e.rule) := by
  obtain ⟨expansions, hexpansions, he⟩ := expands_iff.1 he
  obtain ⟨expansions, hsame, hf⟩ := expands_iff.1 hf
  obtain rfl := Except.ok.inj (hexpansions.symm.trans hsame)
  obtain ⟨hdepth, inner, names, node, hs, hm, hof⟩ :=
    exists_inner_of_location hd hexpansions he hf hbelow
  obtain ⟨hopen, hsub⟩ := innerProperties_eq_some.1 hs
  obtain ⟨schema, hat, hdeclared, hshape⟩ := Shape.exists_declaredBy hsub
  rw [hdepth] at hat hshape
  rw [hdeclared.shape] at hshape
  obtain ⟨_, _, _, _, _, hmade, -⟩ := exists_schema hexpansions he
  obtain ⟨htype, -, hblackbox⟩ := Rule.fields_of_ofNode (ofNode_eq_ok hmade.made).2
  have hkey : f.key = e.key ++ (if depth = 0 then "." else ".$.") ++ name := by
    rw [(ofNode_eq_ok hof.made).1, Expansion.place, hshape, Shape.isArray_iterate_object]
    cases depth <;> rfl
  refine ⟨hkey, hblackbox.trans hopen, ⟨schema, inner, hat, hdeclared.type, hdeclared.declared,
    List.mem_map_of_mem hm, fun hshallow => ?_⟩, ?_, fun hunique => ?_⟩
  · rw [← hopen, hshape, Shape.isOpen_iterate_object hshallow]
  · rw [htype, hshape, Shape.ruleType_iterate_object_iff]
  · rw [translate_eq_map, hexpansions] at h
    obtain rfl := Except.ok.inj h
    exact RuleTable.get?_ofExpansions he fun other ho hother =>
      hunique other (expands_iff.2 ⟨_, hexpansions, ho⟩) hother

/-- Below an array of records, the property of a record. -/
theorem container_iff_shallow_record :
    let document := singleProperty "a" (arrayOf recordNode)
    document.WellFormed ∧ ∃ rules e f, translate document = .ok rules ∧ Expands document e ∧
      Expands document f ∧ f.location = e.location ++ [.element] ++ [.property "b"] ∧
      f.key = e.key ++ ".$." ++ "b" ∧ e.rule.type = .arrayOf .object ∧ e.rule.blackbox = false ∧
      rules.get? e.key = some e.rule := by
  intro document
  obtain ⟨e, he, hlocation, hkey⟩ : ∃ e, Expansion.ofNode {} "a" (arrayOf recordNode) = .ok e ∧
      e.location = [.property "a"] ∧ e.key = "a" := ⟨_, rfl, rfl, rfl⟩
  obtain ⟨f, hwalk, hlocation', hkey'⟩ := expandProperties_below (fun _ => rfl) he rfl
  have hexpands : ∀ g ∈ [e, f], Expands document g := fun g hg => ⟨_, _, rfl, hwalk, hg⟩
  have hrules : translate document = .ok (.ofExpansions [e, f]) := translate_of_walk rfl hwalk
  have hd : document.WellFormed := by decide
  have hbelow : f.location = e.location ++ List.replicate 1 .element ++ [.property "b"] := by
    rw [hlocation', hlocation]
    rfl
  obtain ⟨hlead, hblackbox, -, htype, hentry⟩ :=
    container_iff_shallow hd hrules (hexpands e (by simp)) (hexpands f (by simp)) hbelow
  refine ⟨hd, _, e, f, hrules, hexpands e (by simp), hexpands f (by simp), hbelow, hlead,
    htype.2 (Nat.le_refl 1), hblackbox, hentry ?_⟩
  intro other hother hsame
  obtain ⟨expansions, hexpansions, hm⟩ := expands_iff.1 hother
  obtain rfl : [e, f] = expansions := Except.ok.inj (hwalk.symm.trans hexpansions)
  rcases List.mem_cons.1 hm with rfl | hm
  · rfl
  · obtain rfl := List.mem_singleton.1 hm
    rw [hkey, hkey'] at hsame
    exact absurd hsame (by decide)

/-- Two arrays deep the properties of an open object are expanded, below a rule for texts. -/
theorem open_object_expanded_nested :
    let item : Json := .object [("type", .string "object"), ("additionalProperties", .bool true),
      ("properties", .object [("b", textNode)])]
    let document := singleProperty "a" (arrayOf (arrayOf item))
    ∃ rules e f, translate document = .ok rules ∧ Expands document e ∧ Expands document f ∧
      f.location = e.location ++ [.element, .element] ++ [.property "b"] ∧
      f.key = e.key ++ ".$." ++ "b" ∧ e.rule.type = .arrayOf .string ∧
      rules.get? e.key = some e.rule ∧ e.node.itemsAt 2 = some item ∧
      (item.get? "additionalProperties").any isTruthy = true := by
  intro item document
  obtain ⟨e, he, hlocation, hkey, htype, hnode⟩ : ∃ e,
      Expansion.ofNode {} "a" (arrayOf (arrayOf item)) = .ok e ∧ e.location = [.property "a"] ∧
        e.key = "a" ∧ e.rule.type = .arrayOf .string ∧ e.node = arrayOf (arrayOf item) :=
    ⟨_, rfl, rfl, rfl, rfl, rfl⟩
  obtain ⟨f, hwalk, hlocation', hkey'⟩ := expandProperties_below (fun _ => rfl) he rfl
  have hexpands : ∀ g ∈ [e, f], Expands document g := fun g hg => ⟨_, _, rfl, hwalk, hg⟩
  refine ⟨_, e, f, translate_of_walk rfl hwalk, hexpands e (by simp), hexpands f (by simp), ?_, ?_,
    htype, ?_, by rw [hnode]; rfl, rfl⟩
  · rw [hlocation', hlocation]
    rfl
  · rw [hkey', hkey]
    rfl
  · refine RuleTable.get?_ofExpansions (by simp) fun other hm hsame => ?_
    rcases List.mem_cons.1 hm with rfl | hm
    · rfl
    · obtain rfl := List.mem_singleton.1 hm
      rw [hkey, hkey'] at hsame
      exact absurd hsame (by decide)

end Rulebook
