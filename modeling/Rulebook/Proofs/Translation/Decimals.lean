import Rulebook.Proofs.Translation.Declarations

/-! The decimal flag of a rule. It is read off the `type` of a node, or of the `items` of an
array, apart from the shape that gives the rule its type. The walk hands over nodes without a
reference on them or on their `items`, and of such nodes the two readings agree. -/

namespace Rulebook
open Json Outcome

namespace Formats

def names : List String := ["email", "host-name", "hostname", "ipv4", "ipv6"]

theorem kind?_eq_none_iff {format : Option String} :
    kind? format = none ↔ ∀ name, format = some name → name ∉ names := by
  cases format with
  | none => simp [kind?]
  | some name =>
    unfold kind? names
    split <;> simp_all

end Formats

/-- The type that is declared where a rule has its type from: for the node, or for the `items`
of an array. -/
def RuleType.declaredIn (node : Json) : RuleType → Option String
  | .single _ => node.declaredType
  | .arrayOf _ => (node.get? "items").bind declaredType

namespace Shape

variable {v : Json}

theorem classify_ne_reference (hr : v.get? "$ref" = none) (target : String) :
    classify v ≠ .reference target := by
  rw [classify_eq, text?, hr]
  simp only [Option.bind_none, ne_eq]
  unfold ofItems
  split <;> try split
  all_goals simp

/-- The elements of a dereferenced array are no reference. -/
theorem classify_ne_array_reference (hd : v.Dereferenced) (target : String) :
    classify v ≠ .array (.reference target) := by
  intro h
  have harray : v.declaredType = some "array" := declaredType_of_isArray (by rw [h]; rfl)
  rw [classify_of_array hd.1 harray] at h
  cases hi : v.get? "items" with
  | none => simp [hi, ofItems] at h
  | some items =>
    rw [hi, Option.map_some, ofItems_classify] at h
    have hitems := classify_ne_reference (hd.2 items hi) target
    split at h
    · simp at h
    · exact hitems (array.inj h)

/-- What is declared as `number` makes a rule for numbers. -/
theorem scalar_of_declaredIn (hd : v.Dereferenced)
    (h : (classify v).ruleType.declaredIn v = some "number") :
    (classify v).ruleType.scalar = .number := by
  by_cases harray : v.declaredType = some "array"
  · rw [classify_of_array hd.1 harray] at h ⊢
    cases hi : v.get? "items" with
    | none => simp [hi, ofItems, ruleType, RuleType.declaredIn] at h
    | some items =>
      rw [hi] at h
      rw [Option.map_some, ofItems_classify] at h ⊢
      have hnumber : items.declaredType = some "number" := by
        simpa [ruleType, RuleType.declaredIn, hi] using h
      have hitems : classify items = .scalar .number := by
        rw [classify_of_other (hd.2 items hi) (by simp [hnumber]) (by simp [hnumber]), hnumber]
        rfl
      rw [hitems]
      rfl
  · by_cases hobject : v.declaredType = some "object"
    · rw [classify_of_object hd.1 hobject] at h
      simp [ruleType, RuleType.declaredIn, hobject] at h
    · rw [classify_of_other hd.1 hobject harray] at h ⊢
      have hnumber : v.declaredType = some "number" := h
      rw [hnumber]
      rfl

end Shape

namespace Rule

variable {path : String} {node : Json} {required blackbox : Bool} {rule : Rule}

theorem readPattern_eq_ok_none : readPattern path node = .ok none ↔ node.get? "pattern" = none := by
  unfold readPattern
  cases node.get? "pattern" with
  | none => simp
  | some v =>
    simp only [reduceCtorEq, iff_false]
    intro h
    obtain ⟨source, -, h⟩ := bind_eq_ok.1 h
    cases hread : Pattern.read? source <;> simp [hread] at h

theorem isDecimal_iff :
    isDecimal node (Shape.classify node) = true ↔
      (Shape.classify node).ruleType.declaredIn node = some "number" := by
  unfold isDecimal
  cases Shape.classify node <;>
    simp [Shape.isArray, Shape.ruleType, RuleType.declaredIn]

/-- A rule is decimal when nothing but the declared `number` has a say, and then there is no
expression in it. -/
theorem decimal_of_ofNode (h : ofNode path node required blackbox = .ok rule) :
    (rule.decimal = true ↔ rule.type.declaredIn node = some "number" ∧
      node.get? "pattern" = none ∧ Formats.kind? (node.text? "format") = none) ∧
    (rule.decimal = true → rule.pattern = none) := by
  obtain ⟨htype, -, -⟩ := fields_of_ofNode h
  obtain ⟨read, pattern, values, hread, hpattern, -, rfl⟩ := ofNode_eq_ok.1 h
  have hstart := kept_of_foldlM_applyKeyword hread
  simp only [Prod.mk.injEq] at hstart
  obtain ⟨-, -, hnone, hfalse⟩ := hstart
  rw [htype, ← isDecimal_iff]
  simp only [ofParts, withPattern]
  cases pattern with
  | some expression =>
    have hsome : node.get? "pattern" ≠ none := fun hg => by
      rw [readPattern_eq_ok_none.2 hg] at hpattern
      simp at hpattern
    simp [hfalse, hsome]
  | none =>
    have hg := readPattern_eq_ok_none.1 hpattern
    cases hk : Formats.kind? (node.text? "format") with
    | some kind => simp [hfalse]
    | none => simp [hnone, hg]

end Rule

/-- The walk makes rules of dereferenced nodes. -/
theorem dereferenced_of_walk {root : Json} {unused : List String} {place : Place}
    {properties : List (String × Json)} {expansions : List Expansion} (hroot : root.WellFormed)
    (hp : ∀ m ∈ properties, m.2.WellFormed)
    (h : walk root unused place properties = .ok expansions) :
    ∀ e ∈ expansions, e.node.Dereferenced := by
  induction unused, place, properties, expansions, h using walk_induction with
  | nil => simp
  | cons unused place name node target rest followed here inner outer hd _ hhere hinner _ ih =>
    obtain ⟨hnode, hrest⟩ := List.forall_mem_cons.1 hp
    have hconforms := wellFormed_iff_conforms.1 hnode
    obtain ⟨htarget, hdone⟩ := (wellFormed_iff_conforms.1 hroot).dereferenceTraced hconforms hd
    have hresolved := (hconforms.withDisplay htarget).wellFormed
    intro e he
    rcases List.mem_append.1 he with he | he
    · rcases List.mem_cons.1 he with rfl | he
      · rw [(place_of_ofNode hhere []).2]
        exact dereferenced_withDisplay hdone
      · rcases hinner with ⟨-, rfl⟩ | ⟨declared, names, hs, -, ihinner⟩
        · simp at he
        · exact ihinner (everywhere_innerProperties hresolved hs) e he
    · exact ih hrest e he

theorem Expands.dereferenced {document : Json} {e : Expansion} (hd : document.WellFormed)
    (h : Expands document e) : e.node.Dereferenced := by
  obtain ⟨properties, expansions, hp, hwalk, he⟩ := h
  have hinside := inside_of_documentProperties hp
  exact dereferenced_of_walk hd (Everywhere.members (Everywhere.inside hd hinside)) hwalk e he

/-- The rule is made of the node, under the key, by the mapper. -/
theorem Expands.made {document : Json} {e : Expansion} (h : Expands document e) :
    Rule.ofNode e.key e.node e.required (Shape.classify e.node).isOpen = .ok e.rule := by
  obtain ⟨expansions, hexpansions, he⟩ := expands_iff.1 h
  obtain ⟨spot, name, node, _, _, hof, -⟩ := exists_schema hexpansions he
  obtain ⟨rule, hrule, heq⟩ := map_eq_ok.1 hof.made
  rw [← heq]
  exact hrule

/-- The rules of a document are made of nodes that are no references, nor arrays of them. A rule
is decimal exactly when it is for numbers, or for an array of them, that are declared as
`number`, and the node has neither an expression nor a format that stands for one; then the
rule has no expression. -/
theorem decimal_iff_number {document : Json} {rules : RuleTable} (hd : document.WellFormed)
    (h : translate document = .ok rules) :
    (∀ key rule, rules.get? key = some rule →
      ∃ e, Expands document e ∧ e.key = key ∧ e.rule = rule) ∧
    ∀ e, Expands document e →
      Rule.ofNode e.key e.node e.required (Shape.classify e.node).isOpen = .ok e.rule ∧
      (∀ target, Shape.classify e.node ≠ .reference target ∧
        Shape.classify e.node ≠ .array (.reference target)) ∧
      (e.rule.decimal = true ↔ e.rule.type.scalar = .number ∧
        e.rule.type.declaredIn e.node = some "number" ∧ e.node.get? "pattern" = none ∧
        ∀ format, e.node.text? "format" = some format → format ∉ Formats.names) ∧
      (e.rule.decimal = true → e.rule.pattern = none) := by
  constructor
  · intro key rule hrule
    rw [translate_eq_map] at h
    obtain ⟨expansions, hexpansions, rfl⟩ := map_eq_ok.1 h
    rw [RuleTable.get?_ofExpansions_eq] at hrule
    obtain ⟨e, hfind, rfl⟩ := Option.map_eq_some_iff.1 hrule
    have he : e ∈ expansions := List.mem_reverse.1 (List.mem_of_find?_eq_some hfind)
    have hkey : e.key = key := by simpa using List.find?_some hfind
    exact ⟨e, expands_iff.2 ⟨expansions, hexpansions, he⟩, hkey, rfl⟩
  · intro e he
    have hdone := he.dereferenced hd
    obtain ⟨hdecimal, hpattern⟩ := Rule.decimal_of_ofNode he.made
    refine ⟨he.made, fun target => ⟨Shape.classify_ne_reference hdone.1 target,
      Shape.classify_ne_array_reference hdone target⟩, ?_, hpattern⟩
    have htype := (Rule.fields_of_ofNode he.made).1
    have hscalar : e.rule.type.declaredIn e.node = some "number" →
        e.rule.type.scalar = .number := by
      rw [htype]
      exact Shape.scalar_of_declaredIn hdone
    rw [hdecimal, Formats.kind?_eq_none_iff]
    exact ⟨fun h => ⟨hscalar h.1, h⟩, And.right⟩

/-- An array whose `items` refer to numbers that may be missing. -/
theorem decimal_iff_number_items :
    let items : Json := .object [("$ref", .string "#/n"), ("title", .string "A")]
    let number : Json := .object [("type", .array [.string "null", .string "number"])]
    let document : Json := .object [("properties", .object [("a", arrayOf items)]), ("n", number)]
    document.WellFormed ∧ ∃ rules e, translate document = .ok rules ∧ Expands document e ∧
      e.key = "a" ∧ e.rule.type = .arrayOf .number ∧ e.rule.decimal = true ∧
      e.rule.pattern = none := by
  intro items number document
  let resolved : Json := arrayOf (.object [("title", .string "A"),
    ("type", .array [.string "null", .string "number"])])
  let unused := pointersOf [("a", arrayOf items)] document
  obtain ⟨here, hhere, hkey, htype, hnode⟩ : ∃ here, Expansion.ofNode {} "a" resolved = .ok here ∧
      here.key = "a" ∧ here.rule.type = .arrayOf .number ∧ here.node = resolved :=
    ⟨_, rfl, rfl, rfl, rfl⟩
  have hitems : dereferenceTraced document (arrayOf items) = .ok (resolved, ["#/n"]) := by
    decide +kernel
  have hwalk : walk document unused {} [("a", arrayOf items)] = .ok (here :: [] ++ []) :=
    walk_cons_of_ok hitems (by decide +kernel) hhere (walkInner_of_none rfl) (walk_nil _ _ _)
  have hexpands : Expands document here := ⟨_, _, rfl, hwalk, by simp⟩
  have hrules : translate document = .ok (.ofExpansions [here]) := translate_of_walk rfl hwalk
  have hd : document.WellFormed := by decide
  obtain ⟨-, -, hdecimal, hpattern⟩ := (decimal_iff_number hd hrules).2 here hexpands
  have hset : here.rule.decimal = true := by
    refine hdecimal.2 ⟨by rw [htype]; rfl, by rw [htype, hnode]; rfl, by rw [hnode]; rfl, ?_⟩
    rw [hnode]
    simp [resolved, arrayOf, text?, Members.get?]
  exact ⟨hd, _, here, hrules, hexpands, hkey, htype, hset, hpattern hset⟩

end Rulebook
