import Rulebook.Proofs.Outcome
import Rulebook.Reference.Display
import Rulebook.Rule.Mapping

/-! The parts that the rule of a node is made of, the faults it can be refused for, and the
fields that its keywords leave alone. -/

namespace Rulebook
namespace Rule
open Outcome

variable {path : String} {node : Json} {required blackbox : Bool} {rule next : Rule}

theorem orInvalid_eq_ok {α : Type} {keyword : String} {value : Json} {x : Option α} {a : α} :
    orInvalid path keyword value x = .ok a ↔ x = some a := by
  cases x <;> simp [orInvalid]

theorem orInvalid_eq_error {α : Type} {keyword : String} {value : Json} {x : Option α}
    {e : TranslateError} :
    orInvalid path keyword value x = .error e ↔
      x = none ∧ e = .invalidKeyword path keyword value := by
  cases x <;> simp [orInvalid, eq_comm]

/-! ### The parts of a rule -/

section Parts

variable (rule : Rule) (pattern : Option RulePattern) (format : Option String) (decimal : Bool)

@[simp] theorem withPattern_type : (rule.withPattern pattern format decimal).type = rule.type := by
  unfold withPattern
  split <;> rfl

@[simp] theorem withPattern_optional :
    (rule.withPattern pattern format decimal).optional = rule.optional := by
  unfold withPattern
  split <;> rfl

@[simp] theorem withPattern_label :
    (rule.withPattern pattern format decimal).label = rule.label := by
  unfold withPattern
  split <;> rfl

end Parts

def ofParts (node : Json) (blackbox : Bool) (read : Rule) (pattern : Option RulePattern)
    (values : Option (List Json)) : Rule :=
  let format := node.text? "format"
  let hints := hintsOf node format ((values.getD []).any Json.isNull)
  { read.withPattern pattern format (isDecimal node (Shape.classify node)) with
    blackbox
    allowedValues := values.map (·.filter (!·.isNull))
    hints := if hints.isEmpty then none else some hints }

/-- There is a rule for a node when its keywords, its expression and its values can be used. -/
theorem ofNode_eq_ok : ofNode path node required blackbox = .ok rule ↔
    ∃ read pattern values,
      keywords.foldlM (applyKeyword path node)
        { type := (Shape.classify node).ruleType, optional := !required } = .ok read ∧
      readPattern path node = .ok pattern ∧ readEnum path node = .ok values ∧
      ofParts node blackbox read pattern values = rule := by
  simp only [ofNode, bind_eq_ok, pure_eq_ok, ofParts]
  constructor
  · rintro ⟨read, hread, pattern, hpattern, values, hvalues, hrule⟩
    exact ⟨read, pattern, values, hread, hpattern, hvalues, hrule⟩
  · rintro ⟨read, pattern, values, hread, hpattern, hvalues, hrule⟩
    exact ⟨read, hread, pattern, hpattern, values, hvalues, hrule⟩

/-! ### The faults of a node -/

/-- What a node at a path can be refused for: the value of one of its keywords, or an expression
that cannot be read. -/
inductive Refusal (path : String) (node : Json) : TranslateError → Prop where
  | keyword {name : String} {value : Json} (h : node.get? name = some value) :
      Refusal path node (.invalidKeyword path name value)
  | pattern {value : Json} (h : node.get? "pattern" = some value) :
      Refusal path node (.invalidPattern path)

theorem refusal_of_foldlM_applyKeyword {list : List Keyword} {e : TranslateError}
    (h : list.foldlM (applyKeyword path node) rule = .error e) :
    ∃ name value, node.get? name = some value ∧ e = .invalidKeyword path name value := by
  induction list generalizing rule with
  | nil => simp at h
  | cons keyword rest ih =>
    rw [List.foldlM_cons] at h
    rcases bind_eq_error.1 h with h | ⟨next, -, h⟩
    · unfold applyKeyword at h
      split at h
      case h_1 value hvalue => exact ⟨_, value, hvalue, (orInvalid_eq_error.1 h).2⟩
      case h_2 => simp at h
    · exact ih h

/-- A rule is refused for a keyword of its node, under the path of the node. -/
theorem refusal_of_ofNode {e : TranslateError}
    (h : ofNode path node required blackbox = .error e) : Refusal path node e := by
  rcases bind_eq_error.1 h with h | ⟨read, -, h⟩
  · obtain ⟨name, value, hvalue, rfl⟩ := refusal_of_foldlM_applyKeyword h
    exact .keyword hvalue
  rcases bind_eq_error.1 h with h | ⟨pattern, -, h⟩
  · unfold readPattern at h
    split at h
    · simp at h
    · rename_i value hvalue
      rcases bind_eq_error.1 h with h | ⟨source, -, h⟩
      · rw [(orInvalid_eq_error.1 h).2]
        exact .keyword hvalue
      · split at h
        · simp at h
        · obtain rfl := Except.error.inj h
          exact .pattern hvalue
  rcases bind_eq_error.1 h with h | ⟨values, -, h⟩
  · unfold readEnum at h
    split at h
    · simp at h
    · rename_i value hvalue
      rw [(orInvalid_eq_error.1 (map_eq_error.1 h)).2]
      exact .keyword hvalue
  · simp at h

/-! ### The fields that keywords leave alone -/

/-- A field that no keyword of a list sets is what it was. -/
theorem field_of_foldlM_applyKeyword {α : Type} (field : Rule → α) {list : List Keyword}
    (hk : ∀ keyword ∈ list, ∀ x rule next, keyword.set x rule = some next →
      field next = field rule)
    (h : list.foldlM (applyKeyword path node) rule = .ok next) : field next = field rule := by
  induction list generalizing rule with
  | nil =>
    obtain rfl : rule = next := by simpa using h
    rfl
  | cons keyword rest ih =>
    obtain ⟨hkeyword, hrest⟩ := List.forall_mem_cons.1 hk
    rw [List.foldlM_cons] at h
    obtain ⟨mid, hmid, h⟩ := bind_eq_ok.1 h
    rw [ih hrest h]
    unfold applyKeyword at hmid
    split at hmid
    · exact hkeyword _ _ _ (orInvalid_eq_ok.1 hmid)
    · rw [Except.ok.inj hmid]

/-- No keyword sets the type or says whether a value has to be there, and none sets an
expression or the decimal flag. -/
theorem kept_of_set {keyword : Keyword} (hk : keyword ∈ keywords) {x : Json}
    (h : keyword.set x rule = some next) :
    (next.type, next.optional, next.pattern, next.decimal) =
      (rule.type, rule.optional, rule.pattern, rule.decimal) := by
  simp only [keywords, List.mem_cons, List.not_mem_nil, or_false] at hk
  rcases hk with rfl | rfl | rfl | rfl | rfl | rfl | rfl | rfl | rfl | rfl
  all_goals
    first
    | obtain rfl := Option.some.inj h
      rfl
    | obtain ⟨_, -, rfl⟩ := Option.map_eq_some_iff.1 h
      rfl

theorem kept_of_foldlM_applyKeyword (h : keywords.foldlM (applyKeyword path node) rule = .ok next) :
    (next.type, next.optional, next.pattern, next.decimal) =
      (rule.type, rule.optional, rule.pattern, rule.decimal) :=
  field_of_foldlM_applyKeyword
    (fun rule => (rule.type, rule.optional, rule.pattern, rule.decimal))
    (fun _ hk _ _ _ hset => kept_of_set hk hset) h

/-- The type of a rule is that of the shape of its node, and whether it is optional and for a
black box is what is asked for. -/
theorem fields_of_ofNode (h : ofNode path node required blackbox = .ok rule) :
    rule.type = (Shape.classify node).ruleType ∧ rule.optional = !required ∧
      rule.blackbox = blackbox := by
  obtain ⟨read, pattern, values, hread, -, -, rfl⟩ := ofNode_eq_ok.1 h
  have hstart := kept_of_foldlM_applyKeyword hread
  simp only [Prod.mk.injEq] at hstart
  refine ⟨?_, ?_, rfl⟩
  · exact (withPattern_type ..).trans hstart.1
  · exact (withPattern_optional ..).trans hstart.2.1

/-- Without a pattern of its own a node has that of its format. -/
theorem pattern_of_ofNode {kind : PatternKind} (h : ofNode path node required blackbox = .ok rule)
    (hp : node.get? "pattern" = none) (hk : Formats.kind? (node.text? "format") = some kind) :
    rule.pattern = Formats.rulePattern? kind := by
  obtain ⟨read, pattern, values, -, hpattern, -, rfl⟩ := ofNode_eq_ok.1 h
  have hnone : pattern = none := by
    rw [readPattern, hp] at hpattern
    exact (Except.ok.inj hpattern).symm
  simp only [ofParts, withPattern, hnone, hk]

/-- Whether the value of a keyword can be used does not depend on the rule so far. -/
theorem isSome_set {keyword : Keyword} (hk : keyword ∈ keywords) (x : Json) (rule other : Rule) :
    (keyword.set x rule).isSome = (keyword.set x other).isSome := by
  simp only [keywords, List.mem_cons, List.not_mem_nil, or_false] at hk
  rcases hk with rfl | rfl | rfl | rfl | rfl | rfl | rfl | rfl | rfl | rfl <;> simp

/-- Every title can be used. -/
theorem isSome_set_title {keyword : Keyword} (hk : keyword ∈ keywords)
    (hname : keyword.name = "title") (x : Json) (rule : Rule) : (keyword.set x rule).isSome := by
  simp only [keywords, List.mem_cons, List.not_mem_nil, or_false] at hk
  rcases hk with rfl | rfl | rfl | rfl | rfl | rfl | rfl | rfl | rfl | rfl <;> simp at hname ⊢

theorem name_notMem_displayFields {keyword : Keyword} (hk : keyword ∈ keywords)
    (hname : keyword.name ≠ "title") : keyword.name ∉ Json.displayFields := by
  simp only [keywords, List.mem_cons, List.not_mem_nil, or_false] at hk
  rcases hk with rfl | rfl | rfl | rfl | rfl | rfl | rfl | rfl | rfl | rfl
  · exact absurd rfl hname
  all_goals decide

section Agreeing

variable {other : Json} (path' : String)
  (hagree : ∀ key, key ∉ Json.displayFields → node.get? key = other.get? key)
include hagree

theorem exists_applyKeyword {keyword : Keyword} (hk : keyword ∈ keywords)
    (h : applyKeyword path node rule keyword = .ok next) (start : Rule) :
    ∃ last, applyKeyword path' other start keyword = .ok last := by
  unfold applyKeyword at h ⊢
  cases hv : other.get? keyword.name with
  | none => exact ⟨start, rfl⟩
  | some v =>
    have husable : (keyword.set v start).isSome := by
      by_cases hname : keyword.name = "title"
      · exact isSome_set_title hk hname v start
      · rw [hagree _ (name_notMem_displayFields hk hname), hv] at h
        rw [isSome_set hk v start rule, orInvalid_eq_ok.1 h]
        rfl
    obtain ⟨last, hlast⟩ := Option.isSome_iff_exists.1 husable
    exact ⟨last, orInvalid_eq_ok.2 hlast⟩

theorem exists_foldlM_applyKeyword {list : List Keyword} (hk : ∀ keyword ∈ list, keyword ∈ keywords)
    (h : list.foldlM (applyKeyword path node) rule = .ok next) (start : Rule) :
    ∃ last, list.foldlM (applyKeyword path' other) start = .ok last := by
  induction list generalizing rule start with
  | nil => exact ⟨start, rfl⟩
  | cons keyword rest ih =>
    obtain ⟨hkeyword, hrest⟩ := List.forall_mem_cons.1 hk
    rw [List.foldlM_cons] at h
    obtain ⟨mid, hmid, h⟩ := bind_eq_ok.1 h
    obtain ⟨first, hfirst⟩ := exists_applyKeyword path' hagree hkeyword hmid start
    obtain ⟨last, hlast⟩ := ih hrest h first
    rw [List.foldlM_cons]
    exact ⟨last, bind_eq_ok.2 ⟨first, hfirst, hlast⟩⟩

theorem readPattern_of_agree {pattern : Option RulePattern}
    (h : readPattern path node = .ok pattern) : readPattern path' other = .ok pattern := by
  unfold readPattern at h ⊢
  rw [hagree "pattern" (by decide)] at h
  cases hv : other.get? "pattern" with
  | none => simpa [hv] using h
  | some v =>
    simp only [hv] at h
    obtain ⟨source, hsource, hread⟩ := bind_eq_ok.1 h
    refine bind_eq_ok.2 ⟨source, orInvalid_eq_ok.2 (orInvalid_eq_ok.1 hsource), ?_⟩
    cases hp : Pattern.read? source with
    | none => simp [hp] at hread
    | some expression => simpa [hp] using hread

theorem readEnum_of_agree {values : Option (List Json)} (h : readEnum path node = .ok values) :
    readEnum path' other = .ok values := by
  unfold readEnum at h ⊢
  rw [hagree "enum" (by decide)] at h
  cases hv : other.get? "enum" with
  | none => simpa [hv] using h
  | some v =>
    simp only [hv] at h ⊢
    cases ha : v.asArray? with
    | none => simp [ha, orInvalid] at h
    | some list =>
      rw [ha] at h
      exact h

/-- Whether there is a rule for a node depends neither on its display text nor on its place. -/
theorem exists_ofNode (h : ofNode path node required blackbox = .ok rule)
    (required' blackbox' : Bool) : ∃ made, ofNode path' other required' blackbox' = .ok made := by
  obtain ⟨read, pattern, values, hread, hpattern, hvalues, -⟩ := ofNode_eq_ok.1 h
  obtain ⟨last, hlast⟩ := exists_foldlM_applyKeyword path' hagree (fun _ hk => hk) hread
    { type := (Shape.classify other).ruleType, optional := !required' }
  exact ⟨_, ofNode_eq_ok.2 ⟨last, pattern, values, hlast,
    readPattern_of_agree path' hagree hpattern, readEnum_of_agree path' hagree hvalues, rfl⟩⟩

end Agreeing

end Rule
end Rulebook
