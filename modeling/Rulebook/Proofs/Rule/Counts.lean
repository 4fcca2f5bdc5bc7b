import Rulebook.Proofs.Rule.Fields
import Rulebook.Proofs.Schema.Agreement

/-! The two keywords that hold a count. Beside whatever else a node has, each sets its own field
of the rule to the count that its value is taken for, or fails with its value. -/

namespace Rulebook

inductive CountKeyword where
  | minItems
  | maxItems

namespace CountKeyword

def name : CountKeyword → String
  | minItems => "minItems"
  | maxItems => "maxItems"

def put : CountKeyword → ℕ → Rule → Rule
  | minItems, n, rule => { rule with minCount := some n }
  | maxItems, n, rule => { rule with maxCount := some n }

def count? : CountKeyword → Rule → Option ℕ
  | minItems, rule => rule.minCount
  | maxItems, rule => rule.maxCount

@[simp] theorem count?_put (field : CountKeyword) (n : ℕ) (rule : Rule) :
    field.count? (field.put n rule) = some n := by
  cases field <;> rfl

end CountKeyword

namespace Json

def dropKey (key : String) : Json → Json
  | .object members => .object (members.filter (·.1 ≠ key))
  | v => v

theorem get?_dropKey_self (key : String) (node : Json) : (node.dropKey key).get? key = none := by
  cases node with
  | object members =>
    refine Members.get?_eq_none_iff.2 fun hkey => ?_
    obtain ⟨m, hm, hname⟩ := List.mem_map.1 hkey
    simpa [hname] using (List.mem_filter.1 hm).2
  | _ => rfl

theorem get?_dropKey_of_ne {key other : String} (h : other ≠ key) (node : Json) :
    (node.dropKey key).get? other = node.get? other := by
  cases node with
  | object members =>
    rw [dropKey, get?_object, get?_object]
    induction members with
    | nil => rfl
    | cons m rest ih =>
      obtain ⟨name, value⟩ := m
      by_cases hname : name = key
      · have hne : name ≠ other := by rwa [hname, ne_comm]
        rw [List.filter_cons_of_neg (by simpa using hname), ih, Members.get?_cons, if_neg hne]
      · rw [List.filter_cons_of_pos (by simpa using hname), Members.get?_cons, Members.get?_cons,
          ih]
  | _ => rfl

end Json

namespace Rule
open Json Outcome

variable {field : CountKeyword} {v node : Json} {path : String} {required blackbox : Bool}
  {rule : Rule} {n : ℕ}

def countKeyword (field : CountKeyword) : Keyword :=
  ⟨field.name, fun v rule => v.coerceCount.map fun n => field.put n rule⟩

/-- The keywords before and after one that holds a count. -/
theorem exists_keywords_eq (field : CountKeyword) :
    ∃ before after, keywords = before ++ countKeyword field :: after ∧
      ∀ k ∈ before ++ after, k ∈ keywords ∧ k.name ≠ field.name := by
  have hsplit : ∀ i, keywords = keywords.take i ++ countKeyword field :: keywords.drop (i + 1) →
      (∀ k ∈ keywords.take i ++ keywords.drop (i + 1), k.name ≠ field.name) →
      ∃ before after, keywords = before ++ countKeyword field :: after ∧
        ∀ k ∈ before ++ after, k ∈ keywords ∧ k.name ≠ field.name := fun i heq hname =>
    ⟨keywords.take i, keywords.drop (i + 1), heq, fun k hk =>
      ⟨(List.mem_append.1 hk).elim List.mem_of_mem_take List.mem_of_mem_drop, hname k hk⟩⟩
  cases field with
  | minItems => exact hsplit 7 rfl (by decide)
  | maxItems => exact hsplit 8 rfl (by decide)

/-- The other keywords set other fields. -/
theorem set_put {keyword : Keyword} (hk : keyword ∈ keywords) (hname : keyword.name ≠ field.name)
    (x : Json) (rule : Rule) :
    keyword.set x (field.put n rule) = (keyword.set x rule).map (field.put n) := by
  simp only [keywords, List.mem_cons, List.not_mem_nil, or_false] at hk
  cases field <;> rcases hk with rfl | rfl | rfl | rfl | rfl | rfl | rfl | rfl | rfl | rfl
  all_goals
    first
    | exact absurd rfl hname
    | rfl
    | simp only [Option.map_map]; rfl

theorem orInvalid_map {α β : Type} (keyword : String) (value : Json) (f : α → β) (x : Option α) :
    orInvalid path keyword value (x.map f) = (orInvalid path keyword value x).map f := by
  cases x <;> rfl

def start (node : Json) (required : Bool) : Rule :=
  { type := (Shape.classify node).ruleType, optional := !required }

def finish (path : String) (node : Json) (blackbox : Bool) (rule : Rule) :
    Except TranslateError Rule := do
  let pattern ← readPattern path node
  let values ← readEnum path node
  let format := node.text? "format"
  let hints := hintsOf node format ((values.getD []).any Json.isNull)
  let rule := rule.withPattern pattern format (isDecimal node (Shape.classify node))
  return { rule with
    blackbox
    allowedValues := values.map (·.filter (!·.isNull))
    hints := if hints.isEmpty then none else some hints }

theorem ofNode_eq (path : String) (node : Json) (required blackbox : Bool) :
    ofNode path node required blackbox =
      keywords.foldlM (applyKeyword path node) (start node required) >>=
        finish path node blackbox := rfl

theorem finish_put (rule : Rule) :
    finish path node blackbox (field.put n rule) =
      (finish path node blackbox rule).map (field.put n) := by
  have hwith : ∀ pattern format decimal, (field.put n rule).withPattern pattern format decimal =
      field.put n (rule.withPattern pattern format decimal) := fun pattern format decimal => by
    unfold withPattern
    cases field <;> split <;> rfl
  unfold finish
  cases readPattern path node with
  | error e => rfl
  | ok pattern =>
    cases readEnum path node with
    | error e => rfl
    | ok values =>
      show Except.ok _ = Except.ok _
      simp only [hwith]
      cases field <;> rfl

/-! ### A node without the keyword -/

theorem start_dropKey : start (node.dropKey field.name) required = start node required := by
  have hname : ∀ key ∈ "$ref" :: Shape.keywords, key ≠ field.name := by cases field <;> decide
  obtain ⟨href, hkeywords⟩ := List.forall_mem_cons.1 hname
  rw [start, Shape.classify_congr (get?_dropKey_of_ne href node) fun key hk =>
    get?_dropKey_of_ne (hkeywords key hk) node, start]

theorem finish_dropKey :
    finish path (node.dropKey field.name) blackbox = finish path node blackbox := by
  have hname : ∀ key ∈ ["pattern", "enum", "description", "$ref"] ++ Shape.keywords,
      key ≠ field.name := by cases field <;> decide
  have hsame : ∀ key ∈ ["pattern", "enum", "description", "$ref"] ++ Shape.keywords,
      (node.dropKey field.name).get? key = node.get? key :=
    fun key hk => get?_dropKey_of_ne (hname key hk) node
  generalize node.dropKey field.name = other at hsame ⊢
  have hclassify : Shape.classify other = Shape.classify node :=
    Shape.classify_congr (hsame _ (by decide)) fun key hk =>
      hsame key (List.mem_append_right _ hk)
  have hpattern : readPattern path other = readPattern path node := by
    rw [readPattern, hsame _ (by decide), readPattern]
  have henum : readEnum path other = readEnum path node := by
    rw [readEnum, hsame _ (by decide), readEnum]
  have hdecimal : ∀ shape, isDecimal other shape = isDecimal node shape := fun shape => by
    rw [isDecimal, hsame "items" (by decide), declaredType_congr (hsame _ (by decide)), isDecimal]
  have hhints : ∀ format allowsNone,
      hintsOf other format allowsNone = hintsOf node format allowsNone := fun _ _ => by
    rw [hintsOf, text?_congr (hsame "description" (by decide)), hintsOf]
  have hformat : other.text? "format" = node.text? "format" := text?_congr (hsame _ (by decide))
  funext rule
  simp only [finish, hclassify, hpattern, henum, hdecimal, hhints, hformat]

theorem applyKeyword_dropKey {keyword : Keyword} (hname : keyword.name ≠ field.name)
    (rule : Rule) :
    applyKeyword path (node.dropKey field.name) rule keyword =
      applyKeyword path node rule keyword := by
  rw [applyKeyword, get?_dropKey_of_ne hname, applyKeyword]

theorem applyKeyword_dropKey_self (rule : Rule) :
    applyKeyword path (node.dropKey field.name) rule (countKeyword field) = .ok rule := by
  have habsent : (node.dropKey field.name).get? (countKeyword field).name = none :=
    get?_dropKey_self _ _
  rw [applyKeyword, habsent]

theorem foldlM_dropKey {list : List Keyword}
    (hk : ∀ k ∈ list, k ∈ keywords ∧ k.name ≠ field.name) (rule : Rule) :
    list.foldlM (applyKeyword path (node.dropKey field.name)) rule =
      list.foldlM (applyKeyword path node) rule := by
  induction list generalizing rule with
  | nil => rfl
  | cons keyword rest ih =>
    obtain ⟨⟨-, hname⟩, hrest⟩ := List.forall_mem_cons.1 hk
    rw [List.foldlM_cons, List.foldlM_cons, applyKeyword_dropKey hname]
    exact bind_congr fun next => ih hrest next

/-- The other keywords do the same to a rule whose count is set already. -/
theorem foldlM_put {list : List Keyword}
    (hk : ∀ k ∈ list, k ∈ keywords ∧ k.name ≠ field.name) (rule : Rule) :
    list.foldlM (applyKeyword path node) (field.put n rule) =
      (list.foldlM (applyKeyword path node) rule).map (field.put n) := by
  induction list generalizing rule with
  | nil => rfl
  | cons keyword rest ih =>
    obtain ⟨⟨hmem, hname⟩, hrest⟩ := List.forall_mem_cons.1 hk
    have happly : applyKeyword path node (field.put n rule) keyword =
        (applyKeyword path node rule keyword).map (field.put n) := by
      unfold applyKeyword
      split
      · rw [set_put hmem hname, orInvalid_map]
      · rfl
    rw [List.foldlM_cons, List.foldlM_cons, happly]
    cases applyKeyword path node rule keyword with
    | error e => rfl
    | ok next => exact ih hrest next

section Found

variable (h : node.get? field.name = some v)
include h

theorem applyKeyword_countKeyword (rule : Rule) :
    applyKeyword path node rule (countKeyword field) =
      (orInvalid path field.name v v.coerceCount).map fun n => field.put n rule := by
  have hfound : node.get? (countKeyword field).name = some v := h
  rw [applyKeyword, hfound]
  exact orInvalid_map _ _ _ _

/-- A value that is taken for a count sets the field, and changes nothing else. -/
theorem ofNode_of_coerceCount (hv : v.coerceCount = some n) :
    ofNode path node required blackbox =
      (ofNode path (node.dropKey field.name) required blackbox).map (field.put n) := by
  obtain ⟨before, after, hkeywords, hothers⟩ := exists_keywords_eq field
  obtain ⟨hbefore, hafter⟩ := List.forall_mem_append.1 hothers
  rw [ofNode_eq, ofNode_eq, start_dropKey, finish_dropKey, hkeywords, List.foldlM_append,
    List.foldlM_append, foldlM_dropKey hbefore]
  cases before.foldlM (applyKeyword path node) (start node required) with
  | error e => rfl
  | ok rule =>
    simp only [List.foldlM_cons, applyKeyword_countKeyword h, applyKeyword_dropKey_self, hv,
      orInvalid, Option.elim_some, Except.map, bind, Except.bind, foldlM_dropKey hafter,
      foldlM_put hafter]
    cases after.foldlM (applyKeyword path node) rule with
    | error e => rfl
    | ok next => exact finish_put next

/-- Any other value fails, and it is what is reported unless a keyword before it fails. -/
theorem ofNode_of_coerceCount_eq_none (hv : v.coerceCount = none) :
    ∃ keyword value, ofNode path node required blackbox =
        .error (.invalidKeyword path keyword value) ∧
      ((∃ rule, ofNode path (node.dropKey field.name) required blackbox = .ok rule) →
        keyword = field.name ∧ value = v) := by
  obtain ⟨before, after, hkeywords, hothers⟩ := exists_keywords_eq field
  obtain ⟨hbefore, -⟩ := List.forall_mem_append.1 hothers
  rw [ofNode_eq, ofNode_eq, start_dropKey, hkeywords, List.foldlM_append, List.foldlM_append,
    foldlM_dropKey hbefore]
  cases hfold : before.foldlM (applyKeyword path node) (start node required) with
  | error e =>
    obtain ⟨keyword, value, -, rfl⟩ := refusal_of_foldlM_applyKeyword hfold
    exact ⟨keyword, value, rfl, by rintro ⟨rule, hrule⟩; cases hrule⟩
  | ok rule =>
    refine ⟨field.name, v, ?_, fun _ => ⟨rfl, rfl⟩⟩
    simp only [List.foldlM_cons, applyKeyword_countKeyword h, hv, orInvalid, Option.elim_none,
      Except.map, bind, Except.bind]

end Found
end Rule

namespace CountKeyword
open Json

variable {field : CountKeyword} {v : Json} {n : ℕ}

/-- Under the keyword a value is stored as a count: every node that has it has the rule that it
would have without, but for the count in the field. -/
def Stores (field : CountKeyword) (v : Json) (n : ℕ) : Prop :=
  ∀ path node required blackbox, node.get? field.name = some v →
    Rule.ofNode path node required blackbox =
      (Rule.ofNode path (node.dropKey field.name) required blackbox).map (field.put n)

/-- Under the keyword a value is rejected: no node that has it has a rule, and the keyword and the
value are what is reported, unless the node has another fault. -/
def Rejects (field : CountKeyword) (v : Json) : Prop :=
  ∀ path node required blackbox, node.get? field.name = some v →
    ∃ keyword value, Rule.ofNode path node required blackbox =
        .error (.invalidKeyword path keyword value) ∧
      ((∃ rule, Rule.ofNode path (node.dropKey field.name) required blackbox = .ok rule) →
        keyword = field.name ∧ value = v)

def only (field : CountKeyword) (v : Json) : Json := .object [(field.name, v)]

theorem get?_only (field : CountKeyword) (v : Json) : (field.only v).get? field.name = some v := by
  simp [only, Members.get?]

theorem exists_ofNode_only_dropKey (field : CountKeyword) (v : Json) (path : String)
    (required blackbox : Bool) :
    ∃ rule, Rule.ofNode path ((field.only v).dropKey field.name) required blackbox = .ok rule := by
  have hempty : (field.only v).dropKey field.name = .object [] := by simp [only, dropKey]
  rw [hempty]
  exact ⟨_, rfl⟩

theorem stores_of_coerceCount (hv : v.coerceCount = some n) : field.Stores v n :=
  fun _ _ _ _ hnode => Rule.ofNode_of_coerceCount hnode hv

theorem rejects_of_coerceCount (hv : v.coerceCount = none) : field.Rejects v :=
  fun _ _ _ _ hnode => Rule.ofNode_of_coerceCount_eq_none hnode hv

theorem Stores.not_rejects (h : field.Stores v n) : ¬field.Rejects v := by
  intro hrejects
  obtain ⟨rule, hrule⟩ := field.exists_ofNode_only_dropKey v "" true false
  obtain ⟨keyword, value, herror, -⟩ := hrejects "" _ true false (field.get?_only v)
  rw [h "" _ true false (field.get?_only v), hrule] at herror
  cases herror

theorem Stores.unique {m : ℕ} (hm : field.Stores v m) (hn : field.Stores v n) : m = n := by
  obtain ⟨rule, hrule⟩ := field.exists_ofNode_only_dropKey v "" true false
  have hnode := hm "" _ true false (field.get?_only v)
  rw [hn "" _ true false (field.get?_only v), hrule] at hnode
  have hput : field.count? (field.put n rule) = field.count? (field.put m rule) :=
    congrArg field.count? (Except.ok.inj hnode)
  rw [count?_put, count?_put] at hput
  exact (Option.some.inj hput).symm

theorem stores_iff : field.Stores v n ↔ v.coerceCount = some n := by
  refine ⟨fun h => ?_, stores_of_coerceCount⟩
  cases hv : v.coerceCount with
  | none => exact absurd (rejects_of_coerceCount hv) h.not_rejects
  | some m => rw [h.unique (stores_of_coerceCount hv)]

theorem rejects_iff : field.Rejects v ↔ v.coerceCount = none := by
  refine ⟨fun h => ?_, rejects_of_coerceCount⟩
  cases hv : v.coerceCount with
  | none => rfl
  | some n => exact absurd h (stores_of_coerceCount hv).not_rejects

/-- A node with the keyword alone has a rule with the count that is stored. -/
theorem Stores.count?_only (h : field.Stores v n) (path : String) (required blackbox : Bool) :
    ∃ rule, Rule.ofNode path (field.only v) required blackbox = .ok rule ∧
      field.count? rule = some n := by
  obtain ⟨rule, hrule⟩ := field.exists_ofNode_only_dropKey v path required blackbox
  refine ⟨field.put n rule, ?_, count?_put field n rule⟩
  rw [h path _ required blackbox (field.get?_only v), hrule]
  rfl

end CountKeyword
end Rulebook
