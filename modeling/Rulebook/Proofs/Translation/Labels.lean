import Rulebook.Proofs.Resolution.Display
import Rulebook.Proofs.Resolution.Repetition
import Rulebook.Proofs.Rule.Fields
import Rulebook.Proofs.Rule.Table
import Rulebook.Proofs.Translation.Moving

/-! The display text of a top-level property in the rule of the property: its title is
the label, and its description the title of the hints, whatever the property refers
to. -/

namespace Rulebook
open Json Outcome Resolution

namespace Rule

variable {path : String} {node : Json} {required blackbox : Bool} {rule next : Rule}

/-- Only a title sets a label. -/
theorem label_of_set {keyword : Keyword} (hk : keyword ∈ keywords) (hne : keyword.name ≠ "title")
    {x : Json} (h : keyword.set x rule = some next) : next.label = rule.label := by
  simp only [keywords, List.mem_cons, List.not_mem_nil, or_false] at hk
  rcases hk with rfl | rfl | rfl | rfl | rfl | rfl | rfl | rfl | rfl | rfl
  · exact absurd rfl hne
  all_goals
    first
    | obtain rfl := Option.some.inj h
      rfl
    | obtain ⟨_, -, rfl⟩ := Option.map_eq_some_iff.1 h
      rfl

theorem name_ne_title : ∀ keyword ∈ keywords.tail, keyword.name ≠ "title" := by
  simp [keywords]

/-- The rule of a node shows the display text of the node. -/
theorem display_of_ofNode (h : ofNode path node required blackbox = .ok rule) :
    (∀ title, node.get? "title" = some (.string title) → rule.label = some title) ∧
      ∀ description, node.get? "description" = some (.string description) → description ≠ "" →
        rule.hints.bind FieldHints.title = some description := by
  obtain ⟨read, pattern, values, hread, -, -, rfl⟩ := ofNode_eq_ok.1 h
  constructor
  · intro title ht
    have hlabel : read.label = some title := by
      rw [keywords, List.foldlM_cons] at hread
      obtain ⟨mid, hmid, hread⟩ := bind_eq_ok.1 hread
      have hkept := field_of_foldlM_applyKeyword Rule.label
        (fun keyword hk _ _ _ hset =>
          label_of_set (List.mem_cons_of_mem _ hk) (name_ne_title keyword hk) hset) hread
      rw [hkept]
      simp only [applyKeyword, ht, orInvalid_eq_ok, Option.some.injEq] at hmid
      rw [← hmid]
      rfl
    exact (withPattern_label ..).trans hlabel
  · intro description hd hne
    have htitle : (hintsOf node (node.text? "format")
        ((values.getD []).any Json.isNull)).title = some description := by
      simp [hintsOf, text?, hd, asString?, hne]
    have hsome : (hintsOf node (node.text? "format")
        ((values.getD []).any Json.isNull)).isEmpty = false := by
      simp [FieldHints.isEmpty, htitle]
    simp only [ofParts, hsome, Bool.false_eq_true, ↓reduceIte, Option.bind_some]
    exact htitle

end Rule

section Keys

variable {root : Json} {unused : List String} {place : Place} {name : String} {resolved : Json}
  {properties : Members} {expansions : List Expansion}

/-- Where nothing stands before the names, a key without a point is a name. -/
theorem mem_keys_of_walk (hlead : place.lead = "")
    (h : walk root unused place properties = .ok expansions) {e : Expansion} (he : e ∈ expansions)
    (hdot : '.' ∉ e.key.toList) : e.key ∈ properties.keys := by
  induction properties generalizing expansions with
  | nil =>
    rw [walk_nil] at h
    obtain rfl := Except.ok.inj h
    simp at he
  | cons m rest ih =>
    obtain ⟨name, node⟩ := m
    obtain ⟨_, _, here, inner, outer, -, -, hhere, hinner, houter, rfl⟩ := walk_cons_eq_ok.1 h
    rcases List.mem_append.1 he with he | he
    · rcases List.mem_cons.1 he with rfl | he
      · rw [(ofNode_eq_ok hhere).1, hlead, String.empty_append]
        exact List.mem_cons_self
      · obtain ⟨more, hkey⟩ := key_of_walkInner hinner he
        exact absurd (by simp [hkey]) hdot
    · exact List.mem_cons_of_mem _ (ih houter he)

/-- A top-level property whose name has no point is expanded to the only rule under its
name. -/
theorem exists_expansion_of_walk (hlead : place.lead = "") (hdistinct : properties.Distinct)
    {node : Json} (hnode : Members.get? name properties = some node) (hdot : '.' ∉ name.toList)
    (h : walk root unused place properties = .ok expansions) :
    ∃ target followed here, dereferenceTraced root node = .ok (target, followed) ∧
      Expansion.ofNode place name (withDisplay node.display target) = .ok here ∧
      here ∈ expansions ∧ ∀ other ∈ expansions, other.key = name → other = here := by
  induction properties generalizing expansions with
  | nil => simp at hnode
  | cons m rest ih =>
    obtain ⟨first, value⟩ := m
    obtain ⟨target, followed, here, inner, outer, hd, -, hhere, hinner, houter, rfl⟩ :=
      walk_cons_eq_ok.1 h
    obtain ⟨hfresh, hrest⟩ := List.nodup_cons.1 hdistinct
    have hbelow : ∀ other ∈ inner, other.key ≠ name := by
      intro other hm hkey
      obtain ⟨more, hmore⟩ := key_of_walkInner hinner hm
      rw [← hkey, hmore] at hdot
      simp at hdot
    have hkey : here.key = first := by rw [(ofNode_eq_ok hhere).1, hlead, String.empty_append]
    by_cases hfirst : first = name
    · subst hfirst
      obtain rfl : value = node := by simpa [Members.get?] using hnode
      refine ⟨target, followed, here, hd, hhere, by simp, fun other hm hother => ?_⟩
      rcases List.mem_append.1 hm with hm | hm
      · exact (List.mem_cons.1 hm).resolve_right fun hm => hbelow other hm hother
      · rw [← hother] at hdot hfresh
        exact absurd (mem_keys_of_walk hlead houter hm hdot) hfresh
    · have hnode' : Members.get? name rest = some node := by
        simpa [Members.get?, hfirst] using hnode
      obtain ⟨target, followed, found, hd, hfound, hm, hunique⟩ := ih hrest hnode' houter
      refine ⟨target, followed, found, hd, hfound, by simp [hm], fun other hm hother => ?_⟩
      rcases List.mem_append.1 hm with hm | hm
      · rcases List.mem_cons.1 hm with rfl | hm
        · exact absurd (hkey.symm.trans hother) hfirst
        · exact absurd hother (hbelow other hm)
      · exact hunique other hm hother

end Keys

/-- The rule of a top-level property is made of what the property is in the resolved
document. -/
theorem exists_rule_of_translate {d v : Json} {name : String} {rules : RuleTable}
    (hd : d.WellFormed) (hdone : PropertiesDereferenced d) (hv : d.property? name = some v)
    (hdot : '.' ∉ name.toList) (h : translate d = .ok rules) :
    ∃ rule required, rules.get? name = some rule ∧
      Rule.ofNode name v required (Shape.classify v).isOpen = .ok rule := by
  obtain ⟨properties, hp, hv⟩ := property?_eq_some.1 hv
  have hdeclared : documentProperties d = some properties := by
    simp [documentProperties, hp, asObject?]
  have hproperties : (Json.object properties).WellFormed := Everywhere.get? hd hp
  rw [translate, hdeclared] at h
  obtain ⟨expansions, hwalk, rfl⟩ := map_eq_ok.1 h
  obtain ⟨target, followed, here, htarget, hhere, hm, hunique⟩ :=
    exists_expansion_of_walk rfl hproperties.self hv hdot hwalk
  have hvdone := hdone properties hp (name, v) (Members.mem_of_get? hv)
  rw [dereferenceTraced_of_dereferenced hvdone] at htarget
  obtain ⟨rfl, rfl⟩ := Prod.mk.inj (Except.ok.inj htarget)
  rw [withDisplay_display] at hhere
  obtain ⟨hkey, hrule⟩ := ofNode_eq_ok hhere
  rw [String.empty_append] at hkey hrule
  refine ⟨here.rule, _, ?_, hrule⟩
  rw [← hkey]
  exact RuleTable.get?_ofExpansions hm fun other ho hother => hunique other ho (hother.trans hkey)

/-- The title of a top-level property is the label of its rule, and its description the
title of its hints, whatever references lead on from it, unless they lead to something
that is not an object. -/
theorem display_of_compiled {library : Library} {source : Source} {host d node v : Json}
    {properties : Members} {name : String} {rules : RuleTable} (hhost : host.WellFormed)
    (hsource : sourceDocument source = .ok (some host)) (hroot : host.get? "$ref" = none)
    (hp : host.get? "properties" = some (.object properties))
    (hproperties : Members.get? "$ref" properties = none)
    (hnode : Members.get? name properties = some node) (hdot : '.' ∉ name.toList)
    (hresolved : (run (resolve library source) {}).1 = .ok d)
    (hv : d.at? ["properties", name] = some v) (hobject : v.isObject)
    (hcompiled : Session.compiled library source = .compiled (.ok rules)) :
    (∀ title, node.get? "title" = some (.string title) → title ≠ "" →
      ∃ rule, rules.get? name = some rule ∧ rule.label = some title) ∧
    ∀ description, node.get? "description" = some (.string description) → description ≠ "" →
      ∃ rule, rules.get? name = some rule ∧
        rule.hints.bind FieldHints.title = some description := by
  have hserved : Serves WellFormed library := fun _ _ _ _ hr => wellFormed_of_read hr
  have hsupplies : source.Supplies WellFormed := by
    intro document hd
    rw [hsource] at hd
    obtain rfl := Option.some.inj (Except.ok.inj hd)
    exact hhost
  obtain ⟨hd, hdone⟩ := yields_of_run preserves_propertiesDereferenced hserved hsupplies hresolved
  obtain ⟨document, hdocument, hrules⟩ := Session.compiled_eq_ok.1 hcompiled
  rw [← run_resolve_empty] at hdocument
  obtain rfl : d = document := Except.ok.inj (hresolved.symm.trans hdocument)
  have hfield : ∀ field text, field ∈ displayFields → node.get? field = some (.string text) →
      text ≠ "" → ∃ rule required, rules.get? name = some rule ∧
        Rule.ofNode name v required (Shape.classify v).isOpen = .ok rule ∧
          v.get? field = some (.string text) := by
    intro field text hf hx ht
    have hlabelled : Labelled name field text host := by
      refine ⟨hroot, fun p hp' => ?_, ⟨node, property?_eq_some.2 ⟨properties, hp, hnode⟩, hx⟩, hf, ht⟩
      obtain rfl : p = .object properties := Option.some.inj (hp'.symm.trans hp)
      exact hproperties
    obtain ⟨w, hw, hshown⟩ := hlabelled.shows_of_resolve hhost hsource hresolved
    obtain rfl : w = v := Option.some.inj ((at?_of_property? hw).symm.trans hv)
    obtain ⟨rule, required, hrule, hnode⟩ := exists_rule_of_translate hd hdone hw hdot hrules
    exact ⟨rule, required, hrule, hnode, hshown hobject⟩
  constructor
  · intro title hx ht
    obtain ⟨rule, required, hrule, hofNode, hshown⟩ := hfield "title" title (by decide) hx ht
    exact ⟨rule, hrule, (Rule.display_of_ofNode hofNode).1 title hshown⟩
  · intro description hx ht
    obtain ⟨rule, required, hrule, hofNode, hshown⟩ :=
      hfield "description" description (by decide) hx ht
    exact ⟨rule, hrule, (Rule.display_of_ofNode hofNode).2 description hshown ht⟩

/-- A property leads to a text by way of another document, where both values on the way
have a title of their own. -/
theorem display_of_compiled_chain :
    let served : String := "\x7b\"a\":\x7b\"$ref\":\"#/d\",\"title\":\"A\"\x7d," ++
      "\"d\":\x7b\"type\":\"string\",\"title\":\"D\",\"description\":\"E\"\x7d\x7d"
    let library : Library := [("http://h.example/b", served)]
    let node : Json := .object [("$ref", .string "http://h.example/b#/a"),
      ("title", .string "Name"), ("description", .string "Hint")]
    let source : Source := { document := some (singleProperty "p" node) }
    ∃ rules, Session.compiled library source = .compiled (.ok rules) ∧
      (∃ rule, rules.get? "p" = some rule ∧ rule.label = some "Name") ∧
      ∃ rule, rules.get? "p" = some rule ∧ rule.hints.bind FieldHints.title = some "Hint" := by
  intro served library node source
  let v : Json := .object [("type", .string "string"), ("title", .string "Name"),
    ("description", .string "Hint")]
  have hresolved : (run (resolve library source) {}).1 = .ok (singleProperty "p" v) := by
    decide +kernel
  obtain ⟨here, hhere⟩ : ∃ here, Expansion.ofNode {} "p" v = .ok here := ⟨_, rfl⟩
  have hwalk : expandProperties [("p", v)] (singleProperty "p" v).requiredNames
      (singleProperty "p" v) = .ok (here :: [] ++ []) :=
    walk_cons_of_ok rfl rfl hhere (walkInner_of_none rfl) (walk_nil _ _ _)
  have hdeclared : documentProperties (singleProperty "p" v) = some [("p", v)] := rfl
  have hrules := translate_of_walk hdeclared hwalk
  have hcompiled := Session.compiled_eq_ok.2
    ⟨singleProperty "p" v, (run_resolve_empty library source).symm.trans hresolved, hrules⟩
  have hhost : (singleProperty "p" node).WellFormed := by decide
  have hnode : Members.get? "p" [("p", node)] = some node := rfl
  have hdot : '.' ∉ "p".toList := by decide
  have hv : (singleProperty "p" v).at? ["properties", "p"] = some v := rfl
  have hdisplay :=
    display_of_compiled hhost rfl rfl rfl rfl hnode hdot hresolved hv rfl hcompiled
  exact ⟨_, hcompiled, hdisplay.1 "Name" rfl (by decide), hdisplay.2 "Hint" rfl (by decide)⟩

end Rulebook
