import Rulebook.Proofs.Translation.Declarations

/-! The keys of expanded properties. A key joins names by points and leaves the points in the
names as they are. So two locations have one key only if, where they part, the name that one
of them goes on with begins with the other's and a point. Elsewhere every expanded property
has a rule of its own in the table. -/

namespace Rulebook
open Json Outcome

namespace Step

/-- Where two locations part, the second goes on with a name that begins with the name in the
first and a point. -/
def Extends (a b : List Step) : Prop :=
  ∃ common name rest more more', a = common ++ .property name :: more ∧
    b = common ++ .property (name ++ "." ++ rest) :: more'

/-- Where two locations part, one of the names begins with the other and a point. -/
def Overlap (a b : List Step) : Prop := Extends a b ∨ Extends b a

/-- A name with a point is on the way to one of two locations that overlap. -/
theorem Overlap.exists_point {a b : List Step} (h : Overlap a b) :
    ∃ name, (.property name ∈ a ∨ .property name ∈ b) ∧ '.' ∈ name.toList := by
  rcases h with ⟨common, name, rest, more, more', rfl, rfl⟩ |
    ⟨common, name, rest, more, more', rfl, rfl⟩
  · exact ⟨name ++ "." ++ rest, .inr (by simp), by simp⟩
  · exact ⟨name ++ "." ++ rest, .inl (by simp), by simp⟩

end Step

/-- Of two texts that become equal when nothing or a point and more is put behind them, one
begins with the other and a point. -/
theorem eq_or_extends_of_append_eq {a b t u : String} (ht : t = "" ∨ ∃ rest, t = "." ++ rest)
    (hu : u = "" ∨ ∃ rest, u = "." ++ rest) (h : a ++ t = b ++ u) :
    a = b ∨ (∃ rest, b = a ++ "." ++ rest) ∨ ∃ rest, a = b ++ "." ++ rest := by
  have hlist : a.toList ++ t.toList = b.toList ++ u.toList := by
    simpa using congrArg String.toList h
  have hextends : ∀ {x y tail : String} {c v : List Char},
      (tail = "" ∨ ∃ rest, tail = "." ++ rest) →
      y.toList = x.toList ++ c → tail.toList = c ++ v → x = y ∨ ∃ rest, y = x ++ "." ++ rest := by
    intro x y tail c v htail hy hc
    cases c with
    | nil => exact .inl (String.toList_inj.1 (by simpa using hy.symm))
    | cons first rest =>
      rcases htail with rfl | ⟨more, rfl⟩
      · simp at hc
      · have hpoint : ".".toList = ['.'] := rfl
        rw [String.toList_append, hpoint] at hc
        obtain rfl : '.' = first := (List.cons.inj hc).1
        exact .inr ⟨String.ofList rest, String.toList_inj.1 (by simpa using hy)⟩
  rcases List.append_eq_append_iff.1 hlist with ⟨c, hb, hc⟩ | ⟨c, ha, hc⟩
  · exact (hextends ht hb hc).imp_right .inl
  · exact (hextends hu ha hc).imp Eq.symm .inr

/-- Two expansions with one key have locations that overlap. -/
theorem Expansion.Precedes.overlap {e f : Expansion} (h : e.Precedes f) (hkey : e.key = f.key) :
    Step.Overlap e.location f.location := by
  cases h with
  | @below more rest hm hl hk =>
    have hlt : e.key < f.key := by
      rw [hk, String.append_assoc]
      exact lt_append fun hempty => by simpa using congrArg String.length hempty
    exact absurd hkey (ne_of_lt hlt)
  | @apart place name other hne he hf =>
    obtain ⟨⟨more, hlocation⟩, tail, hname, htail⟩ := he
    obtain ⟨⟨more', hlocation'⟩, tail', hother, htail'⟩ := hf
    rw [hname, hother, String.append_assoc, String.append_assoc, String.append_right_inj] at hkey
    rw [hlocation, hlocation']
    rcases (eq_or_extends_of_append_eq htail htail' hkey).resolve_left hne with
      ⟨rest, rfl⟩ | ⟨rest, rfl⟩
    · exact .inl ⟨_, name, rest, more, more', rfl, rfl⟩
    · exact .inr ⟨_, other, rest, more', more, rfl, rfl⟩

/-- The rule of an expansion is made of a property that a schema declares, and asks for a
value exactly when the schema requires the name. -/
structure Expansion.RuledBy (document schema : Json) (name : String) (e : Expansion) : Prop where
  declared : ∃ properties node, documentProperties schema = some properties ∧
    (name, node) ∈ properties ∧ dereferenceProperty document node = .ok e.node
  rule : Rule.ofNode e.key e.node (schema.requiredNames.contains name)
    (Shape.classify e.node).isOpen = .ok e.rule
  optional : e.rule.optional = false ↔ name ∈ schema.requiredNames

section Document

variable {document : Json} {expansions : List Expansion}

theorem exists_ruledBy (h : expansionsOf document = .ok expansions) {e : Expansion}
    (he : e ∈ expansions) :
    ∃ before name schema, e.location = before ++ [.property name] ∧
      SchemaAt document expansions before schema ∧ e.RuledBy document schema name := by
  obtain ⟨spot, name, node, schema, properties, hof, hschema, hp, hm, hnames⟩ := exists_schema h he
  obtain ⟨hkey, hrule⟩ := ofNode_eq_ok hof.made
  rw [← hkey, hnames] at hrule
  have hoptional := (Rule.fields_of_ofNode hrule).2.1
  refine ⟨spot.location, name, schema, ?_, hschema, ⟨properties, node, hp, hm, hof.node⟩, hrule, ?_⟩
  · obtain ⟨rule, -, heq⟩ := map_eq_ok.1 hof.made
    rw [← heq]
  · simp [hoptional]

theorem eq_or_overlap_of_key_eq (hd : document.WellFormed)
    (h : expansionsOf document = .ok expansions) :
    ∀ e ∈ expansions, ∀ f ∈ expansions, e.key = f.key →
      e = f ∨ Step.Overlap e.location f.location := by
  have hpairwise : expansions.Pairwise fun e f =>
      e.key = f.key → e = f ∨ Step.Overlap e.location f.location :=
    (pairwise_precedes hd h).imp fun hp hkey => .inr (hp.overlap hkey)
  have hsymm : Std.Symm fun e f : Expansion =>
      e.key = f.key → e = f ∨ Step.Overlap e.location f.location :=
    ⟨fun e f hef hkey => (hef hkey.symm).imp Eq.symm Or.symm⟩
  intro e he f hf
  exact hpairwise.forall_of_forall (fun _ _ _ => .inl rfl) he hf

/-- Where no locations overlap, the table has just the rules of all expansions. -/
theorem perm_entries (hd : document.WellFormed) (h : expansionsOf document = .ok expansions)
    (hnone : ∀ e ∈ expansions, ∀ f ∈ expansions, ¬ Step.Overlap e.location f.location) :
    (RuleTable.ofExpansions expansions).entries.Perm
      (expansions.map fun e => (e.key, e.rule)) := by
  rw [RuleTable.entries_ofExpansions]
  apply RuleTable.perm_setAll
  rw [List.map_map, List.Nodup, List.pairwise_map]
  exact (pairwise_precedes hd h).imp_of_mem fun he hf hp hkey => hnone _ he _ hf (hp.overlap hkey)

end Document

/-- The properties that a document declares are expanded, each at a location of its own. If two
of them have one key, their locations overlap, and the rule of the one that is expanded last
is kept. Where no locations overlap, the table has one entry for each expanded property. Its
rule asks for a value exactly when the schema that declares the property requires it. -/
theorem rules_of_locations {document : Json} {rules : RuleTable} (hd : document.WellFormed)
    (h : translate document = .ok rules) :
    ∃ expansions, expansionsOf document = .ok expansions ∧
      (expansions.map Expansion.location).Nodup ∧
      (∀ properties, documentProperties document = some properties → ∀ spot name node,
        Declares { required := document.requiredNames } properties expansions spot name node →
          ∃ e ∈ expansions, e.Of document spot name node) ∧
      (∀ e ∈ expansions, ∀ f ∈ expansions, e.key = f.key →
        e = f ∨ Step.Overlap e.location f.location) ∧
      (∀ key, rules.get? key = (expansions.reverse.find? (·.key = key)).map Expansion.rule) ∧
      ((∀ e ∈ expansions, ∀ f ∈ expansions, ¬ Step.Overlap e.location f.location) →
        rules.entries.Perm (expansions.map fun e => (e.key, e.rule))) ∧
      ∀ e ∈ expansions, ∃ before name schema, e.location = before ++ [.property name] ∧
        SchemaAt document expansions before schema ∧ e.RuledBy document schema name := by
  rw [translate_eq_map] at h
  obtain ⟨expansions, hexpansions, rfl⟩ := map_eq_ok.1 h
  refine ⟨expansions, hexpansions, nodup_locations hd hexpansions, ?_,
    eq_or_overlap_of_key_eq hd hexpansions, RuleTable.get?_ofExpansions_eq expansions,
    perm_entries hd hexpansions, fun e he => exists_ruledBy hexpansions he⟩
  intro properties hp spot name node hdeclares
  simp only [expansionsOf, hp] at hexpansions
  exact exists_expansion_of_declares hexpansions hdeclares

/-- A required array of records. -/
theorem rules_of_locations_record :
    let document : Json := .object [("required", .array [.string "a"]),
      ("properties", .object [("a", arrayOf recordNode)])]
    document.WellFormed ∧ ∃ rules first second, translate document = .ok rules ∧
      expansionsOf document = .ok [first, second] ∧
      first.location = [.property "a"] ∧ first.key = "a" ∧ first.rule.optional = false ∧
      second.location = [.property "a", .element, .property "b"] ∧ second.key = "a.$.b" ∧
      rules.entries.Perm [("a", first.rule), ("a.$.b", second.rule)] := by
  intro document
  let place : Place := { required := ["a"] }
  let inner := Place.below place "a" (Shape.classify (arrayOf recordNode)) []
  obtain ⟨first, hfirst, hlocation, hkey, hoptional⟩ : ∃ first,
      Expansion.ofNode place "a" (arrayOf recordNode) = .ok first ∧
        first.location = [.property "a"] ∧ first.key = "a" ∧ first.rule.optional = false :=
    ⟨_, rfl, rfl, rfl, rfl⟩
  let unused := pointersOf [("a", arrayOf recordNode)] document
  obtain ⟨second, hsecond, hlocation', hkey'⟩ := walk_textNode document unused inner "b"
  have hwalk : walk document unused place [("a", arrayOf recordNode)] = .ok [first, second] :=
    walk_single rfl hfirst rfl hsecond
  have hexpansions : expansionsOf document = .ok [first, second] := hwalk
  have hd : document.WellFormed := by decide
  have hrules : translate document = .ok (.ofExpansions [first, second]) :=
    translate_of_walk rfl hwalk
  obtain ⟨expansions, hsame, -, -, -, -, hperm, -⟩ := rules_of_locations hd hrules
  obtain rfl := Except.ok.inj (hsame.symm.trans hexpansions)
  have hbelow : second.location = [.property "a", .element, .property "b"] := hlocation'
  have hnames : ∀ e ∈ [first, second], ∀ name, .property name ∈ e.location →
      '.' ∉ name.toList := by
    simp [hlocation, hbelow]
  refine ⟨hd, _, first, second, hrules, hexpansions, hlocation, hkey, hoptional, hbelow, hkey', ?_⟩
  have hentries := hperm fun e he f hf hoverlap => by
    obtain ⟨name, hmem, hpoint⟩ := hoverlap.exists_point
    exact hmem.elim (fun hm => hnames e he name hm hpoint) fun hm => hnames f hf name hm hpoint
  have hkeys : second.key = "a.$.b" := hkey'
  rw [List.map_cons, List.map_singleton, hkey, hkeys] at hentries
  exact hentries

/-- A property with a point in its name and a property of an object have one key, and the rule
of the first is lost. -/
theorem rule_lost_pointed :
    let record : Json := .object [("type", .string "object"),
      ("properties", .object [("b", .object [("type", .string "number")])])]
    let document : Json := .object [("properties", .object [("a.b", textNode), ("a", record)])]
    ∃ rules first second third, translate document = .ok rules ∧
      expansionsOf document = .ok [first, second, third] ∧
      first.location = [.property "a.b"] ∧ third.location = [.property "a", .property "b"] ∧
      first.key = third.key ∧ first.rule.type = .single .string ∧
      third.rule.type = .single .number ∧ rules.get? "a.b" = some third.rule ∧
      rules.entries.length = 2 := by
  intro record document
  let number : Json := .object [("type", .string "number")]
  let inner := Place.below {} "a" (Shape.classify record) []
  let unused := pointersOf [("a.b", textNode), ("a", record)] document
  obtain ⟨first, hfirst, hlocation, hkey, htype⟩ : ∃ first,
      Expansion.ofNode {} "a.b" textNode = .ok first ∧ first.location = [.property "a.b"] ∧
        first.key = "a.b" ∧ first.rule.type = .single .string := ⟨_, rfl, rfl, rfl, rfl⟩
  obtain ⟨second, hsecond, hkey'⟩ : ∃ second,
      Expansion.ofNode {} "a" record = .ok second ∧ second.key = "a" := ⟨_, rfl, rfl⟩
  obtain ⟨third, hthird, hlocation', hkey'', htype'⟩ : ∃ third,
      Expansion.ofNode inner "b" number = .ok third ∧
        third.location = [.property "a", .property "b"] ∧ third.key = "a.b" ∧
        third.rule.type = .single .number := ⟨_, rfl, rfl, rfl, rfl⟩
  have hbelow : walk document unused inner [("b", number)] = .ok [third] :=
    walk_cons_of_ok rfl rfl hthird (walkInner_of_none rfl) (walk_nil _ _ _)
  have hwalk : walk document unused {} [("a.b", textNode), ("a", record)] =
      .ok (first :: [] ++ [second, third]) :=
    walk_cons_of_ok rfl rfl hfirst (walkInner_of_none rfl) (walk_single rfl hsecond rfl hbelow)
  have hrules : translate document = .ok (.ofExpansions [first, second, third]) :=
    translate_of_walk rfl hwalk
  refine ⟨_, first, second, third, hrules, hwalk, hlocation, hlocation', hkey.trans hkey''.symm,
    htype, htype', ?_, ?_⟩
  · rw [RuleTable.get?_ofExpansions_eq]
    simp [hkey'']
  · have hlt : "a" < "a.b" := by decide
    have hnot : ¬ "a.b" < "a" := by decide
    have hne : "a.b" ≠ "a" := by decide
    have hirrefl : ¬ "a.b" < "a.b" := String.lt_irrefl _
    simp only [RuleTable.entries_ofExpansions, RuleTable.setAll, RuleTable.insertEntry,
      List.map_cons, List.map_nil, List.foldl_cons, List.foldl_nil, hkey, hkey', hkey'', hlt, hnot,
      hne, hirrefl, ↓reduceIte]
    rfl

end Rulebook
