import Mathlib.Data.List.Basic
import Rulebook.Proofs.Rule.Table
import Rulebook.Proofs.Translation.Course

/-! Translation in parts. Nothing that one property leads to is read for another one, so
siblings are translated one by one, and the properties below a property like a map of
properties of their own. -/

namespace Rulebook
open Json Outcome

def TranslateError.under (lead : String) : TranslateError → TranslateError
  | .resolve e => .resolve e
  | .invalidKeyword path keyword value => .invalidKeyword (lead ++ path) keyword value
  | .invalidPattern path => .invalidPattern (lead ++ path)

namespace Rule

variable {lead path : String} {node : Json}

theorem orInvalid_under {α : Type} {keyword : String} {value : Json} {a : Option α} :
    orInvalid (lead ++ path) keyword value a =
      (orInvalid path keyword value a).mapError (.under lead) := by
  cases a <;> rfl

theorem applyKeyword_under (rule : Rule) (keyword : Keyword) :
    applyKeyword (lead ++ path) node rule keyword =
      (applyKeyword path node rule keyword).mapError (.under lead) := by
  unfold applyKeyword
  cases node.get? keyword.name with
  | none => rfl
  | some v => exact orInvalid_under

theorem foldlM_applyKeyword_under (keywords : List Keyword) (rule : Rule) :
    keywords.foldlM (applyKeyword (lead ++ path) node) rule =
      (keywords.foldlM (applyKeyword path node) rule).mapError (.under lead) := by
  induction keywords generalizing rule with
  | nil => rfl
  | cons keyword rest ih =>
    simp only [List.foldlM_cons, applyKeyword_under, mapError_bind, ih]

theorem readPattern_under :
    readPattern (lead ++ path) node = (readPattern path node).mapError (.under lead) := by
  unfold readPattern
  cases node.get? "pattern" with
  | none => rfl
  | some v =>
    simp only [orInvalid_under, mapError_bind]
    refine congrArg _ (funext fun source => ?_)
    cases Pattern.read? source <;> rfl

theorem readEnum_under :
    readEnum (lead ++ path) node = (readEnum path node).mapError (.under lead) := by
  unfold readEnum
  cases node.get? "enum" with
  | none => rfl
  | some v => cases hv : v.asArray? <;> simp only [hv] <;> rfl

/-- The path shows in the failures of a rule alone. -/
theorem ofNode_under (required blackbox : Bool) :
    ofNode (lead ++ path) node required blackbox =
      (ofNode path node required blackbox).mapError (.under lead) := by
  simp only [ofNode, foldlM_applyKeyword_under, readPattern_under, readEnum_under, mapError_bind]
  rfl

end Rule

def Place.under (location : List Step) (lead : String) (place : Place) : Place :=
  { place with location := location ++ place.location, lead := lead ++ place.lead }

def Expansion.under (location : List Step) (lead : String) (e : Expansion) : Expansion :=
  { e with location := location ++ e.location, key := lead ++ e.key }

section Walk

variable {root node : Json} {unused : List String} {place : Place} {name : String}
  {properties first second : Members} {location : List Step} {lead : String}

theorem below_under (shape : Shape) (names : List String) :
    (place.under location lead).below name shape names =
      (place.below name shape names).under location lead := by
  simp only [Place.below, Place.under, List.append_assoc, String.append_assoc]

theorem ofNode_under (place : Place) (name : String) (node : Json) :
    Expansion.ofNode (place.under location lead) name node =
      ((Expansion.ofNode place name node).mapError (.under lead)).map
        (Expansion.under location lead) := by
  have hpath : (place.under location lead).lead ++ name = lead ++ (place.lead ++ name) :=
    String.append_assoc
  have hrequired : (place.under location lead).required = place.required := rfl
  have hlocation : (place.under location lead).location ++ [Step.property name] =
      location ++ (place.location ++ [.property name]) := List.append_assoc _ _ _
  unfold Expansion.ofNode
  rw [hpath, hrequired, hlocation, Rule.ofNode_under]
  cases Rule.ofNode (place.lead ++ name) node (place.required.contains name)
    (Shape.classify node).isOpen <;> rfl

/-- The walk below a place is the walk on its own, with what leads to the place before what
it comes to. -/
theorem walk_under :
    walk root unused (place.under location lead) properties =
      ((walk root unused place properties).mapError (.under lead)).map
        (List.map (Expansion.under location lead)) := by
  induction unused, place, properties using walk.induct root with
  | case1 unused place =>
    rw [walk_nil, walk_nil]
    rfl
  | case2 unused place name node rest e hd =>
    rw [walk_cons, walk_cons, hd]
    rfl
  | case3 unused place name node rest target followed hd pointer hr =>
    rw [walk_cons, walk_cons, hd]
    simp only [hr]
    rfl
  | case4 unused place name node rest target followed hd hr resolved shape hinner =>
    rename_i hrest
    have hbelow : walkInner root (withoutAll followed unused) (place.under location lead) name
        resolved = ((walkInner root (withoutAll followed unused) place name resolved).mapError
          (.under lead)).map (List.map (Expansion.under location lead)) := by
      cases hs : shape.innerProperties with
      | none =>
        rw [walkInner_of_none hs, walkInner_of_none hs]
        rfl
      | some found =>
        obtain ⟨inner, names⟩ := found
        rw [walkInner_of_some hs, walkInner_of_some hs, below_under]
        exact hinner inner names hs
    rw [walk_cons, walk_cons, hd]
    simp only [hr]
    rw [hrest, hbelow, ofNode_under]
    cases Expansion.ofNode place name resolved with
    | error e => rfl
    | ok here =>
      cases walkInner root (withoutAll followed unused) place name resolved with
      | error e => rfl
      | ok inner =>
        cases walk root unused place rest with
        | error e => rfl
        | ok others =>
          have happend : ∀ xs ys : List Expansion, (xs ++ ys).map (Expansion.under location lead) =
              xs.map (Expansion.under location lead) ++ ys.map (Expansion.under location lead) :=
            fun xs ys => List.map_append
          exact congrArg Except.ok (happend (here :: inner) others).symm

/-- Siblings are walked through one after another. -/
theorem walk_append :
    walk root unused place (first ++ second) =
      walk root unused place first >>= fun xs => (walk root unused place second).map (xs ++ ·) := by
  induction first with
  | nil =>
    rw [List.nil_append, walk_nil]
    cases walk root unused place second <;> rfl
  | cons m rest ih =>
    obtain ⟨name, node⟩ := m
    rw [List.cons_append, walk_cons, walk_cons, ih]
    cases dereferenceTraced root node with
    | error e => rfl
    | ok traced =>
      obtain ⟨target, followed⟩ := traced
      dsimp only
      cases repeated? unused followed with
      | some pointer => rfl
      | none =>
        dsimp only
        cases Expansion.ofNode place name (withDisplay node.display target) with
        | error e => rfl
        | ok here =>
          cases walkInner root (withoutAll followed unused) place name
              (withDisplay node.display target) with
          | error e => rfl
          | ok inner =>
            cases walk root unused place rest with
            | error e => rfl
            | ok xs =>
              cases walk root unused place second with
              | error e => rfl
              | ok ys => exact congrArg Except.ok (List.append_assoc (here :: inner) xs ys).symm

end Walk

section Tables

variable {root node : Json} {required names : List String} {k : String}
  {first second properties : Members}

theorem expandProperties_append :
    expandProperties (first ++ second) required root =
      expandProperties first required root >>= fun xs =>
        (expandProperties second required root).map (xs ++ ·) := by
  have hfirst : pointersOf first root ⊆ pointersOf (first ++ second) root :=
    pointersOf_subset (List.subset_append_left _ _)
  have hsecond : pointersOf second root ⊆ pointersOf (first ++ second) root :=
    pointersOf_subset (List.subset_append_right _ _)
  unfold expandProperties
  rw [walk_append, walk_eq_of_subset hfirst (List.Subset.refl _),
    walk_eq_of_subset hsecond (List.Subset.refl _)]

theorem translateProperties_append :
    translateProperties (first ++ second) required root =
      translateProperties first required root >>= fun a =>
        (translateProperties second required root).map a.union := by
  unfold translateProperties
  rw [expandProperties_append]
  cases expandProperties first required root with
  | error e => rfl
  | ok xs =>
    cases expandProperties second required root with
    | error e => rfl
    | ok ys => exact congrArg Except.ok (RuleTable.ofExpansions_append xs ys)

theorem increasing_of_translateProperties {a : RuleTable}
    (h : translateProperties properties required root = .ok a) : a.Increasing := by
  obtain ⟨expansions, -, rfl⟩ := map_eq_ok.1 h
  exact RuleTable.increasing_ofExpansions expansions

/-- What stands before the keys below a property of a given shape. -/
def leadOf (k : String) (shape : Shape) : String :=
  k ++ (if shape.isArray then ".$." else ".")

theorem expandProperties_single (k : String) (required : List String) (root : Json)
    (hd : node.Dereferenced)
    (hs : (Shape.classify node).innerProperties = some (properties, names)) :
    ∃ location, expandProperties [(k, node)] required root =
      Expansion.ofNode { required } k node >>= fun here =>
        ((expandProperties properties names root).mapError
          (.under (leadOf k (Shape.classify node)))).map fun inner =>
            here :: inner.map (Expansion.under location (leadOf k (Shape.classify node))) := by
  refine ⟨[.property k] ++ List.replicate (Shape.classify node).arrayDepth .element, ?_⟩
  have hbelow : Place.below { required } k (Shape.classify node) names =
      Place.under ([.property k] ++ List.replicate (Shape.classify node).arrayDepth .element)
        (leadOf k (Shape.classify node)) { required := names } := by
    simp [Place.below, Place.under, leadOf]
  have hsub : pointersOf properties root ⊆ pointersOf [(k, node)] root :=
    pointersOf_innerProperties (.done hd) (by rwa [withDisplay_display])
  unfold expandProperties
  rw [walk_cons, dereferenceTraced_of_dereferenced hd, walk_nil]
  simp only [repeated?, List.find?_nil, withDisplay_display, withoutAll_nil]
  rw [walkInner_of_some hs, hbelow, walk_under, walk_eq_of_subset hsub (List.Subset.refl _)]
  cases Expansion.ofNode { required } k node with
  | error e => rfl
  | ok here =>
    cases walk root (pointersOf properties root) { required := names } properties with
    | error e => rfl
    | ok inner => exact congrArg Except.ok (List.append_nil _)

/-- The table of a property is its own rule and the table of the properties below it, with
what leads to them before their keys. -/
theorem translateProperties_single (hd : node.Dereferenced)
    (ho : (Shape.classify node).isOpen = false)
    (hs : (Shape.classify node).subProperties = some (properties, names)) :
    translateProperties [(k, node)] required root =
      Rule.ofNode k node (required.contains k) false >>= fun rule =>
        ((translateProperties properties names root).mapError
          (.under (leadOf k (Shape.classify node)))).map fun inner =>
            ⟨(k, rule) :: inner.entries.map
              (RuleTable.leading (leadOf k (Shape.classify node)))⟩ := by
  have hinner := innerProperties_eq_some.2 ⟨ho, hs⟩
  obtain ⟨location, hexpand⟩ := expandProperties_single k required root hd hinner
  let sep := if (Shape.classify node).isArray then ".$." else "."
  let lead := leadOf k (Shape.classify node)
  have hsep : sep ≠ "" := by
    show (if (Shape.classify node).isArray then ".$." else ".") ≠ ""
    split <;> decide
  unfold translateProperties
  rw [hexpand, Expansion.ofNode, ho]
  simp only [String.empty_append]
  cases Rule.ofNode k node (required.contains k) false with
  | error e => rfl
  | ok rule =>
    cases expandProperties properties names root with
    | error e => rfl
    | ok inner =>
      let here : Expansion :=
        { location := [.property k], key := k, required := required.contains k, node, rule }
      have hmoved : (inner.map (Expansion.under location lead)).map (fun e => (e.key, e.rule)) =
          (inner.map fun e => (e.key, e.rule)).map (RuleTable.leading (here.key ++ sep)) := by
        rw [List.map_map, List.map_map]
        rfl
      have hentries := RuleTable.entries_cons_of_leading hsep hmoved
      exact congrArg Except.ok (congrArg RuleTable.mk hentries)

/-- Properties whose rules have no key in common. -/
def Apart (required : List String) (root : Json) (m n : String × Json) : Prop :=
  ∀ a b, translateProperties [m] required root = .ok a →
    translateProperties [n] required root = .ok b → ∀ key, a.get? key = none ∨ b.get? key = none

theorem Apart.symm {m n : String × Json} (h : Apart required root m n) :
    Apart required root n m := by
  intro a b ha hb key
  exact (h b a hb ha key).symm

theorem translateProperties_cons_eq_ok {m : String × Json} {a : RuleTable} :
    translateProperties (m :: properties) required root = .ok a ↔
      ∃ own others, translateProperties [m] required root = .ok own ∧
        translateProperties properties required root = .ok others ∧ own.union others = a := by
  rw [← List.singleton_append, translateProperties_append, bind_eq_ok]
  constructor
  · rintro ⟨own, hown, h⟩
    obtain ⟨others, hothers, rfl⟩ := map_eq_ok.1 h
    exact ⟨own, others, hown, hothers, rfl⟩
  · rintro ⟨own, others, hown, hothers, rfl⟩
    exact ⟨own, hown, map_eq_ok.2 ⟨others, hothers, rfl⟩⟩

/-- A map of properties is translated when each of them is. -/
theorem exists_translateProperties_iff :
    (∃ a, translateProperties properties required root = .ok a) ↔
      ∀ m ∈ properties, ∃ a, translateProperties [m] required root = .ok a := by
  induction properties with
  | nil =>
    have hnil : translateProperties [] required root = .ok {} := by
      rw [translateProperties, expandProperties, walk_nil]
      rfl
    simp [hnil]
  | cons m rest ih =>
    rw [List.forall_mem_cons, ← ih]
    constructor
    · rintro ⟨a, ha⟩
      obtain ⟨own, others, hown, hothers, -⟩ := translateProperties_cons_eq_ok.1 ha
      exact ⟨⟨own, hown⟩, ⟨others, hothers⟩⟩
    · rintro ⟨⟨own, hown⟩, ⟨others, hothers⟩⟩
      exact ⟨_, translateProperties_cons_eq_ok.2 ⟨own, others, hown, hothers, rfl⟩⟩

/-- Two tables can be put before a third one in either order if they have no key in
common. -/
theorem union_left_comm {a b c : RuleTable} (ha : a.Increasing) (hb : b.Increasing)
    (hc : c.Increasing) (h : ∀ key, a.get? key = none ∨ b.get? key = none) :
    a.union (b.union c) = b.union (a.union c) := by
  refine (ha.union _).ext (hb.union _) fun key => ?_
  rw [RuleTable.get?_union (hb.union c), RuleTable.get?_union (ha.union c),
    RuleTable.get?_union hc, RuleTable.get?_union hc]
  rcases h key with hnone | hnone
  · rw [hnone, Option.or_none, Option.or_none]
  · rw [hnone, Option.or_none, Option.or_none]

/-- Siblings that are apart can be translated in any order. -/
theorem translateProperties_of_perm {others : Members} (h : properties.Perm others)
    (hapart : properties.Pairwise (Apart required root)) {a : RuleTable}
    (ha : translateProperties properties required root = .ok a) :
    translateProperties others required root = .ok a := by
  induction h generalizing a with
  | nil => exact ha
  | cons m _ ih =>
    obtain ⟨own, rest, hown, hrest, rfl⟩ := translateProperties_cons_eq_ok.1 ha
    have hrest' := ih (List.pairwise_cons.1 hapart).2 hrest
    exact translateProperties_cons_eq_ok.2 ⟨own, rest, hown, hrest', rfl⟩
  | swap m n rest =>
    obtain ⟨second, more, hsecond, hmore, rfl⟩ := translateProperties_cons_eq_ok.1 ha
    obtain ⟨first, rest, hfirst, hrest, rfl⟩ := translateProperties_cons_eq_ok.1 hmore
    have hnm := (List.pairwise_cons.1 hapart).1 m List.mem_cons_self
    have hcomm : first.union (second.union rest) = second.union (first.union rest) :=
      union_left_comm (increasing_of_translateProperties hfirst)
        (increasing_of_translateProperties hsecond) (increasing_of_translateProperties hrest)
        fun key => hnm.symm first second hfirst hsecond key
    refine translateProperties_cons_eq_ok.2 ⟨first, second.union rest, hfirst, ?_, hcomm⟩
    exact translateProperties_cons_eq_ok.2 ⟨second, rest, hsecond, hrest, rfl⟩
  | trans hperm _ ih ih' =>
    have hapart' := (hperm.pairwise_iff fun h => h.symm).1 hapart
    exact ih' hapart' (ih hapart ha)

/-- The keys of a property's rules are its name, or begin with it and a point. -/
theorem key_of_translateProperties {name : String} {a : RuleTable}
    (h : translateProperties [(name, node)] required root = .ok a) {key : String}
    (hkey : a.get? key ≠ none) : key = name ∨ ∃ rest, key = name ++ "." ++ rest := by
  obtain ⟨expansions, hwalk, rfl⟩ := map_eq_ok.1 h
  obtain ⟨rule, hrule⟩ := Option.ne_none_iff_exists'.1 hkey
  have hmem := (RuleTable.increasing_ofExpansions expansions).get?_eq_some_iff.1 hrule
  have hkeys := List.mem_map_of_mem (f := Prod.fst) hmem
  rw [RuleTable.entries_ofExpansions, RuleTable.mem_keys_setAll, List.map_map] at hkeys
  obtain ⟨e, he, rfl⟩ := List.mem_map.1 (hkeys.resolve_right List.not_mem_nil)
  obtain ⟨_, _, here, inner, outer, -, -, hhere, hinner, houter, rfl⟩ := walk_cons_eq_ok.1 hwalk
  rw [walk_nil] at houter
  obtain rfl := Except.ok.inj houter
  rw [List.append_nil] at he
  rcases List.mem_cons.1 he with rfl | he
  · exact .inl ((ofNode_eq_ok hhere).1.trans String.empty_append)
  · obtain ⟨rest, hrest⟩ := key_of_walkInner hinner he
    exact .inr ⟨rest, hrest.trans (by rw [String.empty_append])⟩

theorem takeWhile_point {name rest : List Char} (h : '.' ∉ name) :
    (name ++ '.' :: rest).takeWhile (· != '.') = name := by
  have hall : ∀ c ∈ name, (c != '.') = true := by
    intro c hc
    have hne : c ≠ '.' := fun he => h (he ▸ hc)
    simpa using hne
  rw [List.takeWhile_append_of_pos hall]
  simp

/-- Siblings with different names are apart if the names have no point. -/
theorem apart_of_ne {l : String} {v w : Json} (hne : k ≠ l) (hk : '.' ∉ k.toList)
    (hl : '.' ∉ l.toList) : Apart required root (k, v) (l, w) := by
  intro a b ha hb key
  by_contra hcontra
  obtain ⟨hka, hkb⟩ := not_or.1 hcontra
  rcases key_of_translateProperties ha hka with rfl | ⟨rest, rfl⟩
  · rcases key_of_translateProperties hb hkb with rfl | ⟨more, rfl⟩
    · exact hne rfl
    · exact hk (by simp)
  · rcases key_of_translateProperties hb hkb with rfl | ⟨more, hsame⟩
    · exact hl (by simp)
    · have hlists : k.toList ++ '.' :: rest.toList = l.toList ++ '.' :: more.toList := by
        simpa using congrArg String.toList hsame
      have hnames := congrArg (List.takeWhile (· != '.')) hlists
      rw [takeWhile_point hk, takeWhile_point hl] at hnames
      exact hne (String.toList_inj.1 hnames)

end Tables

/-- A map of properties is translated part by part: siblings one after another, where the
rules of the later ones count, and the properties below a property like a map of their
own, whose keys and failures are put below the property. So siblings whose keys do not
collide can stand in any order. -/
theorem translateProperties_parts (required : List String) (root : Json) :
    (∀ first second : Members,
      translateProperties (first ++ second) required root =
          (translateProperties first required root >>= fun a =>
            (translateProperties second required root).map a.union) ∧
        ∀ a b, translateProperties first required root = .ok a →
          translateProperties second required root = .ok b →
            ∀ key, (a.union b).get? key = (b.get? key).or (a.get? key)) ∧
      (∀ (k : String) (node : Json) (properties : Members) (names : List String),
        node.Dereferenced → (Shape.classify node).isOpen = false →
          (Shape.classify node).subProperties = some (properties, names) →
            let lead := k ++ (if (Shape.classify node).isArray then ".$." else ".")
            translateProperties [(k, node)] required root =
              Rule.ofNode k node (required.contains k) false >>= fun rule =>
                ((translateProperties properties names root).mapError (.under lead)).map
                  fun inner => ⟨(k, rule) :: inner.entries.map (RuleTable.leading lead)⟩) ∧
        ∀ properties others : Members, properties.Perm others →
          ((∃ a, translateProperties properties required root = .ok a) ↔
              ∃ a, translateProperties others required root = .ok a) ∧
            (properties.Pairwise (Apart required root) →
              ∀ a, translateProperties properties required root = .ok a ↔
                translateProperties others required root = .ok a) := by
  refine ⟨?_, ?_, ?_⟩
  · intro first second
    refine ⟨translateProperties_append, ?_⟩
    intro a b _ hb key
    exact RuleTable.get?_union (increasing_of_translateProperties hb) key
  · intro k node properties names hd ho hs
    exact translateProperties_single hd ho hs
  · intro properties others hperm
    constructor
    · have hmem : ∀ m, m ∈ properties ↔ m ∈ others := fun m => hperm.mem_iff
      rw [exists_translateProperties_iff, exists_translateProperties_iff]
      simp only [hmem]
    · intro hapart a
      have hapart' : others.Pairwise (Apart required root) :=
        (hperm.pairwise_iff fun h => h.symm).1 hapart
      constructor
      · intro ha
        exact translateProperties_of_perm hperm hapart ha
      · intro ha
        exact translateProperties_of_perm hperm.symm hapart' ha

/-- The elements of an array have a property that refers to a text. The array and a text
beside it have the same rules in either order. -/
theorem translateProperties_parts_array :
    let root := Json.object [("d", textNode)]
    let below : Members := [("x", .object [("$ref", .string "#/d")])]
    let node := Json.object [("type", .string "array"),
      ("items", .object [("type", .string "object"), ("properties", .object below)])]
    node.Dereferenced ∧ (Shape.classify node).isOpen = false ∧
      (Shape.classify node).subProperties = some (below, []) ∧
      (∃ rule element, translateProperties [("a", node)] ["a"] root =
        .ok ⟨[("a", rule), ("a.$.x", element)]⟩) ∧
      [("a", node), ("b", textNode)].Pairwise (Apart ["a"] root) ∧
      ∀ a, translateProperties [("a", node), ("b", textNode)] ["a"] root = .ok a ↔
        translateProperties [("b", textNode), ("a", node)] ["a"] root = .ok a := by
  intro root below node
  have hd : node.Dereferenced := by
    refine ⟨rfl, fun items hitems => ?_⟩
    obtain rfl := Option.some.inj hitems
    rfl
  have ho : (Shape.classify node).isOpen = false := rfl
  have hs : (Shape.classify node).subProperties = some (below, []) := rfl
  have hapart : [("a", node), ("b", textNode)].Pairwise (Apart ["a"] root) := by
    have hab : Apart ["a"] root ("a", node) ("b", textNode) :=
      apart_of_ne (by decide) (by decide) (by decide)
    simpa using hab
  obtain ⟨-, hsingle, hperm⟩ := translateProperties_parts ["a"] root
  refine ⟨hd, ho, hs, ?_, hapart, (hperm _ _ (.swap _ _ _)).2 hapart⟩
  obtain ⟨rule, hrule⟩ : ∃ rule, Rule.ofNode "a" node (["a"].contains "a") false = .ok rule :=
    ⟨_, rfl⟩
  obtain ⟨here, hhere, hkey⟩ : ∃ here,
      Expansion.ofNode {} "x" textNode = .ok here ∧ here.key = "x" := ⟨_, rfl, rfl⟩
  have hchain : dereferenceTraced root (.object [("$ref", .string "#/d")]) =
      .ok (textNode, ["#/d"]) := by decide +kernel
  have hwalk : expandProperties below [] root = .ok [here] :=
    walk_cons_of_ok hchain (by decide +kernel) hhere (walkInner_of_none rfl) (walk_nil _ _ _)
  have hbelow : translateProperties below [] root = .ok ⟨[("x", here.rule)]⟩ := by
    rw [translateProperties, hwalk, ← hkey]
    rfl
  refine ⟨rule, here.rule, ?_⟩
  rw [hsingle "a" node below [] hd ho hs, hrule, hbelow]
  rfl

end Rulebook
