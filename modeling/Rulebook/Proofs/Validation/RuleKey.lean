import Mathlib.Data.List.Chain
import Mathlib.Data.List.Forall2
import Rulebook.Proofs.Reference.Pointer
import Rulebook.Proofs.Rule.Table
import Rulebook.Proofs.Translation.Steps

/-! The key that a payload pointer has, and the key that a property is given when the
rules of a document are made. The first is read off the segments of the pointer alone,
so a property that is called by a number is taken for an element, and elements of
elements get a marker each; elsewhere the two are the same. -/

namespace Rulebook
open Outcome

namespace RuleKey

/-- A text that is taken for the index of an element. -/
def isNumeral (s : String) : Bool := !s.isEmpty && s.toList.all Char.isDigit

def read (s : String) : String := if isNumeral s then marker else s

theorem isNumeral_toString (i : Nat) : isNumeral (toString i) = true := by
  have hdigits : (toString i).toList = Nat.toDigits 10 i := Nat.toList_repr
  have hall : ∀ c ∈ Nat.toDigits 10 i, c.isDigit := fun c hc =>
    Nat.isDigit_of_mem_toDigits (by decide) (by decide) hc
  simp only [isNumeral, hdigits, Bool.and_eq_true, List.all_eq_true]
  exact ⟨by simp, hall⟩

theorem all_isDigit_escapeChar (c : Char) :
    (Pointer.escapeChar c).all Char.isDigit = c.isDigit := by
  unfold Pointer.escapeChar
  split_ifs with ht hs
  · subst ht
    decide
  · subst hs
    decide
  · simp

theorem isNumeral_escapeSegment (s : String) :
    isNumeral (Violation.escapeSegment s) = isNumeral s := by
  have htext : (Violation.escapeSegment s).toList = s.toList.flatMap Pointer.escapeChar :=
    String.toList_ofList
  have hempty : (Violation.escapeSegment s).isEmpty = s.isEmpty := by
    rw [Bool.eq_iff_iff, String.isEmpty_iff, String.isEmpty_iff, ← String.toList_eq_nil_iff,
      ← String.toList_eq_nil_iff, htext, List.flatMap_eq_nil_iff]
    have hwritten : ∀ c, Pointer.escapeChar c ≠ [] := by
      intro c
      unfold Pointer.escapeChar
      split_ifs <;> simp
    simp [hwritten, List.eq_nil_iff_forall_not_mem]
  simp only [isNumeral, hempty, htext, List.all_flatMap, all_isDigit_escapeChar]

theorem segment_escapeSegment (s : String) :
    segment (Violation.escapeSegment s) = read s := by
  change (if isNumeral (Violation.escapeSegment s) then marker
    else Pointer.unescapeSegment (Violation.escapeSegment s)) = read s
  rw [isNumeral_escapeSegment, Pointer.unescapeSegment_escapeSegment, read]

theorem ofPointer_pointerTo (path : List String) :
    ofPointer (Violation.pointerTo path) = ".".intercalate (dropMarkers (path.map read)) := by
  simp only [ofPointer, Pointer.splitSlashes_pointerTo, List.drop_succ_cons, List.drop_zero,
    List.map_map, Function.comp_def, String.ofList_toList, segment_escapeSegment]

theorem dropMarkers_append_marker (segments : List String) :
    dropMarkers (segments ++ [marker]) = dropMarkers segments := by
  simp [dropMarkers]

theorem dropMarkers_append {s : String} (h : s ≠ marker) (segments : List String) :
    dropMarkers (segments ++ [s]) = segments ++ [s] := by
  simp [dropMarkers, h]

/-- An element has the key of its array. -/
theorem ofPointer_element (path : List String) (i : Nat) :
    ofPointer (Violation.pointerTo (path ++ [toString i])) =
      ofPointer (Violation.pointerTo path) := by
  have hread : read (toString i) = marker := if_pos (isNumeral_toString i)
  rw [ofPointer_pointerTo, ofPointer_pointerTo, List.map_append, List.map_singleton, hread,
    dropMarkers_append_marker]

end RuleKey

namespace Step

/-- A step is written as the name of a property, or as some index. -/
def Names : Step → String → Prop
  | .property name, s => s = name
  | .element, s => ∃ i : Nat, s = toString i

def segment : Step → String
  | .property name => RuleKey.read name
  | .element => RuleKey.marker

/-- The segments of the key under which the rule for a location is kept: elements of
elements have one marker. -/
def keySegments : List Step → List String
  | [] => []
  | .property name :: rest => name :: keySegments rest
  | .element :: rest =>
    if rest.head? = some .element then keySegments rest else RuleKey.marker :: keySegments rest

/-- No property on the way is called by a number, and there are no elements of
elements. -/
structure Legible (location : List Step) : Prop where
  named : ∀ name, .property name ∈ location → RuleKey.isNumeral name = false
  single : location.IsChain fun a b => ¬ (a = .element ∧ b = .element)

theorem map_read_eq {location : List Step} {path : List String}
    (h : List.Forall₂ Names location path) : path.map RuleKey.read = location.map segment := by
  induction h with
  | nil => rfl
  | @cons step s _ _ hs _ ih =>
    rw [List.map_cons, List.map_cons, ih]
    cases step with
    | property name =>
      obtain rfl : s = name := hs
      rfl
    | element =>
      obtain ⟨i, rfl⟩ : ∃ i : Nat, s = toString i := hs
      rw [segment, RuleKey.read, if_pos (RuleKey.isNumeral_toString i)]

/-- The key of a legible location has a segment for each step. -/
theorem keySegments_of_legible {location : List Step} (h : Legible location) :
    keySegments location = location.map segment := by
  induction location with
  | nil => rfl
  | cons step rest ih =>
    have hrest : Legible rest :=
      ⟨fun name hm => h.named name (List.mem_cons_of_mem _ hm), h.single.tail⟩
    cases step with
    | property name =>
      have hname : RuleKey.read name = name := by simp [RuleKey.read, h.named name (by simp)]
      rw [keySegments, ih hrest, List.map_cons, segment, hname]
    | element =>
      have hhead : rest.head? ≠ some .element := by
        intro he
        obtain ⟨more, rfl⟩ := List.head?_eq_some_iff.1 he
        exact (List.isChain_cons_cons.1 h.single).1 ⟨rfl, rfl⟩
      rw [keySegments, if_neg hhead, ih hrest]
      rfl

def tally (p : Char → Bool) : List String → Nat
  | [] => 0
  | s :: segments => s.toList.countP p + tally p segments

@[simp] theorem tally_nil (p : Char → Bool) : tally p [] = 0 := rfl

@[simp] theorem tally_cons (p : Char → Bool) (s : String) (segments : List String) :
    tally p (s :: segments) = s.toList.countP p + tally p segments := rfl

theorem countP_intercalate {p : Char → Bool} (hp : p '.' = false) (segments : List String) :
    (".".intercalate segments).toList.countP p = tally p segments := by
  have hpoint : ".".toList = ['.'] := rfl
  rw [String.toList_intercalate, hpoint]
  induction segments with
  | nil => rfl
  | cons s rest ih =>
    cases rest with
    | nil => simp [List.intercalate]
    | cons next rest =>
      rw [List.map_cons, List.map_cons, List.intercalate_cons_cons, List.countP_append,
        List.countP_append, ← List.map_cons, ih]
      simp [hp]

theorem countP_isDigit_read (name : String) :
    (RuleKey.read name).toList.countP Char.isDigit ≤ name.toList.countP Char.isDigit ∧
      ((RuleKey.read name).toList.countP Char.isDigit = name.toList.countP Char.isDigit →
        RuleKey.isNumeral name = false) := by
  unfold RuleKey.read
  cases hn : RuleKey.isNumeral name with
  | false => simp
  | true =>
    obtain ⟨hne, hall⟩ : name.toList ≠ [] ∧ name.toList.all Char.isDigit = true := by
      simpa [RuleKey.isNumeral] using hn
    have hcount : name.toList.countP Char.isDigit = name.toList.length :=
      List.countP_eq_length.2 (List.all_eq_true.1 hall)
    have hpos : 0 < name.toList.length := List.length_pos_iff.2 hne
    have hmarker : RuleKey.marker.toList.countP Char.isDigit = 0 := by decide
    simp only [↓reduceIte, hmarker, hcount]
    exact ⟨Nat.zero_le _, fun h => absurd h (by omega)⟩

/-- The segments that the validator makes have no more digits than the key, and fewer
when a property is called by a number. -/
theorem tally_isDigit_segment (location : List Step) :
    tally Char.isDigit (location.map segment) ≤ tally Char.isDigit (keySegments location) ∧
      (tally Char.isDigit (location.map segment) = tally Char.isDigit (keySegments location) →
        ∀ name, .property name ∈ location → RuleKey.isNumeral name = false) := by
  have hmarker : RuleKey.marker.toList.countP Char.isDigit = 0 := by decide
  fun_induction keySegments location with
  | case1 => simp
  | case2 name rest ih =>
    obtain ⟨hle, hnamed⟩ := countP_isDigit_read name
    obtain ⟨hle', hrest⟩ := ih
    simp only [List.map_cons, segment, tally_cons]
    refine ⟨by omega, fun heq other hm => ?_⟩
    rcases List.mem_cons.1 hm with hm | hm
    · obtain rfl := Step.property.inj hm
      exact hnamed (by omega)
    · exact hrest (by omega) other hm
  | case3 rest h ih =>
    simp only [List.map_cons, segment, tally_cons, hmarker, Nat.zero_add]
    refine ⟨ih.1, fun heq name hm => ih.2 heq name ?_⟩
    simpa using hm
  | case4 rest h ih =>
    simp only [List.map_cons, segment, tally_cons, hmarker, Nat.zero_add]
    refine ⟨ih.1, fun heq name hm => ih.2 heq name ?_⟩
    simpa using hm

/-- Without such names they have no fewer markers than the key, and more when there are
elements of elements. -/
theorem tally_marker_segment {location : List Step}
    (hnamed : ∀ name, .property name ∈ location → RuleKey.isNumeral name = false) :
    tally (· = '$') (keySegments location) ≤ tally (· = '$') (location.map segment) ∧
      (tally (· = '$') (location.map segment) = tally (· = '$') (keySegments location) →
        location.IsChain fun a b => ¬ (a = .element ∧ b = .element)) := by
  have hmarker : RuleKey.marker.toList.countP (· = '$') = 1 := by decide
  fun_induction keySegments location with
  | case1 => simp
  | case2 name rest ih =>
    have hname : RuleKey.read name = name := by simp [RuleKey.read, hnamed name (by simp)]
    obtain ⟨hle, hchain⟩ := ih fun other hm => hnamed other (List.mem_cons_of_mem _ hm)
    simp only [List.map_cons, segment, tally_cons, hname]
    refine ⟨by omega, fun heq => ?_⟩
    have hrest := hchain (by omega)
    cases rest with
    | nil => exact .singleton _
    | cons next rest => exact .cons_cons (by simp) hrest
  | case3 rest h ih =>
    obtain ⟨hle, -⟩ := ih fun other hm => hnamed other (List.mem_cons_of_mem _ hm)
    simp only [List.map_cons, segment, tally_cons, hmarker]
    exact ⟨by omega, fun heq => absurd heq (by omega)⟩
  | case4 rest h ih =>
    obtain ⟨hle, hchain⟩ := ih fun other hm => hnamed other (List.mem_cons_of_mem _ hm)
    simp only [List.map_cons, segment, tally_cons, hmarker]
    refine ⟨by omega, fun heq => ?_⟩
    have hrest := hchain (by omega)
    cases rest with
    | nil => exact .singleton _
    | cons next rest =>
      refine .cons_cons (fun hboth => h ?_) hrest
      rw [List.head?_cons, hboth.2]

theorem keySegments_append (location : List Step) (name : String) (more : List Step) :
    keySegments (location ++ .property name :: more) =
      keySegments location ++ name :: keySegments more := by
  fun_induction keySegments location with
  | case1 => rfl
  | case2 other rest ih => rw [List.cons_append, keySegments, ih, List.cons_append]
  | case3 rest h ih =>
    have hhead : (rest ++ .property name :: more).head? = some .element := by
      rw [List.head?_append, h, Option.some_or]
    rw [List.cons_append, keySegments, if_pos hhead, ih]
  | case4 rest h ih =>
    have hhead : (rest ++ .property name :: more).head? ≠ some .element := by
      cases rest with
      | nil => simp
      | cons next rest => simpa using h
    rw [List.cons_append, keySegments, if_neg hhead, ih, List.cons_append]

theorem keySegments_elements (depth : Nat) :
    keySegments (List.replicate (depth + 1) .element) = [RuleKey.marker] := by
  induction depth with
  | zero => rfl
  | succ depth ih =>
    rw [List.replicate_succ, keySegments, if_pos (by simp [List.replicate_succ]), ih]

end Step

def Place.Keyed (place : Place) : Prop :=
  ∀ name, place.lead ++ name = ".".intercalate (Step.keySegments place.location ++ [name])

theorem Place.Keyed.below {place : Place} (h : place.Keyed) (name : String) (shape : Shape)
    (required : List String) : (place.below name shape required).Keyed := by
  intro other
  have hsegments : Step.keySegments (place.below name shape required).location =
      (Step.keySegments place.location ++ [name]) ++
        Step.keySegments (List.replicate shape.arrayDepth .element) := by
    rw [Place.below, List.append_assoc, List.singleton_append, Step.keySegments_append]
    simp
  have hlead : (place.below name shape required).lead =
      ".".intercalate (Step.keySegments place.location ++ [name]) ++
        (if shape.isArray then ".$." else ".") := by
    rw [Place.below, h name]
  have hne : Step.keySegments place.location ++ [name] ≠ [] := by
    rw [Ne, List.append_eq_nil_iff]
    simp
  generalize Step.keySegments place.location ++ [name] = before at hsegments hlead hne
  rw [hsegments, hlead, List.append_assoc, String.intercalate_append_of_ne_nil hne (by simp)]
  cases shape with
  | array element =>
    rw [Shape.arrayDepth, Step.keySegments_elements]
    have hpoint : ".$." ++ other = "." ++ ("$." ++ other) := by
      rw [← String.append_assoc]
      rfl
    simp [Shape.isArray, RuleKey.marker, String.append_assoc, hpoint]
  | _ => simp [Shape.isArray, Shape.arrayDepth, Step.keySegments, String.append_assoc]

structure Expansion.Keyed (e : Expansion) : Prop where
  key : e.key = ".".intercalate (Step.keySegments e.location)
  last : ∃ before name, e.location = before ++ [.property name]

theorem keyed_of_walk {root : Json} {unused : List String} {place : Place}
    {properties : List (String × Json)} {expansions : List Expansion}
    (h : walk root unused place properties = .ok expansions) (hplace : place.Keyed) :
    ∀ e ∈ expansions, e.Keyed := by
  induction unused, place, properties, expansions, h using walk_induction with
  | nil => simp
  | cons unused place name node target rest followed here inner outer hd hf hhere hinner _ ih =>
    have hkeyed : here.Keyed := by
      obtain ⟨rule, -, rfl⟩ := map_eq_ok.1 hhere
      refine ⟨?_, place.location, name, rfl⟩
      rw [hplace name, Step.keySegments_append]
      rfl
    have hbelow : ∀ e ∈ inner, e.Keyed := by
      rcases hinner with ⟨-, rfl⟩ | ⟨properties, names, hs, hw, ihinner⟩
      · simp
      · exact ihinner (hplace.below name _ names)
    intro e he
    rcases List.mem_append.1 he with he | he
    · exact (List.forall_mem_cons.2 ⟨hkeyed, hbelow⟩) e he
    · exact ih hplace e he

/-- A property that a document expands to when its rules are made. -/
def Expands (document : Json) (e : Expansion) : Prop :=
  ∃ properties expansions, documentProperties document = some properties ∧
    expandProperties properties document.requiredNames document = .ok expansions ∧
    e ∈ expansions

theorem Expands.keyed {document : Json} {e : Expansion} (h : Expands document e) : e.Keyed := by
  obtain ⟨properties, expansions, -, hwalk, he⟩ := h
  refine keyed_of_walk hwalk (fun name => ?_) e he
  simp [Step.keySegments]

/-- There is a rule under the key of an expansion. -/
theorem Expands.mem_keys {document : Json} {rules : RuleTable} {e : Expansion}
    (h : Expands document e) (hrules : translate document = .ok rules) :
    e.key ∈ rules.entries.map Prod.fst := by
  obtain ⟨properties, expansions, hp, hwalk, he⟩ := h
  simp only [translate, hp, translateProperties, hwalk, Except.map, Except.ok.injEq] at hrules
  rw [← hrules, RuleTable.entries_ofExpansions, RuleTable.mem_keys_setAll]
  left
  rw [List.map_map]
  exact List.mem_map_of_mem he

namespace Step

theorem tally_le_of_sublist (p : Char → Bool) {some all : List String}
    (h : some.Sublist all) : tally p some ≤ tally p all := by
  induction h with
  | slnil => exact Nat.le_refl _
  | cons s _ ih => exact Nat.le_trans ih (Nat.le_add_left _ _)
  | cons_cons s _ ih => exact Nat.add_le_add_left ih _

theorem dropMarkers_sublist (segments : List String) :
    (RuleKey.dropMarkers segments).Sublist segments := by
  have hrev := (List.dropWhile_sublist (l := segments.reverse) (· == RuleKey.marker)).reverse
  rwa [List.reverse_reverse] at hrev

/-- The segments that the validator makes of a location are joined to the key exactly
when the location is legible, unless its last property is called like the marker. -/
theorem intercalate_eq_iff {before : List Step} {name : String} (hname : name ≠ RuleKey.marker) :
    ".".intercalate (RuleKey.dropMarkers ((before ++ [Step.property name]).map segment)) =
        ".".intercalate (keySegments (before ++ [Step.property name])) ↔
      Legible (before ++ [Step.property name]) := by
  generalize hlocation : before ++ [Step.property name] = location
  have hkept : RuleKey.isNumeral name = false →
      RuleKey.dropMarkers (location.map segment) = location.map segment := by
    intro hn
    have hread : segment (.property name) ≠ RuleKey.marker := by simpa [segment, RuleKey.read, hn]
    rw [← hlocation, List.map_append, List.map_singleton, RuleKey.dropMarkers_append hread]
  have hlast : Step.property name ∈ location := by simp [← hlocation]
  constructor
  · intro h
    obtain ⟨hle, hnamed⟩ := tally_isDigit_segment location
    have hdigits : tally Char.isDigit (RuleKey.dropMarkers (location.map segment)) =
        tally Char.isDigit (keySegments location) := by
      rw [← countP_intercalate (by decide), h, countP_intercalate (by decide)]
    have hdropped := tally_le_of_sublist Char.isDigit (dropMarkers_sublist (location.map segment))
    have hnamed' := hnamed (by omega)
    refine ⟨hnamed', (tally_marker_segment hnamed').2 ?_⟩
    rw [hkept (hnamed' name hlast)] at h
    rw [← countP_intercalate (by decide), h, countP_intercalate (by decide)]
  · intro h
    rw [hkept (h.named name hlast), keySegments_of_legible h]

end Step

def arrayOf (items : Json) : Json := .object [("type", .string "array"), ("items", items)]

def recordNode : Json :=
  .object [("type", .string "object"), ("properties", .object [("b", textNode)])]

/-- Below a property without references whose own property is a text, the text is
expanded. -/
theorem expandProperties_below {node : Json} {name inner : String} {here : Expansion}
    (hd : ∀ root, Json.dereferenceTraced root node = .ok (node, []))
    (hhere : Expansion.ofNode {} name node = .ok here)
    (hs : (Shape.classify node).innerProperties = some ([(inner, textNode)], [])) :
    ∃ below, expandProperties [(name, node)] (singleProperty name node).requiredNames
        (singleProperty name node) = .ok [here, below] ∧
      below.location =
        (Place.below {} name (Shape.classify node) []).location ++ [.property inner] ∧
      below.key = (Place.below {} name (Shape.classify node) []).lead ++ inner := by
  let unused := pointersOf [(name, node)] (singleProperty name node)
  obtain ⟨below, hbelow, hlocation, hkey⟩ := walk_textNode (singleProperty name node) unused
    (Place.below {} name (Shape.classify node) []) inner
  exact ⟨below, walk_single (hd _) hhere hs hbelow, hlocation, hkey⟩

theorem expands_below {node : Json} {name inner : String} {here : Expansion}
    (hd : ∀ root, Json.dereferenceTraced root node = .ok (node, []))
    (hhere : Expansion.ofNode {} name node = .ok here)
    (hs : (Shape.classify node).innerProperties = some ([(inner, textNode)], [])) :
    ∃ rules e, translate (singleProperty name node) = .ok rules ∧
      Expands (singleProperty name node) e ∧
      e.location = (Place.below {} name (Shape.classify node) []).location ++ [.property inner] ∧
      e.key = (Place.below {} name (Shape.classify node) []).lead ++ inner := by
  obtain ⟨below, hwalk, hlocation, hkey⟩ := expandProperties_below hd hhere hs
  have hexpands : Expands (singleProperty name node) below := ⟨_, _, rfl, hwalk, by simp⟩
  exact ⟨_, below, translate_of_walk rfl hwalk, hexpands, hlocation, hkey⟩

/-- The key that is read off the pointer to an expanded property is the key of its rule
exactly when no property on the way is called by a number and there are no elements of
elements, unless the property itself is called like the marker. An element of the
property has the key that the property has. -/
theorem ofPointer_eq_key_iff {document : Json} {rules : RuleTable} {e : Expansion}
    {path : List String} (hrules : translate document = .ok rules) (h : Expands document e)
    (hpath : List.Forall₂ Step.Names e.location path)
    (hlast : e.location.getLast? ≠ some (.property RuleKey.marker)) :
    (∃ rule, (e.key, rule) ∈ rules.entries) ∧
      (RuleKey.ofPointer (Violation.pointerTo path) = e.key ↔ Step.Legible e.location) ∧
      ∀ i : Nat, RuleKey.ofPointer (Violation.pointerTo (path ++ [toString i])) =
        RuleKey.ofPointer (Violation.pointerTo path) := by
  obtain ⟨hkey, before, name, hlocation⟩ := h.keyed
  refine ⟨?_, ?_, RuleKey.ofPointer_element path⟩
  · obtain ⟨entry, he, hentry⟩ := List.mem_map.1 (h.mem_keys hrules)
    exact ⟨entry.2, hentry ▸ he⟩
  · have hname : name ≠ RuleKey.marker := by
      rintro rfl
      exact hlast (by rw [hlocation, List.getLast?_append, List.getLast?_singleton, Option.some_or])
    rw [RuleKey.ofPointer_pointerTo, Step.map_read_eq hpath, hkey, hlocation]
    exact Step.intercalate_eq_iff hname

theorem ofPointer_eq_key_iff_record :
    ∃ rules e, translate (singleProperty "a" (arrayOf recordNode)) = .ok rules ∧
      Expands (singleProperty "a" (arrayOf recordNode)) e ∧
      e.location = [.property "a", .element, .property "b"] ∧ e.key = "a.$.b" ∧
      RuleKey.ofPointer (Violation.pointerTo ["a", "3", "b"]) = e.key := by
  obtain ⟨here, hhere⟩ : ∃ here, Expansion.ofNode {} "a" (arrayOf recordNode) = .ok here :=
    ⟨_, rfl⟩
  obtain ⟨rules, e, hrules, hexpands, hlocation, hkey⟩ :=
    expands_below (fun _ => rfl) hhere rfl
  have hsteps : e.location = [.property "a", .element, .property "b"] := hlocation
  refine ⟨rules, e, hrules, hexpands, hsteps, hkey, ?_⟩
  have hpath : List.Forall₂ Step.Names e.location ["a", "3", "b"] := by
    rw [hsteps]
    exact .cons rfl (.cons ⟨3, rfl⟩ (.cons rfl .nil))
  have hlegible : Step.Legible e.location := by
    rw [hsteps]
    refine ⟨fun name hm => ?_, by decide⟩
    have hname : name = "a" ∨ name = "b" := by simpa using hm
    rcases hname with rfl | rfl <;> decide
  have hlast : e.location.getLast? ≠ some (.property RuleKey.marker) := by
    rw [hsteps]
    decide
  exact (ofPointer_eq_key_iff hrules hexpands hpath hlast).2.1.2 hlegible

/-- A property that is called by a number has another key than the one that is read off
its pointer, and so has one of the elements of elements. -/
theorem ofPointer_ne_key_numbered :
    (∃ rules e, translate (singleProperty "2024" textNode) = .ok rules ∧
      Expands (singleProperty "2024" textNode) e ∧ e.location = [.property "2024"] ∧
      e.key = "2024" ∧ RuleKey.ofPointer (Violation.pointerTo ["2024"]) ≠ e.key) ∧
    ∃ rules e, translate (singleProperty "a" (arrayOf (arrayOf recordNode))) = .ok rules ∧
      Expands (singleProperty "a" (arrayOf (arrayOf recordNode))) e ∧
      e.location = [.property "a", .element, .element, .property "b"] ∧ e.key = "a.$.b" ∧
      RuleKey.ofPointer (Violation.pointerTo ["a", "0", "0", "b"]) ≠ e.key := by
  constructor
  · obtain ⟨here, hwalk, hlocation, hkey⟩ := walk_textNode (singleProperty "2024" textNode)
      (pointersOf [("2024", textNode)] (singleProperty "2024" textNode)) {} "2024"
    have hexpands : Expands (singleProperty "2024" textNode) here :=
      ⟨_, _, rfl, hwalk, List.mem_singleton_self here⟩
    refine ⟨_, here, translate_of_walk rfl hwalk, hexpands, hlocation, hkey, ?_⟩
    rw [hkey]
    decide
  · obtain ⟨here, hhere⟩ : ∃ here, Expansion.ofNode {} "a" (arrayOf (arrayOf recordNode)) =
        .ok here := ⟨_, rfl⟩
    obtain ⟨rules, e, hrules, hexpands, hlocation, hkey⟩ :=
      expands_below (fun _ => rfl) hhere rfl
    refine ⟨rules, e, hrules, hexpands, hlocation, hkey, ?_⟩
    rw [hkey]
    decide

end Rulebook
