import Rulebook.Proofs.Rule.Table
import Rulebook.Proofs.Translation.Dereferencing

/-! Members that are added to a document. The walk looks up nothing in the document but its
type and what pointers name, and a pointer that names a value before a member is added
names the same value afterwards. So a definition that nothing refers to changes no rule. -/

namespace Rulebook
open Json

section Added

variable {key : String} {value : Json} {before after properties : Members}

theorem get?_added {other : String} (h : other ≠ key) :
    Members.get? other (before ++ (key, value) :: after) =
      Members.get? other (before ++ after) := by
  induction before with
  | nil =>
    rw [List.nil_append, List.nil_append, Members.get?_cons, if_neg (Ne.symm h)]
  | cons m rest ih =>
    obtain ⟨k, v⟩ := m
    rw [List.cons_append, List.cons_append, Members.get?_cons, Members.get?_cons, ih]

/-- A value that is in the document stays where it is. -/
theorem at?_added {path : List String} {v : Json} (hne : path ≠ [])
    (hkey : Members.get? key (before ++ after) = none)
    (h : (Json.object (before ++ after)).at? path = some v) :
    (Json.object (before ++ (key, value) :: after)).at? path = some v := by
  cases path with
  | nil => contradiction
  | cons segment rest =>
    have hsegment : segment ≠ key := by
      rintro rfl
      rw [at?_cons, child?_object, hkey] at h
      contradiction
    rw [at?_cons, child?_object] at h ⊢
    rwa [get?_added hsegment]

/-- A document agrees with the one to which a member is added, unless it is the type. -/
theorem agree_added (hd : (Json.object (before ++ after)).WellFormed)
    (hkey : Members.get? key (before ++ after) = none) (htype : key ≠ "type") :
    Agree (fun _ => True) (.object (before ++ after))
      (.object (before ++ (key, value) :: after)) where
  self := by simp only [selfReference, get?_object, get?_added htype.symm]
  selfConforms :=
    (conforms_among_iff (wellFormed_iff_conforms.1 hd).selfReference.wellFormed).2
      fun _ _ => trivial
  target := by
    intro pointer target _ hp ht
    obtain ⟨path, hpath, hat⟩ := (Pointer.resolve_eq_ok hp).1 ht
    have hother : (Json.object (before ++ (key, value) :: after)).at? path = some target :=
      at?_added (Pointer.ne_nil_of_path? hpath) hkey hat
    have htarget : target.WellFormed := Everywhere.inside hd (Pointer.inside_of_resolve ht)
    exact ⟨(Pointer.resolve_eq_ok hp).2 ⟨path, hpath, hother⟩,
      (conforms_among_iff htarget).2 fun _ _ => trivial⟩

end Added

/-- A document whose properties are translated has the same rules after a member of any value
has been added to it, wherever that stands among the others, unless it is the type or the
list of required names. -/
theorem translate_of_added {before after properties : Members} {key : String} {value : Json}
    {rules : RuleTable} (hd : (Json.object (before ++ after)).WellFormed)
    (hp : (Json.object (before ++ after)).get? "properties" = some (.object properties))
    (hkey : (Json.object (before ++ after)).get? key = none) (htype : key ≠ "type")
    (hrequired : key ≠ "required") (h : translate (.object (before ++ after)) = .ok rules) :
    translate (.object (before ++ (key, value) :: after)) = .ok rules := by
  have hproperties : key ≠ "properties" := by
    rintro rfl
    simp [hkey] at hp
  have hdeclared : documentProperties (.object (before ++ after)) = some properties := by
    simp [documentProperties, hp, asObject?]
  have hp' : (Json.object (before ++ (key, value) :: after)).get? "properties" =
      some (.object properties) := by
    rw [get?_object, get?_added hproperties.symm]
    exact hp
  have hdeclared' : documentProperties (.object (before ++ (key, value) :: after)) =
      some properties := by
    simp [documentProperties, hp', asObject?]
  have hnames : (Json.object (before ++ (key, value) :: after)).requiredNames =
      (Json.object (before ++ after)).requiredNames :=
    requiredNames_congr (get?_added hrequired.symm)
  rw [translate, hdeclared] at h
  obtain ⟨expansions, hwalk, rfl⟩ := Outcome.map_eq_ok.1 h
  -- Every pointer that may be followed in the document may be followed in the other one.
  have hmore : pointersOf properties (.object (before ++ after)) ⊆
      pointersOf properties (.object (before ++ (key, value) :: after)) := by
    have hmembers : before ++ after ⊆ before ++ (key, value) :: after :=
      List.append_subset.2 ⟨List.subset_append_left _ _,
        List.subset_append_of_subset_right _ (List.subset_cons_self _ _)⟩
    exact List.append_subset.2 ⟨List.subset_append_left _ _,
      List.subset_append_of_subset_right _ (referencesOfMembers_subset hmembers)⟩
  have hconforms : ∀ m ∈ properties, Conforms (Among fun _ => True) m.2 := by
    have hwf : (Json.object properties).WellFormed := Everywhere.get? hd hp
    exact Everywhere.members ((conforms_among_iff hwf).2 fun _ _ => trivial)
  refine translate_of_walk hdeclared' ?_
  rw [expandProperties, hnames]
  exact walk_agree (agree_added hd hkey htype) (fun r hr _ => hmore hr) hconforms hwalk

/-- A property refers to an object whose own property refers to the whole document. A
definition that refers to itself is added before the object. -/
theorem translate_of_added_unused :
    let property : Json := .object [("$ref", .string "#/n")]
    let inner : Json := .object [("$ref", .string "#")]
    let target : Json := .object
      [("type", .string "object"), ("properties", .object [("m", inner)])]
    let before : Members := [("properties", .object [("a", property)])]
    let after : Members := [("n", target)]
    let unused : Json := .object [("$ref", .string "#/definitions")]
    ∃ rules, translate (.object (before ++ after)) = .ok rules ∧
      rules.entries.map Prod.fst = ["a", "a.m"] ∧
      translate (.object (before ++ ("definitions", unused) :: after)) = .ok rules := by
  intro property inner target before after unused
  let document : Json := .object (before ++ after)
  let place := Place.below {} "a" (Shape.classify target) []
  obtain ⟨first, hfirst, hfirstKey⟩ : ∃ first,
      Expansion.ofNode {} "a" target = .ok first ∧ first.key = "a" := ⟨_, rfl, rfl⟩
  obtain ⟨second, hsecond, hsecondKey⟩ : ∃ second,
      Expansion.ofNode place "m" (selfReference document) = .ok second ∧ second.key = "a.m" :=
    ⟨_, rfl, rfl⟩
  have hproperty : dereferenceTraced document property = .ok (target, ["#/n"]) := by
    decide +kernel
  have hinner : dereferenceTraced document inner = .ok (selfReference document, []) := by
    decide +kernel
  have hbelow : walkInner document (withoutAll ["#/n"] (pointersOf [("a", property)] document)) {}
      "a" target = .ok [second] := by
    have hshape : (Shape.classify target).innerProperties = some ([("m", inner)], []) := rfl
    rw [walkInner_of_some hshape]
    exact walk_cons_of_ok hinner rfl hsecond (walkInner_of_none rfl) (walk_nil _ _ _)
  have hwalk : expandProperties [("a", property)] document.requiredNames document =
      .ok (first :: [second] ++ []) :=
    walk_cons_of_ok hproperty (by decide +kernel) hfirst hbelow (walk_nil _ _ _)
  have hdeclared : documentProperties document = some [("a", property)] := rfl
  have hrules := translate_of_walk hdeclared hwalk
  have hkeys : (RuleTable.ofExpansions [first, second]).entries.map Prod.fst = ["a", "a.m"] := by
    have hlt : first.key < second.key := by
      rw [hfirstKey, hsecondKey]
      decide
    rw [RuleTable.entries_pair hlt, List.map_cons, List.map_singleton, hfirstKey, hsecondKey]
  exact ⟨_, hrules, hkeys,
    translate_of_added (by decide) rfl rfl (by decide) (by decide) hrules⟩

end Rulebook
