import Rulebook.Proofs.Reference.Following
import Rulebook.Proofs.Resolution.Repetition
import Rulebook.Proofs.Schema.Agreement
import Rulebook.Proofs.Translation.Steps

/-! The rules of a document whose properties have been dereferenced. Below a property
the walk has fewer pointers behind it than in the document itself, and the pointers
that it meets name the same values as long as none leads into the properties. So the
document that is compiled has the rules of the one that was supplied. -/

namespace Rulebook
open Json Outcome Resolution Request

section Walk

variable {allowed : String → Prop} {root other : Json} {unused more : List String}
  {followed : List String} {place : Place} {properties others : Members}
  {expansions : List Expansion}

/-- The walk comes to the same in documents that agree, if the second one allows
whatever the first one does. -/
theorem walk_agree (ha : Agree allowed root other)
    (hmore : ∀ r ∈ unused, allowed r → r ∈ more)
    (hp : ∀ m ∈ properties, Conforms (Among allowed) m.2)
    (h : walk root unused place properties = .ok expansions) :
    walk other more place properties = .ok expansions := by
  induction unused, place, properties, expansions, h using walk_induction generalizing more with
  | nil => exact walk_nil _ _ _
  | cons unused place name node target rest followed here inner outer hd hallowed hhere hinner
      _ ihrest =>
    obtain ⟨hnode, hrest⟩ := List.forall_mem_cons.1 hp
    obtain ⟨hother, hall, htarget⟩ := dereferenceTraced_agree ha hnode hd
    have hresolved := Conforms.withDisplay hnode htarget
    have hfollowed : ∀ r ∈ followed, r ∈ more := fun r hr => hmore r (hallowed r hr) (hall r hr)
    have hleft : ∀ r ∈ withoutAll followed unused, allowed r → r ∈ withoutAll followed more := by
      intro r hm hr
      obtain ⟨hu, hnot⟩ := mem_withoutAll.1 hm
      exact mem_withoutAll.2 ⟨hmore r hu hr, hnot⟩
    have hbelow : walkInner other (withoutAll followed more) place name
        (withDisplay node.display target) = .ok inner := by
      refine walkInner_eq_ok.2 (hinner.imp_right ?_)
      rintro ⟨declared, names, hs, -, ihinner⟩
      exact ⟨declared, names, hs, ihinner hleft (everywhere_innerProperties hresolved hs)⟩
    exact walk_cons_eq_ok.2 ⟨target, followed, here, inner, outer, hother, hfollowed, hhere,
      hbelow, ihrest hmore hrest, rfl⟩

/-- The walk through dereferenced properties comes to the same. It starts below each of
them with pointers that the first walk has left behind. -/
theorem walk_dereferenced (ha : Agree allowed root other)
    (hmore : ∀ r ∈ unused, allowed r → r ∈ more)
    (hrel : properties.Related (fun _ v w => dereferenceProperty root v = .ok w) others)
    (hothers : ∀ m ∈ others, Conforms (Among allowed) m.2 ∧ m.2.Dereferenced)
    (h : walk root unused place properties = .ok expansions) :
    walk other more place others = .ok expansions := by
  induction hrel generalizing expansions with
  | nil =>
    rw [walk_nil] at h ⊢
    exact h
  | @cons m n ms ns hm _ ih =>
    obtain ⟨name, node⟩ := m
    obtain ⟨_, resolved⟩ := n
    obtain ⟨rfl, hresolved⟩ : name = _ ∧ dereferenceProperty root node = .ok resolved := hm
    obtain ⟨target, followed, hd, rfl⟩ := dereferenceProperty_eq_ok.1 hresolved
    obtain ⟨_, _, here, inner, outer, hd', -, hhere, hinner, houter, rfl⟩ := walk_cons_eq_ok.1 h
    obtain ⟨rfl, rfl⟩ := Prod.mk.inj (Except.ok.inj (hd.symm.trans hd'))
    obtain ⟨⟨hconforms, hdone⟩, hrest⟩ := List.forall_mem_cons.1 hothers
    have hleft : ∀ r ∈ withoutAll followed unused, allowed r → r ∈ more :=
      fun r hr => hmore r (mem_withoutAll.1 hr).1
    have hbelow : walkInner other (withoutAll [] more) place name
        (withDisplay node.display target) = .ok inner := by
      rw [withoutAll_nil]
      refine walkInner_eq_ok.2 ((walkInner_eq_ok.1 hinner).imp_right ?_)
      rintro ⟨declared, names, hs, hw⟩
      have hdeclared := everywhere_innerProperties hconforms hs
      exact ⟨declared, names, hs, walk_agree ha hleft hdeclared hw⟩
    refine walk_cons_eq_ok.2 ⟨_, [], here, inner, outer,
      dereferenceTraced_of_dereferenced hdone, by simp, ?_, ?_, ih hrest houter, rfl⟩
    · rw [withDisplay_display]
      exact hhere
    · rw [withDisplay_display]
      exact hbelow

/-- The walk dereferences every property. -/
theorem exists_related_of_walk (h : walk root unused place properties = .ok expansions) :
    ∃ others, properties.Related (fun _ v w => dereferenceProperty root v = .ok w) others := by
  induction properties generalizing expansions with
  | nil => exact ⟨[], .nil⟩
  | cons m rest ih =>
    obtain ⟨name, node⟩ := m
    obtain ⟨target, followed, here, inner, outer, hd, -, -, -, houter, -⟩ := walk_cons_eq_ok.1 h
    obtain ⟨others, hrel⟩ := ih houter
    have hnode : dereferenceProperty root node = .ok (withDisplay node.display target) :=
      dereferenceProperty_eq_ok.2 ⟨target, followed, hd, rfl⟩
    exact ⟨(name, withDisplay node.display target) :: others, .cons ⟨rfl, hnode⟩ hrel⟩

end Walk

/-- A reference that does not lead into the top-level properties. -/
def Aside (reference : String) : Prop :=
  ∀ path, Pointer.path? reference = some path → path.head? ≠ some "properties"

instance : DecidablePred Aside := fun reference =>
  inferInstanceAs (Decidable (∀ path ∈ Pointer.path? reference, path.head? ≠ some "properties"))

def withProperties (members others : Members) : Json :=
  .object (Members.insert "properties" (.object others) members)

section Document

variable {members properties others : Members}

theorem get?_withProperties (members others : Members) :
    (withProperties members others).get? "properties" = some (.object others) :=
  Members.get?_insert_self _ _ _

theorem get?_withProperties_of_ne {key : String} (h : key ≠ "properties")
    (members others : Members) :
    (withProperties members others).get? key = Members.get? key members :=
  Members.get?_insert_of_ne h _ _

/-- What is beside the properties stays where it is. -/
theorem at?_withProperties {path : List String} (hne : path ≠ [])
    (hhead : path.head? ≠ some "properties") :
    (withProperties members others).at? path = (Json.object members).at? path := by
  cases path with
  | nil => contradiction
  | cons segment rest =>
    have hsegment : segment ≠ "properties" := by simpa using hhead
    have hchild : (withProperties members others).child? segment = Members.get? segment members :=
      get?_withProperties_of_ne hsegment members others
    rw [at?_cons, at?_cons, hchild, child?_object]

theorem references_selfReference (root : Json) :
    (selfReference root).references ⊆ root.references := by
  intro s hs
  cases ht : root.get? "type" with
  | none => simp [selfReference, ht, references, referencesOfMembers] at hs
  | some t =>
    have hmem : s ∈ t.references := by
      simpa [selfReference, ht, references, referencesOfMembers] using hs
    exact references_of_inside (.of_get? ht) hmem

/-- A document agrees with the one in which its properties are dereferenced. -/
theorem agree_withProperties (hd : (Json.object members).WellFormed)
    (haside : ∀ r ∈ (Json.object members).references, Aside r) :
    Agree (fun r => r ∈ pointersOf others (withProperties members others) ∧ Aside r)
      (.object members) (withProperties members others) := by
  have hself : selfReference (withProperties members others) = selfReference (.object members) := by
    simp [selfReference, get?_withProperties_of_ne]
  -- A text that stands under `$ref` in both documents is allowed.
  have hboth : ∀ s, s ∈ (Json.object members).references →
      s ∈ (withProperties members others).references →
        s ∈ pointersOf others (withProperties members others) ∧ Aside s :=
    fun s hs hs' => ⟨List.mem_append_right _ hs', haside s hs⟩
  have hconforms : Conforms (fun _ => True) (Json.object members) := wellFormed_iff_conforms.1 hd
  refine { self := hself, selfConforms := ?_, target := ?_ }
  · refine (conforms_among_iff hconforms.selfReference.wellFormed).2 fun s hs => hboth s ?_ ?_
    · exact references_selfReference _ hs
    · rw [← hself] at hs
      exact references_selfReference _ hs
  · intro pointer target hallowed hpointer ht
    obtain ⟨path, hpath, hat⟩ := (Pointer.resolve_eq_ok hpointer).1 ht
    have hhead : path.head? ≠ some "properties" := hallowed.2 path hpath
    rw [← at?_withProperties (Pointer.ne_nil_of_path? hpath) hhead] at hat
    have hother := (Pointer.resolve_eq_ok hpointer).2 ⟨path, hpath, hat⟩
    have htarget : target.WellFormed := Everywhere.inside hd (Pointer.inside_of_resolve ht)
    refine ⟨hother, (conforms_among_iff htarget).2 fun s hs => hboth s ?_ ?_⟩
    · exact references_of_inside (Pointer.inside_of_resolve ht) hs
    · exact references_of_inside (Pointer.inside_of_resolve hother) hs

/-- Dereferenced properties have only references of the document, and those are among
the pointers that the second walk starts with. -/
theorem conforms_of_related {root : Json} (hd : (Json.object members).WellFormed)
    (haside : ∀ r ∈ (Json.object members).references, Aside r)
    (hp : Members.get? "properties" members = some (.object properties))
    (hrel : properties.Related
      (fun _ v w => dereferenceProperty (.object members) v = .ok w) others) :
    ∀ m ∈ others, Conforms (Among fun r => r ∈ pointersOf others root ∧ Aside r) m.2 ∧
      m.2.Dereferenced := by
  intro m hm
  have hdoc : Conforms (Among Aside) (Json.object members) := (conforms_among_iff hd).2 haside
  have hprops : Conforms (Among Aside) (Json.object properties) := Everywhere.get? hdoc hp
  obtain ⟨v, hv, hvm⟩ := hrel.mem_right hm
  obtain ⟨hconforms, hdone⟩ :=
    conforms_dereferenceProperty hdoc (Everywhere.members hprops _ hv) hvm
  refine ⟨(conforms_among_iff hconforms.wellFormed).2 fun s hs => ⟨?_, ?_⟩, hdone⟩
  · exact List.mem_append_left _ (mem_referencesOfMembers.2 (.inr ⟨m, hm, hs⟩))
  · exact (conforms_among_iff hconforms.wellFormed).1 hconforms s hs

/-- The document that is compiled in place of another one has its rules. -/
theorem exists_dereferenceProperties {d : Json} {rules : RuleTable} (hd : d.WellFormed)
    (haside : ∀ r ∈ d.references, Aside r) (h : translate d = .ok rules) :
    ∃ e, dereferenceProperties d = .ok e ∧ translate e = .ok rules := by
  rcases dereferenceProperties_cases d with ⟨members, properties, rfl, hp, he⟩ | ⟨-, he⟩
  · have hproperties : documentProperties (.object members) = some properties := by
      simp [documentProperties, hp, asObject?]
    rw [translate, hproperties] at h
    obtain ⟨expansions, hwalk, rfl⟩ := map_eq_ok.1 h
    obtain ⟨others, hrel⟩ := exists_related_of_walk hwalk
    rw [dereferenceEach_eq_ok.2 hrel] at he
    have hdone : documentProperties (withProperties members others) = some others := by
      simp [documentProperties, get?_withProperties, asObject?]
    have hrequired : (withProperties members others).requiredNames =
        (Json.object members).requiredNames :=
      requiredNames_congr (get?_withProperties_of_ne (by decide) members others)
    refine ⟨withProperties members others, he, translate_of_walk hdone ?_⟩
    rw [expandProperties, hrequired]
    exact walk_dereferenced (agree_withProperties hd haside) (fun r _ hr => hr.1) hrel
      (conforms_of_related hd haside hp hrel) hwalk
  · exact ⟨d, he, h⟩

end Document

/-- A document that refers neither out of itself nor into its properties is compiled to
the rules that it translates to. Nothing is fetched or stored for it. -/
theorem act_compile_of_translate {library : Library} {cache : Cache} {source : Source}
    {document : Json} {rules : RuleTable} (hurl : source.url = none)
    (hsource : sourceDocument source = .ok (some document)) (hd : document.WellFormed)
    (hinward : ∀ r ∈ document.references, ¬ Outward r)
    (haside : ∀ r ∈ document.references, Aside r) (h : translate document = .ok rules) :
    Session.act library cache (.compile source) =
      (⟨.compiled (.ok rules), [], cache⟩, library) := by
  obtain ⟨e, he, hrules⟩ := exists_dereferenceProperties hd haside h
  have hnone := externalReferences_of_inward hd hinward none
  have hrun : run (resolve library source) cache = (.ok e, { cache }) := by
    rw [run_eq_exec, exec_resolve]
    simp only [hurl]
    rw [exec_resolveFresh]
    simp only [hsource, hurl]
    rw [exec_resolveDocument_of_noReferences hnone, he]
    rfl
  have hcompiled : compileResolved (.ok e) = .ok rules := by
    rw [compileResolved, hrules]
    rfl
  rw [Session.act, hrun]
  simp only [hcompiled]

/-- A property with a title of its own refers to an object whose only property refers
to a text. -/
theorem act_compile_of_translate_nested :
    let property : Json := .object [("$ref", .string "#/n"), ("title", .string "A")]
    let inner : Json := .object [("$ref", .string "#/t")]
    let document : Json := .object
      [("properties", .object [("a", property)]),
        ("n", .object [("type", .string "object"), ("properties", .object [("m", inner)])]),
        ("t", textNode)]
    ∃ rules, translate document = .ok rules ∧ ∀ library cache,
      Session.act library cache (.compile { document := some document }) =
        (⟨.compiled (.ok rules), [], cache⟩, library) := by
  intro property inner document
  let target : Json := .object
    [("type", .string "object"), ("properties", .object [("m", inner)])]
  let resolved : Json := withDisplay property.display target
  let unused := pointersOf [("a", property)] document
  let place := Place.below {} "a" (Shape.classify resolved) []
  obtain ⟨first, hfirst⟩ : ∃ first, Expansion.ofNode {} "a" resolved = .ok first := ⟨_, rfl⟩
  obtain ⟨second, hsecond, -⟩ : ∃ second,
      Expansion.ofNode place "m" textNode = .ok second ∧ second.key = "a.m" := ⟨_, rfl, rfl⟩
  have hproperty : dereferenceTraced document property = .ok (target, ["#/n"]) := by
    decide +kernel
  have hinner : dereferenceTraced document inner = .ok (textNode, ["#/t"]) := by decide +kernel
  have hbelow : walk document (withoutAll ["#/n"] unused) place [("m", inner)] =
      .ok (second :: [] ++ []) :=
    walk_cons_of_ok hinner (by decide +kernel) hsecond (walkInner_of_none rfl) (walk_nil _ _ _)
  have hdeeper : walkInner document (withoutAll ["#/n"] unused) {} "a" resolved = .ok [second] := by
    have hshape : (Shape.classify resolved).innerProperties = some ([("m", inner)], []) := rfl
    rw [walkInner_of_some hshape]
    exact hbelow
  have hwalk : walk document unused {} [("a", property)] = .ok (first :: [second] ++ []) :=
    walk_cons_of_ok hproperty (by decide +kernel) hfirst hdeeper (walk_nil _ _ _)
  have hdeclared : documentProperties document = some [("a", property)] := rfl
  have hrules := translate_of_walk hdeclared hwalk
  refine ⟨_, hrules, fun library cache => ?_⟩
  exact act_compile_of_translate rfl rfl (by decide) (by decide) (by decide +kernel) hrules

end Rulebook
