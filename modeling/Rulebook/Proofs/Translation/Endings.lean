import Mathlib.Order.WellFounded
import Rulebook.Proofs.Rule.Fields
import Rulebook.Proofs.Translation.Unfolding

/-! Where the unfolding of properties ends. It does unless a chain of pointers loops or
properties lie in one another without an end. Then references are expanded on and on, since
without them the properties become fewer. -/

namespace Rulebook
open Json Outcome

/-- The references of a node lead, by way of the pointers `followed`, to a value for which
there is a rule and below which the properties `inner` are expanded. -/
inductive Opens (root node : Json) (followed : List String) (inner : Members) : Prop where
  | intro {target : Json} {names : List String} {here : Expansion}
      (h : Unwinds root node (.ok (target, followed)))
      (hhere : Expansion.ofNode {} "" target = .ok here)
      (hs : (Shape.classify target).innerProperties = some (inner, names))

/-- The nodes of properties that lie below some properties, those themselves included. -/
inductive Within (root : Json) : Members → Json → Prop where
  | here {properties : Members} {name : String} {node : Json} (h : (name, node) ∈ properties) :
      Within root properties node
  | deeper {properties inner : Members} {name : String} {node other : Json}
      {followed : List String} (h : (name, node) ∈ properties) (ho : Opens root node followed inner)
      (hw : Within root inner other) : Within root properties other

/-- Properties lie in one another without an end, and references are expanded on and on. -/
def Nests (root : Json) (properties : Members) : Prop :=
  ∃ (maps : ℕ → Members) (followed : ℕ → List String), maps 0 = properties ∧
    (∀ n, ∃ m ∈ maps n, Opens root m.2 (followed n) (maps (n + 1))) ∧
      ∀ n, ∃ k ≥ n, followed k ≠ []

section Made

variable {root node target : Json} {place place' : Place} {name name' : String}
  {followed : List String} {here : Expansion}

theorem exists_ofNode_of_agree {v w : Json}
    (hagree : ∀ key, key ∉ displayFields → v.get? key = w.get? key)
    (h : Expansion.ofNode place name v = .ok here) (place' : Place) (name' : String) :
    ∃ made, Expansion.ofNode place' name' w = .ok made := by
  obtain ⟨rule, hrule, -⟩ := map_eq_ok.1 h
  obtain ⟨made, hmade⟩ := Rule.exists_ofNode (place'.lead ++ name') hagree hrule
    (place'.required.contains name') (Shape.classify w).isOpen
  exact ⟨_, map_eq_ok.2 ⟨made, hmade, rfl⟩⟩

theorem get?_withDisplay_agree (node v : Json) :
    ∀ key, key ∉ displayFields → (withDisplay node.display v).get? key = v.get? key :=
  fun _ hk => get?_withDisplay_of_notMem hk node v

/-- What an unfolding comes to below a property. -/
theorem opens_of_unwinds {inner : Members} {names : List String}
    (h : Unwinds root node (.ok (target, followed)))
    (hhere : Expansion.ofNode place name (withDisplay node.display target) = .ok here)
    (hs : (Shape.classify (withDisplay node.display target)).innerProperties =
      some (inner, names)) : Opens root node followed inner := by
  obtain ⟨made, hmade⟩ := exists_ofNode_of_agree (get?_withDisplay_agree node target) hhere {} ""
  rw [Shape.classify_withDisplay] at hs
  exact ⟨h, hmade, hs⟩

theorem Opens.exists_ofNode {inner : Members} {followed' : List String}
    (h : Opens root node followed inner) (htarget : Unwinds root node (.ok (target, followed')))
    (place : Place) (name : String) :
    (∃ here, Expansion.ofNode place name (withDisplay node.display target) = .ok here) ∧
      ∃ names, (Shape.classify (withDisplay node.display target)).innerProperties =
        some (inner, names) := by
  obtain ⟨h, hhere, hs⟩ := h
  obtain ⟨rfl, -⟩ := Prod.mk.inj (Except.ok.inj (h.unique htarget))
  refine ⟨exists_ofNode_of_agree (fun key hk => (get?_withDisplay_agree node _ key hk).symm) hhere
    place name, ?_⟩
  rw [Shape.classify_withDisplay]
  exact ⟨_, hs⟩

/-- What is expanded below a property is what its unfolding comes to. -/
theorem Opens.eq_of_innerProperties {inner found : Members} {names followed' : List String}
    (h : Opens root node followed found) (htarget : Unwinds root node (.ok (target, followed')))
    (hs : (Shape.classify (withDisplay node.display target)).innerProperties =
      some (inner, names)) : found = inner := by
  obtain ⟨-, others, hsome⟩ := h.exists_ofNode htarget {} ""
  exact (Prod.mk.inj (Option.some.inj (hsome.symm.trans hs))).1

theorem not_opens_of_innerProperties {inner : Members} {followed' : List String}
    (htarget : Unwinds root node (.ok (target, followed')))
    (hs : (Shape.classify (withDisplay node.display target)).innerProperties = none) :
    ¬ Opens root node followed inner := by
  intro h
  obtain ⟨-, names, hsome⟩ := h.exists_ofNode htarget {} ""
  simp [hs] at hsome

end Made

section Ends

variable {root : Json} {properties inner : Members}

def LiesBelow (root : Json) (inner properties : Members) : Prop :=
  ∃ m ∈ properties, ∃ followed, Opens root m.2 followed inner

/-- Properties do not lie in one another without an end, and no chain of pointers loops. -/
structure Grounded (root : Json) (properties : Members) : Prop where
  acc : Acc (LiesBelow root) properties
  loopless : ∀ node, Within root properties node → ¬ Loops root node

/-- What is grounded is unfolded to an end. -/
theorem Grounded.exists_unfolds (h : Grounded root properties) :
    ∀ d place, ∃ trace x, Unfolds root d place properties trace x := by
  obtain ⟨hacc, hloops⟩ := h
  induction hacc with
  | intro properties _ ih =>
    -- The properties that are left, whatever has come before them.
    suffices hrest : ∀ rest, rest ⊆ properties → ∀ d place,
        ∃ trace x, Unfolds root d place rest trace x from
      hrest properties (List.Subset.refl _)
    intro rest
    induction rest with
    | nil => exact fun _ d place => ⟨_, _, .done⟩
    | cons m rest ihrest =>
      obtain ⟨name, node⟩ := m
      intro hsub d place
      obtain ⟨hm, hrest⟩ := List.cons_subset.1 hsub
      have hunwinds : ∃ y, Unwinds root node y := by
        have hnot := hloops node (.here hm)
        rw [loops_iff] at hnot
        simpa using hnot
      obtain ⟨y, hy⟩ := hunwinds
      cases y with
      | error e => exact ⟨_, _, .unresolved hy⟩
      | ok r =>
        obtain ⟨target, followed⟩ := r
        cases hhere : Expansion.ofNode place name (withDisplay node.display target) with
        | error e => exact ⟨_, _, .refused hy hhere⟩
        | ok here =>
          obtain ⟨after, z, hafter⟩ := ihrest hrest d place
          cases hs : (Shape.classify (withDisplay node.display target)).innerProperties with
          | none => exact ⟨_, _, .leaf hy hhere hs hafter⟩
          | some found =>
            obtain ⟨inner, names⟩ := found
            have hopens := opens_of_unwinds hy hhere hs
            obtain ⟨within, w, hwithin⟩ := ih inner ⟨(name, node), hm, followed, hopens⟩
              (fun other hother => hloops other (.deeper hm hopens hother)) (d.below followed)
              (place.below name (Shape.classify (withDisplay node.display target)) names)
            cases w with
            | error e => exact ⟨_, _, .blocked hy hhere hs hwithin⟩
            | ok expansions => exact ⟨_, _, .branch hy hhere hs hwithin hafter⟩

theorem weight_le_weightOfValues {m : String × Json} (hm : m ∈ properties) :
    weight m.2 ≤ weightOfValues properties := by
  induction properties with
  | nil => simp at hm
  | cons first rest ih =>
    obtain ⟨k, v⟩ := first
    rw [weightOfValues]
    rcases List.mem_cons.1 hm with rfl | hm
    · exact Nat.le_add_right _ _
    · exact Nat.le_trans (ih hm) (Nat.le_add_left _ _)

/-- Without a pointer, what is expanded below a property is lighter than the property. -/
theorem Opens.weight_lt {node : Json} (h : Opens root node [] inner) :
    weightOfValues inner < weight node := by
  obtain ⟨h, -, hs⟩ := h
  have hle := weight_le_of_dereferenceTraced (pursues_iff.1 (unwinds_iff.1 h).1).symm
  exact Nat.lt_of_lt_of_le (Shape.weight_innerProperties hs) hle

/-- Where properties lie in one another without an end, references are expanded on and on. -/
theorem nests_of_not_acc (h : ¬ Acc (LiesBelow root) properties) : Nests root properties := by
  obtain ⟨maps, hfirst, hleads⟩ := not_acc_iff_exists_descending_chain.1 h
  choose m hm followed hopens using hleads
  refine ⟨maps, followed, hfirst, fun n => ⟨m n, hm n, hopens n⟩, fun n => ?_⟩
  by_contra hnone
  -- From there on every map would be lighter than the one before it.
  have hless : ∀ k, weightOfValues (maps (n + k)) + k ≤ weightOfValues (maps n) := by
    intro k
    induction k with
    | zero => exact Nat.le_refl _
    | succ k ih =>
      have hempty : followed (n + k) = [] := by
        by_contra hne
        exact hnone ⟨n + k, Nat.le_add_right _ _, hne⟩
      have hlighter := (hempty ▸ hopens (n + k)).weight_lt
      have hnode := weight_le_weightOfValues (hm (n + k))
      show weightOfValues (maps (n + k + 1)) + (k + 1) ≤ _
      omega
  have hmany := hless (weightOfValues (maps n) + 1)
  omega

theorem grounded_nil (root : Json) : Grounded root [] := by
  refine ⟨.intro _ ?_, fun node hnode => ?_⟩
  · rintro inner ⟨m, hm, -⟩
    simp at hm
  · cases hnode with
    | here hm => simp at hm
    | deeper hm => simp at hm

theorem grounded_cons {name : String} {node : Json} (hnode : ¬ Loops root node)
    (hinner : ∀ followed inner, Opens root node followed inner → Grounded root inner)
    (hrest : Grounded root properties) : Grounded root ((name, node) :: properties) := by
  constructor
  · refine .intro _ ?_
    rintro inner ⟨m, hm, followed, hopens⟩
    rcases List.mem_cons.1 hm with rfl | hm
    · exact (hinner followed inner hopens).acc
    · exact hrest.acc.inv ⟨m, hm, followed, hopens⟩
  · intro other hother
    cases hother with
    | here hm =>
      rcases List.mem_cons.1 hm with hm | hm
      · obtain ⟨-, rfl⟩ := Prod.mk.inj hm
        exact hnode
      · exact hrest.loopless other (.here hm)
    | deeper hm hopens hwithin =>
      rcases List.mem_cons.1 hm with hm | hm
      · obtain ⟨-, rfl⟩ := Prod.mk.inj hm
        exact (hinner _ _ hopens).loopless other hwithin
      · exact hrest.loopless other (.deeper hm hopens hwithin)

theorem not_loops_of_unwinds {node : Json} {y : Except ResolveError (Json × List String)}
    (h : Unwinds root node y) : ¬ Loops root node :=
  fun hloops => loops_iff.1 hloops y h

/-- Only what is grounded is unfolded to expansions. -/
theorem Unfolds.grounded {d : Descent} {place : Place} {trace : List Descent}
    {x : Except TranslateError (List Expansion)} {expansions : List Expansion}
    (h : Unfolds root d place properties trace x) (hx : x = .ok expansions) :
    Grounded root properties := by
  induction h generalizing expansions with
  | done => exact grounded_nil root
  | unresolved => simp at hx
  | refused => simp at hx
  | @leaf d place name node target rest followed here after x h hhere hs _ ihrest =>
    obtain ⟨others, hothers, -⟩ := map_eq_ok.1 hx
    exact grounded_cons (not_loops_of_unwinds h)
      (fun _ inner hopens => absurd hopens (not_opens_of_innerProperties h hs)) (ihrest hothers)
  | blocked => simp at hx
  | @branch d place name node target rest followed here properties names within after inner x h
      hhere hs _ _ ihinner ihrest =>
    obtain ⟨others, hothers, -⟩ := map_eq_ok.1 hx
    refine grounded_cons (not_loops_of_unwinds h) (fun _ found hopens => ?_) (ihrest hothers)
    obtain rfl := hopens.eq_of_innerProperties h hs
    exact ihinner rfl

theorem Grounded.not_nests (h : Grounded root properties) : ¬ Nests root properties := by
  rintro ⟨maps, followed, hfirst, hopens, -⟩
  refine not_acc_iff_exists_descending_chain.2 ⟨maps, hfirst, fun n => ?_⟩ h.acc
  obtain ⟨m, hm, ho⟩ := hopens n
  exact ⟨m, hm, followed n, ho⟩

end Ends

def Reaches (document node : Json) : Prop :=
  ∃ properties, documentProperties document = some properties ∧ Within document properties node

/-- A document refers to itself without an end: a chain of pointers loops, or its properties
lie in one another without an end. -/
def SelfReferring (document : Json) : Prop :=
  (∃ node, Reaches document node ∧ Loops document node) ∨
    ∃ properties, documentProperties document = some properties ∧ Nests document properties

theorem Endless.selfReferring {document : Json} (h : Endless document) :
    SelfReferring document := by
  cases hp : documentProperties document with
  | none => exact absurd (.empty hp) (h _ _)
  | some properties =>
    by_contra hneither
    obtain ⟨hloops, hnests⟩ := not_or.1 hneither
    have hacc : Acc (LiesBelow document) properties :=
      not_not.1 fun hacc => hnests ⟨properties, hp, nests_of_not_acc hacc⟩
    have hloopless : ∀ node, Within document properties node → ¬ Loops document node :=
      fun node hnode hloop => hloops ⟨node, ⟨properties, hp, hnode⟩, hloop⟩
    obtain ⟨trace, x, hunfolds⟩ :=
      Grounded.exists_unfolds ⟨hacc, hloopless⟩ {} { required := document.requiredNames }
    exact h _ _ (.properties hp hunfolds)

/-- A document that is unfolded to rules does not refer to itself without an end. -/
theorem Unfolding.not_selfReferring {document : Json} {trace : List Descent} {rules : RuleTable}
    (h : Unfolding document trace (.ok rules)) : ¬ SelfReferring document := by
  generalize hx : (Except.ok rules : Except TranslateError RuleTable) = x at h
  cases h with
  | empty hnone => simp [SelfReferring, Reaches, hnone]
  | properties hp hw =>
    obtain ⟨expansions, hexpansions, -⟩ := map_eq_ok.1 hx.symm
    have hgrounded := hw.grounded hexpansions
    rintro (⟨node, ⟨_, hp', hnode⟩, hloops⟩ | ⟨_, hp', hnests⟩)
    · obtain rfl := Option.some.inj (hp.symm.trans hp')
      exact hgrounded.loopless node hnode hloops
    · obtain rfl := Option.some.inj (hp.symm.trans hp')
      exact hgrounded.not_nests hnests

end Rulebook
