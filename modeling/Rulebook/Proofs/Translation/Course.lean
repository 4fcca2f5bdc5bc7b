import Mathlib.Data.List.Dedup
import Mathlib.Data.List.Find
import Mathlib.Data.List.Perm.Subperm
import Rulebook.Proofs.Reference.Pursuit
import Rulebook.Proofs.Translation.Steps

/-! The course of the walk through declared properties, told without an account of the
pointers that may still be followed. Instead it is kept which pointers were followed from
the properties that lie around, and a pointer that comes again among them ends the walk.
So the walk always ends, and it never goes deeper through references than there are
different ones. -/

namespace Rulebook
open Json Outcome

/-- The properties that lie around the place where the walk is, from the outermost on: for
each of them the pointers that were followed from its node. -/
structure Descent where
  followed : List (List String) := []

namespace Descent

def active (d : Descent) : List String := d.followed.flatten

def expansions (d : Descent) : Nat := d.followed.countP fun pointers => !pointers.isEmpty

def below (d : Descent) (pointers : List String) : Descent := ⟨d.followed ++ [pointers]⟩

@[simp] theorem active_below (d : Descent) (pointers : List String) :
    (d.below pointers).active = d.active ++ pointers := by
  simp [active, below]

/-- Every expansion has followed a pointer. -/
theorem expansions_le_length_active (d : Descent) : d.expansions ≤ d.active.length := by
  obtain ⟨followed⟩ := d
  unfold expansions active
  induction followed with
  | nil => exact Nat.le_refl _
  | cons pointers rest ih =>
    rw [List.flatten_cons, List.length_append, List.countP_cons]
    cases pointers with
    | nil => simpa using ih
    | cons first more =>
      simp only [List.isEmpty_cons, Bool.not_false, ↓reduceIte, List.length_cons] at ih ⊢
      omega

/-- No pointer is active twice, and each of them is one of those given. -/
structure Bounded (pointers : List String) (d : Descent) : Prop where
  nodup : d.active.Nodup
  subset : d.active ⊆ pointers

theorem bounded_empty (pointers : List String) : Bounded pointers {} :=
  ⟨List.nodup_nil, List.nil_subset _⟩

/-- Pointers that are not active become active. -/
theorem Bounded.below {pointers followed : List String} {d : Descent} (h : Bounded pointers d)
    (hnodup : followed.Nodup) (hsub : followed ⊆ pointers) (hnew : ∀ r ∈ followed, r ∉ d.active) :
    Bounded pointers (d.below followed) := by
  constructor
  · rw [active_below, List.nodup_append]
    refine ⟨h.nodup, hnodup, fun r hr s hs => ?_⟩
    rintro rfl
    exact hnew r hs hr
  · rw [active_below]
    exact List.append_subset.2 ⟨h.subset, hsub⟩

theorem Bounded.expansions_le {pointers : List String} {d : Descent} (h : Bounded pointers d) :
    d.expansions ≤ pointers.dedup.length := by
  have hsub : d.active ⊆ pointers.dedup := fun r hr => List.mem_dedup.2 (h.subset hr)
  have hle : d.active.length ≤ pointers.dedup.length :=
    (List.subperm_of_subset h.nodup hsub).length_le
  exact Nat.le_trans d.expansions_le_length_active hle

end Descent

/-- The walk through properties ends in one way or another. The descents are those that it
comes through on its way. -/
inductive Walks (root : Json) : Descent → Place → List (String × Json) → List Descent →
    Except TranslateError (List Expansion) → Prop where
  | done {d : Descent} {place : Place} : Walks root d place [] [d] (.ok [])
  | unresolved {d : Descent} {place : Place} {name : String} {node : Json}
      {rest : List (String × Json)} {e : ResolveError} (h : Pursues root [] node (.error e)) :
      Walks root d place ((name, node) :: rest) [d] (.error (.resolve e))
  | again {d : Descent} {place : Place} {name : String} {node target : Json}
      {rest : List (String × Json)} {followed : List String} {pointer : String}
      (h : Pursues root [] node (.ok (target, followed)))
      (ha : followed.find? (· ∈ d.active) = some pointer) :
      Walks root d place ((name, node) :: rest) [d] (.error (.resolve (.circular pointer)))
  | refused {d : Descent} {place : Place} {name : String} {node target : Json}
      {rest : List (String × Json)} {followed : List String} {e : TranslateError}
      (h : Pursues root [] node (.ok (target, followed))) (hn : ∀ r ∈ followed, r ∉ d.active)
      (hhere : Expansion.ofNode place name (withDisplay node.display target) = .error e) :
      Walks root d place ((name, node) :: rest) [d] (.error e)
  | leaf {d : Descent} {place : Place} {name : String} {node target : Json}
      {rest : List (String × Json)} {followed : List String} {here : Expansion}
      {after : List Descent} {x : Except TranslateError (List Expansion)}
      (h : Pursues root [] node (.ok (target, followed))) (hn : ∀ r ∈ followed, r ∉ d.active)
      (hhere : Expansion.ofNode place name (withDisplay node.display target) = .ok here)
      (hs : (Shape.classify (withDisplay node.display target)).innerProperties = none)
      (hrest : Walks root d place rest after x) :
      Walks root d place ((name, node) :: rest) (d :: after) (x.map (here :: ·))
  | blocked {d : Descent} {place : Place} {name : String} {node target : Json}
      {rest : List (String × Json)} {followed : List String} {here : Expansion}
      {properties : Members} {names : List String} {within : List Descent} {e : TranslateError}
      (h : Pursues root [] node (.ok (target, followed))) (hn : ∀ r ∈ followed, r ∉ d.active)
      (hhere : Expansion.ofNode place name (withDisplay node.display target) = .ok here)
      (hs : (Shape.classify (withDisplay node.display target)).innerProperties =
        some (properties, names))
      (hinner : Walks root (d.below followed)
        (place.below name (Shape.classify (withDisplay node.display target)) names) properties
        within (.error e)) :
      Walks root d place ((name, node) :: rest) (d :: within) (.error e)
  | branch {d : Descent} {place : Place} {name : String} {node target : Json}
      {rest : List (String × Json)} {followed : List String} {here : Expansion}
      {properties : Members} {names : List String} {within after : List Descent}
      {inner : List Expansion} {x : Except TranslateError (List Expansion)}
      (h : Pursues root [] node (.ok (target, followed))) (hn : ∀ r ∈ followed, r ∉ d.active)
      (hhere : Expansion.ofNode place name (withDisplay node.display target) = .ok here)
      (hs : (Shape.classify (withDisplay node.display target)).innerProperties =
        some (properties, names))
      (hinner : Walks root (d.below followed)
        (place.below name (Shape.classify (withDisplay node.display target)) names) properties
        within (.ok inner))
      (hrest : Walks root d place rest after x) :
      Walks root d place ((name, node) :: rest) (d :: (within ++ after))
        (x.map (here :: inner ++ ·))

section Inner

variable {root node target : Json} {followed unused : List String} {d : Descent} {name : String}
  {rest : List (String × Json)} {properties : Members} {names : List String}

/-- The properties below a node bring no texts under `$ref` but those of the node and the
document. -/
theorem pointersOf_innerProperties (hf : Follows root node target followed)
    (hs : (Shape.classify (withDisplay node.display target)).innerProperties =
      some (properties, names)) :
    pointersOf properties root ⊆ pointersOf ((name, node) :: rest) root := by
  have hnode : node.references ⊆ pointersOf ((name, node) :: rest) root := by
    intro r hr
    simp [pointersOf, referencesOfMembers, hr]
  have hroot : root.references ⊆ pointersOf ((name, node) :: rest) root :=
    List.subset_append_right _ _
  refine List.append_subset.2 ⟨fun r hr => ?_, hroot⟩
  have hresolved : r ∈ (withDisplay node.display target).references :=
    references_of_inside (inside_of_innerProperties hs) hr
  rcases mem_references_of_withDisplay hresolved with h | h
  · exact hnode h
  · exact (hf.mem_references h).elim (hnode ·) (hroot ·)

theorem pointersOf_subset {few more : Members} (h : few ⊆ more) :
    pointersOf few root ⊆ pointersOf more root :=
  List.append_subset.2 ⟨List.subset_append_of_subset_left _ (referencesOfMembers_subset h),
    List.subset_append_right _ _⟩

theorem pointersOf_rest : pointersOf rest root ⊆ pointersOf ((name, node) :: rest) root :=
  pointersOf_subset (List.subset_cons_self _ _)

theorem followed_subset_pointersOf (hf : Follows root node target followed) :
    followed ⊆ pointersOf ((name, node) :: rest) root := by
  intro r hr
  rcases List.mem_append.1 (hf.subset_references hr) with h | h
  · simp [pointersOf, referencesOfMembers, h]
  · exact List.mem_append_right _ h

/-- Of the pointers that matter to properties, just those that are not active may be
followed. -/
def Accounted (root : Json) (properties : Members) (unused : List String) (d : Descent) : Prop :=
  ∀ r ∈ pointersOf properties root, r ∈ unused ↔ r ∉ d.active

/-- At first every pointer that matters may be followed. -/
theorem accounted_of_subset {properties : Members} (h : pointersOf properties root ⊆ unused) :
    Accounted root properties unused {} :=
  fun _ hr => iff_of_true (h hr) List.not_mem_nil

theorem Accounted.others (h : Accounted root ((name, node) :: rest) unused d) :
    Accounted root rest unused d :=
  fun r hr => h r (pointersOf_rest hr)

/-- The account is right below a property, too. -/
theorem Accounted.below (h : Accounted root ((name, node) :: rest) unused d)
    (hf : Follows root node target followed)
    (hs : (Shape.classify (withDisplay node.display target)).innerProperties =
      some (properties, names)) :
    Accounted root properties (withoutAll followed unused) (d.below followed) := by
  intro r hr
  have hmem := h r (pointersOf_innerProperties hf hs hr)
  rw [mem_withoutAll, hmem, Descent.active_below, List.mem_append, not_or]

theorem Accounted.repeated?_eq (h : Accounted root ((name, node) :: rest) unused d)
    (hf : Follows root node target followed) :
    repeated? unused followed = followed.find? (· ∈ d.active) := by
  unfold repeated?
  apply List.find?_congr
  intro r hr
  have hmem := h r (followed_subset_pointersOf hf hr)
  by_cases ha : r ∈ d.active <;> simp [hmem, ha]

/-- Going below a property keeps the active pointers apart and among those given. -/
theorem Descent.Bounded.enter {pointers : List String} (hd : d.Bounded pointers)
    (h : Pursues root [] node (.ok (target, followed))) (hn : ∀ r ∈ followed, r ∉ d.active)
    (hsub : pointersOf ((name, node) :: rest) root ⊆ pointers) :
    (d.below followed).Bounded pointers := by
  obtain ⟨hf, hnodup⟩ := h.follows
  exact hd.below hnodup (List.Subset.trans (followed_subset_pointersOf hf) hsub) hn

end Inner

section Course

variable {root : Json} {unused : List String} {d : Descent} {place : Place}
  {properties : List (String × Json)}

/-- Where the pointers followed from the first property are not active, its node is mapped,
the properties below it are walked through, and then the rest. -/
theorem walk_cons_of_new {name : String} {node target : Json} {followed : List String}
    {rest : List (String × Json)} (h : Pursues root [] node (.ok (target, followed)))
    (ha : Accounted root ((name, node) :: rest) unused d)
    (hn : ∀ r ∈ followed, r ∉ d.active) :
    walk root unused place ((name, node) :: rest) =
      Expansion.ofNode place name (withDisplay node.display target) >>= fun here =>
        walkInner root (withoutAll followed unused) place name (withDisplay node.display target) >>=
          fun inner => (walk root unused place rest).map (here :: inner ++ ·) := by
  have hnone : repeated? unused followed = none := by
    rw [ha.repeated?_eq h.follows.1, List.find?_eq_none]
    simpa using hn
  rw [walk_cons, ← pursues_iff.1 h]
  simp only [hnone]
  cases walk root unused place rest <;> rfl

/-- Where the account of the pointers that may be followed is right, the walk comes to its
end. -/
theorem exists_walks (h : Accounted root properties unused d) :
    ∃ trace, Walks root d place properties trace (walk root unused place properties) := by
  -- The recursion is that of the walk: its account gets shorter, or its properties lighter.
  induction unused, place, properties using walk.induct root generalizing d with
  | case1 unused place =>
    rw [walk_nil]
    exact ⟨[d], .done⟩
  | case2 unused place name node rest e hd =>
    rw [walk_cons, hd]
    exact ⟨[d], .unresolved (pursues_iff.2 hd.symm)⟩
  | case3 unused place name node rest target followed hd pointer hr =>
    have hp : Pursues root [] node (.ok (target, followed)) := pursues_iff.2 hd.symm
    rw [walk_cons, hd]
    simp only [hr]
    rw [h.repeated?_eq hp.follows.1] at hr
    exact ⟨[d], .again hp hr⟩
  | case4 unused place name node rest target followed hd hr resolved shape hinner =>
    rename_i hrest
    have hp : Pursues root [] node (.ok (target, followed)) := pursues_iff.2 hd.symm
    have hf := hp.follows.1
    have hnew : ∀ r ∈ followed, r ∉ d.active := by
      rw [h.repeated?_eq hf, List.find?_eq_none] at hr
      simpa using hr
    rw [walk_cons_of_new hp h hnew]
    cases hhere : Expansion.ofNode place name resolved with
    | error e => exact ⟨[d], .refused hp hnew hhere⟩
    | ok here =>
      obtain ⟨after, hafter⟩ := hrest h.others
      cases hs : shape.innerProperties with
      | none =>
        rw [walkInner_of_none hs]
        exact ⟨d :: after, .leaf hp hnew hhere hs hafter⟩
      | some found =>
        obtain ⟨inner, names⟩ := found
        obtain ⟨within, hwithin⟩ := hinner inner names hs (h.below hf hs)
        rw [walkInner_of_some hs]
        cases hw : walk root (withoutAll followed unused) (place.below name shape names) inner with
        | error e =>
          rw [hw] at hwithin
          exact ⟨d :: within, .blocked hp hnew hhere hs hwithin⟩
        | ok expansions =>
          rw [hw] at hwithin
          exact ⟨d :: (within ++ after), .branch hp hnew hhere hs hwithin hafter⟩

/-- There is no other end than the one that the walk comes to. -/
theorem Walks.eq_walk {trace : List Descent} {x : Except TranslateError (List Expansion)}
    (h : Walks root d place properties trace x)
    (ha : Accounted root properties unused d) : x = walk root unused place properties := by
  induction h generalizing unused with
  | done => rw [walk_nil]
  | unresolved h =>
    rw [walk_cons, ← pursues_iff.1 h]
  | again h hagain =>
    rw [walk_cons, ← pursues_iff.1 h]
    simp only [ha.repeated?_eq h.follows.1, hagain]
  | refused h hn hhere =>
    rw [walk_cons_of_new h ha hn, hhere]
    rfl
  | leaf h hn hhere hs _ ihrest =>
    rw [walk_cons_of_new h ha hn, hhere, walkInner_of_none hs, ihrest ha.others]
    rfl
  | blocked h hn hhere hs _ ihinner =>
    have hinner := ihinner (ha.below h.follows.1 hs)
    rw [walk_cons_of_new h ha hn, hhere, walkInner_of_some hs, ← hinner]
    rfl
  | branch h hn hhere hs _ _ ihinner ihrest =>
    have hinner := ihinner (ha.below h.follows.1 hs)
    rw [walk_cons_of_new h ha hn, hhere, walkInner_of_some hs, ← hinner, ihrest ha.others]
    rfl

/-- On the whole way no pointer is active twice, and only those that stand under `$ref` in
the properties or in the document are. -/
theorem Walks.bounded {pointers : List String} {trace : List Descent}
    {x : Except TranslateError (List Expansion)} (h : Walks root d place properties trace x)
    (hd : d.Bounded pointers) (hsub : pointersOf properties root ⊆ pointers) :
    ∀ passed ∈ trace, passed.Bounded pointers := by
  induction h with
  | done => exact List.forall_mem_singleton.2 hd
  | unresolved => exact List.forall_mem_singleton.2 hd
  | again => exact List.forall_mem_singleton.2 hd
  | refused => exact List.forall_mem_singleton.2 hd
  | leaf _ _ _ _ _ ihrest =>
    exact List.forall_mem_cons.2 ⟨hd, ihrest hd (List.Subset.trans pointersOf_rest hsub)⟩
  | blocked h hn _ hs _ ihinner =>
    have hinner := List.Subset.trans (pointersOf_innerProperties h.follows.1 hs) hsub
    exact List.forall_mem_cons.2 ⟨hd, ihinner (hd.enter h hn hsub) hinner⟩
  | branch h hn _ hs _ _ ihinner ihrest =>
    have hinner := List.Subset.trans (pointersOf_innerProperties h.follows.1 hs) hsub
    have hrest := List.Subset.trans pointersOf_rest hsub
    refine List.forall_mem_cons.2 ⟨hd, fun passed hm => ?_⟩
    rcases List.mem_append.1 hm with hm | hm
    · exact ihinner (hd.enter h hn hsub) hinner passed hm
    · exact ihrest hd hrest passed hm

/-- How properties are walked through does not depend on the account of the pointers, if it
allows all that matter to them. -/
theorem walk_eq_of_subset {more : List String} (hunused : pointersOf properties root ⊆ unused)
    (hmore : pointersOf properties root ⊆ more) :
    walk root unused place properties = walk root more place properties := by
  have hends : ∃ trace, Walks root {} place properties trace (walk root unused place properties) :=
    exists_walks (accounted_of_subset hunused)
  obtain ⟨trace, hwalks⟩ := hends
  exact hwalks.eq_walk (accounted_of_subset hmore)

end Course

inductive Translates (document : Json) : List Descent → Except TranslateError RuleTable → Prop where
  | empty (h : documentProperties document = none) : Translates document [] (.ok {})
  | properties {properties : Members} {trace : List Descent}
      {x : Except TranslateError (List Expansion)}
      (h : documentProperties document = some properties)
      (hw : Walks document {} { required := document.requiredNames } properties trace x) :
      Translates document trace (x.map RuleTable.ofExpansions)

theorem pointersOf_documentProperties {document : Json} {properties : Members}
    (h : documentProperties document = some properties) :
    pointersOf properties document ⊆ document.references :=
  List.append_subset.2 ⟨references_of_inside (inside_of_documentProperties h),
    List.Subset.refl _⟩

/-- Translation ends for every map of properties and every document, and in no other way
than it does. On its way no pointer is active twice, only pointers are that stand under
`$ref` in the properties or in the document, and no more expansions of references lie in
one another than there are different such pointers. -/
theorem translation_course :
    (∀ (properties : Members) (required : List String) (root : Json),
      (∃ trace x, Walks root {} { required } properties trace x) ∧
        ∀ trace x, Walks root {} { required } properties trace x →
          translateProperties properties required root = x.map RuleTable.ofExpansions ∧
            ∀ d ∈ trace, d.active.Nodup ∧ d.active ⊆ pointersOf properties root ∧
              d.expansions ≤ (pointersOf properties root).dedup.length) ∧
      ∀ document : Json,
        (∃ trace x, Translates document trace x) ∧
          ∀ trace x, Translates document trace x → translate document = x ∧
            ∀ d ∈ trace, d.active.Nodup ∧ d.active ⊆ document.references ∧
              d.expansions ≤ document.references.dedup.length := by
  constructor
  · intro properties required root
    have ha := accounted_of_subset (List.Subset.refl (pointersOf properties root))
    have hends : ∃ trace, Walks root {} { required } properties trace
        (expandProperties properties required root) := exists_walks ha
    refine ⟨hends.imp fun trace h => ⟨_, h⟩, fun trace x h => ⟨?_, fun d hd => ?_⟩⟩
    · rw [h.eq_walk ha]
      rfl
    · have hbounded := h.bounded (Descent.bounded_empty _) (List.Subset.refl _) d hd
      exact ⟨hbounded.nodup, hbounded.subset, hbounded.expansions_le⟩
  · intro document
    cases hp : documentProperties document with
    | none =>
      refine ⟨⟨[], _, .empty hp⟩, fun trace x h => ?_⟩
      cases h with
      | empty => exact ⟨by rw [translate, hp], by simp⟩
      | properties h => simp [hp] at h
    | some properties =>
      have ha := accounted_of_subset (List.Subset.refl (pointersOf properties document))
      have hends : ∃ trace, Walks document {} { required := document.requiredNames } properties
          trace (expandProperties properties document.requiredNames document) := exists_walks ha
      refine ⟨hends.imp fun trace h => ⟨_, .properties hp h⟩, fun trace x h => ?_⟩
      cases h with
      | empty h => simp [hp] at h
      | properties h hw =>
        obtain rfl := Option.some.inj (hp.symm.trans h)
        refine ⟨?_, fun d hd => ?_⟩
        · rw [translate, hp, hw.eq_walk ha]
          rfl
        · have hbounded := hw.bounded (Descent.bounded_empty _)
            (pointersOf_documentProperties hp) d hd
          exact ⟨hbounded.nodup, hbounded.subset, hbounded.expansions_le⟩

end Rulebook
