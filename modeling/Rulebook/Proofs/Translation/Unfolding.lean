import Rulebook.Proofs.Reference.Unwinding
import Rulebook.Proofs.Translation.Closed
import Rulebook.Proofs.Translation.Course

/-! The unfolding of declared properties, in which every pointer is followed however often it
comes. Where it ends and no pointer is active twice on the way, the walk ends in the same way.
Where one is, the walk ends at it, and it ends so as well where there is no end of the
unfolding. -/

namespace Rulebook
open Json Outcome

/-- Unfolding properties ends in one way or another. The descents are those of the properties
that it comes to on its way. -/
inductive Unfolds (root : Json) : Descent → Place → List (String × Json) → List Descent →
    Except TranslateError (List Expansion) → Prop where
  | done {d : Descent} {place : Place} : Unfolds root d place [] [] (.ok [])
  | unresolved {d : Descent} {place : Place} {name : String} {node : Json}
      {rest : List (String × Json)} {e : ResolveError} (h : Unwinds root node (.error e)) :
      Unfolds root d place ((name, node) :: rest) [] (.error (.resolve e))
  | refused {d : Descent} {place : Place} {name : String} {node target : Json}
      {rest : List (String × Json)} {followed : List String} {e : TranslateError}
      (h : Unwinds root node (.ok (target, followed)))
      (hhere : Expansion.ofNode place name (withDisplay node.display target) = .error e) :
      Unfolds root d place ((name, node) :: rest) [d.below followed] (.error e)
  | leaf {d : Descent} {place : Place} {name : String} {node target : Json}
      {rest : List (String × Json)} {followed : List String} {here : Expansion}
      {after : List Descent} {x : Except TranslateError (List Expansion)}
      (h : Unwinds root node (.ok (target, followed)))
      (hhere : Expansion.ofNode place name (withDisplay node.display target) = .ok here)
      (hs : (Shape.classify (withDisplay node.display target)).innerProperties = none)
      (hrest : Unfolds root d place rest after x) :
      Unfolds root d place ((name, node) :: rest) (d.below followed :: after) (x.map (here :: ·))
  | blocked {d : Descent} {place : Place} {name : String} {node target : Json}
      {rest : List (String × Json)} {followed : List String} {here : Expansion}
      {properties : Members} {names : List String} {within : List Descent} {e : TranslateError}
      (h : Unwinds root node (.ok (target, followed)))
      (hhere : Expansion.ofNode place name (withDisplay node.display target) = .ok here)
      (hs : (Shape.classify (withDisplay node.display target)).innerProperties =
        some (properties, names))
      (hinner : Unfolds root (d.below followed)
        (place.below name (Shape.classify (withDisplay node.display target)) names) properties
        within (.error e)) :
      Unfolds root d place ((name, node) :: rest) (d.below followed :: within) (.error e)
  | branch {d : Descent} {place : Place} {name : String} {node target : Json}
      {rest : List (String × Json)} {followed : List String} {here : Expansion}
      {properties : Members} {names : List String} {within after : List Descent}
      {inner : List Expansion} {x : Except TranslateError (List Expansion)}
      (h : Unwinds root node (.ok (target, followed)))
      (hhere : Expansion.ofNode place name (withDisplay node.display target) = .ok here)
      (hs : (Shape.classify (withDisplay node.display target)).innerProperties =
        some (properties, names))
      (hinner : Unfolds root (d.below followed)
        (place.below name (Shape.classify (withDisplay node.display target)) names) properties
        within (.ok inner))
      (hrest : Unfolds root d place rest after x) :
      Unfolds root d place ((name, node) :: rest) (d.below followed :: (within ++ after))
        (x.map (here :: inner ++ ·))

def Descent.Clean (d : Descent) : Prop := d.active.Nodup

section Guard

variable {root node target : Json} {d : Descent} {place : Place}
  {properties : List (String × Json)} {trace : List Descent} {followed : List String}
  {x : Except TranslateError (List Expansion)}

theorem TranslateError.ne_circular_of_ofNode {name : String} {resolved : Json}
    {e : TranslateError} (h : Expansion.ofNode place name resolved = .error e) (pointer : String) :
    e ≠ .resolve (.circular pointer) :=
  Rule.ne_resolve_of_ofNode (map_eq_error.1 h) _

/-- An unfolding that ends is never put down to a circle. -/
theorem Unfolds.ne_circular (h : Unfolds root d place properties trace x) (pointer : String) :
    x ≠ .error (.resolve (.circular pointer)) := by
  intro hx
  induction h with
  | done => simp at hx
  | unresolved h =>
    obtain rfl := TranslateError.resolve.inj (Except.error.inj hx)
    exact (unwinds_iff.1 h).2 pointer rfl
  | refused _ hhere =>
    exact TranslateError.ne_circular_of_ofNode hhere pointer (Except.error.inj hx)
  | leaf _ _ _ _ ihrest => exact ihrest (map_eq_error.1 hx)
  | blocked _ _ _ _ ihinner => exact ihinner hx
  | branch _ _ _ _ _ _ ihrest => exact ihrest (map_eq_error.1 hx)

/-- Going below a property leaves no pointer active twice if those that were followed from it
are not active. -/
theorem clean_below_iff (h : Unwinds root node (.ok (target, followed))) (hd : d.Clean) :
    (d.below followed).Clean ↔ ∀ r ∈ followed, r ∉ d.active := by
  have hnodup := (unwinds_iff.1 h).1.follows.2
  rw [Descent.Clean, Descent.active_below, List.nodup_append]
  constructor
  · rintro ⟨-, -, hapart⟩ r hr ha
    exact hapart r ha r hr rfl
  · intro hnew
    refine ⟨hd, hnodup, fun r ha s hs => ?_⟩
    rintro rfl
    exact hnew r hs ha

/-- Where no pointer is active twice on the way, the walk is the unfolding. -/
theorem Unfolds.walks (h : Unfolds root d place properties trace x) (hd : d.Clean)
    (hclean : ∀ passed ∈ trace, passed.Clean) :
    ∃ passed, Walks root d place properties passed x := by
  induction h with
  | done => exact ⟨_, .done⟩
  | unresolved h => exact ⟨_, .unresolved (unwinds_iff.1 h).1⟩
  | refused h hhere =>
    have hnew := (clean_below_iff h hd).1 (hclean _ (by simp))
    exact ⟨_, .refused (unwinds_iff.1 h).1 hnew hhere⟩
  | leaf h hhere hs _ ihrest =>
    obtain ⟨hfirst, hafter⟩ := List.forall_mem_cons.1 hclean
    obtain ⟨passed, hwalks⟩ := ihrest hd hafter
    exact ⟨_, .leaf (unwinds_iff.1 h).1 ((clean_below_iff h hd).1 hfirst) hhere hs hwalks⟩
  | blocked h hhere hs _ ihinner =>
    obtain ⟨hfirst, hwithin⟩ := List.forall_mem_cons.1 hclean
    obtain ⟨passed, hwalks⟩ := ihinner hfirst hwithin
    exact ⟨_, .blocked (unwinds_iff.1 h).1 ((clean_below_iff h hd).1 hfirst) hhere hs hwalks⟩
  | branch h hhere hs _ _ ihinner ihrest =>
    obtain ⟨hfirst, hothers⟩ := List.forall_mem_cons.1 hclean
    obtain ⟨hwithin, hafter⟩ := List.forall_mem_append.1 hothers
    obtain ⟨passed, hwalks⟩ := ihinner hfirst hwithin
    obtain ⟨passed', hwalks'⟩ := ihrest hd hafter
    exact ⟨_, .branch (unwinds_iff.1 h).1 ((clean_below_iff h hd).1 hfirst) hhere hs hwalks hwalks'⟩

/-- A property from which an active pointer is followed ends the walk. -/
theorem walks_again {name : String} {rest : List (String × Json)}
    (h : Unwinds root node (.ok (target, followed))) (hd : d.Clean)
    (hnot : ¬ (d.below followed).Clean) :
    ∃ passed pointer, Walks root d place ((name, node) :: rest) passed
      (.error (.resolve (.circular pointer))) := by
  rw [clean_below_iff h hd] at hnot
  obtain ⟨pointer, hfind⟩ : ∃ pointer, followed.find? (· ∈ d.active) = some pointer := by
    rw [← Option.isSome_iff_exists, List.find?_isSome]
    simpa using hnot
  exact ⟨_, pointer, .again (unwinds_iff.1 h).1 hfind⟩

/-- Where a pointer is active twice on the way, the walk ends at one. -/
theorem Unfolds.walks_circular (h : Unfolds root d place properties trace x) (hd : d.Clean)
    (hnot : ∃ passed ∈ trace, ¬ passed.Clean) :
    ∃ passed pointer,
      Walks root d place properties passed (.error (.resolve (.circular pointer))) := by
  induction h with
  | done => simp at hnot
  | unresolved => simp at hnot
  | refused h => exact walks_again h hd (by simpa using hnot)
  | @leaf d _ _ _ _ _ followed _ _ _ h hhere hs _ ihrest =>
    by_cases hfirst : (d.below followed).Clean
    · obtain ⟨passed, pointer, hwalks⟩ := ihrest hd (by simpa [hfirst] using hnot)
      exact ⟨_, pointer,
        .leaf (unwinds_iff.1 h).1 ((clean_below_iff h hd).1 hfirst) hhere hs hwalks⟩
    · exact walks_again h hd hfirst
  | @blocked d _ _ _ _ _ followed _ _ _ _ _ h hhere hs _ ihinner =>
    by_cases hfirst : (d.below followed).Clean
    · obtain ⟨passed, pointer, hwalks⟩ := ihinner hfirst (by simpa [hfirst] using hnot)
      exact ⟨_, pointer,
        .blocked (unwinds_iff.1 h).1 ((clean_below_iff h hd).1 hfirst) hhere hs hwalks⟩
    · exact walks_again h hd hfirst
  | @branch d _ _ _ _ _ followed _ _ _ within after _ _ h hhere hs hinner _ ihinner ihrest =>
    by_cases hfirst : (d.below followed).Clean
    · have hnew := (clean_below_iff h hd).1 hfirst
      by_cases hwithin : ∀ passed ∈ within, passed.Clean
      · have hafter : ∃ passed ∈ after, ¬ passed.Clean := by
          obtain ⟨passed, hm, hunclean⟩ := hnot
          rcases List.mem_cons.1 hm with rfl | hm
          · exact absurd hfirst hunclean
          · rcases List.mem_append.1 hm with hm | hm
            · exact absurd (hwithin passed hm) hunclean
            · exact ⟨passed, hm, hunclean⟩
        obtain ⟨passed, hwalks⟩ := hinner.walks hfirst hwithin
        obtain ⟨passed', pointer, hwalks'⟩ := ihrest hd hafter
        exact ⟨_, pointer, .branch (unwinds_iff.1 h).1 hnew hhere hs hwalks hwalks'⟩
      · obtain ⟨passed, pointer, hwalks⟩ := ihinner hfirst (by simpa using hwithin)
        exact ⟨_, pointer, .blocked (unwinds_iff.1 h).1 hnew hhere hs hwalks⟩
    · exact walks_again h hd hfirst

/-- A walk that is not put down to a circle is an unfolding in which no pointer is active
twice. -/
theorem Walks.unfolds {passed : List Descent} (h : Walks root d place properties passed x)
    (hd : d.Clean) (hx : ∀ pointer, x ≠ .error (.resolve (.circular pointer))) :
    ∃ trace, Unfolds root d place properties trace x ∧ ∀ e ∈ trace, e.Clean := by
  induction h with
  | done => exact ⟨[], .done, by simp⟩
  | unresolved h =>
    have hunwinds := unwinds_iff.2 ⟨h, fun pointer he => hx pointer (by rw [Except.error.inj he])⟩
    exact ⟨[], .unresolved hunwinds, by simp⟩
  | again => exact absurd rfl (hx _)
  | refused h hn hhere =>
    have hunwinds := unwinds_iff.2 ⟨h, by simp⟩
    have hfirst := (clean_below_iff hunwinds hd).2 hn
    exact ⟨_, .refused hunwinds hhere, by simpa using hfirst⟩
  | leaf h hn hhere hs _ ihrest =>
    have hunwinds := unwinds_iff.2 ⟨h, by simp⟩
    have hfirst := (clean_below_iff hunwinds hd).2 hn
    obtain ⟨after, hunfolds, hafter⟩ :=
      ihrest hd fun pointer he => hx pointer (map_eq_error.2 he)
    exact ⟨_, .leaf hunwinds hhere hs hunfolds, List.forall_mem_cons.2 ⟨hfirst, hafter⟩⟩
  | blocked h hn hhere hs _ ihinner =>
    have hunwinds := unwinds_iff.2 ⟨h, by simp⟩
    have hfirst := (clean_below_iff hunwinds hd).2 hn
    obtain ⟨within, hunfolds, hwithin⟩ := ihinner hfirst hx
    exact ⟨_, .blocked hunwinds hhere hs hunfolds, List.forall_mem_cons.2 ⟨hfirst, hwithin⟩⟩
  | branch h hn hhere hs _ _ ihinner ihrest =>
    have hunwinds := unwinds_iff.2 ⟨h, by simp⟩
    have hfirst := (clean_below_iff hunwinds hd).2 hn
    obtain ⟨within, hunfolds, hwithin⟩ := ihinner hfirst (by simp)
    obtain ⟨after, hunfolds', hafter⟩ :=
      ihrest hd fun pointer he => hx pointer (map_eq_error.2 he)
    exact ⟨_, .branch hunwinds hhere hs hunfolds hunfolds',
      List.forall_mem_cons.2 ⟨hfirst, List.forall_mem_append.2 ⟨hwithin, hafter⟩⟩⟩

end Guard

inductive Unfolding (document : Json) : List Descent → Except TranslateError RuleTable → Prop where
  | empty (h : documentProperties document = none) : Unfolding document [] (.ok {})
  | properties {properties : Members} {trace : List Descent}
      {x : Except TranslateError (List Expansion)}
      (h : documentProperties document = some properties)
      (hw : Unfolds document {} { required := document.requiredNames } properties trace x) :
      Unfolding document trace (x.map RuleTable.ofExpansions)

def Endless (document : Json) : Prop := ∀ trace x, ¬ Unfolding document trace x

section Document

variable {document : Json} {properties : Members}

theorem translate_of_walks (h : documentProperties document = some properties)
    {passed : List Descent} {x : Except TranslateError (List Expansion)}
    (hw : Walks document {} { required := document.requiredNames } properties passed x) :
    translate document = x.map RuleTable.ofExpansions := by
  rw [translate, h, hw.eq_walk (accounted_of_subset (List.Subset.refl _))]
  rfl

/-- An unfolding that comes to its end without a pointer active twice is the translation. -/
theorem Unfolding.translate_eq {trace : List Descent} {x : Except TranslateError RuleTable}
    (h : Unfolding document trace x) (hclean : ∀ d ∈ trace, d.Clean) : translate document = x := by
  cases h with
  | empty h => rw [translate, h]
  | properties h hw =>
    obtain ⟨passed, hwalks⟩ := hw.walks List.nodup_nil hclean
    exact translate_of_walks h hwalks

theorem Unfolding.translate_circular {trace : List Descent}
    {x : Except TranslateError RuleTable} (h : Unfolding document trace x)
    (hnot : ∃ d ∈ trace, ¬ d.Clean) :
    ∃ pointer, translate document = .error (.resolve (.circular pointer)) := by
  cases h with
  | empty => simp at hnot
  | properties h hw =>
    obtain ⟨passed, pointer, hwalks⟩ := hw.walks_circular List.nodup_nil hnot
    exact ⟨pointer, translate_of_walks h hwalks⟩

theorem Unfolding.ne_circular {trace : List Descent} {x : Except TranslateError RuleTable}
    (h : Unfolding document trace x) (pointer : String) :
    x ≠ .error (.resolve (.circular pointer)) := by
  cases h with
  | empty => simp
  | properties _ hw => exact fun hx => hw.ne_circular pointer (map_eq_error.1 hx)

theorem Endless.translate_circular (h : Endless document) :
    ∃ pointer, translate document = .error (.resolve (.circular pointer)) := by
  cases hp : documentProperties document with
  | none => exact absurd (.empty hp) (h _ _)
  | some properties =>
    have hends : ∃ passed, Walks document {} { required := document.requiredNames } properties
        passed (expandProperties properties document.requiredNames document) :=
      exists_walks (accounted_of_subset (List.Subset.refl _))
    obtain ⟨passed, hwalks⟩ := hends
    by_contra hnone
    have hne : ∀ pointer, expandProperties properties document.requiredNames document ≠
        .error (.resolve (.circular pointer)) := by
      intro pointer he
      refine hnone ⟨pointer, ?_⟩
      rw [translate_of_walks hp hwalks, he]
      rfl
    obtain ⟨trace, hunfolds, -⟩ := hwalks.unfolds List.nodup_nil hne
    exact h _ _ (.properties hp hunfolds)

/-- A document is rejected for a circle exactly when its unfolding never ends, or comes to a
pointer that is active already. -/
theorem translate_circular_iff :
    (∃ pointer, translate document = .error (.resolve (.circular pointer))) ↔
      Endless document ∨ ∃ trace x, Unfolding document trace x ∧ ∃ d ∈ trace, ¬ d.Clean := by
  constructor
  · rintro ⟨pointer, hcircular⟩
    by_contra hneither
    obtain ⟨hends, hclean⟩ := not_or.1 hneither
    obtain ⟨trace, x, hunfolding⟩ : ∃ trace x, Unfolding document trace x := by
      simpa [Endless] using hends
    have htranslate := hunfolding.translate_eq fun d hd => by
      by_contra hd'
      exact hclean ⟨trace, x, hunfolding, d, hd, hd'⟩
    exact hunfolding.ne_circular pointer (htranslate.symm.trans hcircular)
  · rintro (h | ⟨trace, x, h, hnot⟩)
    · exact h.translate_circular
    · exact h.translate_circular hnot

end Document

end Rulebook
