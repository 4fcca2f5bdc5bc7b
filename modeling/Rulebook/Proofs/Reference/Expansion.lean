import Mathlib.Logic.Relation
import Rulebook.Proofs.Reference.Closed

/-! When inlining succeeds. A pointer leads on to those that are live in the value that
it names. A value is inlined exactly if every pointer that can be reached from it names
a value and none leads back to itself, and the copies are then those that would be made
without keeping an account of the pointers entered. -/

namespace Rulebook
namespace Json
open Outcome Relation

/-- One pointer leads to another one, which is live in what the first one names. -/
def LeadsTo (root : Json) (pointer next : String) : Prop :=
  ∃ target, Pointer.resolve root pointer = .ok target ∧ Live next target ∧ isPointer next

/-- A pointer that is live in a value, or to which one that is live leads in the end. -/
def Reached (root v : Json) (pointer : String) : Prop :=
  ∃ first, Live first v ∧ isPointer first ∧ ReflTransGen (LeadsTo root) first pointer

def Recursive (root : Json) (pointer : String) : Prop :=
  TransGen (LeadsTo root) pointer pointer

section Reached

variable {root v target : Json} {pointer next : String}

theorem Reached.live (hl : Live pointer v) (hp : isPointer pointer) : Reached root v pointer :=
  ⟨pointer, hl, hp, .refl⟩

/-- What a value reaches through a pointer is what the pointer's target reaches. -/
theorem reached_iff : Reached root v pointer ↔ ∃ first, Live first v ∧ isPointer first ∧
    (first = pointer ∨ ∃ target, Pointer.resolve root first = .ok target ∧
      Reached root target pointer) := by
  constructor
  · rintro ⟨first, hl, hp, hchain⟩
    rcases hchain.cases_head with rfl | ⟨next, ⟨target, ht, hnext, hpn⟩, hrest⟩
    · exact ⟨first, hl, hp, .inl rfl⟩
    · exact ⟨first, hl, hp, .inr ⟨target, ht, next, hnext, hpn, hrest⟩⟩
  · rintro ⟨first, hl, hp, rfl | ⟨target, ht, next, hnext, hpn, hrest⟩⟩
    · exact .live hl hp
    · exact ⟨first, hl, hp, .head ⟨target, ht, hnext, hpn⟩ hrest⟩

theorem Reached.through (hl : Live pointer v) (hp : isPointer pointer)
    (ht : Pointer.resolve root pointer = .ok target) (h : Reached root target next) :
    Reached root v next :=
  reached_iff.2 ⟨pointer, hl, hp, .inr ⟨target, ht, h⟩⟩

/-- A pointer leads back to itself if its target reaches it. -/
theorem recursive_iff (ht : Pointer.resolve root pointer = .ok target) :
    Recursive root pointer ↔ Reached root target pointer := by
  unfold Recursive
  rw [TransGen.head'_iff]
  constructor
  · rintro ⟨next, ⟨found, hf, hl, hp⟩, hchain⟩
    obtain rfl : target = found := Except.ok.inj (ht.symm.trans hf)
    exact ⟨next, hl, hp, hchain⟩
  · rintro ⟨next, hl, hp, hchain⟩
    exact ⟨next, ⟨target, ht, hl, hp⟩, hchain⟩

theorem mem_references_of_leadsTo (h : LeadsTo root pointer next) : next ∈ root.references := by
  obtain ⟨target, ht, hl, -⟩ := h
  exact references_of_inside (Pointer.inside_of_resolve ht) hl.mem_references

/-- The pointers that inlining may enter at first are all that it can reach. -/
theorem Reached.mem_references (h : Reached root v pointer) :
    pointer ∈ v.references ++ root.references := by
  obtain ⟨first, hl, -, hchain⟩ := h
  rw [List.mem_append]
  cases hchain with
  | refl => exact .inl hl.mem_references
  | tail _ hlast => exact .inr (mem_references_of_leadsTo hlast)

end Reached

section Success

variable {root v w : Json} {unused other : List String} {pointer : String}

/-- A pointer that is live in a value that was inlined was entered. -/
theorem entered_of_live (h : inlineWithin root unused v = .ok w) (hl : Live pointer v)
    (hp : isPointer pointer) : pointer ∈ unused ∧ ∃ target u,
      Pointer.resolve root pointer = .ok target ∧
        inlineWithin root (without pointer unused) target = .ok u := by
  rw [inlineWithin_eq] at h
  obtain ⟨u, hu⟩ := exists_expand_of_live hl h
  rcases expandWithin_eq_ok.1 hu with ⟨rfl, -⟩ | ⟨-, hmem, target, ht, hu⟩
  · exact absurd rfl (ne_hash_of_isPointer hp)
  · exact ⟨hmem, target, u, ht, hu⟩

/-- A pointer that a value reaches was entered when the value was inlined, from where
fewer pointers could be entered. -/
theorem entered_of_reached (h : inlineWithin root unused v = .ok w)
    (hr : Reached root v pointer) : ∃ left ⊆ unused, pointer ∈ left ∧ ∃ target u,
      Pointer.resolve root pointer = .ok target ∧
        inlineWithin root (without pointer left) target = .ok u := by
  obtain ⟨first, hl, hp, hchain⟩ := hr
  induction hchain with
  | refl =>
    obtain ⟨hmem, hentered⟩ := entered_of_live h hl hp
    exact ⟨unused, List.Subset.refl _, hmem, hentered⟩
  | @tail middle last _ hlast ih =>
    obtain ⟨left, hsub, -, target, u, ht, hu⟩ := ih
    obtain ⟨found, hf, hlive, hpl⟩ := hlast
    obtain rfl : target = found := Except.ok.inj (ht.symm.trans hf)
    obtain ⟨hmem, hentered⟩ := entered_of_live hu hlive hpl
    have hless : without middle left ⊆ left := List.filter_subset_self _
    exact ⟨without middle left, List.Subset.trans hless hsub, hmem, hentered⟩

/-- No pointer that a value reaches leads back when the value is inlined, since it could
not have been entered again. -/
theorem not_recursive_of_reached (h : inlineWithin root unused v = .ok w)
    (hr : Reached root v pointer) : ¬ Recursive root pointer := by
  intro hcycle
  obtain ⟨left, -, -, target, u, ht, hu⟩ := entered_of_reached h hr
  have hback : Reached root target pointer := (recursive_iff ht).1 hcycle
  obtain ⟨less, hsub, hmem, -⟩ := entered_of_reached hu hback
  simpa [without] using hsub hmem

/-- It makes no difference which pointers may be entered, as long as those are among
them that can be reached. -/
theorem inlineWithin_of_reached (h : inlineWithin root unused v = .ok w)
    (hother : ∀ pointer, Reached root v pointer → pointer ∈ other) :
    inlineWithin root other v = .ok w := by
  induction hn : unused.length using Nat.strongRecOn generalizing unused other v w with
  | ind n ih =>
    have hacyclic : ∀ pointer, Reached root v pointer → ¬ Recursive root pointer :=
      fun _ hr => not_recursive_of_reached h hr
    rw [inlineWithin_eq] at h ⊢
    refine inlineWith_of_expand h fun pointer u hl hu => expandWithin_eq_ok.2 ?_
    rcases expandWithin_eq_ok.1 hu with hself | ⟨hne, hmem, target, ht, hu⟩
    · exact .inl hself
    · have hp : isPointer pointer := hl.internal.resolve_left hne
      have hlt : (without pointer unused).length < unused.length := length_without_lt hmem
      have hleft : ∀ next, Reached root target next → next ∈ without pointer other := by
        intro next hnext
        have hnext' : Reached root v next := .through hl hp ht hnext
        refine List.mem_filter.2 ⟨hother next hnext', ?_⟩
        rw [bne_iff_ne]
        rintro rfl
        exact hacyclic next hnext' ((recursive_iff ht).2 hnext)
      exact .inr ⟨hne, hother pointer (.live hl hp), target, ht,
        ih _ (by omega) hu hleft rfl⟩

theorem inlineReferences_of_inlineWithin (h : inlineWithin root unused v = .ok w) :
    inlineReferences root v = .ok w :=
  inlineWithin_of_reached h fun _ hr => hr.mem_references

end Success

section Failure

variable {root v : Json} {unused : List String} {e : ResolveError}

/-- Inlining fails at a pointer that can be reached, because it names nothing or because
it leads back to itself. A pointer that was entered before may be met only if it leads
back. -/
theorem fault_of_inlineWithin
    (hentered : ∀ pointer, Reached root v pointer → pointer ∉ unused → Recursive root pointer)
    (h : inlineWithin root unused v = .error e) : ∃ pointer, Reached root v pointer ∧
      (Pointer.resolve root pointer = .error e ∨
        e = .circular pointer ∧ Recursive root pointer) := by
  induction hn : unused.length using Nat.strongRecOn generalizing unused v with
  | ind n ih =>
    rw [inlineWithin_eq] at h
    obtain ⟨pointer, hl, hp⟩ := exists_live_of_error h
    unfold expandWithin at hp
    split_ifs at hp with hself hmem
    · have hpointer : isPointer pointer := hl.internal.resolve_left hself
      rcases bind_eq_error.1 hp with hp | ⟨target, ht, hp⟩
      · exact ⟨pointer, .live hl hpointer, .inl hp⟩
      · have hlt : (without pointer unused).length < unused.length := length_without_lt hmem
        have hinside : ∀ next, Reached root target next → next ∉ without pointer unused →
            Recursive root next := by
          intro next hnext hnot
          by_cases hsame : next = pointer
          · subst hsame
            exact (recursive_iff ht).2 hnext
          · refine hentered next (.through hl hpointer ht hnext) fun hm => hnot ?_
            exact List.mem_filter.2 ⟨hm, bne_iff_ne.2 hsame⟩
        obtain ⟨last, hlast, hfault⟩ := ih _ (by omega) hinside hp rfl
        exact ⟨last, .through hl hpointer ht hlast, hfault⟩
    · have hr : Reached root v pointer := .live hl (hl.internal.resolve_left hself)
      exact ⟨pointer, hr, .inr ⟨(Except.error.inj hp).symm, hentered pointer hr hmem⟩⟩

theorem fault_of_inlineReferences (h : inlineReferences root v = .error e) :
    ∃ pointer, Reached root v pointer ∧ (Pointer.resolve root pointer = .error e ∨
      e = .circular pointer ∧ Recursive root pointer) :=
  fault_of_inlineWithin (fun _ hr hnot => absurd hr.mem_references hnot) h

end Failure

/-- What a reference stands for: the copy of what it names, made on its own. It is `null`
where there is no such copy. -/
def standIn (root : Json) (reference : String) : Json :=
  if reference = "#" then selfReference root
  else (Pointer.resolve root reference >>= inlineReferences root).toOption.getD .null

section StandIn

variable {root v w target u : Json} {unused : List String} {reference : String}

theorem standIn_hash (root : Json) : standIn root "#" = selfReference root := if_pos rfl

theorem standIn_of_resolve (hne : reference ≠ "#")
    (ht : Pointer.resolve root reference = .ok target)
    (hu : inlineReferences root target = .ok u) : standIn root reference = u := by
  have hcopy : (Pointer.resolve root reference >>= inlineReferences root) = .ok u :=
    bind_eq_ok.2 ⟨target, ht, hu⟩
  rw [standIn, if_neg hne, hcopy]
  rfl

/-- Where a reference is met makes no difference to what it is replaced by. -/
theorem standIn_of_expandWithin (h : expandWithin root unused reference = .ok u) :
    standIn root reference = u := by
  rcases expandWithin_eq_ok.1 h with ⟨rfl, rfl⟩ | ⟨hne, -, target, ht, hu⟩
  · exact standIn_hash root
  · exact standIn_of_resolve hne ht (inlineReferences_of_inlineWithin hu)

theorem replaceLive_of_inlineReferences (h : inlineReferences root v = .ok w) :
    w = v.replaceLive (standIn root) := by
  unfold inlineReferences at h
  rw [inlineWithin_eq] at h
  have hexpand : ∀ reference, Live reference v →
      expandWithin root (v.references ++ root.references) reference =
        .ok (standIn root reference) := by
    intro reference hl
    obtain ⟨u, hu⟩ := exists_expand_of_live hl h
    rw [hu, standIn_of_expandWithin hu]
  exact Except.ok.inj (h.symm.trans (inlineWith_of_live hexpand))

theorem standIn_of_reached {pointer : String} (h : inlineReferences root v = .ok w)
    (hr : Reached root v pointer) : ∃ target, Pointer.resolve root pointer = .ok target ∧
      inlineReferences root target = .ok (standIn root pointer) := by
  obtain ⟨left, -, -, target, u, ht, hu⟩ := entered_of_reached h hr
  have hcopy : inlineReferences root target = .ok u := inlineReferences_of_inlineWithin hu
  have hne : pointer ≠ "#" := by
    obtain ⟨first, -, hp, hchain⟩ := hr
    cases hchain with
    | refl => exact ne_hash_of_isPointer hp
    | tail _ hlast =>
      obtain ⟨-, -, -, hp⟩ := hlast
      exact ne_hash_of_isPointer hp
  rw [standIn_of_resolve hne ht hcopy]
  exact ⟨target, ht, hcopy⟩

end StandIn

/-- A value is inlined exactly if every pointer that it reaches names a value and none of
them leads back to itself. A pointer is called circular only if it leads back. Where
inlining succeeds, every live reference is replaced by what it stands for, as in a
substitution that is repeated without a guard. -/
theorem inlineReferences_substitutes (root v : Json) :
    ((∃ w, inlineReferences root v = .ok w) ↔ ∀ pointer, Reached root v pointer →
        (∃ target, Pointer.resolve root pointer = .ok target) ∧ ¬ Recursive root pointer) ∧
      (∀ pointer, inlineReferences root v = .error (.circular pointer) →
        Reached root v pointer ∧ Recursive root pointer) ∧
      ∀ w, inlineReferences root v = .ok w → w = v.replaceLive (standIn root) ∧
        ∀ pointer, Reached root v pointer → ∃ target,
          Pointer.resolve root pointer = .ok target ∧
          inlineReferences root target = .ok (standIn root pointer) ∧
          standIn root pointer = target.replaceLive (standIn root) := by
  refine ⟨⟨?_, ?_⟩, ?_, ?_⟩
  · rintro ⟨w, hw⟩ pointer hr
    obtain ⟨target, ht, -⟩ := standIn_of_reached hw hr
    exact ⟨⟨target, ht⟩, not_recursive_of_reached hw hr⟩
  · intro hall
    cases h : inlineReferences root v with
    | ok w => exact ⟨w, rfl⟩
    | error e =>
      obtain ⟨pointer, hr, hfault⟩ := fault_of_inlineReferences h
      obtain ⟨⟨target, ht⟩, hacyclic⟩ := hall pointer hr
      rcases hfault with hnone | ⟨-, hcycle⟩
      · simp [ht] at hnone
      · exact absurd hcycle hacyclic
  · intro pointer h
    obtain ⟨other, hr, hnone | ⟨he, hcycle⟩⟩ := fault_of_inlineReferences h
    · exact absurd rfl ((Pointer.direct_of_resolve hnone).circular pointer)
    · obtain rfl := ResolveError.circular.inj he
      exact ⟨hr, hcycle⟩
  · intro w h
    refine ⟨replaceLive_of_inlineReferences h, fun pointer hr => ?_⟩
    obtain ⟨target, ht, hcopy⟩ := standIn_of_reached h hr
    exact ⟨target, ht, hcopy, replaceLive_of_inlineReferences hcopy⟩

/-- Two references to one definition are no cycle. A definition that refers to itself is
one, unless it does so among data. -/
example :
    let shared := Json.object [("type", .string "string")]
    let refer := Json.object [("$ref", .string "#/definitions/d")]
    let root := Json.object [("definitions", .object [("d", shared)])]
    let loop := Json.object [("definitions", .object [("d", .object [("not", refer)])])]
    inlineReferences root (.array [refer, refer]) = .ok (.array [shared, shared]) ∧
      inlineReferences loop refer = .error (.circular "#/definitions/d") ∧
      inlineReferences loop (.object [("default", refer)]) =
        .ok (.object [("default", refer)]) := by
  decide +kernel

end Json
end Rulebook
