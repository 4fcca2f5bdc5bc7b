import Rulebook.Proofs.Reference.Pursuit

/-! Following references as long as there is one, with nothing kept of the pointers that were
followed. It ends exactly where the references are followed without a pointer coming twice,
and then it ends in the same way. -/

namespace Rulebook
namespace Json
open Outcome

/-- References cannot be followed further than to a node, because of the one that it bears. -/
inductive Fails (root node : Json) : ResolveError → Prop where
  | notText {reference : Json} {put : Json → Json} (hb : Bears node reference put)
      (h : reference.asString? = none) :
      Fails root node (.unsupported reference.compact .notText)
  | outward {reference : String} {put : Json → Json} (hb : Bears node (.string reference) put)
      (hne : reference ≠ "#") (hp : ¬ isPointer reference) :
      Fails root node (.externalReference reference)
  | dangling {pointer : String} {put : Json → Json} {e : ResolveError}
      (hb : Bears node (.string pointer) put) (hp : isPointer pointer)
      (ht : Pointer.resolve root pointer = .error e) : Fails root node e

/-- Following the references of a node comes to an end, in one way or another. -/
inductive Unwinds (root node : Json) : Except ResolveError (Json × List String) → Prop where
  | ends {v : Json} {followed : List String} (h : Follows root node v followed) :
      Unwinds root node (.ok (v, followed))
  | fails {pointers : List String} {last : Json} {e : ResolveError}
      (h : Passes root node pointers last) (hf : Fails root last e) :
      Unwinds root node (.error e)

def Rests (root node : Json) : Prop :=
  ∀ pointer put target, Bears node (.string pointer) put → isPointer pointer →
    Pointer.resolve root pointer ≠ .ok target

section Rests

variable {root node last : Json} {pointers : List String} {pointer : String}

/-- A node bears one reference. -/
theorem Bears.unique {reference other : Json} {put put' : Json → Json}
    (h : Bears node reference put) (h' : Bears node other put') : reference = other := by
  cases h with
  | own h =>
    cases h' with
    | own h' => exact Option.some.inj (h.symm.trans h')
    | items hr => simp [hr] at h
  | items hr hi hir =>
    cases h' with
    | own h' => simp [hr] at h'
    | items _ hi' hir' =>
      obtain rfl := Option.some.inj (hi.symm.trans hi')
      exact Option.some.inj (hir.symm.trans hir')

theorem Fails.rests {e : ResolveError} (h : Fails root node e) : Rests root node := by
  intro pointer put target hb hp ht
  cases h with
  | notText hb' hs =>
    obtain rfl := hb'.unique hb
    simp [asString?] at hs
  | outward hb' _ hp' =>
    obtain rfl := string.inj (hb'.unique hb)
    exact hp' hp
  | dangling hb' _ ht' =>
    obtain rfl := string.inj (hb'.unique hb)
    simp [ht] at ht'

theorem Follows.passes {v : Json} (h : Follows root node v pointers) :
    ∃ last, Passes root node pointers last ∧ Rests root last := by
  induction h with
  | @done node hd =>
    refine ⟨node, .here, fun pointer put target hb => ?_⟩
    cases hb with
    | own hr => simp [hd.1] at hr
    | items _ hi hir => simp [hd.2 _ hi] at hir
  | @self node put hb =>
    refine ⟨node, .here, fun pointer put target hb' hp => ?_⟩
    obtain rfl := string.inj (hb.unique hb')
    exact absurd rfl (ne_hash_of_isPointer hp)
  | pointer hb hp ht _ ih =>
    obtain ⟨last, hpasses, hrests⟩ := ih
    exact ⟨last, .step hb hp ht hpasses, hrests⟩

/-- Every way is a part of the one to where no pointer leads on. -/
theorem Passes.begins {other : Json} {others : List String} (h : Passes root node pointers last)
    (h' : Passes root node others other) (hother : Rests root other) : pointers <+: others := by
  induction h generalizing others with
  | here => exact List.nil_prefix
  | step hb hp ht _ ih =>
    cases h' with
    | here => exact absurd ht (hother _ _ _ hb hp)
    | step hb' _ ht' h' =>
      obtain rfl := string.inj (hb.unique hb')
      obtain rfl := Except.ok.inj (ht.symm.trans ht')
      exact List.cons_prefix_cons.2 ⟨rfl, ih h'⟩

theorem Passes.exists_of_mem (h : Passes root node pointers last) (hm : pointer ∈ pointers) :
    ∃ before after target, pointers = before ++ pointer :: after ∧
      Pointer.resolve root pointer = .ok target ∧ Passes root target after last := by
  induction h with
  | here => simp at hm
  | @step node target last put first more hb hp ht h ih =>
    rcases List.mem_cons.1 hm with rfl | hm
    · exact ⟨[], more, target, rfl, ht, h⟩
    · obtain ⟨before, after, other, rfl, hother, hafter⟩ := ih hm
      exact ⟨first :: before, after, other, rfl, hother, hafter⟩

/-- No pointer comes twice on the way to where none leads on. -/
theorem Passes.nodup (h : Passes root node pointers last) (hlast : Rests root last) :
    pointers.Nodup := by
  induction h with
  | here => exact List.nodup_nil
  | @step node target last put first more hb hp ht h ih =>
    refine List.nodup_cons.2 ⟨fun hm => ?_, ih hlast⟩
    -- The way from the target of a pointer would be a part of itself.
    obtain ⟨before, after, other, rfl, hother, hafter⟩ := h.exists_of_mem hm
    obtain rfl := Except.ok.inj (ht.symm.trans hother)
    have hlength := (h.begins hafter hlast).length_le
    simp at hlength
    omega

theorem Fails.ne_circular {e : ResolveError} (h : Fails root node e) : e ≠ .circular pointer := by
  cases h with
  | notText => simp
  | outward => simp
  | dangling _ _ ht => exact (Pointer.direct_of_resolve ht).circular pointer

theorem Fails.pursues {behind : List String} {e : ResolveError} (h : Fails root node e)
    (hbehind : ∀ r ∈ behind, ∃ target, Pointer.resolve root r = .ok target) :
    Pursues root behind node (.error e) := by
  cases h with
  | notText hb h => exact .notText hb h
  | outward hb hne hp => exact .outward hb hne hp
  | dangling hb hp ht =>
    refine .dangling hb hp (fun hm => ?_) ht
    obtain ⟨target, htarget⟩ := hbehind _ hm
    simp [ht] at htarget

theorem Passes.pursues_error {behind : List String} {e : ResolveError}
    (h : Passes root node pointers last) (hf : Fails root last e)
    (hbehind : ∀ r ∈ behind, ∃ target, Pointer.resolve root r = .ok target)
    (hnodup : pointers.Nodup) (hnew : ∀ r ∈ pointers, r ∉ behind) :
    Pursues root behind node (.error e) := by
  induction h generalizing behind with
  | here => exact hf.pursues hbehind
  | @step node target last put first more hb hp ht h ih =>
    obtain ⟨hfirst, hmore⟩ := List.nodup_cons.1 hnodup
    obtain ⟨hnot, hothers⟩ := List.forall_mem_cons.1 hnew
    have hseen : ∀ r ∈ behind ++ [first], ∃ target, Pointer.resolve root r = .ok target := by
      intro r hr
      rcases List.mem_append.1 hr with hr | hr
      · exact hbehind r hr
      · rw [List.mem_singleton.1 hr]
        exact ⟨target, ht⟩
    have hapart : ∀ r ∈ more, r ∉ behind ++ [first] := by
      intro r hr hm
      rcases List.mem_append.1 hm with hm | hm
      · exact hothers r hr hm
      · exact hfirst (List.mem_singleton.1 hm ▸ hr)
    exact .onward hb hp hnot ht (ih hf hseen hmore hapart)

/-- A failure that is not put down to a circle comes from a node that is reached. -/
theorem Pursues.exists_fails {behind : List String} {x : Except ResolveError (Json × List String)}
    {e : ResolveError} (h : Pursues root behind node x) (hx : x = .error e)
    (he : ∀ pointer, e ≠ .circular pointer) :
    ∃ pointers last, Passes root node pointers last ∧ Fails root last e := by
  induction h with
  | done => simp at hx
  | whole => simp at hx
  | notText hb h =>
    obtain rfl := Except.error.inj hx
    exact ⟨[], _, .here, .notText hb h⟩
  | outward hb hne hp =>
    obtain rfl := Except.error.inj hx
    exact ⟨[], _, .here, .outward hb hne hp⟩
  | again => exact absurd (Except.error.inj hx).symm (he _)
  | dangling hb hp _ ht =>
    obtain rfl := Except.error.inj hx
    exact ⟨[], _, .here, .dangling hb hp ht⟩
  | onward hb hp _ ht _ ih =>
    obtain ⟨pointers, last, hpasses, hfails⟩ := ih (map_eq_error.1 hx)
    exact ⟨_, last, .step hb hp ht hpasses, hfails⟩

end Rests

section Unwinds

variable {root node : Json} {x : Except ResolveError (Json × List String)}

/-- Following references comes to an end of its own unless the account of the pointers ends
it, and to the same end. -/
theorem unwinds_iff :
    Unwinds root node x ↔
      Pursues root [] node x ∧ ∀ pointer, x ≠ .error (.circular pointer) := by
  constructor
  · intro h
    cases h with
    | ends h =>
      obtain ⟨last, hpasses, hrests⟩ := h.passes
      exact ⟨pursues_iff.2 (dereferenceTraced_eq_ok.2 ⟨h, hpasses.nodup hrests⟩).symm, by simp⟩
    | fails h hf =>
      refine ⟨h.pursues_error hf (by simp) (h.nodup hf.rests) (by simp), fun pointer he => ?_⟩
      exact hf.ne_circular (Except.error.inj he)
  · rintro ⟨h, hx⟩
    cases x with
    | ok r => exact .ends h.follows.1
    | error e =>
      have he : ∀ pointer, e ≠ .circular pointer := fun pointer hc => hx pointer (hc ▸ rfl)
      obtain ⟨pointers, last, hpasses, hfails⟩ := h.exists_fails rfl he
      exact .fails hpasses hfails

theorem Unwinds.unique {y : Except ResolveError (Json × List String)} (h : Unwinds root node x)
    (h' : Unwinds root node y) : x = y :=
  (pursues_iff.1 (unwinds_iff.1 h).1).trans (pursues_iff.1 (unwinds_iff.1 h').1).symm

theorem unwinds_ok_iff {r : Json × List String} :
    Unwinds root node (.ok r) ↔ dereferenceTraced root node = .ok r := by
  rw [unwinds_iff, pursues_iff, eq_comm]
  simp

/-- Following references never ends when a pointer comes a second time. -/
def Loops (root node : Json) : Prop :=
  ∃ pointers pointer last, Passes root node (pointers ++ [pointer]) last ∧ pointer ∈ pointers

/-- Where following references does not loop, it ends. -/
theorem loops_iff : Loops root node ↔ ∀ x, ¬ Unwinds root node x := by
  constructor
  · rintro ⟨pointers, pointer, last, hpasses, hm⟩ x hx
    obtain ⟨others, other, hothers, hrests⟩ :
        ∃ others other, Passes root node others other ∧ Rests root other := by
      cases hx with
      | ends h => exact ⟨_, h.passes⟩
      | fails h hf => exact ⟨_, _, h, hf.rests⟩
    have hnodup := (hpasses.begins hothers hrests).sublist.nodup (hothers.nodup hrests)
    exact (List.nodup_append.1 hnodup).2.2 pointer hm pointer (List.mem_singleton_self _) rfl
  · intro h
    have hpursues : Pursues root [] node (dereferenceTraced root node) := pursues_iff.2 rfl
    by_contra hloops
    refine h _ (unwinds_iff.2 ⟨hpursues, fun pointer hx => hloops ?_⟩)
    have hcircular : dereference root node = .error (.circular pointer) := map_eq_error.2 hx
    obtain ⟨pointers, last, hpasses, -, hm⟩ := circular_iff_passes.1 hcircular
    exact ⟨pointers, pointer, last, hpasses, hm⟩

end Unwinds

end Json
end Rulebook
