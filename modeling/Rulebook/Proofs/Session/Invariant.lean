import Rulebook.Proofs.Resolution.Invariant
import Rulebook.Proofs.Session.Steps

/-! What every resolution preserves holds of all that is resolved or stored in
the course of a session. -/

namespace Rulebook

namespace Resolution

theorem Serves.put {Input : Json → Prop} {library : Library} {url text : String}
    (h : Serves Input library) (ht : ∀ document, Json.read text = .ok document → Input document) :
    Serves Input (Library.put url text library) := by
  intro u t document hu hr
  by_cases hue : u = url
  · subst hue
    rw [Library.lookup_put_self] at hu
    obtain rfl := Option.some.inj hu
    exact ht document hr
  · rw [Library.lookup_put_of_ne hue] at hu
    exact h u t document hu hr

theorem Serves.drop {Input : Json → Prop} {library : Library} (h : Serves Input library)
    (url : String) : Serves Input (Library.drop url library) := by
  intro u t document hu hr
  by_cases hue : u = url
  · subst hue
    simp [Library.lookup_drop_self] at hu
  · rw [Library.lookup_drop_of_ne hue] at hu
    exact h u t document hu hr

end Resolution

namespace Session
open Resolution

/-- An action that brings in documents of the kind `Input` alone, all of which
are resolved before they are stored. -/
structure Brings (Input : Json → Prop) (action : Action) : Prop where
  source : ∀ source, action.source? = some source → source.Supplies Input
  text : ∀ url text document, action = .put url text → Json.read text = .ok document →
    Input document
  noInsert : action.isInsert = false

/-- All stored documents are of the kind `P`, and all that are served of the
kind `Input`. -/
structure Tidy (Input P : Json → Prop) (session : Session) : Prop where
  stored : ∀ cache ∈ session.caches, Holds P cache
  served : ∀ resolver ∈ session.resolvers, Serves Input resolver.library

/-- An outcome that leaves documents of the kind `P` alone, and fails to resolve
only in the way `E`. -/
structure TidyOutcome (P : Json → Prop) (E : ResolveError → Prop) (outcome : Outcome) : Prop where
  stored : Holds P outcome.cache
  resolved : ∀ r, outcome.result = .resolved r → Rulebook.Outcome.Yields E P r
  compiled : ∀ c, outcome.result = .compiled c →
    ∃ r, Rulebook.Outcome.Yields E P r ∧ c = compileResolved r

variable {Input P : Json → Prop} {E : ResolveError → Prop}

theorem tidy_act (hp : Preserves Input P E) {library : Library} {cache : Cache} {action : Action}
    (hl : Serves Input library) (hc : Holds P cache) (ha : Brings Input action) :
    TidyOutcome P E (act library cache action).1 ∧
      Serves Input (act library cache action).2 := by
  cases action with
  | resolve source =>
    obtain ⟨hstored, hyield⟩ := hp.resolve hl (ha.source source rfl) { cache } hc
    refine ⟨⟨hstored, fun r hr => ?_, fun c hr => by simp [act] at hr⟩, hl⟩
    obtain rfl := Result.resolved.inj hr
    exact hyield
  | compile source =>
    obtain ⟨hstored, hyield⟩ := hp.resolve hl (ha.source source rfl) { cache } hc
    refine ⟨⟨hstored, fun r hr => by simp [act] at hr, fun c hr => ?_⟩, hl⟩
    obtain rfl := Result.compiled.inj hr
    exact ⟨_, hyield, rfl⟩
  | clear => exact ⟨⟨holds_empty P, by simp [act], by simp [act]⟩, hl⟩
  | insert url d => exact absurd ha.noInsert (by simp [Action.isInsert])
  | put url text =>
    exact ⟨⟨hc, by simp [act], by simp [act]⟩, hl.put fun document => ha.text url text document rfl⟩
  | drop url => exact ⟨⟨hc, by simp [act], by simp [act]⟩, hl.drop url⟩
  | get url => exact ⟨⟨hc, by simp [act], by simp [act]⟩, hl⟩
  | contains url => exact ⟨⟨hc, by simp [act], by simp [act]⟩, hl⟩
  | size => exact ⟨⟨hc, by simp [act], by simp [act]⟩, hl⟩

/-- A step keeps a session tidy. -/
theorem Tidy.step (hp : Preserves Input P E) {session next : Session} {index : Nat}
    {action : Action} {outcome : Outcome} (h : session.Tidy Input P) (ha : Brings Input action)
    (hs : session.step index action = some (outcome, next)) :
    TidyOutcome P E outcome ∧ next.Tidy Input P := by
  obtain ⟨resolver, cache, library, hr, hc, hact, rfl⟩ := step_eq_some hs
  obtain ⟨hout, hserves⟩ := tidy_act hp (h.served resolver (List.mem_of_getElem? hr))
    (h.stored cache (List.mem_of_getElem? hc)) ha
  rw [hact] at hout hserves
  refine ⟨hout, ⟨fun other hm => ?_, fun other hm => ?_⟩⟩
  · rcases List.mem_or_eq_of_mem_set hm with hm | rfl
    · exact h.stored other hm
    · exact hout.stored
  · rcases List.mem_or_eq_of_mem_set hm with hm | rfl
    · exact h.served other hm
    · exact hserves

/-- Every step of a run that starts with empty caches has a tidy outcome. -/
theorem tidy_of_run (hp : Preserves Input P E) {session mid next : Session}
    {before : List (Nat × Action)} {outcomes : List Outcome} {index : Nat} {action : Action}
    {outcome : Outcome} (hempty : ∀ cache ∈ session.caches, cache = {})
    (hserved : ∀ resolver ∈ session.resolvers, Serves Input resolver.library)
    (hbrings : ∀ step ∈ before ++ [(index, action)], Brings Input step.2)
    (hrun : session.run before = some (outcomes, mid))
    (hstep : mid.step index action = some (outcome, next)) :
    TidyOutcome P E outcome ∧ next.Tidy Input P := by
  have hstart : session.Tidy Input P :=
    ⟨fun cache hm => by rw [hempty cache hm]; exact holds_empty P, hserved⟩
  have hcareful : session.Careful (fun _ _ action => Brings Input action)
      (before ++ [(index, action)]) := careful_of_forall hbrings
  obtain ⟨htidy, ha, -⟩ := run_induction (P := Tidy Input P)
    (fun _ _ _ _ _ h ha hs => (h.step hp ha hs).2) hstart hcareful hrun
  exact htidy.step hp ha hstep

end Session
end Rulebook
