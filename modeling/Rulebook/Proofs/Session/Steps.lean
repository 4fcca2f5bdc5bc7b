import Rulebook.Resolution.Session

/-! What a step of a session does to its caches and resolvers, and what is
served after a document is put or dropped. -/

namespace Rulebook

namespace Library

/-- Putting a document changes what is served for its URL alone. -/
theorem lookup_put_of_ne {url other : String} (h : other ≠ url) (text : String)
    (library : Library) : (put url text library).lookup other = library.lookup other := by
  have hb : (other == url) = false := by simpa using h
  induction library with
  | nil => simp [put, List.lookup_cons, hb]
  | cons entry rest ih =>
    obtain ⟨u, t⟩ := entry
    by_cases hu : u = url
    · subst hu
      simp [put, List.lookup_cons, hb]
    · simp [put, hu, List.lookup_cons, ih]

theorem lookup_put_self (url text : String) (library : Library) :
    (put url text library).lookup url = some text := by
  induction library with
  | nil => simp [put]
  | cons entry rest ih =>
    obtain ⟨u, t⟩ := entry
    by_cases hu : u = url
    · simp [put, hu]
    · have hb : (url == u) = false := by simpa using Ne.symm hu
      simp [put, hu, List.lookup_cons, hb, ih]

theorem lookup_drop_self (url : String) (library : Library) :
    (drop url library).lookup url = none := by
  refine List.lookup_eq_none_iff.2 fun entry he => ?_
  have hne := (List.mem_filter.1 he).2
  simpa using Ne.symm (by simpa using hne)

theorem lookup_drop_of_ne {url other : String} (h : other ≠ url) (library : Library) :
    (drop url library).lookup other = library.lookup other := by
  induction library with
  | nil => rfl
  | cons entry rest ih =>
    obtain ⟨u, t⟩ := entry
    simp only [drop] at ih
    by_cases hu : u = url
    · subst hu
      have hb : (other == u) = false := by simpa using h
      simpa [drop, List.lookup_cons, hb] using ih
    · simp [drop, hu, List.lookup_cons, ih]

end Library

namespace Session

theorem step_of_find {session : Session} {index : Nat} {resolver : Resolver} {cache : Cache}
    (h : session.find? index = some (resolver, cache)) (action : Action) :
    session.step index action =
      some ((act resolver.library cache action).1,
        { caches := session.caches.set resolver.cache (act resolver.library cache action).1.cache
          resolvers := session.resolvers.set index
            { resolver with library := (act resolver.library cache action).2 } }) := by
  simp [step, h]

/-- A step acts for one resolver on one cache, and writes both back. -/
theorem step_eq_some {session next : Session} {index : Nat} {action : Action}
    {outcome : Outcome} (h : session.step index action = some (outcome, next)) :
    ∃ resolver cache library, session.resolvers[index]? = some resolver ∧
      session.caches[resolver.cache]? = some cache ∧
      act resolver.library cache action = (outcome, library) ∧
      next = { caches := session.caches.set resolver.cache outcome.cache
               resolvers := session.resolvers.set index { resolver with library } } := by
  cases hf : session.find? index with
  | none => simp [step, hf] at h
  | some found =>
    obtain ⟨resolver, cache⟩ := found
    rw [step_of_find hf, Option.some.injEq, Prod.mk.injEq] at h
    obtain ⟨rfl, rfl⟩ := h
    simp only [find?, Option.bind_eq_bind, Option.pure_def, Option.bind_eq_some_iff,
      Option.some.injEq, Prod.mk.injEq] at hf
    obtain ⟨_, hr, _, hc, rfl, rfl⟩ := hf
    exact ⟨_, _, _, hr, hc, rfl, rfl⟩

def Action.source? : Action → Option Source
  | .resolve source => some source
  | .compile source => some source
  | _ => none

def Action.isInsert : Action → Bool
  | .insert _ _ => true
  | _ => false

/-- Every step is allowed in the session that it is taken in. -/
def Careful (allowed : Session → Nat → Action → Prop) : Session → List (Nat × Action) → Prop
  | _, [] => True
  | session, (index, action) :: rest =>
    allowed session index action ∧
      ∀ outcome next, session.step index action = some (outcome, next) → Careful allowed next rest

theorem careful_of_forall {P : Action → Prop} {session : Session}
    {steps : List (Nat × Action)} (h : ∀ step ∈ steps, P step.2) :
    session.Careful (fun _ _ action => P action) steps := by
  induction steps generalizing session with
  | nil => exact trivial
  | cons s rest ih =>
    obtain ⟨hs, hrest⟩ := List.forall_mem_cons.1 h
    exact ⟨hs, fun _ _ _ => ih hrest⟩

/-- A run of several steps is a first step and a run of the others. -/
theorem run_cons_eq_some {session last : Session} {index : Nat} {action : Action}
    {rest : List (Nat × Action)} {outcomes : List Outcome} :
    session.run ((index, action) :: rest) = some (outcomes, last) ↔
      ∃ outcome next more, session.step index action = some (outcome, next) ∧
        next.run rest = some (more, last) ∧ outcomes = outcome :: more := by
  simp only [run, Option.bind_eq_bind, Option.pure_def, Option.bind_eq_some_iff,
    Option.some.injEq, Prod.mk.injEq, Prod.exists]
  constructor
  · rintro ⟨outcome, next, hs, more, _, hr, rfl, rfl⟩
    exact ⟨outcome, next, more, hs, hr, rfl⟩
  · rintro ⟨outcome, next, more, hs, hr, rfl⟩
    exact ⟨outcome, next, hs, more, last, hr, rfl, rfl⟩

/-- What holds at the start and is kept by every allowed step holds after every
run, where the remaining steps are allowed as well. -/
theorem run_induction {P : Session → Prop} {allowed : Session → Nat → Action → Prop}
    (hstep : ∀ mid index action outcome next, P mid → allowed mid index action →
      step mid index action = some (outcome, next) → P next)
    {session last : Session} {steps rest : List (Nat × Action)} {outcomes : List Outcome}
    (hP : P session) (hc : Careful allowed session (steps ++ rest))
    (h : session.run steps = some (outcomes, last)) : P last ∧ Careful allowed last rest := by
  induction steps generalizing session outcomes with
  | nil =>
    simp only [run, Option.some.injEq, Prod.mk.injEq] at h
    rw [← h.2]
    exact ⟨hP, hc⟩
  | cons s steps ih =>
    obtain ⟨index, action⟩ := s
    obtain ⟨outcome, next, more, hs, hr, -⟩ := run_cons_eq_some.1 h
    obtain ⟨ha, hn⟩ := hc
    exact ih (hstep _ _ _ _ _ hP ha hs) (hn _ _ hs) hr

end Session
end Rulebook
