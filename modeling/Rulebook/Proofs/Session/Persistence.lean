import Rulebook.Proofs.Resolution.Persistence
import Rulebook.Proofs.Session.Steps

/-! The first document that a URL resolves to is the one that every later resolution
gets, for as long as the cache is not cleared. -/

namespace Rulebook
namespace Session
open Resolution Request

/-- A resolver of a session that works on the cache with a given number. -/
def Works (session : Session) (index number : Nat) : Prop :=
  ∃ resolver, session.resolvers[index]? = some resolver ∧ resolver.cache = number

def Stored (session : Session) (number : Nat) (url : String) (d : Json) : Prop :=
  ∃ cache, session.caches[number]? = some cache ∧ cache.get? url = some d

variable {session next last : Session} {index number : Nat} {action : Action} {outcome : Outcome}
  {url : String} {d : Json}

/-- Only clearing takes anything out of a cache. -/
theorem extends_act (library : Library) (cache : Cache) (h : action ≠ .clear) :
    (act library cache action).1.cache.Extends cache := by
  cases action with
  | resolve source => exact extends_resolve library source { cache }
  | compile source => exact extends_resolve library source { cache }
  | clear => exact absurd rfl h
  | insert url document => exact .insert cache url document
  | get url => exact .refl cache
  | contains url => exact .refl cache
  | size => exact .refl cache
  | put url text => exact .refl cache
  | drop url => exact .refl cache

/-- Every resolver goes on working on its own cache. -/
theorem works_step_iff (hs : session.step index action = some (outcome, next))
    (other number : Nat) : next.Works other number ↔ session.Works other number := by
  obtain ⟨resolver, cache, library, hr, -, -, rfl⟩ := step_eq_some hs
  have hlt : index < session.resolvers.length := (List.getElem?_eq_some_iff.1 hr).1
  unfold Works
  by_cases ho : index = other
  · subst ho
    rw [List.getElem?_set_self hlt, hr]
    simp
  · rw [List.getElem?_set_ne ho]

theorem Stored.step (h : session.Stored number url d)
    (hs : session.step index action = some (outcome, next))
    (hclear : action = .clear → ¬ session.Works index number) : next.Stored number url d := by
  obtain ⟨cache, hc, hd⟩ := h
  obtain ⟨resolver, used, library, hr, hu, hact, rfl⟩ := step_eq_some hs
  by_cases hn : resolver.cache = number
  · have hkeep : action ≠ .clear := fun ha => hclear ha ⟨resolver, hr, hn⟩
    have hextends := extends_act resolver.library used hkeep
    rw [hact] at hextends
    rw [hn] at hu
    obtain rfl : used = cache := Option.some.inj (hu.symm.trans hc)
    obtain ⟨hlt, -⟩ := List.getElem?_eq_some_iff.1 hc
    refine ⟨outcome.cache, ?_, hextends url d hd⟩
    dsimp only
    rw [hn, List.getElem?_set_self hlt]
  · refine ⟨cache, ?_, hd⟩
    dsimp only
    rw [List.getElem?_set_ne hn, hc]

/-- Steps that do not clear the cache leave a stored document where it is. -/
theorem Stored.run {steps : List (Nat × Action)} {outcomes : List Outcome}
    (h : session.Stored number url d) (hrun : session.run steps = some (outcomes, last))
    (hclear : ∀ step ∈ steps, step.2 = .clear → ¬ session.Works step.1 number) :
    last.Stored number url d ∧ ∀ i n, last.Works i n ↔ session.Works i n := by
  induction steps generalizing session outcomes with
  | nil =>
    obtain ⟨-, rfl⟩ := Prod.mk.inj (Option.some.inj hrun)
    exact ⟨h, fun _ _ => Iff.rfl⟩
  | cons step rest ih =>
    obtain ⟨index, action⟩ := step
    obtain ⟨outcome, next, more, hs, hrest, -⟩ := run_cons_eq_some.1 hrun
    obtain ⟨hfirst, hothers⟩ := List.forall_mem_cons.1 hclear
    have hworks := works_step_iff hs
    obtain ⟨hstored, hlast⟩ := ih (h.step hs hfirst) hrest fun step hm ha hw =>
      hothers step hm ha ((hworks step.1 number).1 hw)
    exact ⟨hstored, fun i n => (hlast i n).trans (hworks i n)⟩

/-- A session does every step that is for a resolver whose cache is there. -/
theorem exists_run {steps : List (Nat × Action)}
    (h : ∀ step ∈ steps, ∃ number < session.caches.length, session.Works step.1 number) :
    ∃ outcomes last, session.run steps = some (outcomes, last) := by
  induction steps generalizing session with
  | nil => exact ⟨[], session, rfl⟩
  | cons step rest ih =>
    obtain ⟨index, action⟩ := step
    obtain ⟨⟨number, hlt, resolver, hr, hn⟩, hrest⟩ := List.forall_mem_cons.1 h
    have hc : session.caches[resolver.cache]? = some session.caches[number] := by
      rw [hn, List.getElem?_eq_getElem hlt]
    have hfind : session.find? index = some (resolver, session.caches[number]) := by
      simp [find?, hr, hc]
    have hstep := step_of_find hfind action
    obtain ⟨outcomes, last, hrun⟩ := ih fun step hm => by
      obtain ⟨other, ho, hw⟩ := hrest step hm
      refine ⟨other, ?_, (works_step_iff hstep step.1 other).2 hw⟩
      rwa [List.length_set]
    exact ⟨_, last, run_cons_eq_some.2 ⟨_, _, outcomes, hstep, hrun, rfl⟩⟩

/-- What a step resolves a source with a URL to is stored for the URL. -/
theorem stored_of_resolve {source : Source} (hw : session.Works index number)
    (hurl : source.url = some url)
    (hs : session.step index (.resolve source) = some (outcome, next))
    (hok : outcome.result = .resolved (.ok d)) :
    next.Stored number url d ∧ ∃ base, Json.readBase url = .ok base := by
  obtain ⟨resolver, cache, library, hr, hc, hact, rfl⟩ := step_eq_some hs
  obtain ⟨resolver', hr', rfl⟩ := hw
  obtain rfl : resolver = resolver' := Option.some.inj (hr.symm.trans hr')
  obtain ⟨rfl, rfl⟩ := Prod.mk.inj hact
  have hexec : exec (resolve resolver.library source) { cache } =
      (.ok d, (exec (resolve resolver.library source) { cache }).2) :=
    Prod.ext (Result.resolved.inj hok) rfl
  obtain ⟨hstored, hbase⟩ := get?_of_resolve hurl hexec
  obtain ⟨hlt, -⟩ := List.getElem?_eq_some_iff.1 hc
  exact ⟨⟨_, List.getElem?_set_self hlt, hstored⟩, hbase⟩

/-- A resolver gets what its cache holds for the URL of a source. -/
theorem step_of_stored {source : Source} {base : Url} (h : session.Stored number url d)
    (hw : session.Works index number) (hurl : source.url = some url)
    (hb : Json.readBase url = .ok base) :
    ∃ again after, session.step index (.resolve source) = some (again, after) ∧
      again.result = .resolved (.ok d) ∧ again.fetched = [] := by
  obtain ⟨cache, hc, hd⟩ := h
  obtain ⟨resolver, hr, rfl⟩ := hw
  have hfind : session.find? index = some (resolver, cache) := by
    simp [find?, hr, hc]
  have hexec : Resolution.run (resolve resolver.library source) cache = (.ok d, { cache }) :=
    exec_resolve_of_stored hurl hb hd
  refine ⟨_, _, step_of_find hfind _, ?_, ?_⟩
  · exact congrArg (fun ran => Result.resolved ran.1) hexec
  · exact congrArg (fun ran => ran.2.fetched) hexec

/-- Once a URL has been resolved to a document, the cache holds this document for it, and
every resolver on the cache gets it and fetches nothing, whatever the resolvers do in
between, as long as none clears this cache. -/
theorem first_resolution_stays {mid : Session} {source : Source} {first : Outcome}
    {between : List (Nat × Action)} {outcomes : List Outcome} (hw : session.Works index number)
    (hurl : source.url = some url)
    (hstep : session.step index (.resolve source) = some (first, mid))
    (hok : first.result = .resolved (.ok d))
    (hkeep : ∀ step ∈ between, step.2 = .clear → ¬ session.Works step.1 number)
    (hrun : mid.run between = some (outcomes, last)) :
    last.Stored number url d ∧ ∀ later other, session.Works later number →
      other.url = some url → ∃ again after, last.step later (.resolve other) = some (again, after) ∧
        again.result = .resolved (.ok d) ∧ again.fetched = [] := by
  obtain ⟨hstored, base, hb⟩ := stored_of_resolve hw hurl hstep hok
  have hworks := works_step_iff hstep
  obtain ⟨hlast, hlastWorks⟩ := hstored.run hrun fun step hm ha hw' =>
    hkeep step hm ha ((hworks step.1 number).1 hw')
  refine ⟨hlast, fun later other hl hu => ?_⟩
  have hl' : last.Works later number :=
    (hlastWorks later number).2 ((hworks later number).2 hl)
  exact step_of_stored hlast hl' hu hb

/-- A document is supplied for a URL that serves another one. Afterwards the served text
changes, and the second resolver tries to store a third document. -/
theorem first_resolution_stays_second_resolver :
    let url := "urn:b"
    let d : Json := .object [("type", .string "number")]
    let session : Session :=
      ⟨[{}], [⟨[(url, "\x7b\"type\":\"string\"\x7d")], 0⟩, ⟨[], 0⟩]⟩
    let between : List (Nat × Action) :=
      [(0, .put url "\x7b\x7d"), (1, .insert url (.object []))]
    ∃ first mid outcomes last,
      session.step 0 (.resolve { document := some d, url := some url }) = some (first, mid) ∧
      mid.run between = some (outcomes, last) ∧ last.Stored 0 url d ∧
      ∃ again after, last.step 1 (.resolve { text := some "\x7b\x7d", url := some url }) =
        some (again, after) ∧ again.result = .resolved (.ok d) ∧ again.fetched = [] := by
  intro url d session between
  have hd : (Resolution.run (resolve [(url, "\x7b\"type\":\"string\"\x7d")]
      { document := some d, url := some url }) {}).1 = .ok d := by decide +kernel
  have hfind : session.find? 0 =
      some (⟨[(url, "\x7b\"type\":\"string\"\x7d")], 0⟩, {}) := rfl
  have hstep := step_of_find hfind (.resolve { document := some d, url := some url })
  have hzero : session.Works 0 0 := ⟨_, rfl, rfl⟩
  have hone : session.Works 1 0 := ⟨_, rfl, rfl⟩
  have hworks : ∀ step ∈ between, session.Works step.1 0 := by
    intro step hm
    simp only [between, List.mem_cons, List.not_mem_nil, or_false] at hm
    rcases hm with rfl | rfl
    · exact hzero
    · exact hone
  obtain ⟨outcomes, last, hrun⟩ := exists_run fun step hm =>
    ⟨0, by simp [session], (works_step_iff hstep step.1 0).2 (hworks step hm)⟩
  obtain ⟨hstored, hlater⟩ := first_resolution_stays hzero rfl hstep
    (congrArg Result.resolved hd) (by simp [between]) hrun
  exact ⟨_, _, outcomes, last, hstep, hrun, hstored, hlater 1 _ hone rfl⟩

end Session
end Rulebook
