import Rulebook.Proofs.Resolution.Closed
import Rulebook.Proofs.Session.Invariant
import Rulebook.Proofs.Translation.Closed

/-! No reference out of a document survives a session in which no reference
stands directly under another `$ref`: not in what is resolved, not in what is
stored, and not in what is compiled. -/

namespace Rulebook

namespace Resolution
open Json

/-- No reference leads out of a document, at any depth. -/
structure Sealed (d : Json) : Prop where
  inward : ∀ path node reference, d.at? path = some node →
    node.get? "$ref" = some (.string reference) → ¬ Outward reference
  noReferences : ∀ sourceUrl, d.externalReferences sourceUrl = .ok []

theorem externalReferences_of_inward {d : Json} (hd : d.WellFormed)
    (h : ∀ reference ∈ d.references, ¬ Outward reference) (sourceUrl : Option String) :
    d.externalReferences sourceUrl = .ok [] := by
  have hnone : (d.leaves {}).filter (fun leaf => leaf.outward?.isSome) = [] := by
    refine List.filter_eq_nil_iff.2 fun leaf hleaf hout => ?_
    obtain ⟨reference, hr⟩ := Option.isSome_iff_exists.1 hout
    obtain ⟨hlast, hv, ho⟩ := Leaf.outward?_eq_some.1 hr
    have hat := ((mem_leaves_iff hd).1 hleaf).2.1
    rw [eq_append_ref hlast, hv] at hat
    obtain ⟨node, hnode, hat⟩ := hat.split
    obtain ⟨u, hu, hat⟩ := hat.of_key decimal?_ref
    obtain rfl := At.nil_iff.1 hat
    exact h reference (mem_references_of_get? hnode.inside hu) ho
  refine externalReferences_eq_ok.2 ?_
  rw [hnone]
  exact .nil

theorem externalReferences_of_closed {d : Json} (h : d.Closed) (sourceUrl : Option String) :
    d.externalReferences sourceUrl = .ok [] := by
  refine externalReferences_of_inward h.wellFormed (fun reference hm => ?_) sourceUrl
  obtain ⟨members, hin, hm⟩ := mem_references.1 hm
  obtain ⟨hd, hall⟩ := h _ hin
  exact (hall _ (hd.get?_of_mem hm)).inward reference rfl

theorem Resolved.sealed {d : Json} (h : Resolved d) : Sealed d where
  inward := fun _ _ reference hat hr =>
    ((Everywhere.at? h.closed hat).self.2 _ hr).inward reference rfl
  noReferences := externalReferences_of_closed h.closed

end Resolution

/-- A failure that does not come from a reference out of the document. -/
def CompileError.Inward : CompileError → Prop
  | .resolve e => e.Inward
  | .translate e => e.Inward

open Outcome in
/-- What is compiled from a resolved document fails only for reasons that lie
inside it. -/
theorem inward_of_compileResolved {resolved : Except ResolveError Json}
    (h : Yields ResolveError.Inward Resolution.Resolved resolved) {e : CompileError}
    (he : compileResolved resolved = .error e) : e.Inward := by
  cases resolved with
  | error fault =>
    obtain rfl := Except.error.inj he
    exact h.error fault rfl
  | ok d =>
    obtain ⟨fault, hf, rfl⟩ := mapError_eq_error.1 he
    exact inward_of_translate (h.ok d rfl).closed hf

namespace Session
open Resolution

/-- In every session that starts with empty caches, the top-level properties of
whatever is resolved or stored are dereferenced. When moreover no reference
stands directly under another `$ref` in the documents brought in, whatever is
resolved or stored is sealed, and nothing fails to compile for a reference that
leads out of a document. -/
theorem references_of_run {session mid next : Session} {before : List (Nat × Action)}
    {outcomes : List Outcome} {index : Nat} {action : Action} {outcome : Outcome}
    (hempty : ∀ cache ∈ session.caches, cache = {})
    (hbrings : ∀ step ∈ before ++ [(index, action)], Brings Json.WellFormed step.2)
    (hrun : session.run before = some (outcomes, mid))
    (hstep : mid.step index action = some (outcome, next)) :
    ((∀ d, outcome.result = .resolved (.ok d) → PropertiesDereferenced d) ∧
      ∀ cache ∈ next.caches, ∀ url d, cache.get? url = some d → PropertiesDereferenced d) ∧
    ((∀ resolver ∈ session.resolvers, Serves Plain resolver.library) →
      (∀ step ∈ before ++ [(index, action)], Brings Plain step.2) →
      (∀ d, outcome.result = .resolved (.ok d) → Sealed d) ∧
      (∀ cache ∈ next.caches, ∀ url d, cache.get? url = some d → Sealed d) ∧
      ∀ e, outcome.result = .compiled (.error e) → e.Inward) := by
  have hserved : ∀ resolver ∈ session.resolvers, Serves Json.WellFormed resolver.library :=
    fun _ _ _ _ _ _ hr => Json.wellFormed_of_read hr
  refine ⟨?_, fun hplain hall => ?_⟩
  · obtain ⟨hout, hnext⟩ :=
      tidy_of_run preserves_propertiesDereferenced hempty hserved hbrings hrun hstep
    exact ⟨fun d hd => ((hout.resolved _ hd).ok d rfl).2,
      fun cache hm url d hd => (hnext.stored cache hm url d hd).2⟩
  · obtain ⟨hout, hnext⟩ := tidy_of_run preserves_resolved hempty hplain hall hrun hstep
    refine ⟨fun d hd => ((hout.resolved _ hd).ok d rfl).sealed,
      fun cache hm url d hd => (hnext.stored cache hm url d hd).sealed, fun e he => ?_⟩
    obtain ⟨r, hr, hc⟩ := hout.compiled _ he
    exact inward_of_compileResolved hr hc.symm

def single (library : Library) : Session := ⟨[{}], [⟨library, 0⟩]⟩

def textSchema : String := "\x7b\"type\":\"string\"\x7d"

theorem read_textSchema : Json.read textSchema = .ok (.object [("type", .string "string")]) := by
  decide +kernel

private theorem brings_document {Input : Json → Prop} {document : Json} (h : Input document)
    (action : Action) (ha : action = .resolve { document := some document } ∨
      action = .compile { document := some document }) : Brings Input action := by
  rcases ha with rfl | rfl
  all_goals
    refine ⟨?_, by simp, rfl⟩
    rintro _ ⟨⟩
    exact Source.supplies_document h none

theorem references_of_run_inline :
    let document : Json :=
      .object [("properties", .object [("x", .object [("$ref", .string "http://h.example/b")])])]
    ∃ outcomes mid outcome next,
      (single [("http://h.example/b", textSchema)]).run
        [(0, .resolve { document := some document })] = some (outcomes, mid) ∧
      mid.step 0 (.compile { document := some document }) = some (outcome, next) ∧
      (∀ cache ∈ next.caches, ∀ url d, cache.get? url = some d →
        PropertiesDereferenced d ∧ Sealed d) ∧
      ∀ e, outcome.result = .compiled (.error e) → e.Inward := by
  intro document
  have hplain : Plain document := by decide
  have hbrings : ∀ {Input : Json → Prop}, Input document → ∀ step ∈
      [(0, Action.resolve { document := some document })] ++
        [(0, Action.compile { document := some document })], Brings Input step.2 := by
    intro Input h step hm
    rcases List.mem_append.1 hm with hm | hm
    · rw [List.mem_singleton.1 hm]
      exact brings_document h _ (.inl rfl)
    · rw [List.mem_singleton.1 hm]
      exact brings_document h _ (.inr rfl)
  obtain ⟨first, mid, hfirst, resolver, cache, hmid⟩ :
      ∃ first mid, (single [("http://h.example/b", textSchema)]).step 0
          (.resolve { document := some document }) = some (first, mid) ∧
        ∃ resolver cache, mid.find? 0 = some (resolver, cache) :=
    ⟨_, _, step_of_find rfl _, _, _, rfl⟩
  have hrun : (single [("http://h.example/b", textSchema)]).run
      [(0, .resolve { document := some document })] = some ([first], mid) :=
    run_cons_eq_some.2 ⟨first, mid, [], hfirst, rfl, rfl⟩
  have hstep := step_of_find hmid (.compile { document := some document })
  obtain ⟨⟨-, hcached⟩, hall⟩ := references_of_run (by simp [single])
    (hbrings hplain.wellFormed) hrun hstep
  obtain ⟨-, hsealed, hcompiled⟩ :=
    hall (by simpa [single] using serves_single read_textSchema (by decide)) (hbrings hplain)
  exact ⟨_, mid, _, _, hrun, hstep,
    fun c hc url d hd => ⟨hcached c hc url d hd, hsealed c hc url d hd⟩, hcompiled⟩

/-- A reference directly under another `$ref` is replaced by the text that it
names, which becomes a reference out of the document. -/
theorem stacked_reference_survives :
    let library : Library := [("http://t.example/t", "\x7b\"a\":\"http://evil.example/\"\x7d")]
    let document : Json := .object [("x", .object
      [("$ref", .object [("$ref", .string "http://t.example/t#/a")])])]
    ∃ outcome next d,
      (single library).step 0 (.resolve { document := some document }) = some (outcome, next) ∧
        outcome.result = .resolved (.ok d) ∧ ¬ Sealed d := by
  intro library document
  have hresolved : (Resolution.run (resolve library { document := some document }) {}).1 =
      .ok (.object [("x", .object [("$ref", .string "http://evil.example/")])]) := by
    decide +kernel
  have hfind : (single library).find? 0 = some (⟨library, 0⟩, {}) := rfl
  refine ⟨_, _, _, step_of_find hfind _, congrArg Result.resolved hresolved, fun h => ?_⟩
  exact h.inward ["x"] _ "http://evil.example/" rfl rfl (by decide)

end Session
end Rulebook
