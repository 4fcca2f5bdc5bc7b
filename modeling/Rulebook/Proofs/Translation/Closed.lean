import Rulebook.Proofs.Reference.Chain
import Rulebook.Proofs.Rule.Fields
import Rulebook.Proofs.Schema.Shape
import Rulebook.Proofs.Translation.Steps

/-! The walk through a closed document never comes to a reference that leads out
of it. -/

namespace Rulebook
open Json Outcome

def TranslateError.Inward (e : TranslateError) : Prop :=
  ∀ fault, e = .resolve fault → fault.Inward

/-- A rule is refused for its keywords, never for a reference. -/
theorem Rule.ne_resolve_of_ofNode {path : String} {node : Json} {required blackbox : Bool}
    {e : TranslateError} (h : ofNode path node required blackbox = .error e)
    (fault : ResolveError) : e ≠ .resolve fault := by
  rintro rfl
  cases refusal_of_ofNode h

/-- Every failure of the walk lies inside a closed document. -/
theorem inward_of_walk {root : Json} (hroot : root.Closed) {unused : List String} {place : Place}
    {properties : List (String × Json)} {e : TranslateError}
    (hp : ∀ m ∈ properties, m.2.Closed) (h : walk root unused place properties = .error e) :
    e.Inward := by
  induction unused, place, properties using walk.induct root generalizing e with
  | case1 unused place => simp at h
  | case2 unused place name node rest fault hd =>
    rw [walk_cons, hd] at h
    obtain rfl := Except.error.inj h
    intro other ho
    obtain rfl := TranslateError.resolve.inj ho
    have hnode : node.Closed := hp (name, node) (by simp)
    exact hroot.inward_of_dereferenceTraced hnode hd
  | case3 unused place name node rest target followed hd pointer hr =>
    rw [walk_cons, hd] at h
    simp only [hr] at h
    obtain rfl := Except.error.inj h
    intro other ho
    obtain rfl := TranslateError.resolve.inj ho
    simp [ResolveError.Inward]
  | case4 unused place name node rest target followed hd hr resolved shape hinner =>
    rename_i hrest
    rw [walk_cons, hd] at h
    simp only [hr] at h
    have hnode : node.Closed := hp (name, node) (by simp)
    have hresolved : resolved.Closed :=
      Conforms.withDisplay hnode (Conforms.dereferenceTraced hroot hnode hd).1
    rcases bind_eq_error.1 h with h | ⟨here, -, h⟩
    · exact fun fault he => absurd he (Rule.ne_resolve_of_ofNode (map_eq_error.1 h) fault)
    · rcases bind_eq_error.1 h with h | ⟨inner, -, h⟩
      · unfold walkInner at h
        split at h
        · rename_i inner names hin
          exact hinner inner names hin (everywhere_innerProperties hresolved hin) h
        · simp at h
      · rcases bind_eq_error.1 h with h | ⟨others, -, h⟩
        · exact hrest (fun m hm => hp m (List.mem_cons_of_mem _ hm)) h
        · simp at h

theorem inward_of_translate {document : Json} (hd : document.Closed) {e : TranslateError}
    (h : translate document = .error e) : e.Inward := by
  unfold translate at h
  split at h
  · rename_i properties hp
    refine inward_of_walk hd ?_ (map_eq_error.1 h)
    have hin := inside_of_documentProperties hp
    exact Everywhere.members (Everywhere.inside hd hin)
  · simp at h

end Rulebook
