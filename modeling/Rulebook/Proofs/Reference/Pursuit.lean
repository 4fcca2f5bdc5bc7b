import Rulebook.Proofs.Reference.Following

/-! The course of following references, told without an account of the pointers that may
still be followed. It goes from pointer to pointer until there is nothing left to follow
or a pointer comes a second time, so it always ends, and no other course is possible. -/

namespace Rulebook
namespace Json
open Outcome

/-- Following the references of a node ends in one way or another, when the pointers
`behind` have been followed already. -/
inductive Pursues (root : Json) :
    List String → Json → Except ResolveError (Json × List String) → Prop where
  | done {behind : List String} {node : Json} (h : node.Dereferenced) :
      Pursues root behind node (.ok (node, []))
  | whole {behind : List String} {node : Json} {put : Json → Json}
      (hb : Bears node (.string "#") put) :
      Pursues root behind node (.ok (put (selfReference root), []))
  | notText {behind : List String} {node reference : Json} {put : Json → Json}
      (hb : Bears node reference put) (h : reference.asString? = none) :
      Pursues root behind node (.error (.unsupported reference.compact .notText))
  | outward {behind : List String} {node : Json} {put : Json → Json} {reference : String}
      (hb : Bears node (.string reference) put) (hne : reference ≠ "#")
      (hp : ¬ isPointer reference) :
      Pursues root behind node (.error (.externalReference reference))
  | again {behind : List String} {node : Json} {put : Json → Json} {pointer : String}
      (hb : Bears node (.string pointer) put) (hp : isPointer pointer) (hm : pointer ∈ behind) :
      Pursues root behind node (.error (.circular pointer))
  | dangling {behind : List String} {node : Json} {put : Json → Json} {pointer : String}
      {e : ResolveError} (hb : Bears node (.string pointer) put) (hp : isPointer pointer)
      (hm : pointer ∉ behind) (ht : Pointer.resolve root pointer = .error e) :
      Pursues root behind node (.error e)
  | onward {behind : List String} {node target : Json} {put : Json → Json} {pointer : String}
      {x : Except ResolveError (Json × List String)} (hb : Bears node (.string pointer) put)
      (hp : isPointer pointer) (hm : pointer ∉ behind)
      (ht : Pointer.resolve root pointer = .ok target)
      (h : Pursues root (behind ++ [pointer]) target x) :
      Pursues root behind node (x.map fun r => (put r.1, pointer :: r.2))

/-- The pointers that come one after another when a node's references are followed, and
the node that the last of them leads to. -/
inductive Passes (root : Json) : Json → List String → Json → Prop where
  | here {node : Json} : Passes root node [] node
  | step {node target last : Json} {put : Json → Json} {pointer : String} {more : List String}
      (hb : Bears node (.string pointer) put) (hp : isPointer pointer)
      (ht : Pointer.resolve root pointer = .ok target) (h : Passes root target more last) :
      Passes root node (pointer :: more) last

section Pursues

variable {root node : Json} {behind unused : List String}
  {x y : Except ResolveError (Json × List String)}

/-- A pointer that is borne by a node is followed if it is allowed and names a value. -/
theorem dereferenceWithin_of_bears {put : Json → Json} {pointer : String}
    (hb : Bears node (.string pointer) put) (hp : isPointer pointer) :
    dereferenceWithin root unused node =
      if pointer ∈ unused then
        Pointer.resolve root pointer >>= fun target =>
          (dereferenceWithin root (without pointer unused) target).map fun r =>
            (put r.1, pointer :: r.2)
      else .error (.circular pointer) := by
  have hne : pointer ≠ "#" := ne_hash_of_isPointer hp
  rw [dereferenceWithin, hb.dereferenceWith, expandReference_string, if_neg hne]
  simp only [hp, Bool.not_true, Bool.false_eq_true, ↓reduceIte]
  split_ifs
  · cases Pointer.resolve root pointer with
    | error e => rfl
    | ok target =>
      simp only [bind, Except.bind]
      cases dereferenceWithin root (without pointer unused) target <;> rfl
  · rfl

/-- The account of the pointers that may be followed, after one has been. -/
theorem mem_without_iff {pointer r : String} (h : r ∈ unused ↔ r ∉ behind) :
    r ∈ without pointer unused ↔ r ∉ behind ++ [pointer] := by
  simp [without, h]

/-- Where the account of the pointers that may be followed is right, references are
followed to the end. -/
theorem pursues_dereferenceWithin
    (hunused : ∀ r ∈ node.references ++ root.references, r ∈ unused ↔ r ∉ behind) :
    Pursues root behind node (dereferenceWithin root unused node) := by
  induction hn : unused.length using Nat.strongRecOn generalizing unused behind node with
  | ind n ih =>
    rcases bears_or_dereferenced node with ⟨reference, put, hb⟩ | hd
    · cases hs : reference.asString? with
      | none =>
        rw [dereferenceWithin, hb.dereferenceWith, expandReference_of_asString?_none hs]
        exact .notText hb hs
      | some pointer =>
        obtain rfl : reference = .string pointer := by
          cases reference <;> simp_all [asString?]
        by_cases hp : isPointer pointer
        · have hmem : pointer ∈ unused ↔ pointer ∉ behind :=
            hunused pointer (List.mem_append_left _ hb.mem_references)
          rw [dereferenceWithin_of_bears hb hp]
          split_ifs with hu
          · cases ht : Pointer.resolve root pointer with
            | error e => exact .dangling hb hp (hmem.1 hu) ht
            | ok target =>
              have hlt : (without pointer unused).length < unused.length := length_without_lt hu
              have htarget := references_of_inside (Pointer.inside_of_resolve ht)
              refine .onward hb hp (hmem.1 hu) ht (ih _ (by omega) (fun r hr => ?_) rfl)
              have hin : r ∈ root.references := (List.mem_append.1 hr).elim (htarget ·) id
              exact mem_without_iff (hunused r (List.mem_append_right _ hin))
          · exact .again hb hp (not_not.1 (mt hmem.2 hu))
        · rw [dereferenceWithin, hb.dereferenceWith, expandReference_string]
          by_cases hself : pointer = "#"
          · subst hself
            exact .whole hb
          · rw [if_neg hself, if_pos (by simpa using hp)]
            exact .outward hb hself hp
    · rw [dereferenceWithin_of_dereferenced hd]
      exact .done hd

/-- There is no other course than the one that is taken. -/
theorem Pursues.eq_dereferenceWithin (h : Pursues root behind node x)
    (hunused : ∀ r ∈ node.references ++ root.references, r ∈ unused ↔ r ∉ behind) :
    x = dereferenceWithin root unused node := by
  induction h generalizing unused with
  | done hd => rw [dereferenceWithin_of_dereferenced hd]
  | whole hb =>
    rw [dereferenceWithin, hb.dereferenceWith, expandReference_string, if_pos rfl]
    rfl
  | notText hb hs =>
    rw [dereferenceWithin, hb.dereferenceWith, expandReference_of_asString?_none hs]
    rfl
  | outward hb hself hp =>
    rw [dereferenceWithin, hb.dereferenceWith, expandReference_string, if_neg hself,
      if_pos (by simpa using hp)]
    rfl
  | again hb hp hm =>
    have hmem := hunused _ (List.mem_append_left _ hb.mem_references)
    rw [dereferenceWithin_of_bears hb hp, if_neg fun hu => hmem.1 hu hm]
  | dangling hb hp hm ht =>
    have hmem := hunused _ (List.mem_append_left _ hb.mem_references)
    rw [dereferenceWithin_of_bears hb hp, if_pos (hmem.2 hm), ht]
    rfl
  | @onward behind node target put pointer x hb hp hm ht _ ih =>
    have hmem := hunused _ (List.mem_append_left _ hb.mem_references)
    have htarget := references_of_inside (Pointer.inside_of_resolve ht)
    have hleft : ∀ r ∈ target.references ++ root.references,
        r ∈ without pointer unused ↔ r ∉ behind ++ [pointer] := by
      intro r hr
      have hin : r ∈ root.references := (List.mem_append.1 hr).elim (htarget ·) id
      exact mem_without_iff (hunused r (List.mem_append_right _ hin))
    rw [dereferenceWithin_of_bears hb hp, if_pos (hmem.2 hm), ht, ih hleft]
    rfl

/-- Following references comes to what it comes to without the account of the pointers. -/
theorem pursues_iff : Pursues root [] node x ↔ x = dereferenceTraced root node := by
  have hunused : ∀ r ∈ node.references ++ root.references,
      r ∈ node.references ++ root.references ↔ r ∉ [] := fun r hr => by simpa using hr
  constructor
  · exact fun h => h.eq_dereferenceWithin hunused
  · rintro rfl
    exact pursues_dereferenceWithin hunused

/-- The pointers that are followed to the end. -/
theorem Pursues.follows {v : Json} {followed : List String}
    (h : Pursues root [] node (.ok (v, followed))) :
    Follows root node v followed ∧ followed.Nodup :=
  dereferenceTraced_eq_ok.1 (pursues_iff.1 h).symm

end Pursues

section Circular

variable {root node last : Json} {behind pointers : List String} {pointer : String}
  {x : Except ResolveError (Json × List String)}

/-- A pointer is called circular when it comes a second time, and no other one came twice
before it. -/
theorem Pursues.passes_of_circular (h : Pursues root behind node x)
    (hx : x = .error (.circular pointer))
    (hbehind : ∀ r ∈ behind, ∃ target, Pointer.resolve root r = .ok target) :
    ∃ pointers last, Passes root node (pointers ++ [pointer]) last ∧ pointers.Nodup ∧
      (∀ r ∈ pointers, r ∉ behind) ∧ pointer ∈ behind ++ pointers := by
  induction h with
  | done => simp at hx
  | whole => simp at hx
  | notText => simp at hx
  | outward => simp at hx
  | again hb hp hm =>
    obtain rfl := ResolveError.circular.inj (Except.error.inj hx)
    obtain ⟨target, ht⟩ := hbehind _ hm
    exact ⟨[], target, .step hb hp ht .here, List.nodup_nil, by simp, by simpa using hm⟩
  | dangling _ _ _ ht =>
    obtain rfl := Except.error.inj hx
    exact absurd rfl ((Pointer.direct_of_resolve ht).circular pointer)
  | @onward behind node target put first x hb hp hm ht _ ih =>
    have hseen : ∀ r ∈ behind ++ [first], ∃ target, Pointer.resolve root r = .ok target := by
      intro r hr
      rcases List.mem_append.1 hr with hr | hr
      · exact hbehind r hr
      · rw [List.mem_singleton.1 hr]
        exact ⟨target, ht⟩
    obtain ⟨pointers, last, hpasses, hnodup, hfresh, hmem⟩ := ih (map_eq_error.1 hx) hseen
    refine ⟨first :: pointers, last, .step hb hp ht hpasses, ?_, ?_, ?_⟩
    · exact List.nodup_cons.2 ⟨fun hin => hfresh first hin (by simp), hnodup⟩
    · refine List.forall_mem_cons.2 ⟨hm, fun r hr hr' => hfresh r hr ?_⟩
      exact List.mem_append_left _ hr'
    · simpa using hmem

/-- Where a pointer comes a second time, following stops at it. -/
theorem Passes.pursues (h : Passes root node (pointers ++ [pointer]) last)
    (hnodup : (behind ++ pointers).Nodup) (hm : pointer ∈ behind ++ pointers) :
    Pursues root behind node (.error (.circular pointer)) := by
  induction pointers generalizing behind node with
  | nil =>
    cases h with
    | step hb hp _ _ => exact .again hb hp (by simpa using hm)
  | cons first rest ih =>
    cases h with
    | step hb hp ht h =>
      have hfirst : first ∉ behind := fun hin =>
        (List.nodup_append.1 hnodup).2.2 first hin first (by simp) rfl
      have hmore : Pursues root (behind ++ [first]) _ (.error (.circular pointer)) :=
        ih h (by simpa using hnodup) (by simpa using hm)
      exact .onward hb hp hfirst ht hmore

theorem circular_iff_passes :
    dereference root node = .error (.circular pointer) ↔ ∃ pointers last,
      Passes root node (pointers ++ [pointer]) last ∧ pointers.Nodup ∧ pointer ∈ pointers := by
  rw [dereference, map_eq_error, eq_comm, ← pursues_iff]
  constructor
  · intro h
    obtain ⟨pointers, last, hpasses, hnodup, -, hm⟩ := h.passes_of_circular rfl (by simp)
    exact ⟨pointers, last, hpasses, hnodup, by simpa using hm⟩
  · rintro ⟨pointers, last, hpasses, hnodup, hm⟩
    exact hpasses.pursues (by simpa using hnodup) (by simpa using hm)

end Circular

theorem dereference_of_dereferenced {root node : Json} (h : node.Dereferenced) :
    dereference root node = .ok node := by
  rw [dereference, dereferenceTraced_of_dereferenced h]
  rfl

/-- References are followed to the end from every node. What they lead to has no reference
on itself or on its `items`, and stays as it is in whatever document it is dereferenced
again, display text included. A failure is put down to a circle exactly when one of the
pointers that come one after another comes a second time. -/
theorem dereference_course {root node : Json} (hroot : root.WellFormed) (hnode : node.WellFormed) :
    (∀ x, Pursues root [] node x ↔ x = dereferenceTraced root node) ∧
      (∀ r, dereference root node = .ok r →
        r.Dereferenced ∧ ∀ other, dereference other r = .ok r) ∧
      (∀ r, dereferenceProperty root node = .ok r →
        ∀ other, dereferenceProperty other r = .ok r) ∧
      ∀ pointer, dereference root node = .error (.circular pointer) ↔ ∃ pointers last,
        Passes root node (pointers ++ [pointer]) last ∧ pointers.Nodup ∧ pointer ∈ pointers := by
  have hroot := wellFormed_iff_conforms.1 hroot
  have hnode := wellFormed_iff_conforms.1 hnode
  refine ⟨fun x => pursues_iff, fun r h => ?_, fun r h other => ?_, fun _ => circular_iff_passes⟩
  · obtain ⟨⟨_, followed⟩, htraced, rfl⟩ := map_eq_ok.1 h
    have hd := (hroot.dereferenceTraced hnode htraced).2
    exact ⟨hd, fun _ => dereference_of_dereferenced hd⟩
  · exact dereferenceProperty_of_dereferenced (conforms_dereferenceProperty hroot hnode h).2

/-- The elements of an array refer to a definition that refers to another one. What stands
beside the first reference stays under what the last one leads to. -/
theorem dereference_course_items :
    let root := Json.object [("a", .object [("$ref", .string "#/b"), ("title", .string "A")]),
      ("b", .object [("type", .string "number"), ("minimum", .null)])]
    let node := Json.object [("type", .string "array"),
      ("items", .object [("$ref", .string "#/a"), ("type", .null), ("maximum", .null)])]
    let r := Json.object [("type", .string "array"), ("items", .object
      [("maximum", .null), ("type", .string "number"), ("minimum", .null)])]
    root.WellFormed ∧ node.WellFormed ∧ dereference root node = .ok r ∧ r.Dereferenced ∧
      ∀ other, dereference other r = .ok r := by
  intro root node r
  have hroot : root.WellFormed := by decide
  have hnode : node.WellFormed := by decide
  have hr : dereference root node = .ok r := by decide +kernel
  exact ⟨hroot, hnode, hr, (dereference_course hroot hnode).2.1 r hr⟩

/-- Two spellings of one place are two pointers. The second one is the first to come
twice. -/
example :
    let root := Json.object [("x", .object [("$ref", .string "#/%78")])]
    dereference root (.object [("$ref", .string "#/x")]) = .error (.circular "#/%78") := by
  decide +kernel

end Json
end Rulebook
