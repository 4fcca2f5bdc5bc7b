import Rulebook.Proofs.Reference.External
import Rulebook.Proofs.Reference.Live

/-! Closed values, in which no reference leads out of the document. They stay
closed when references are inlined or dereferenced, because no reference is
ever made from the value of another one. -/

namespace Rulebook
open Outcome

/-- A failure that does not come from a reference out of the document. -/
def ResolveError.Inward (e : ResolveError) : Prop :=
  ∀ reference, e = .externalReference reference → ¬ Outward reference

/-- A failure that complains of no reference, or of a pointer that leads back. -/
def ResolveError.Local (e : ResolveError) : Prop :=
  e.Direct ∨ ∃ pointer, Json.isPointer pointer ∧ e = .circular pointer

theorem ResolveError.Local.inward {e : ResolveError} (h : e.Local) : e.Inward := by
  rcases h with h | ⟨pointer, -, rfl⟩
  · exact fun reference he => absurd he (h.external reference)
  · simp [Inward]

theorem ResolveError.Direct.local {e : ResolveError} (h : e.Direct) : e.Local := .inl h

namespace Pointer

theorem inside_of_follow {pointer : String} {segments : List (List Char)} {v w : Json}
    (h : follow pointer segments v = .ok w) : Json.Inside w v := by
  induction segments generalizing v with
  | nil =>
    obtain rfl : v = w := by simpa [follow] using h
    exact .here
  | cons raw rest ih =>
    simp only [follow] at h
    split at h
    · simp at h
    · split at h
      · rename_i u hu
        have hchild : Json.Everywhere (fun x => Json.Inside x v) u :=
          Json.Everywhere.child? (fun _ hx => hx) hu
        exact hchild w (ih h)
      · simp at h

/-- A pointer names a value inside the document. -/
theorem inside_of_resolve {root target : Json} {pointer : String}
    (h : resolve root pointer = .ok target) : Json.Inside target root := by
  unfold resolve at h
  simp only at h
  split at h
  · obtain rfl : root = target := by simpa using h
    exact .here
  · exact inside_of_follow h
  · simp at h

theorem direct_of_follow {pointer : String} {segments : List (List Char)} {v : Json}
    {e : ResolveError} (h : follow pointer segments v = .error e) : e.Direct := by
  induction segments generalizing v with
  | nil => simp [follow] at h
  | cons raw rest ih =>
    simp only [follow] at h
    split at h
    · obtain rfl := Except.error.inj h
      exact ⟨by simp, by simp⟩
    · split at h
      · exact ih h
      · obtain rfl := Except.error.inj h
        exact ⟨by simp, by simp⟩

theorem direct_of_resolve {root : Json} {pointer : String} {e : ResolveError}
    (h : resolve root pointer = .error e) : e.Direct := by
  unfold resolve at h
  simp only at h
  split at h
  · simp at h
  · exact direct_of_follow h
  · obtain rfl := Except.error.inj h
    exact ⟨by simp, by simp⟩

end Pointer

namespace Json

def Carries (q : Json → Prop) (node : Json) : Prop :=
  node.DistinctKeys ∧ ∀ v, node.get? "$ref" = some v → q v

instance {q : Json → Prop} [DecidablePred q] : DecidablePred (Carries q) := fun node =>
  match h : node.get? "$ref" with
  | none => decidable_of_iff node.DistinctKeys (by simp [Carries, h])
  | some v => decidable_of_iff (node.DistinctKeys ∧ q v) (by simp [Carries, h])

/-- At every depth keys are distinct and what stands under `$ref` has a property. -/
def Conforms (q : Json → Prop) (v : Json) : Prop := Everywhere (Carries q) v

instance {q : Json → Prop} [DecidablePred q] : DecidablePred (Conforms q) :=
  inferInstanceAs (DecidablePred (Everywhere (Carries q)))

/-- Not a node with a reference. Under a `$ref` such a node would make a
reference of the node around it when it is replaced by a text. -/
def Unstacked (v : Json) : Prop := ∀ reference, v.get? "$ref" ≠ some (.string reference)

instance : DecidablePred Unstacked := fun v =>
  match h : v.get? "$ref" with
  | some (.string s) => isFalse fun hu => hu s h
  | none | some .null | some (.bool _) | some (.number _) | some (.array _)
  | some (.object _) => isTrue fun r hr => by simp [h] at hr

/-- Under a `$ref`: a reference into the document, or no reference at all. -/
structure Settled (v : Json) : Prop where
  inward : ∀ reference, v = .string reference → ¬ Outward reference
  unstacked : v.Unstacked

/-- A value in which no reference leads out of the document. -/
def Closed (v : Json) : Prop := Conforms Settled v

variable {q : Json → Prop}

theorem Conforms.wellFormed {v : Json} (h : Conforms q v) : v.WellFormed :=
  Everywhere.mono h fun _ hw => hw.1

theorem wellFormed_iff_conforms {v : Json} : v.WellFormed ↔ Conforms (fun _ => True) v :=
  ⟨fun h => Everywhere.mono h fun _ hw => ⟨hw, fun _ _ => trivial⟩, Conforms.wellFormed⟩

/-- References are seen through `$ref` alone. -/
theorem Carries.of_get? {v w : Json} (h : Carries q v) (hd : w.DistinctKeys)
    (hr : w.get? "$ref" = v.get? "$ref") : Carries q w := ⟨hd, fun u hu => h.2 u (hr ▸ hu)⟩

theorem carries_of_get?_none {v : Json} (hd : v.DistinctKeys) (hr : v.get? "$ref" = none) :
    Carries q v := ⟨hd, fun u hu => by simp [hr] at hu⟩

theorem carries_of_asObject?_none {v : Json} (h : v.asObject? = none) : Carries q v := by
  cases v with
  | object members => simp [asObject?] at h
  | _ => exact carries_of_get?_none trivial rfl

theorem distinctKeys_withDisplay {node v : Json} (h : v.DistinctKeys) :
    (withDisplay node.display v).DistinctKeys := by
  cases v with
  | object members => exact Members.Distinct.extend h _
  | _ => exact h

theorem Conforms.withDisplay {node v : Json} (hn : Conforms q node) (hv : Conforms q v) :
    Conforms q (withDisplay node.display v) :=
  Everywhere.withDisplay hn hv <| hv.self.of_get? (distinctKeys_withDisplay hv.self.1)
    (get?_withDisplay_of_notMem (by decide) node v)

/-- What holds at every depth of a document holds in what stands for the whole of it. -/
theorem everywhere_selfReference {p : Json → Prop} {root : Json} (h : Everywhere p root)
    (hself : p (selfReference root)) (htype : p (.string "object")) :
    Everywhere p (selfReference root) := by
  refine Everywhere.object hself fun m hm => ?_
  obtain rfl := List.mem_singleton.1 hm
  cases ht : root.get? "type" with
  | some type => exact h.get? ht
  | none => exact Everywhere.scalar htype rfl rfl

theorem Conforms.selfReference {root : Json} (h : Conforms q root) :
    Conforms q (selfReference root) := by
  refine everywhere_selfReference h (carries_of_get?_none ?_ ?_) (carries_of_asObject?_none rfl)
  · simp [Json.selfReference, DistinctKeys, Members.Distinct, Members.keys]
  · simp [Json.selfReference, Members.get?]

section Inlining

variable {expand : String → Except ResolveError Json}

def Survives (q : Json → Prop) (expand : String → Except ResolveError Json) : Prop :=
  ∀ v w, Conforms q v → q v → inlineWith expand v = .ok w → q w

theorem carries_of_related (hq : Survives q expand) {members others : Members}
    (h : Conforms q (.object members)) (hd : others.Distinct)
    (hr : Option.Rel (fun v w => inlineWith expand v = .ok w) (members.get? "$ref")
      (others.get? "$ref")) : Carries q (.object others) := by
  refine ⟨hd, fun w hw => ?_⟩
  rw [get?_object] at hw
  rw [hw] at hr
  cases hm : Members.get? "$ref" members with
  | none => simp [hm] at hr
  | some v =>
    rw [hm, Option.rel_some_some] at hr
    exact hq v w (Everywhere.get? h hm) (h.self.2 v hm) hr

/-- Inlining keeps what a value conforms to when references expand to such
values. The values under a map of names are inlined without regard to a `$ref`
beside them. -/
theorem Conforms.inlineWith_and_nameMap (hq : Survives q expand)
    (he : ∀ r w, expand r = .ok w → Conforms q w) (v : Json) (hv : Conforms q v) :
    (∀ w, inlineWith expand v = .ok w → Conforms q w) ∧
      ∀ w, inlineNameMap expand v = .ok w → Conforms q w := by
  induction v using inductionOn with
  | scalar v ha ho =>
    have hw : ∀ w, inlineWith expand v = .ok w → Conforms q w := by
      intro w h
      rw [inlineWith_scalar ha ho] at h
      obtain rfl := Except.ok.inj h
      exact hv
    refine ⟨hw, fun w h => ?_⟩
    rw [inlineNameMap_of_asObject?_none ho] at h
    exact hw w h
  | array items ih =>
    have hw : ∀ w, inlineWith expand (.array items) = .ok w → Conforms q w := by
      intro w h
      rw [inlineWith_array] at h
      obtain ⟨others, ho, rfl⟩ := map_eq_ok.1 h
      refine Everywhere.array (carries_of_asObject?_none rfl) fun y hy => ?_
      obtain ⟨x, hx, hxy⟩ := exists_of_mem_right (inlineItems_eq_ok.1 ho) hy
      exact (ih x hx (Everywhere.items hv x hx)).1 y hxy
    refine ⟨hw, fun w h => ?_⟩
    rw [inlineNameMap_of_asObject?_none rfl] at h
    exact hw w h
  | object members ih =>
    have hvalue : ∀ {key : String} {x : Json}, (key, x) ∈ members →
        (∀ y, inlineWith expand x = .ok y → Conforms q y) ∧
          ∀ y, inlineNameMap expand x = .ok y → Conforms q y :=
      fun hx => ih _ hx (Everywhere.members hv _ hx)
    constructor
    · intro w h
      cases hr : internalReference members with
      | some reference =>
        rw [inlineWith_reference hr] at h
        obtain ⟨u, hu, rfl⟩ := map_eq_ok.1 h
        exact hv.withDisplay (he _ _ hu)
      | none =>
        rw [inlineWith_object hr] at h
        obtain ⟨others, ho, rfl⟩ := map_eq_ok.1 h
        have hrel := inlineMembers_eq_ok.1 ho
        have hc := carries_of_related hq hv (hrel.distinct hv.self.1) (hrel.get? "$ref")
        refine Everywhere.object hc fun m hm => ?_
        obtain ⟨x, hx, hxm⟩ := hrel.mem_right hm
        unfold inlineMember at hxm
        split_ifs at hxm
        · obtain rfl := Except.ok.inj hxm
          exact Everywhere.members hv _ hx
        · exact (hvalue hx).2 _ hxm
        · exact (hvalue hx).1 _ hxm
    · intro w h
      rw [inlineNameMap_object] at h
      obtain ⟨others, ho, rfl⟩ := map_eq_ok.1 h
      have hrel := inlineValues_eq_ok.1 ho
      have hc := carries_of_related hq hv (hrel.distinct hv.self.1) (hrel.get? "$ref")
      refine Everywhere.object hc fun m hm => ?_
      obtain ⟨x, hx, hxm⟩ := hrel.mem_right hm
      exact (hvalue hx).1 _ hxm

theorem Conforms.inlineWithin {root : Json}
    (hq : ∀ unused, Survives q (expandWithin root unused)) (hroot : Conforms q root)
    {unused : List String} {v w : Json} (hv : Conforms q v)
    (h : inlineWithin root unused v = .ok w) : Conforms q w := by
  induction hn : unused.length using Nat.strongRecOn generalizing unused v w with
  | ind n ih =>
    rw [inlineWithin_eq] at h
    refine (Conforms.inlineWith_and_nameMap (hq unused) (fun pointer u hu => ?_) v hv).1 w h
    rcases expandWithin_eq_ok.1 hu with ⟨-, rfl⟩ | ⟨-, hmem, target, ht, hw⟩
    · exact hroot.selfReference
    · have hlt := length_without_lt hmem
      exact ih _ (by omega) (Everywhere.inside hroot (Pointer.inside_of_resolve ht)) hw rfl

theorem Unstacked.internalReference_eq_none {members : Members}
    (h : Unstacked (.object members)) : internalReference members = none :=
  Option.eq_none_iff_forall_ne_some.2 fun reference hr =>
    h reference (internalReference_eq_some.1 hr).1

/-- A node without a reference is inlined to one whose `$ref` was inlined. -/
theorem Unstacked.get?_inlineWith {v w : Json} (hv : v.Unstacked)
    (h : inlineWith expand v = .ok w) :
    Option.Rel (fun x y => inlineWith expand x = .ok y) (v.get? "$ref") (w.get? "$ref") := by
  cases v with
  | object members =>
    rw [inlineWith_object (Unstacked.internalReference_eq_none hv)] at h
    obtain ⟨others, ho, rfl⟩ := map_eq_ok.1 h
    exact (inlineMembers_eq_ok.1 ho).get? "$ref"
  | array items =>
    rw [inlineWith_array] at h
    obtain ⟨others, ho, rfl⟩ := map_eq_ok.1 h
    exact .none
  | _ =>
    rw [inlineWith_scalar rfl rfl] at h
    obtain rfl := Except.ok.inj h
    exact .none

/-- Only a text is inlined to a text, unless it is a reference. -/
theorem Unstacked.eq_of_inlineWith {v : Json} {s : String} (hv : v.Unstacked)
    (h : inlineWith expand v = .ok (.string s)) : v = .string s := by
  cases v with
  | object members =>
    rw [inlineWith_object (Unstacked.internalReference_eq_none hv)] at h
    obtain ⟨others, -, ho⟩ := map_eq_ok.1 h
    simp at ho
  | array items =>
    rw [inlineWith_array] at h
    obtain ⟨others, -, ho⟩ := map_eq_ok.1 h
    simp at ho
  | _ =>
    rw [inlineWith_scalar rfl rfl] at h
    exact Except.ok.inj h

theorem survives_settled (expand : String → Except ResolveError Json) :
    Survives Settled expand := by
  intro v w hv hs h
  constructor
  · rintro r rfl
    exact hs.inward r (hs.unstacked.eq_of_inlineWith h)
  · intro r hr
    have hrel := hs.unstacked.get?_inlineWith h
    rw [hr] at hrel
    cases hx : v.get? "$ref" with
    | none => simp [hx] at hrel
    | some x =>
      rw [hx, Option.rel_some_some] at hrel
      obtain rfl := (hv.self.2 x hx).unstacked.eq_of_inlineWith hrel
      exact hs.unstacked r hx

theorem Closed.inlineReferences {root v w : Json} (hroot : root.Closed) (hv : v.Closed)
    (h : inlineReferences root v = .ok w) : w.Closed :=
  Conforms.inlineWithin (fun _ => survives_settled _) hroot hv h

theorem WellFormed.inlineWithin {root v w : Json} {unused : List String}
    (hroot : root.WellFormed) (hv : v.WellFormed) (h : inlineWithin root unused v = .ok w) :
    w.WellFormed :=
  Conforms.wellFormed <| Conforms.inlineWithin (fun _ _ _ _ _ _ => trivial)
    (wellFormed_iff_conforms.1 hroot) (wellFormed_iff_conforms.1 hv) h

/-- A value fails to be inlined because a pointer leads nowhere, or back. -/
theorem local_of_inlineWithin {root v : Json} {unused : List String} {e : ResolveError}
    (h : inlineWithin root unused v = .error e) : e.Local := by
  induction hn : unused.length using Nat.strongRecOn generalizing unused v with
  | ind n ih =>
    rw [inlineWithin_eq] at h
    obtain ⟨pointer, hlive, hp⟩ := exists_live_of_error h
    unfold expandWithin at hp
    split_ifs at hp with hs hmem
    · have hlt := length_without_lt hmem
      rcases bind_eq_error.1 hp with hp | ⟨target, -, hp⟩
      · exact (Pointer.direct_of_resolve hp).local
      · exact ih _ (by omega) hp rfl
    · exact .inr ⟨pointer, hlive.internal.resolve_left hs, (Except.error.inj hp).symm⟩

end Inlining

end Json
end Rulebook
