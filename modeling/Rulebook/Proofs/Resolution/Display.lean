import Rulebook.Proofs.Resolution.Splicing
import Rulebook.Proofs.Resolution.Transparency

/-! The display text of a top-level property stays with it while its document is
resolved. It is laid over whatever is put in the place of the property, and no other
replacement comes near it. -/

namespace Rulebook
open Json Outcome

namespace Json

def property? (name : String) (document : Json) : Option Json :=
  (document.get? "properties").bind (get? name)

theorem property?_eq_some {name : String} {document v : Json} :
    document.property? name = some v ↔ ∃ properties,
      document.get? "properties" = some (.object properties) ∧
        Members.get? name properties = some v := by
  unfold property?
  rw [Option.bind_eq_some_iff]
  constructor
  · rintro ⟨p, hp, hv⟩
    cases p with
    | object properties => exact ⟨properties, hp, hv⟩
    | _ => simp [get?] at hv
  · rintro ⟨properties, hp, hv⟩
    exact ⟨.object properties, hp, hv⟩

theorem at?_of_property? {name : String} {document v : Json}
    (h : document.property? name = some v) : document.at? ["properties", name] = some v := by
  obtain ⟨properties, hp, hv⟩ := property?_eq_some.1 h
  cases document with
  | object members =>
    rw [get?_object] at hp
    simp [hp, hv, at?]
  | _ => simp [get?] at hp

section Modify

variable {name : String} {document : Json} {place : List String}

theorem property?_modifyAt_below (name : String) (rest : List String) (f : Json → Json)
    (document : Json) :
    (document.modifyAt ("properties" :: name :: rest) f).property? name =
      (document.property? name).map (modifyAt rest f) := by
  unfold property?
  rw [modifyAt_cons, get?_modifyChild_self]
  cases document.get? "properties" with
  | none => rfl
  | some p =>
    rw [Option.map_some, Option.bind_some, Option.bind_some, modifyAt_cons, get?_modifyChild_self]

theorem property?_modifyAt_aside (hroot : place ≠ []) (hproperties : place ≠ ["properties"])
    (hname : ∀ rest, place ≠ "properties" :: name :: rest) (f : Json → Json) :
    (document.modifyAt place f).property? name = document.property? name := by
  unfold property?
  cases place with
  | nil => contradiction
  | cons segment rest =>
    rw [modifyAt_cons]
    by_cases hsegment : "properties" = segment
    · subst hsegment
      cases rest with
      | nil => contradiction
      | cons other rest =>
        have hother : name ≠ other := by
          rintro rfl
          exact hname rest rfl
        rw [get?_modifyChild_self]
        cases document.get? "properties" with
        | none => rfl
        | some p =>
          rw [Option.map_some, Option.bind_some, Option.bind_some, modifyAt_cons,
            get?_modifyChild_of_ne hother]
    · rw [get?_modifyChild_of_ne hsegment]

theorem isObject_modifyChild (segment : String) (f : Json → Json) (v : Json) :
    (v.modifyChild segment f).isObject = v.isObject := by
  cases v with
  | array items =>
    rw [modifyChild_array]
    rfl
  | _ => rfl

end Modify

/-- Display text is laid over every object. -/
theorem get?_withDisplay_of_mem {field : String} {node value x : Json} (hf : field ∈ displayFields)
    (hx : node.get? field = some x) (hd : isDisplay x)
    (ho : (withDisplay node.display value).isObject) :
    (withDisplay node.display value).get? field = some x := by
  rw [isObject_withDisplay] at ho
  rw [get?_withDisplay, if_pos ho, get?_display_of_mem hf, hx, Option.filter_some, if_pos hd,
    Option.some_or]

end Json

namespace Resolution

/-- A document in which a top-level property has a text in one of its fields. -/
def Labels (name field text : String) (document : Json) : Prop :=
  ∃ v, document.property? name = some v ∧ v.get? field = some (.string text)

/-- A document in which this is so at least if the property is an object. -/
def Shows (name field text : String) (document : Json) : Prop :=
  ∃ v, document.property? name = some v ∧ (v.isObject → v.get? field = some (.string text))

/-- A place that is not around a top-level property, nor in one of its fields. -/
structure Harmless (name field : String) (place : List String) : Prop where
  notRoot : place ≠ []
  notProperties : place ≠ ["properties"]
  notField : ∀ rest, place ≠ "properties" :: name :: field :: rest

section Steps

variable {name field text : String} {document : Json} {place : List String}

theorem Labels.shows (h : Labels name field text document) : Shows name field text document := by
  obtain ⟨v, hv, hx⟩ := h
  exact ⟨v, hv, fun _ => hx⟩

/-- A change at a harmless place is in another property, or in another field. -/
theorem Harmless.property? (hp : Harmless name field place) (hne : place ≠ ["properties", name])
    (f : Json → Json) {v : Json} (hv : document.property? name = some v) :
    ∃ w, (document.modifyAt place f).property? name = some w ∧ w.isObject = v.isObject ∧
      w.get? field = v.get? field := by
  by_cases hbelow : ∃ rest, place = "properties" :: name :: rest
  · obtain ⟨rest, rfl⟩ := hbelow
    cases rest with
    | nil => contradiction
    | cons segment rest =>
      have hsegment : field ≠ segment := by
        rintro rfl
        exact hp.notField rest rfl
      refine ⟨v.modifyAt (segment :: rest) f, ?_, ?_, ?_⟩
      · rw [property?_modifyAt_below, hv, Option.map_some]
      · rw [modifyAt_cons, isObject_modifyChild]
      · rw [modifyAt_cons, get?_modifyChild_of_ne hsegment]
  · rw [not_exists] at hbelow
    rw [property?_modifyAt_aside hp.notRoot hp.notProperties hbelow f]
    exact ⟨v, hv, rfl, rfl⟩

theorem Labels.modifyAt (h : Labels name field text document) (hp : Harmless name field place)
    (hne : place ≠ ["properties", name]) (f : Json → Json) :
    Labels name field text (document.modifyAt place f) := by
  obtain ⟨v, hv, hx⟩ := h
  obtain ⟨w, hw, -, hfield⟩ := hp.property? hne f hv
  exact ⟨w, hw, hfield.trans hx⟩

theorem Shows.modifyAt (h : Shows name field text document) (hp : Harmless name field place)
    (hne : place ≠ ["properties", name]) (f : Json → Json) :
    Shows name field text (document.modifyAt place f) := by
  obtain ⟨v, hv, hx⟩ := h
  obtain ⟨w, hw, hobject, hfield⟩ := hp.property? hne f hv
  refine ⟨w, hw, fun ho => hfield.trans (hx ?_)⟩
  rw [← hobject]
  exact ho

/-- The text is laid over what the property itself is replaced by. -/
theorem Labels.replace (h : Labels name field text document) (hf : field ∈ displayFields)
    (ht : text ≠ "") (value : Json) :
    Shows name field text (document.modifyAt ["properties", name] fun node =>
      withDisplay node.display value) := by
  obtain ⟨v, hv, hx⟩ := h
  refine ⟨withDisplay v.display value, ?_, fun ho => ?_⟩
  · rw [property?_modifyAt_below, hv]
    rfl
  · exact get?_withDisplay_of_mem hf hx (by simpa [isDisplay] using ht) ho

end Steps

section Placement

variable {name field text : String} {host : Json} {place : List String}

/-- A document without a reference on itself or on its properties, in which a property
has a text in a field of display text. -/
structure Labelled (name field text : String) (host : Json) : Prop where
  root : host.get? "$ref" = none
  properties : ∀ p, host.get? "properties" = some p → p.get? "$ref" = none
  labels : Labels name field text host
  field : field ∈ displayFields
  text : text ≠ ""

/-- References stand at harmless places. -/
theorem Labelled.harmless (h : Labelled name field text host) {reference : String}
    (hat : At host (place ++ ["$ref"]) (.string reference)) :
    Harmless name field place ∧ Harmless name field (place ++ ["$ref"]) := by
  have hroot : place ≠ [] := by
    rintro rfl
    obtain ⟨v, hv, -⟩ := At.of_key decimal?_ref hat
    simp [h.root] at hv
  have hkey : decimal? "properties" = none := by decide
  have hproperties : place ≠ ["properties"] := by
    rintro rfl
    obtain ⟨p, hp, hat⟩ := At.of_key hkey hat
    obtain ⟨v, hv, -⟩ := hat.of_key decimal?_ref
    simp [h.properties p hp] at hv
  -- There is nothing inside the text of the field, and the field is not `$ref`.
  have hfield : ∀ rest, place ++ ["$ref"] ≠ "properties" :: name :: field :: rest := by
    intro rest hplace
    rw [hplace] at hat
    obtain ⟨v, hv, hx⟩ := h.labels
    obtain ⟨properties, hp, hv⟩ := property?_eq_some.1 hv
    obtain ⟨p, hp', hat⟩ := At.of_key hkey hat
    obtain rfl : p = .object properties := Option.some.inj (hp'.symm.trans hp)
    obtain ⟨w, hw, hat⟩ := At.object_iff.1 hat
    obtain rfl : w = v := Option.some.inj (hw.symm.trans hv)
    cases w with
    | object members =>
      obtain ⟨u, hu, hat⟩ := At.object_iff.1 hat
      obtain rfl : u = .string text := Option.some.inj (hu.symm.trans hx)
      obtain ⟨rfl, -⟩ := hat.eq_of_scalar rfl rfl
      have hlast := congrArg List.getLast? hplace
      obtain rfl : "$ref" = field := by simpa using hlast
      exact absurd h.field (by decide)
    | _ => simp [get?] at hx
  refine ⟨⟨hroot, hproperties, fun rest hplace => hfield (rest ++ ["$ref"]) ?_⟩,
    ⟨by simp, fun hplace => hroot ?_, hfield⟩⟩
  · rw [hplace]
    rfl
  · exact (List.append_inj' (hplace.trans (List.nil_append ["properties"]).symm) rfl).1

end Placement

section Run

variable {name field text : String} {document d : Json}

theorem Labels.foldl_makeInternal {own : List ExternalReference}
    (hplaced : ∀ item ∈ own, Harmless name field item.path ∧ item.path ≠ ["properties", name])
    (h : Labels name field text document) :
    Labels name field text (own.foldl makeInternal document) := by
  induction own generalizing document with
  | nil => exact h
  | cons item rest ih =>
    obtain ⟨⟨hp, hne⟩, hrest⟩ := List.forall_mem_cons.1 hplaced
    exact ih hrest (h.modifyAt hp hne _)

/-- One replacement leaves the text where it is, and after the replacement of the
property itself there is none at this place any more. -/
theorem shows_of_foldlM_spliceItem {targets : List (String × Json)}
    {others : List ExternalReference} (hf : field ∈ displayFields) (ht : text ≠ "")
    (hplaced : ∀ item ∈ others, Harmless name field item.nodePath)
    (hunique : (others.map ExternalReference.nodePath).Nodup)
    (h : Labels name field text document ∨ Shows name field text document ∧
      ∀ item ∈ others, item.nodePath ≠ ["properties", name])
    (hs : others.foldlM (spliceItem targets) document = .ok d) : Shows name field text d := by
  induction others generalizing document with
  | nil =>
    obtain rfl : document = d := by simpa using hs
    exact h.elim Labels.shows And.left
  | cons item rest ih =>
    rw [List.foldlM_cons] at hs
    obtain ⟨mid, hmid, hs⟩ := bind_eq_ok.1 hs
    obtain ⟨hitem, hrest⟩ := List.forall_mem_cons.1 hplaced
    obtain ⟨hfresh, hunique⟩ := List.nodup_cons.1 hunique
    refine ih hrest hunique ?_ hs
    unfold spliceItem at hmid
    split at hmid
    · obtain ⟨part, -, rfl⟩ := map_eq_ok.1 hmid
      by_cases hhere : item.nodePath = ["properties", name]
      · have hlabels : Labels name field text document :=
          h.resolve_right fun hshows => hshows.2 item List.mem_cons_self hhere
        have hdone : ∀ other ∈ rest, other.nodePath ≠ ["properties", name] := by
          intro other hm hother
          exact hfresh (List.mem_map.2 ⟨other, hm, hother.trans hhere.symm⟩)
        refine .inr ⟨?_, hdone⟩
        rw [splice, hhere]
        exact hlabels.replace hf ht part
      · rcases h with h | ⟨h, hdone⟩
        · exact .inl (h.modifyAt hitem hhere _)
        · exact .inr ⟨h.modifyAt hitem hhere _, fun other hm => hdone other (by simp [hm])⟩
    · obtain rfl := Except.ok.inj hmid
      exact h.imp_right fun hshows => ⟨hshows.1, fun other hm => hshows.2 other (by simp [hm])⟩

/-- Dereferencing lays the text over what the property refers to. -/
theorem Shows.dereferenceProperties (hf : field ∈ displayFields) (ht : text ≠ "")
    (h : Shows name field text document) (hd : dereferenceProperties document = .ok d) :
    Shows name field text d := by
  rcases dereferenceProperties_cases document with
    ⟨members, properties, rfl, hp, he⟩ | ⟨-, he⟩
  · rw [he] at hd
    obtain ⟨others, ho, rfl⟩ := map_eq_ok.1 hd
    obtain ⟨v, hv, hx⟩ := h
    obtain ⟨properties', hp', hv⟩ := property?_eq_some.1 hv
    obtain rfl : properties' = properties :=
      Json.object.inj (Option.some.inj (hp'.symm.trans hp))
    have hrel := (dereferenceEach_eq_ok.1 ho).get? name
    rw [hv] at hrel
    obtain ⟨hnone, -⟩ | ⟨_, w, hsome, hw, hvw⟩ := rel_cases hrel
    · simp at hnone
    · obtain rfl := Option.some.inj hsome
      refine ⟨w, property?_eq_some.2 ⟨others, Members.get?_insert_self _ _ _, hw⟩, fun hobject => ?_⟩
      obtain ⟨target, followed, htarget, rfl⟩ := dereferenceProperty_eq_ok.1 hvw
      cases v with
      | object node =>
        exact get?_withDisplay_of_mem hf (hx rfl) (by simpa [isDisplay] using ht) hobject
      | _ =>
        rw [dereferenceTraced_of_dereferenced ⟨rfl, by simp [get?]⟩] at htarget
        obtain ⟨rfl, -⟩ := Prod.mk.inj (Except.ok.inj htarget)
        simp [withDisplay, isObject, asObject?] at hobject
  · rw [he] at hd
    obtain rfl := Except.ok.inj hd
    exact h

theorem Labelled.shows_of_resolveDocument {request : String → Except ResolveError Json}
    {sourceUrl : Option String} {host : Json} (h : Labelled name field text host)
    (hhost : host.WellFormed) (hd : Uncached.resolveDocument request host sourceUrl = .ok d) :
    Shows name field text d := by
  obtain ⟨items, hi, hd⟩ := bind_eq_ok.1 hd
  obtain ⟨found, -, hd⟩ := bind_eq_ok.1 hd
  obtain ⟨spliced, hs, hd⟩ := bind_eq_ok.1 hd
  have hlisted := listed_of_externalReferences hhost hi
  have hplace : ∀ item ∈ items, Harmless name field item.nodePath ∧
      Harmless name field item.path ∧ item.path ≠ ["properties", name] := by
    intro item hm
    obtain ⟨reference, hat, -, hp⟩ := at_of_mem_externalReferences hhost hi hm
    rw [hp] at hat
    obtain ⟨hnode, hpath⟩ := h.harmless hat
    rw [hp]
    refine ⟨hnode, hpath, fun hname => hnode.notProperties ?_⟩
    have hsplit : item.nodePath ++ ["$ref"] = ["properties"] ++ [name] := hname
    exact (List.append_inj' hsplit rfl).1
  have hown : Labels name field text
      ((ownReferences sourceUrl items).foldl makeInternal host) :=
    h.labels.foldl_makeInternal fun item hm => (hplace item (mem_ownReferences.1 hm).1).2
  have hspliced : Shows name field text spliced :=
    shows_of_foldlM_spliceItem h.field h.text
      (fun item hm => (hplace item (mem_otherReferences.1 hm).1).1) hlisted.other_unique
      (.inl hown) hs
  exact hspliced.dereferenceProperties h.field h.text hd

/-- The text is there in what the document resolves to, unless the property has become
something that has no fields. -/
theorem Labelled.shows_of_resolve {library : Library} {source : Source} {host : Json}
    (h : Labelled name field text host) (hhost : host.WellFormed)
    (hsource : sourceDocument source = .ok (some host))
    (hd : (run (resolve library source) {}).1 = .ok d) : Shows name field text d := by
  have hfresh : Uncached.resolveFresh library source = .ok d := by
    rw [run_resolve_empty, Uncached.resolve] at hd
    cases hurl : source.url with
    | none =>
      rw [hurl] at hd
      exact hd
    | some url =>
      rw [hurl] at hd
      obtain ⟨base, -, hd⟩ := bind_eq_ok.1 hd
      exact hd
  unfold Uncached.resolveFresh at hfresh
  rw [hsource] at hfresh
  exact h.shows_of_resolveDocument hhost hfresh

end Run

end Resolution
end Rulebook
