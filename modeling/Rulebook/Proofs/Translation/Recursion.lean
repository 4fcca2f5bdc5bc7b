import Rulebook.Proofs.Translation.Endings

/-! Which documents are rejected for a circle. Those whose unfolding never ends are, and those
in whose unfolding a pointer is followed again while it is active. Where every pointer leads to
the properties that are expanded below the nodes from which it is followed, there are none of
the second kind. -/

namespace Rulebook
open Json Outcome

section Sizes

variable {root node target : Json} {properties : Members} {d d' : Descent} {place place' : Place}
  {trace trace' : List Descent} {x x' : Except TranslateError (List Expansion)}

theorem ofNode_moved {name name' : String} {resolved : Json} {here : Expansion}
    (h : Expansion.ofNode place name resolved = .ok here) :
    ∃ made, Expansion.ofNode place' name' resolved = .ok made :=
  exists_ofNode_of_agree (fun _ _ => rfl) h place' name'

theorem isOk_map {ε α β : Type} (x : Except ε α) (f : α → β) : (x.map f).isOk = x.isOk := by
  cases x <;> rfl

theorem Unfolds.of_leaf {name : String} {rest : Members} {followed : List String}
    (h : Unfolds root d place ((name, node) :: rest) trace x)
    (hu : Unwinds root node (.ok (target, followed)))
    (hhere : ∃ here, Expansion.ofNode place name (withDisplay node.display target) = .ok here)
    (hs : (Shape.classify (withDisplay node.display target)).innerProperties = none) :
    ∃ here after y, Unfolds root d place rest after y ∧
      trace = d.below followed :: after ∧ x = y.map (here :: ·) := by
  obtain ⟨here, hhere⟩ := hhere
  cases h with
  | unresolved hu' => cases hu.unique hu'
  | refused hu' hhere' =>
    cases hu.unique hu'
    simp [hhere] at hhere'
  | leaf hu' _ _ hrest =>
    cases hu.unique hu'
    exact ⟨_, _, _, hrest, rfl, rfl⟩
  | blocked hu' _ hs' | branch hu' _ hs' =>
    cases hu.unique hu'
    simp [hs] at hs'

theorem Unfolds.of_inner {name : String} {rest inner : Members} {followed names : List String}
    (h : Unfolds root d place ((name, node) :: rest) trace x)
    (hu : Unwinds root node (.ok (target, followed)))
    (hhere : ∃ here, Expansion.ofNode place name (withDisplay node.display target) = .ok here)
    (hs : (Shape.classify (withDisplay node.display target)).innerProperties =
      some (inner, names)) :
    ∃ place' within y, Unfolds root (d.below followed) place' inner within y ∧
      ((∃ e, y = .error e ∧ trace = d.below followed :: within ∧ x = .error e) ∨
        ∃ expansions after z, y = .ok expansions ∧ Unfolds root d place rest after z ∧
          trace = d.below followed :: (within ++ after) ∧ x.isOk = z.isOk) := by
  obtain ⟨here, hhere⟩ := hhere
  cases h with
  | unresolved hu' => cases hu.unique hu'
  | refused hu' hhere' =>
    cases hu.unique hu'
    simp [hhere] at hhere'
  | leaf hu' _ hs' =>
    cases hu.unique hu'
    simp [hs] at hs'
  | blocked hu' _ hs' hinner =>
    cases hu.unique hu'
    cases hs.symm.trans hs'
    exact ⟨_, _, _, hinner, .inl ⟨_, rfl, rfl, rfl⟩⟩
  | branch hu' _ hs' hinner hrest =>
    cases hu.unique hu'
    cases hs.symm.trans hs'
    exact ⟨_, _, _, hinner, .inr ⟨_, _, _, rfl, hrest, rfl, isOk_map _ _⟩⟩

/-- How many properties an unfolding comes to, and whether it fails, depends on the properties
alone. -/
theorem Unfolds.length_eq (h : Unfolds root d place properties trace x)
    (h' : Unfolds root d' place' properties trace' x') :
    trace.length = trace'.length ∧ x.isOk = x'.isOk := by
  induction h generalizing d' place' trace' x' with
  | done =>
    cases h' with
    | done => exact ⟨rfl, rfl⟩
  | unresolved hu =>
    cases h' with
    | unresolved => exact ⟨rfl, rfl⟩
    | refused hu' | leaf hu' | blocked hu' | branch hu' => cases hu.unique hu'
  | refused hu hhere =>
    cases h' with
    | unresolved hu' => cases hu.unique hu'
    | refused => exact ⟨rfl, rfl⟩
    | leaf hu' hhere' | blocked hu' hhere' | branch hu' hhere' =>
      cases hu.unique hu'
      obtain ⟨made, hmade⟩ := ofNode_moved hhere'
      cases hhere.symm.trans hmade
  | leaf hu hhere hs _ ihrest =>
    obtain ⟨_, after, y, hrest, rfl, rfl⟩ := h'.of_leaf hu (ofNode_moved hhere) hs
    obtain ⟨hlength, hok⟩ := ihrest hrest
    simp [hlength, isOk_map, hok]
  | blocked hu hhere hs _ ihinner =>
    obtain ⟨_, within, y, hinner, hends⟩ := h'.of_inner hu (ofNode_moved hhere) hs
    obtain ⟨hlength, hok⟩ := ihinner hinner
    rcases hends with ⟨e, rfl, rfl, rfl⟩ | ⟨_, _, _, rfl, -⟩
    · exact ⟨by simp [hlength], hok⟩
    · cases hok
  | branch hu hhere hs _ _ ihinner ihrest =>
    obtain ⟨_, within, y, hinner, hends⟩ := h'.of_inner hu (ofNode_moved hhere) hs
    obtain ⟨hlength, hok⟩ := ihinner hinner
    rcases hends with ⟨e, rfl, -⟩ | ⟨_, after, z, rfl, hrest, rfl, hx⟩
    · cases hok
    · obtain ⟨hlength', hok'⟩ := ihrest hrest
      exact ⟨by simp [hlength, hlength'], by rw [isOk_map, hok', hx]⟩

end Sizes

/-- Where one pointer is followed from two of the nodes that a document reaches, the same
properties are expanded below both. -/
def Coherent (document : Json) : Prop :=
  ∀ node other, Reaches document node → Reaches document other →
    ∀ followed inner, Opens document node followed inner →
      ∀ target followed', Unwinds document other (.ok (target, followed')) →
        (∃ pointer ∈ followed, pointer ∈ followed') → Opens document other followed' inner

section Coherent

variable {root node target : Json} {properties : Members} {d : Descent} {place : Place}
  {followed : List String} {trace : List Descent} {size less : ℕ}
  {x : Except TranslateError (List Expansion)}

/-- Every active pointer has been followed to properties that are not unfolded in less than some
steps. -/
def Descent.Weighs (root : Json) (d : Descent) (size : ℕ) : Prop :=
  ∀ pointer ∈ d.active, ∃ node followed inner, Reaches root node ∧ pointer ∈ followed ∧
    Opens root node followed inner ∧
      ∀ d' place' trace' x', Unfolds root d' place' inner trace' x' → size ≤ trace'.length

theorem Descent.Weighs.mono (h : d.Weighs root size) (hle : less ≤ size) : d.Weighs root less := by
  intro pointer hp
  obtain ⟨node, followed, inner, hnode, hfollowed, hopens, hsize⟩ := h pointer hp
  exact ⟨node, followed, inner, hnode, hfollowed, hopens, fun d' place' trace' x' hu =>
    Nat.le_trans hle (hsize d' place' trace' x' hu)⟩

theorem Descent.Weighs.below {inner : Members} {within : List Descent} {place' : Place}
    (h : d.Weighs root size) (hnode : Reaches root node) (hopens : Opens root node followed inner)
    (hinner : Unfolds root (d.below followed) place' inner within x) (hle : within.length ≤ size) :
    (d.below followed).Weighs root within.length := by
  intro pointer hp
  rw [Descent.active_below, List.mem_append] at hp
  rcases hp with hp | hp
  · exact h.mono hle pointer hp
  · exact ⟨node, followed, inner, hnode, hp, hopens,
      fun _ _ _ _ hother => Nat.le_of_eq (hinner.length_eq hother).1⟩

/-- No pointer is followed again while it is active, if what it leads to would have to be
unfolded in fewer steps than it can be. -/
theorem Descent.Weighs.clean_below (h : d.Weighs root size) (hd : d.Clean)
    (hcoherent : Coherent root) (hnode : Reaches root node)
    (hu : Unwinds root node (.ok (target, followed)))
    (hless : ∀ inner, Opens root node followed inner →
      ∃ d' place' trace' x', Unfolds root d' place' inner trace' x' ∧ trace'.length < size) :
    (d.below followed).Clean := by
  rw [clean_below_iff hu hd]
  intro pointer hp hactive
  obtain ⟨first, behind, inner, hfirst, hbehind, hopens, hsize⟩ := h pointer hactive
  have hagain := hcoherent first node hfirst hnode behind inner hopens target followed hu
    ⟨pointer, hbehind, hp⟩
  obtain ⟨d', place', trace', x', hunfolds, hlt⟩ := hless inner hagain
  exact absurd (hsize d' place' trace' x' hunfolds) (Nat.not_le.2 hlt)

theorem Within.of_rest {m : String × Json} {rest : Members} (h : Within root rest node) :
    Within root (m :: rest) node := by
  cases h with
  | here hm => exact .here (List.mem_cons_of_mem _ hm)
  | deeper hm ho hw => exact .deeper (List.mem_cons_of_mem _ hm) ho hw

/-- In a coherent document no pointer is active twice on the way to the end of an unfolding. -/
theorem Unfolds.clean (h : Unfolds root d place properties trace x) (hd : d.Clean)
    (hcoherent : Coherent root) (hreaches : ∀ node, Within root properties node → Reaches root node)
    (hweighs : d.Weighs root trace.length) : ∀ passed ∈ trace, passed.Clean := by
  induction h with
  | done => simp
  | unresolved => simp
  | @refused d place name node _ _ _ e hu hhere =>
    have hnode := hreaches node (.here List.mem_cons_self)
    refine List.forall_mem_singleton.2
      (hweighs.clean_below hd hcoherent hnode hu fun inner hopens => ?_)
    obtain ⟨⟨here, hmade⟩, -⟩ := hopens.exists_ofNode hu place name
    simp [hhere] at hmade
  | @leaf d place name node _ _ _ _ after _ hu _ hs _ ihrest =>
    have hnode := hreaches node (.here List.mem_cons_self)
    have hfirst := hweighs.clean_below hd hcoherent hnode hu fun inner hopens =>
      absurd hopens (not_opens_of_innerProperties hu hs)
    refine List.forall_mem_cons.2 ⟨hfirst, ihrest hd (fun other hother => ?_) ?_⟩
    · exact hreaches other hother.of_rest
    · exact hweighs.mono (by simp)
  | @blocked d place name node _ _ followed _ properties _ within _ hu hhere hs hinner ihinner =>
    have hnode := hreaches node (.here List.mem_cons_self)
    have hopens := opens_of_unwinds hu hhere hs
    have hfirst := hweighs.clean_below hd hcoherent hnode hu fun other hother => by
      obtain rfl := hother.eq_of_innerProperties hu hs
      exact ⟨_, _, _, _, hinner, by simp⟩
    refine List.forall_mem_cons.2 ⟨hfirst, ihinner hfirst (fun other hother => ?_) ?_⟩
    · exact hreaches other (.deeper List.mem_cons_self hopens hother)
    · exact hweighs.below hnode hopens hinner (by simp)
  | @branch d place name node _ _ followed _ properties _ within after _ _ hu hhere hs hinner _
      ihinner ihrest =>
    have hnode := hreaches node (.here List.mem_cons_self)
    have hopens := opens_of_unwinds hu hhere hs
    have hlength : (d.below followed :: (within ++ after)).length =
        within.length + after.length + 1 := by
      rw [List.length_cons, List.length_append]
    have hfirst := hweighs.clean_below hd hcoherent hnode hu fun other hother => by
      obtain rfl := hother.eq_of_innerProperties hu hs
      exact ⟨_, _, _, _, hinner, by omega⟩
    refine List.forall_mem_cons.2 ⟨hfirst, List.forall_mem_append.2 ⟨?_, ?_⟩⟩
    · refine ihinner hfirst (fun other hother => ?_) ?_
      · exact hreaches other (.deeper List.mem_cons_self hopens hother)
      · exact hweighs.below hnode hopens hinner (by omega)
    · refine ihrest hd (fun other hother => hreaches other hother.of_rest) ?_
      exact hweighs.mono (by omega)

end Coherent

section Plain

variable {root node : Json}

theorem Within.plainItems {properties : Members} (h : Within root properties node)
    (hroot : Everywhere PlainItems root)
    (hproperties : ∀ m ∈ properties, Everywhere PlainItems m.2) : Everywhere PlainItems node := by
  induction h with
  | here hm => exact hproperties _ hm
  | deeper hm hopens _ ih =>
    obtain ⟨hu, -, hs⟩ := hopens
    cases hu with
    | ends hfollows =>
      exact ih (everywhere_innerProperties (hfollows.plainItems hroot (hproperties _ hm)) hs)

/-- A document without a reference under `items` is coherent. -/
theorem coherent_of_plainItems (h : Everywhere PlainItems root) : Coherent root := by
  have hreaches : ∀ node, Reaches root node → Everywhere PlainItems node := by
    rintro node ⟨properties, hp, hwithin⟩
    exact hwithin.plainItems h (h.inside (inside_of_documentProperties hp)).members
  intro node other hnode hother followed inner hopens target followed' hu ⟨pointer, hm, hm'⟩
  obtain ⟨hnodeunwinds, hhere, hs⟩ := hopens
  cases hnodeunwinds with
  | ends hfollows =>
    cases hu with
    | ends hfollows' =>
      obtain ⟨first, more, hfirst, hv⟩ := hfollows.of_mem h (hreaches node hnode) hm
      obtain ⟨second, more', hsecond, hv'⟩ := hfollows'.of_mem h (hreaches other hother) hm'
      obtain rfl := Except.ok.inj (hfirst.symm.trans hsecond)
      obtain ⟨rfl, -⟩ := Prod.mk.inj (Except.ok.inj ((Unwinds.ends hv).unique (.ends hv')))
      exact ⟨.ends hfollows', hhere, hs⟩

end Plain

section Document

variable {document : Json}

theorem Unfolding.clean {trace : List Descent} {x : Except TranslateError RuleTable}
    (h : Unfolding document trace x) (hcoherent : Coherent document) : ∀ d ∈ trace, d.Clean := by
  cases h with
  | empty => simp
  | @properties properties trace x hp hw =>
    have hweighs : Descent.Weighs document {} trace.length := by
      intro pointer hpointer
      simp [Descent.active] at hpointer
    exact hw.clean List.nodup_nil hcoherent (fun node hnode => ⟨properties, hp, hnode⟩) hweighs

/-- Of the coherent documents, those are rejected for a circle whose unfolding never ends. -/
theorem Coherent.circular_iff (h : Coherent document) :
    (∃ pointer, translate document = .error (.resolve (.circular pointer))) ↔
      Endless document := by
  rw [translate_circular_iff, or_iff_left]
  rintro ⟨trace, x, hunfolding, d, hd, hnot⟩
  exact hnot (hunfolding.clean h d hd)

end Document

/-- A document is rejected for a circle when its unfolding never ends. Then it refers to itself
without an end, which no document does that is unfolded to rules. The others that are
rejected for a circle are those in whose unfolding a pointer comes again while it is active.
No coherent document is among them, as all are in which no reference stands under `items`, and
every unfolding in which there is no such pointer is the translation. -/
theorem rejected_of_recursion (document : Json) :
    ((∃ pointer, translate document = .error (.resolve (.circular pointer))) ↔
      Endless document ∨ ∃ trace x, Unfolding document trace x ∧ ∃ d ∈ trace, ¬ d.Clean) ∧
    (∀ trace x, Unfolding document trace x → (∀ d ∈ trace, d.Clean) → translate document = x) ∧
    (Endless document → SelfReferring document) ∧
    (∀ trace rules, Unfolding document trace (.ok rules) → ¬ SelfReferring document) ∧
    (Everywhere PlainItems document → Coherent document) ∧
    (Coherent document →
      ((∃ pointer, translate document = .error (.resolve (.circular pointer))) ↔
        Endless document) ∧
      ∀ trace x, Unfolding document trace x → translate document = x) :=
  ⟨translate_circular_iff, fun _ _ h hclean => h.translate_eq hclean, Endless.selfReferring,
    fun _ _ h => h.not_selfReferring, coherent_of_plainItems, fun hcoherent =>
      ⟨hcoherent.circular_iff, fun _ _ h => h.translate_eq (h.clean hcoherent)⟩⟩

/-- A definition with a property that refers to the definition. -/
theorem rejected_of_recursion_below :
    let pointer : Json := .object [("$ref", .string "#/n")]
    let definition : Json := .object [("type", .string "object"),
      ("properties", .object [("m", pointer)])]
    let document : Json := .object [("properties", .object [("a", pointer)]), ("n", definition)]
    Everywhere PlainItems document ∧
      translate document = .error (.resolve (.circular "#/n")) ∧ Endless document ∧
        SelfReferring document := by
  intro pointer definition document
  have hplain : Everywhere PlainItems document := by decide
  have htarget : Pursues document [] pointer (.ok (definition, ["#/n"])) :=
    pursues_iff.2 (by decide +kernel)
  have hwalks : Walks document {} { required := document.requiredNames } [("a", pointer)]
      [{}, _] (.error (.resolve (.circular "#/n"))) :=
    .blocked htarget (by simp [Descent.active]) rfl rfl (.again htarget rfl)
  have hcircular := translate_of_walks rfl hwalks
  obtain ⟨-, -, hrecursive, -, hcoherent, hiff⟩ := rejected_of_recursion document
  have hendless := (hiff (hcoherent hplain)).1.1 ⟨_, hcircular⟩
  exact ⟨hplain, hcircular, hendless, hrecursive hendless⟩

/-- A definition stands under the `items` of an object, where nothing is expanded, and is that of
one of its properties. The document is rejected for a circle, though it does not refer to
itself and is unfolded to rules. -/
theorem rejected_not_recursive :
    let pointer : Json := .object [("$ref", .string "#/d")]
    let node : Json := .object [("type", .string "object"), ("items", pointer),
      ("properties", .object [("x", pointer)])]
    let document : Json := .object [("properties", .object [("a", node)]), ("d", textNode)]
    (∃ pointer, translate document = .error (.resolve (.circular pointer))) ∧
      (∃ trace rules, Unfolding document trace (.ok rules)) ∧ ¬ Endless document ∧
        ¬ SelfReferring document := by
  intro pointer node document
  let target : Json := .object [("type", .string "object"), ("items", textNode),
    ("properties", .object [("x", pointer)])]
  have hnode : Unwinds document node (.ok (target, ["#/d"])) := unwinds_ok_iff.2 (by decide +kernel)
  have hpointer : Unwinds document pointer (.ok (textNode, ["#/d"])) :=
    unwinds_ok_iff.2 (by decide +kernel)
  obtain ⟨first, hfirst⟩ : ∃ first, Expansion.ofNode {} "a" target = .ok first := ⟨_, rfl⟩
  let place := Place.below {} "a" (Shape.classify target) []
  obtain ⟨second, hsecond⟩ : ∃ second, Expansion.ofNode place "x" textNode = .ok second := ⟨_, rfl⟩
  have hunfolds : Unfolds document {} {} [("a", node)] [⟨[["#/d"]]⟩, ⟨[["#/d"], ["#/d"]]⟩]
      (.ok [first, second]) :=
    .branch hnode hfirst rfl (.leaf hpointer hsecond rfl .done) .done
  have hunfolding : Unfolding document _ (.ok (RuleTable.ofExpansions [first, second])) :=
    .properties rfl hunfolds
  refine ⟨hunfolding.translate_circular ⟨_, List.mem_cons_of_mem _ List.mem_cons_self, ?_⟩,
    ⟨_, _, hunfolding⟩, fun h => h _ _ hunfolding, hunfolding.not_selfReferring⟩
  simp [Descent.Clean, Descent.active]

end Rulebook
