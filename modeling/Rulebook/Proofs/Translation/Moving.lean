import Rulebook.Proofs.Resolution.Hosting
import Rulebook.Proofs.Rule.Table
import Rulebook.Proofs.Translation.Copying

/-! A schema that is moved behind a reference. The document that refers to it has
the same rules below the property that carries the reference, if nothing is read
differently in a copy. -/

namespace Rulebook
open Json Outcome

/-- A document that describes an object without undeclared properties. -/
structure Fixed (document : Json) : Prop where
  unreferenced : document.get? "$ref" = none
  type : document.get? "type" = some (.string "object")
  undeclared : ∀ a, document.get? "additionalProperties" = some a → a.isTruthy = false

theorem fixed_of_get?_none {document : Json} (hr : document.get? "$ref" = none)
    (ht : document.get? "type" = some (.string "object"))
    (ha : document.get? "additionalProperties" = none) : Fixed document :=
  ⟨hr, ht, fun a h => by simp [ha] at h⟩

/-- A document that can be moved behind a reference: it declares properties, its
root has no reference among the names that it requires, and its properties read the
same in a copy. -/
structure Movable (document : Json) : Prop where
  declares : ∃ properties, document.get? "properties" = some (.object properties)
  required : ∀ d, document.get? "required" = some d → d.references = []
  portable : Portable document

/-- A document can be moved if its root is no reference and each value in it reads the
same in a copy. -/
theorem movable_of_everywhere {document : Json} {properties : Members}
    (hr : document.get? "$ref" = none)
    (hp : document.get? "properties" = some (.object properties))
    (h : Everywhere (PortableNode document) document) : Movable document where
  declares := ⟨properties, hp⟩
  required := h.self.inert hr "required" (by decide)
  portable := portable_of_everywhere hr h

section Copy

variable {document node part v : Json} {properties : Members}

theorem scalar_of_not_isTruthy (h : v.isTruthy = false) :
    v.asArray? = none ∧ v.asObject? = none := by
  cases v with
  | array items => simp [isTruthy] at h
  | object members => simp [isTruthy] at h
  | _ => exact ⟨rfl, rfl⟩

/-- Only the `items` of a property without a reference, and its display text, can
change when it is dereferenced. -/
theorem get?_dereferenceProperty (hr : node.get? "$ref" = none)
    (h : dereferenceProperty document node = .ok v) {key : String} (hk : key ∉ displayFields)
    (hi : key ≠ "items") : v.get? key = node.get? key := by
  obtain ⟨target, followed, ht, rfl⟩ := dereferenceProperty_eq_ok.1 h
  rw [get?_withDisplay_of_notMem hk]
  exact (get?_of_dereferenceWithin hr hi ht).1

/-- A copy of the document describes an object with copies of its properties. -/
theorem Fixed.classify_copy (hfixed : Fixed document) (hmovable : Movable document)
    (hp : document.get? "properties" = some (.object properties))
    (hpart : inlineReferences document document = .ok part)
    (hv : ∀ key, key ∉ displayFields → key ≠ "items" → v.get? key = part.get? key) :
    ∃ copies, Shape.classify v = .object (some copies) document.requiredNames false ∧
      properties.Related (fun _ => Copied document) copies := by
  have hr := hfixed.unreferenced
  have hinert : ∀ {key : String},
      (∀ d, document.get? key = some d → d.references = []) → part.get? key = document.get? key :=
    fun hd => get?_eq_of_inert hr hd hpart
  have href : v.get? "$ref" = none := by
    rw [hv "$ref" (by decide) (by decide)]
    rw [inlineReferences, inlineWithin_eq] at hpart
    exact get?_ref_inlineWith hr hpart
  have htype : v.declaredType = some "object" := by
    have hget : v.get? "type" = some (.string "object") := by
      rw [hv "type" (by decide) (by decide), hinert, hfixed.type]
      intro d hd
      obtain rfl := Option.some.inj (hfixed.type.symm.trans hd)
      rfl
    simp [declaredType, hget]
  have hrequired : v.requiredNames = document.requiredNames := by
    apply requiredNames_congr
    rw [hv "required" (by decide) (by decide)]
    exact hinert hmovable.required
  have hopen : (v.get? "additionalProperties").any isTruthy = false := by
    rw [hv "additionalProperties" (by decide) (by decide), hinert]
    · cases ha : document.get? "additionalProperties" with
      | none => rfl
      | some a => exact hfixed.undeclared a ha
    · intro d hd
      obtain ⟨harray, hobject⟩ := scalar_of_not_isTruthy (hfixed.undeclared d hd)
      cases d with
      | array items => simp [asArray?] at harray
      | object members => simp [asObject?] at hobject
      | _ => rfl
  have hrel := related_properties hr hpart
  rw [← hv "properties" (by decide) (by decide), hp, Option.bind_some, asObject?] at hrel
  obtain ⟨hnone, -⟩ | ⟨_, copies, hsome, hcopies, hrelated⟩ := rel_cases hrel
  · simp at hnone
  · obtain rfl := Option.some.inj hsome
    refine ⟨copies, ?_, hrelated⟩
    rw [Shape.classify_of_object href htype, hcopies, hopen, hrequired]
    rfl

end Copy

/-- The rules of an expansion and of those below it, which are those of other
expansions with the name in front. -/
theorem entries_of_moved {here : Expansion} {inner expansions : List Expansion} {name : String}
    (hkey : here.key = name)
    (h : inner.map (Expansion.entry "") = expansions.map (Expansion.entry (name ++ "."))) :
    (RuleTable.ofExpansions (here :: inner)).entries =
      (name, here.rule) ::
        (RuleTable.ofExpansions expansions).entries.map (RuleTable.leading (name ++ ".")) := by
  have hinner : inner.map (fun e => (e.key, e.rule)) = inner.map (Expansion.entry "") := by
    refine List.map_congr_left fun e _ => ?_
    rw [Expansion.entry, String.empty_append]
  have hmoved : expansions.map (Expansion.entry (name ++ ".")) =
      (expansions.map fun e => (e.key, e.rule)).map (RuleTable.leading (name ++ ".")) := by
    rw [List.map_map]
    rfl
  rw [← hkey] at h hmoved ⊢
  exact RuleTable.entries_cons_of_leading (by decide) (hinner.trans (h.trans hmoved))

section Rules

variable {document part v : Json} {rules hostRules : RuleTable} {name : String}

/-- The rules of a host whose property is a copy of a document. -/
theorem entries_of_translate (hroot : document.WellFormed) (hfixed : Fixed document)
    (hmovable : Movable document) (hpart : inlineReferences document document = .ok part)
    (hv : dereferenceProperty (singleProperty name part) part = .ok v)
    (hrules : translate document = .ok rules)
    (hhost : translate (singleProperty name v) = .ok hostRules) :
    ∃ rule, hostRules.entries =
      (name, rule) :: rules.entries.map (RuleTable.leading (name ++ ".")) := by
  obtain ⟨properties, hp⟩ := hmovable.declares
  have hprops : documentProperties document = some properties := by
    simp [documentProperties, hp, asObject?]
  rw [translate, hprops] at hrules
  obtain ⟨expansions, hwalk, rfl⟩ := map_eq_ok.1 hrules
  have href : part.get? "$ref" = none := by
    rw [inlineReferences, inlineWithin_eq] at hpart
    exact get?_ref_inlineWith hfixed.unreferenced hpart
  have hhostProps : documentProperties (singleProperty name v) = some [(name, v)] := rfl
  rw [translate, hhostProps] at hhost
  obtain ⟨found, hfound, rfl⟩ := map_eq_ok.1 hhost
  obtain ⟨target, followed, here, inner, outer, hd, -, hhere, hinner, hnil, rfl⟩ :=
    walk_cons_eq_ok.1 hfound
  obtain rfl := Except.ok.inj ((walk_nil _ _ _).symm.trans hnil)
  rw [List.append_nil]
  -- What the walk reads at the property is read from the copy, but for its `items`.
  have hread : ∀ key, key ∉ displayFields → key ≠ "items" →
      (withDisplay v.display target).get? key = part.get? key := by
    intro key hk hi
    have hvref : v.get? "$ref" = none := by
      rw [get?_dereferenceProperty href hv (by decide) (by decide), href]
    have hresolved : dereferenceProperty (singleProperty name v) v =
        .ok (withDisplay v.display target) :=
      dereferenceProperty_eq_ok.2 ⟨target, followed, hd, rfl⟩
    rw [get?_dereferenceProperty hvref hresolved hk hi, get?_dereferenceProperty href hv hk hi]
  obtain ⟨copies, hclassify, hrelated⟩ := hfixed.classify_copy hmovable hp hpart hread
  obtain ⟨rule, -, rfl⟩ := map_eq_ok.1 hhere
  have hlead : (Place.below { required := (singleProperty name v).requiredNames } name
      (.object (some copies) document.requiredNames false) document.requiredNames).lead =
      name ++ "." ++ "" := by
    simp [Place.below, Shape.isArray]
  unfold walkInner at hinner
  rw [hclassify] at hinner
  obtain ⟨moved, hmoved, hentries⟩ := exists_walk_copied hroot hmovable.portable hwalk
    (fun m hm => .declared hp hm) hrelated (name ++ ".") _ hlead rfl
  obtain rfl : inner = moved := Except.ok.inj (hinner.symm.trans hmoved)
  exact ⟨rule, entries_of_moved String.empty_append hentries⟩

end Rules

/-- A document says the same of itself when it is resolved. -/
theorem Fixed.resolveDocument {request : String → Except ResolveError Json} {served document : Json}
    {sourceUrl : Option String} (hwf : served.WellFormed) (h : Fixed served)
    (hr : Resolution.Uncached.resolveDocument request served sourceUrl = .ok document) :
    Fixed document := by
  obtain ⟨members, rfl⟩ : ∃ members, served = .object members := by
    cases served with
    | object members => exact ⟨members, rfl⟩
    | _ => exact absurd h.type (by simp [get?])
  have hsame : ∀ {key : String}, key ≠ "properties" →
      (∀ v, Members.get? key members = some v → v.asArray? = none ∧ v.asObject? = none) →
      document.get? key = Members.get? key members :=
    Resolution.get?_of_resolveDocument hwf hr h.unreferenced
  constructor
  · rw [hsame (by decide) fun v hv => ?_]
    · exact h.unreferenced
    · exact absurd (h.unreferenced.symm.trans hv) (by simp)
  · rw [hsame (by decide) fun v hv => ?_]
    · exact h.type
    · obtain rfl := Option.some.inj (h.type.symm.trans hv)
      exact ⟨rfl, rfl⟩
  · intro a ha
    rw [hsame (by decide) fun v hv => scalar_of_not_isTruthy (h.undeclared v hv)] at ha
    exact h.undeclared a ha

namespace Session
open Resolution

/-- What a source compiles to with an empty cache. -/
def compiled (library : Library) (source : Source) : Result :=
  (act library {} (.compile source)).1.result

theorem compiled_eq_ok {library : Library} {source : Source} {rules : RuleTable} :
    compiled library source = .compiled (.ok rules) ↔
      ∃ document, Uncached.resolve library source = .ok document ∧
        translate document = .ok rules := by
  rw [← run_resolve_empty]
  unfold compiled act compileResolved
  simp only [Result.compiled.injEq]
  cases (Resolution.run (resolve library source) {}).1 with
  | error e => simp
  | ok document => simp [mapError_eq_ok]

section Compiled

variable {library : Library} {url text name : String} {served document part v : Json}
  {rules : RuleTable}

theorem resolveUrl_of_noReferences (hl : library.lookup url = some text)
    (hr : Json.read text = .ok served) (hi : served.externalReferences (some url) = .ok [])
    (hd : dereferenceProperties served = .ok document) :
    Uncached.resolveUrl library [] url = .ok document := by
  refine Uncached.resolveUrl_eq_ok.2 ⟨by simp, text, served, hl, readDocument_eq_ok.2 hr, ?_⟩
  exact bind_eq_ok.2 ⟨[], hi, bind_eq_ok.2 ⟨[], rfl, hd⟩⟩

theorem compiled_url (hb : ∃ base, readBase url = .ok base)
    (h : Uncached.resolveUrl library [] url = .ok document) (ht : translate document = .ok rules) :
    compiled library { url := some url } = .compiled (.ok rules) := by
  obtain ⟨base, hb⟩ := hb
  exact compiled_eq_ok.2 ⟨document, bind_eq_ok.2 ⟨base, hb, h⟩, ht⟩

theorem compiled_host (hu : Url.isFetchable url) (hf : '#' ∉ url.toList)
    (h : Uncached.resolveUrl library [] url = .ok document)
    (hpart : inlineReferences document document = .ok part)
    (hv : dereferenceProperty (singleProperty name part) part = .ok v)
    (ht : translate (singleProperty name v) = .ok rules) :
    compiled library { document := some (host name url) } = .compiled (.ok rules) := by
  refine compiled_eq_ok.2 ⟨singleProperty name v, ?_, ht⟩
  rw [resolve_host hu hf h]
  exact bind_eq_ok.2 ⟨part, hpart, map_eq_ok.2 ⟨v, hv, rfl⟩⟩

end Compiled

/-- The rules of a document that refers to another one under a name are a rule for
the name, and the rules of the other document with the name before their keys, when
the other document can be moved. -/
theorem rules_of_moved {library : Library} {name url text : String} {served document : Json}
    {rules hostRules : RuleTable} (hu : Url.isFetchable url) (hf : '#' ∉ url.toList)
    (hserved : library.lookup url = some text) (hread : Json.read text = .ok served)
    (hfixed : Fixed served)
    (hresolved : (Resolution.run (resolve library { url := some url }) {}).1 = .ok document)
    (hmovable : Movable document)
    (hrules : compiled library { url := some url } = .compiled (.ok rules))
    (hhost : compiled library { document := some (host name url) } = .compiled (.ok hostRules)) :
    ∃ rule, hostRules.entries =
      (name, rule) :: rules.entries.map (RuleTable.leading (name ++ ".")) := by
  rw [run_resolve_empty] at hresolved
  obtain ⟨d, hd, hrules⟩ := compiled_eq_ok.1 hrules
  obtain rfl : document = d := Except.ok.inj (hresolved.symm.trans hd)
  obtain ⟨-, -, hd⟩ := bind_eq_ok.1 hd
  have hurl : Uncached.resolveUrl library [] url = .ok document := hd
  obtain ⟨hostDocument, hh, hhost⟩ := compiled_eq_ok.1 hhost
  rw [resolve_host hu hf hurl] at hh
  obtain ⟨part, hpart, hh⟩ := bind_eq_ok.1 hh
  obtain ⟨v, hv, rfl⟩ := map_eq_ok.1 hh
  obtain ⟨-, text', served', hserved', hread', hdocument⟩ := Uncached.resolveUrl_eq_ok.1 hurl
  obtain rfl : text = text' := Option.some.inj (hserved.symm.trans hserved')
  obtain rfl : served = served' := Except.ok.inj (hread.symm.trans (readDocument_eq_ok.1 hread'))
  have hfixed' := hfixed.resolveDocument (wellFormed_of_read hread) hdocument
  exact entries_of_translate (wellFormed_of_resolveUrl hurl) hfixed' hmovable hpart hv hrules hhost

theorem splitOn_loopback : "::1".splitOn "::" = ["", "1"] ∧ "1".splitOn ":" = ["1"] := by
  constructor
  · rw [String.splitOn, if_neg (by decide),
      String.splitOnAux, if_neg (by decide), if_pos (by decide), if_neg (by decide),
      String.splitOnAux, if_neg (by decide), if_pos (by decide), if_pos (by decide),
      String.splitOnAux, if_neg (by decide), if_neg (by decide),
      String.splitOnAux, if_pos (by decide)]
    decide
  · rw [String.splitOn, if_neg (by decide),
      String.splitOnAux, if_neg (by decide), if_neg (by decide),
      String.splitOnAux, if_pos (by decide)]
    decide

theorem readIpv6_loopback : Url.readIpv6 "::1" = .ok [0, 0, 0, 0, 0, 0, 0, 1] := by
  obtain ⟨hgap, hcolon⟩ := splitOn_loopback
  have hback : Url.colonList "1" = [['1']] := by
    rw [Url.colonList, if_neg (by decide), hcolon]
    rfl
  rw [Url.readIpv6, hgap]
  simp only [hback]
  decide

theorem readAuthority_loopback : Url.readAuthority "http" "[::1]".toList true =
    .ok { host := some (.ipv6 [0, 0, 0, 0, 0, 0, 0, 1]) } := by
  have hhost : Url.readHost "[::1]".toList = .ok (.ipv6 [0, 0, 0, 0, 0, 0, 0, 1]) :=
    map_eq_ok.2 ⟨_, readIpv6_loopback, rfl⟩
  rw [Url.readAuthority]
  exact bind_eq_ok.2 ⟨_, map_eq_ok.2 ⟨_, hhost, rfl⟩, rfl⟩

def exampleUrl : String := "http://[::1]/u"

theorem readBase_exampleUrl : ∃ base, readBase exampleUrl = .ok base := by
  obtain ⟨url, hurl⟩ : ∃ url, Url.read exampleUrl = .ok url :=
    ⟨_, bind_eq_ok.2 ⟨_, readAuthority_loopback, rfl⟩⟩
  exact ⟨url, mapError_eq_ok.2 hurl⟩

theorem isFetchable_exampleUrl : Url.isFetchable exampleUrl ∧ '#' ∉ exampleUrl.toList := by
  decide

/-- A document without references to others, served at the URL, and the host of it. -/
theorem compiled_exampleUrl {text : String} {document copy : Json} {rules hostRules : RuleTable}
    (hread : Json.read text = .ok document)
    (hi : document.externalReferences (some exampleUrl) = .ok [])
    (hd : dereferenceProperties document = .ok document)
    (hpart : inlineReferences document document = .ok copy)
    (hv : dereferenceProperty (singleProperty "p" copy) copy = .ok copy)
    (hrules : translate document = .ok rules)
    (hhost : translate (singleProperty "p" copy) = .ok hostRules) :
    let library : Library := [(exampleUrl, text)]
    (Resolution.run (resolve library { url := some exampleUrl }) {}).1 = .ok document ∧
      compiled library { url := some exampleUrl } = .compiled (.ok rules) ∧
      compiled library { document := some (host "p" exampleUrl) } =
        .compiled (.ok hostRules) := by
  intro library
  obtain ⟨hu, hf⟩ := isFetchable_exampleUrl
  have hurl : Uncached.resolveUrl library [] exampleUrl = .ok document :=
    resolveUrl_of_noReferences rfl hread hi hd
  refine ⟨?_, compiled_url readBase_exampleUrl hurl hrules,
    compiled_host hu hf hurl hpart hv hhost⟩
  rw [run_resolve_empty]
  obtain ⟨base, hb⟩ := readBase_exampleUrl
  exact bind_eq_ok.2 ⟨base, hb, hurl⟩

def record (name : String) (node : Json) : Json :=
  .object [("type", .string "object"), ("properties", .object [(name, node)])]

/-- The walk through an object whose property has no properties of its own. -/
theorem walk_record {root node target : Json} {unused followed : List String} {place : Place}
    {here : Expansion} (hd : dereferenceTraced root node = .ok (target, followed))
    (hr : repeated? unused followed = none)
    (hhere : Expansion.ofNode (place.below "a" (Shape.classify (record "x" node)) []) "x"
      (withDisplay node.display target) = .ok here)
    (hnone : (Shape.classify (withDisplay node.display target)).innerProperties = none) :
    ∃ outer, walk root unused place [("a", record "x" node)] = .ok [outer, here] ∧
      outer.key = place.lead ++ "a" := by
  obtain ⟨outer, houter, hkey⟩ : ∃ outer, Expansion.ofNode place "a" (record "x" node) = .ok outer ∧
      outer.key = place.lead ++ "a" := ⟨_, rfl, rfl⟩
  have hbelow : walk root unused (place.below "a" (Shape.classify (record "x" node)) [])
      [("x", node)] = .ok (here :: [] ++ []) :=
    walk_cons_of_ok hd hr hhere (walkInner_of_none hnone) (walk_nil _ _ _)
  exact ⟨outer, walk_single rfl houter rfl hbelow, hkey⟩

/-- An object whose property is an object with the property `node`. Beside it stand a part and
the text that the part may refer to. -/
def nested (node part : Json) : Json :=
  .object [("type", .string "object"), ("properties", .object [("a", record "x" node)]),
    ("d", part), ("e", textNode)]

section Nested

variable {node part target : Json} {followed : List String} {here : Expansion}

theorem translate_nested (hd : dereferenceTraced (nested node part) node = .ok (target, followed))
    (hr : repeated? (pointersOf [("a", record "x" node)] (nested node part)) followed = none)
    (hhere : Expansion.ofNode (Place.below {} "a" (Shape.classify (record "x" node)) []) "x"
      (withDisplay node.display target) = .ok here)
    (hnone : (Shape.classify (withDisplay node.display target)).innerProperties = none) :
    ∃ outer, translate (nested node part) = .ok (RuleTable.ofExpansions [outer, here]) ∧
      outer.key = "a" := by
  obtain ⟨outer, hwalk, hkey⟩ := walk_record hd hr hhere hnone
  exact ⟨outer, translate_of_walk rfl hwalk, hkey⟩

/-- The same behind a name, where the property is no reference any more. -/
theorem translate_nested_host (hd : dereferenceTraced (singleProperty "p" (nested node part)) node =
      .ok (node, []))
    (hhere : Expansion.ofNode ((Place.below {} "p" (Shape.classify (nested node part)) []).below "a"
      (Shape.classify (record "x" node)) []) "x" node = .ok here)
    (hnone : (Shape.classify node).innerProperties = none) :
    ∃ first outer, translate (singleProperty "p" (nested node part)) =
      .ok (RuleTable.ofExpansions [first, outer, here]) := by
  obtain ⟨first, hfirst⟩ : ∃ first, Expansion.ofNode {} "p" (nested node part) = .ok first :=
    ⟨_, rfl⟩
  obtain ⟨outer, hwalk, -⟩ : ∃ outer, walk (singleProperty "p" (nested node part))
      (pointersOf [("p", nested node part)] (singleProperty "p" (nested node part)))
      (Place.below {} "p" (Shape.classify (nested node part)) []) [("a", record "x" node)] =
        .ok [outer, here] ∧ outer.key = "p.a" :=
    walk_record hd rfl (by rw [withDisplay_display]; exact hhere)
      (by rw [withDisplay_display]; exact hnone)
  exact ⟨first, outer, translate_of_walk rfl (walk_single rfl hfirst rfl hwalk)⟩

end Nested

def chainText : String :=
  "\x7b\"type\":\"object\",\"properties\":\x7b\"a\":\x7b\"type\":\"object\"," ++
    "\"properties\":\x7b\"x\":\x7b\"$ref\":\"#/d\",\"title\":\"X\"\x7d\x7d\x7d\x7d," ++
    "\"d\":\x7b\"$ref\":\"#/e\",\"title\":\"B\"\x7d,\"e\":\x7b\"type\":\"string\"\x7d\x7d"

/-- A chain of references below an object, which begins with a title of its own. -/
def chainDocument : Json :=
  nested (.object [("$ref", .string "#/d"), ("title", .string "X")])
    (.object [("$ref", .string "#/e"), ("title", .string "B")])

def chainCopy : Json :=
  nested (.object [("type", .string "string"), ("title", .string "X")])
    (.object [("type", .string "string"), ("title", .string "B")])

theorem movable_chainDocument : Movable chainDocument :=
  movable_of_everywhere rfl rfl (by decide +kernel)

/-- The chain has the title of its beginning, in the document and behind a reference to it. -/
theorem rules_of_moved_chain :
    let library : Library := [(exampleUrl, chainText)]
    ∃ rules hostRules,
      compiled library { url := some exampleUrl } = .compiled (.ok rules) ∧
        compiled library { document := some (host "p" exampleUrl) } = .compiled (.ok hostRules) ∧
        (∃ rule, rules.get? "a.x" = some rule ∧ rule.label = some "X") ∧
        ∃ rule, hostRules.entries =
          ("p", rule) :: rules.entries.map (RuleTable.leading ("p" ++ ".")) := by
  intro library
  have hread : Json.read chainText = .ok chainDocument := by decide +kernel
  let node : Json := .object [("$ref", .string "#/d"), ("title", .string "X")]
  let copy : Json := .object [("type", .string "string"), ("title", .string "X")]
  have hchain : dereferenceTraced chainDocument node = .ok (textNode, ["#/d", "#/e"]) := by
    decide +kernel
  obtain ⟨inner, hinner, hkey, hlabel⟩ : ∃ inner,
      Expansion.ofNode (Place.below {} "a" (Shape.classify (record "x" node)) []) "x" copy =
        .ok inner ∧ inner.key = "a.x" ∧ inner.rule.label = some "X" := ⟨_, rfl, rfl, rfl⟩
  obtain ⟨lower, hlower⟩ : ∃ lower,
      Expansion.ofNode ((Place.below {} "p" (Shape.classify chainCopy) []).below "a"
        (Shape.classify (record "x" copy)) []) "x" copy = .ok lower := ⟨_, rfl⟩
  obtain ⟨outer, hrules, -⟩ := translate_nested hchain (by decide +kernel) hinner rfl
  obtain ⟨first, above, hhost⟩ := translate_nested_host rfl hlower rfl
  obtain ⟨hresolved, hcompiled, hcompiled'⟩ := compiled_exampleUrl hread (by decide +kernel)
    (by decide +kernel) (by decide +kernel) (by decide +kernel) hrules hhost
  refine ⟨_, _, hcompiled, hcompiled', ⟨inner.rule, ?_, hlabel⟩, ?_⟩
  · rw [RuleTable.get?_ofExpansions_eq, List.reverse_cons, List.reverse_singleton,
      List.singleton_append, List.find?_cons_of_pos (by simpa using hkey), Option.map_some]
  · have hfixed : Fixed chainDocument := fixed_of_get?_none rfl rfl rfl
    obtain ⟨hu, hf⟩ := isFetchable_exampleUrl
    exact rules_of_moved hu hf rfl hread hfixed hresolved movable_chainDocument hcompiled hcompiled'

def titledText : String :=
  "\x7b\"type\":\"object\",\"properties\":\x7b\"a\":\x7b\"type\":\"object\"," ++
    "\"properties\":\x7b\"x\":\x7b\"$ref\":\"#/d\"\x7d\x7d\x7d\x7d," ++
    "\"d\":\x7b\"$ref\":\"#/e\",\"title\":\"B\"\x7d,\"e\":\x7b\"type\":\"string\"\x7d\x7d"

/-- A reference to a part that is titled and refers to another one. -/
def titledDocument : Json :=
  .object [("type", .string "object"),
    ("properties", .object [("a", .object [("type", .string "object"),
      ("properties", .object [("x", .object [("$ref", .string "#/d")])])])]),
    ("d", .object [("$ref", .string "#/e"), ("title", .string "B")]),
    ("e", textNode)]

theorem read_titledText : Json.read titledText = .ok titledDocument := by decide +kernel

def titledCopy : Json :=
  .object [("type", .string "object"),
    ("properties", .object [("a", .object [("type", .string "object"),
      ("properties", .object
        [("x", .object [("type", .string "string"), ("title", .string "B")])])])]),
    ("d", .object [("type", .string "string"), ("title", .string "B")]),
    ("e", textNode)]

/-- The walk finds the title of the part under the property in the copy alone. -/
theorem translate_titledDocument : ∃ outer inner,
    translate titledDocument = .ok (RuleTable.ofExpansions [outer, inner]) ∧
      outer.key = "a" ∧ inner.key = "a.x" ∧ inner.rule.label = none := by
  let node : Json := .object [("$ref", .string "#/d")]
  obtain ⟨inner, hinner, hkey, hlabel⟩ : ∃ inner,
      Expansion.ofNode (Place.below {} "a" (Shape.classify (record "x" node)) []) "x" textNode =
        .ok inner ∧ inner.key = "a.x" ∧ inner.rule.label = none := ⟨_, rfl, rfl, rfl⟩
  have hchain : dereferenceTraced titledDocument node = .ok (textNode, ["#/d", "#/e"]) := by
    decide +kernel
  obtain ⟨outer, hrules, hkey'⟩ := translate_nested hchain (by decide +kernel) hinner rfl
  exact ⟨outer, inner, hrules, hkey', hkey, hlabel⟩

theorem translate_titledCopy : ∃ first outer inner,
    translate (singleProperty "p" titledCopy) =
        .ok (RuleTable.ofExpansions [first, outer, inner]) ∧
      inner.key = "p.a.x" ∧ inner.rule.label = some "B" := by
  let node : Json := .object [("type", .string "string"), ("title", .string "B")]
  obtain ⟨inner, hinner, hkey, hlabel⟩ : ∃ inner,
      Expansion.ofNode ((Place.below {} "p" (Shape.classify titledCopy) []).below "a"
        (Shape.classify (record "x" node)) []) "x" node = .ok inner ∧
        inner.key = "p.a.x" ∧ inner.rule.label = some "B" := ⟨_, rfl, rfl, rfl⟩
  obtain ⟨first, outer, hrules⟩ := translate_nested_host rfl hinner rfl
  exact ⟨first, outer, inner, hrules, hkey, hlabel⟩

/-- A title on the way of a chain of references shows below the host alone. -/
theorem rules_of_moved_titled :
    let library : Library := [(exampleUrl, titledText)]
    Url.isFetchable exampleUrl ∧ '#' ∉ exampleUrl.toList ∧
      Json.read titledText = .ok titledDocument ∧ Fixed titledDocument ∧
      (∃ properties, titledDocument.get? "properties" = some (.object properties)) ∧
      ∃ rules hostRules,
        compiled library { url := some exampleUrl } = .compiled (.ok rules) ∧
          compiled library { document := some (host "p" exampleUrl) } =
            .compiled (.ok hostRules) ∧
          ¬ ∃ rule, hostRules.entries =
            ("p", rule) :: rules.entries.map (RuleTable.leading ("p" ++ ".")) := by
  intro library
  obtain ⟨hu, hf⟩ := isFetchable_exampleUrl
  have hfixed : Fixed titledDocument := fixed_of_get?_none rfl rfl rfl
  obtain ⟨outer, inner, hrules, hkey, hkey', hlabel⟩ := translate_titledDocument
  obtain ⟨first, above, below, hhost, hbelow, hlabel'⟩ := translate_titledCopy
  obtain ⟨-, hcompiled, hcompiled'⟩ := compiled_exampleUrl read_titledText (by decide +kernel)
    (by decide +kernel) (by decide +kernel) (by decide +kernel) hrules hhost
  refine ⟨hu, hf, read_titledText, hfixed, ⟨_, rfl⟩, _, _, hcompiled, hcompiled', ?_⟩
  rintro ⟨rule, heq⟩
  have hmem : (below.key, below.rule) ∈ (RuleTable.ofExpansions [first, above, below]).entries :=
    RuleTable.mem_insertEntry _ _ _
  rw [heq, RuleTable.entries_pair (by rw [hkey, hkey']; decide), hkey, hkey', hbelow] at hmem
  have hsame : below.rule = inner.rule := by simpa [RuleTable.leading] using hmem
  rw [hsame, hlabel] at hlabel'
  exact absurd hlabel' (by simp)

end Session
end Rulebook
