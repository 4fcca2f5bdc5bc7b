import Mathlib.Data.List.TakeWhile
import Rulebook.Proofs.Reference.External

/-! Where the references out of a document lead. A reference that names its own scheme is
left as it is; any other one is joined to the absolute id of the deepest node around it
that has one, or else to the URL of the document. -/

namespace Rulebook

private theorem drop_length_takeWhile (p : Char → Bool) (text : List Char) :
    text.drop (text.takeWhile p).length = text.dropWhile p := by
  induction text with
  | nil => rfl
  | cons c rest ih =>
    rw [List.takeWhile_cons, List.dropWhile_cons]
    split
    · rw [List.length_cons, List.drop_succ_cons, ih]
    · rfl

namespace Url

/-- A text that begins with a scheme of lower-case letters, a colon and two slashes. -/
def Schemed (s : String) : Prop :=
  ∃ scheme rest : List Char, scheme ≠ [] ∧ (∀ c ∈ scheme, c.isLower) ∧
    s.toList = scheme ++ "://".toList ++ rest

def Fetchable (s : String) : Prop :=
  "http://".toList <+: s.toList ∨ "https://".toList <+: s.toList

theorem hasScheme_iff {s : String} : hasScheme s = true ↔ Schemed s := by
  simp only [hasScheme, drop_length_takeWhile, Bool.and_eq_true, List.isPrefixOf_iff_prefix]
  constructor
  · rintro ⟨hne, rest, hrest⟩
    refine ⟨s.toList.takeWhile Char.isLower, rest, by simpa using hne, ?_, ?_⟩
    · exact fun c hc => List.mem_takeWhile_imp hc
    · rw [List.append_assoc, hrest, List.takeWhile_append_dropWhile]
  · rintro ⟨scheme, rest, hne, hlower, hs⟩
    have hcolon : ¬ Char.isLower ':' = true := by decide
    have hmark : "://".toList ++ rest = ':' :: '/' :: '/' :: rest := rfl
    rw [hs, List.append_assoc, List.takeWhile_append_of_pos hlower,
      List.dropWhile_append_of_pos hlower, hmark, List.takeWhile_cons_of_neg hcolon,
      List.dropWhile_cons_of_neg hcolon, List.append_nil]
    exact ⟨by simpa using hne, rest, rfl⟩

theorem isFetchable_iff {s : String} : isFetchable s = true ↔ Fetchable s := by
  simp [isFetchable, Fetchable]

end Url

/-- A reference in two: what stands before its first hash sign, and what stands after it
if it has one. -/
structure Splits (reference external : String) (fragment : Option String) : Prop where
  text : reference.toList =
    external.toList ++ fragment.elim [] fun after => '#' :: after.toList
  first : '#' ∉ external.toList

namespace Json
open Outcome

theorem splits_splitFragment (reference : String) :
    Splits reference (splitFragment reference).1 (splitFragment reference).2 := by
  have hfirst : '#' ∉ reference.toList.takeWhile (· != '#') := fun hm => by
    have h := List.mem_takeWhile_imp hm
    simp at h
  refine ⟨?_, by simpa [splitFragment] using hfirst⟩
  have htext := List.takeWhile_append_dropWhile (p := (· != '#')) (l := reference.toList)
  simp only [splitFragment, drop_length_takeWhile, String.toList_ofList]
  cases hrest : reference.toList.dropWhile (· != '#') with
  | nil =>
    rw [hrest] at htext
    exact htext.symm
  | cons c after =>
    have hc : c = '#' := by
      have h := List.head?_dropWhile_not (· != '#') reference.toList
      simpa [hrest] using h
    rw [hrest, hc] at htext
    simpa using htext.symm

/-- There is one way to split a reference, which is the one that is read. -/
theorem splitFragment_eq_iff {reference external : String} {fragment : Option String} :
    splitFragment reference = (external, fragment) ↔ Splits reference external fragment := by
  constructor
  · intro h
    have hsplits := splits_splitFragment reference
    rwa [h] at hsplits
  · rintro ⟨htext, hfirst⟩
    have hbefore : ∀ c ∈ external.toList, (c != '#') = true := by
      rintro c hc
      exact bne_iff_ne.2 fun he => hfirst (he ▸ hc)
    simp only [splitFragment, drop_length_takeWhile, htext]
    rw [List.takeWhile_append_of_pos hbefore, List.dropWhile_append_of_pos hbefore]
    cases fragment <;> simp

/-! ### The base of a reference -/

/-- The absolute `id` of a node, or else its absolute `$id`. -/
inductive Identifies (node : Json) (url : String) : Prop where
  | id (h : node.get? "id" = some (.string url)) (hs : Url.Schemed url) : Identifies node url
  | dollarId (hn : ∀ other, node.get? "id" = some (.string other) → ¬ Url.Schemed other)
      (h : node.get? "$id" = some (.string url)) (hs : Url.Schemed url) : Identifies node url

theorem text?_eq_some_iff {key s : String} {node : Json} :
    node.text? key = some s ↔ node.get? key = some (.string s) := by
  unfold text?
  rw [Option.bind_eq_some_iff]
  constructor
  · rintro ⟨v, hv, hs⟩
    cases v <;> simp_all [asString?]
  · exact fun h => ⟨_, h, rfl⟩

theorem schemedText_eq_some_iff {key url : String} {node : Json} :
    (node.text? key).filter Url.hasScheme = some url ↔
      node.get? key = some (.string url) ∧ Url.Schemed url := by
  rw [Option.filter_eq_some_iff, text?_eq_some_iff, Url.hasScheme_iff]

theorem schemedText_eq_none_iff {key : String} {node : Json} :
    (node.text? key).filter Url.hasScheme = none ↔
      ∀ other, node.get? key = some (.string other) → ¬ Url.Schemed other := by
  rw [Option.eq_none_iff_forall_ne_some]
  simp only [ne_eq, schemedText_eq_some_iff, not_and]

theorem absoluteId_eq_some_iff {node : Json} {url : String} :
    node.absoluteId = some url ↔ Identifies node url := by
  have hchoice : node.absoluteId = ((node.text? "id").filter Url.hasScheme).or
      ((node.text? "$id").filter Url.hasScheme) := by
    simp only [absoluteId, List.findSome?_cons, List.findSome?_nil]
    generalize (node.text? "id").filter Url.hasScheme = first
    generalize (node.text? "$id").filter Url.hasScheme = second
    cases first <;> cases second <;> rfl
  rw [hchoice, Option.or_eq_some_iff, schemedText_eq_some_iff, schemedText_eq_none_iff,
    schemedText_eq_some_iff]
  constructor
  · rintro (⟨h, hs⟩ | ⟨hn, h, hs⟩)
    · exact .id h hs
    · exact .dollarId hn h hs
  · rintro (⟨h, hs⟩ | ⟨hn, h, hs⟩)
    · exact .inl ⟨h, hs⟩
    · exact .inr ⟨hn, h, hs⟩

/-- The absolute id of the deepest node that has one, among those from the node that
carries a `$ref` up to the root. -/
def Governs (document : Json) (path : List String) (url : String) : Prop :=
  ∃ depth node, depth < path.length ∧ At document (path.take depth) node ∧ Identifies node url ∧
    ∀ deeper inner, depth < deeper → deeper < path.length → At document (path.take deeper) inner →
      ∀ other, ¬ Identifies inner other

/-- The last place at which a search from the end finds something. -/
theorem findSome?_reverse_range {α : Type} {f : Nat → Option α} {n : Nat} {a : α} :
    (List.range n).reverse.findSome? f = some a ↔
      ∃ i < n, f i = some a ∧ ∀ j, i < j → j < n → f j = none := by
  induction n with
  | zero => simp
  | succ n ih =>
    rw [List.range_succ, List.reverse_append, List.reverse_singleton, List.singleton_append,
      List.findSome?_cons]
    cases hn : f n with
    | some b =>
      constructor
      · exact fun h => ⟨n, by omega, hn.trans h, fun j hj hj' => by omega⟩
      · rintro ⟨i, hi, ha, hlast⟩
        obtain rfl : i = n := by
          by_contra hne
          rw [hlast n (by omega) (by omega)] at hn
          simp at hn
        exact hn.symm.trans ha
    | none =>
      rw [ih]
      constructor
      · rintro ⟨i, hi, ha, hlast⟩
        refine ⟨i, by omega, ha, fun j hj hj' => ?_⟩
        obtain rfl | hlt : j = n ∨ j < n := by omega
        · exact hn
        · exact hlast j hj hlt
      · rintro ⟨i, hi, ha, hlast⟩
        have hne : i ≠ n := by
          rintro rfl
          rw [hn] at ha
          simp at ha
        exact ⟨i, by omega, ha, fun j hj hj' => hlast j hj (by omega)⟩

theorem nearestId_eq_some_iff {document w : Json} {path : List String} {url : String}
    (hat : At document path w) :
    document.nearestId path = some url ↔ Governs document path url := by
  have hnode : ∀ depth, ∃ node, At document (path.take depth) node := by
    intro depth
    rw [← List.take_append_drop depth path] at hat
    obtain ⟨node, hnode, -⟩ := hat.split
    exact ⟨node, hnode⟩
  have hsome : ∀ depth id, (document.at? (path.take depth)).bind absoluteId = some id ↔
      ∃ node, At document (path.take depth) node ∧ Identifies node id := by
    intro depth id
    obtain ⟨node, hn⟩ := hnode depth
    rw [hn.at?_eq, Option.bind_some, absoluteId_eq_some_iff]
    constructor
    · exact fun h => ⟨node, hn, h⟩
    · rintro ⟨other, ho, h⟩
      rwa [hn.unique ho]
  have hnone : ∀ depth, (document.at? (path.take depth)).bind absoluteId = none ↔
      ∀ inner, At document (path.take depth) inner → ∀ other, ¬ Identifies inner other := by
    intro depth
    rw [Option.eq_none_iff_forall_ne_some]
    simp only [ne_eq, hsome, not_exists, not_and]
    exact forall_comm.trans (forall_congr' fun _ => forall_comm)
  unfold nearestId
  simp only [findSome?_reverse_range, hsome, hnone]
  constructor
  · rintro ⟨depth, hlt, ⟨node, hn, hid⟩, hlast⟩
    exact ⟨depth, node, hlt, hn, hid, fun deeper inner hd hd' hi => hlast deeper hd hd' inner hi⟩
  · rintro ⟨depth, node, hlt, hn, hid, hlast⟩
    exact ⟨depth, hlt, ⟨node, hn, hid⟩, fun deeper hd hd' inner hi => hlast deeper inner hd hd' hi⟩

/-- The text of the URL against which the reference at a place is read, if there is one. -/
inductive Base (document : Json) (sourceUrl : Option String) (path : List String) :
    Option String → Prop where
  | id {url : String} (h : Governs document path url) : Base document sourceUrl path (some url)
  | source (h : ∀ url, ¬ Governs document path url) : Base document sourceUrl path sourceUrl

/-- What a reference names at its place, without its fragment: a URL, or nothing for the
reason given. -/
inductive Names (document : Json) (sourceUrl : Option String) (path : List String)
    (reference external : String) : Except ResolveError String → Prop where
  | itself (hs : Url.Schemed external) :
      Names document sourceUrl path reference external (.ok external)
  | joined {base : String} {url target : Url} (hs : ¬ Url.Schemed external)
      (hb : Base document sourceUrl path (some base)) (hr : Url.read base = .ok url)
      (hj : url.join external = .ok target) :
      Names document sourceUrl path reference external (.ok target.text)
  | noBase (hs : ¬ Url.Schemed external) (hb : Base document sourceUrl path none) :
      Names document sourceUrl path reference external (.error (.unresolvableBase reference))
  | badBase {base : String} {fault : UrlFault} (hs : ¬ Url.Schemed external)
      (hb : Base document sourceUrl path (some base)) (hr : Url.read base = .error fault) :
      Names document sourceUrl path reference external (.error (.invalidUrl base fault))
  | unjoinable {base : String} {url : Url} {fault : UrlFault} (hs : ¬ Url.Schemed external)
      (hb : Base document sourceUrl path (some base)) (hr : Url.read base = .ok url)
      (hj : url.join external = .error fault) :
      Names document sourceUrl path reference external (.error (.invalidUrl external fault))

/-- What a reference at a place is listed as, or why it cannot be. -/
inductive ListedAs (document : Json) (sourceUrl : Option String) (path : List String)
    (reference : String) : Except ResolveError ExternalReference → Prop where
  | item {external url : String} {fragment : Option String}
      (hs : Splits reference external fragment)
      (hn : Names document sourceUrl path reference external (.ok url)) (hf : Url.Fetchable url) :
      ListedAs document sourceUrl path reference
        (.ok { url, fragment := fragment.filter (· != ""), path })
  | notFetchable {external url : String} {fragment : Option String}
      (hs : Splits reference external fragment)
      (hn : Names document sourceUrl path reference external (.ok url)) (hf : ¬ Url.Fetchable url) :
      ListedAs document sourceUrl path reference (.error (.unsupported reference .notFetchable))
  | fails {external : String} {fragment : Option String} {e : ResolveError}
      (hs : Splits reference external fragment)
      (hn : Names document sourceUrl path reference external (.error e)) :
      ListedAs document sourceUrl path reference (.error e)

section ListedAs

variable {document w : Json} {sourceUrl : Option String} {path : List String} {reference : String}

theorem base_iff (hat : At document path w) {base : Option String} :
    Base document sourceUrl path base ↔ (document.nearestId path).or sourceUrl = base := by
  cases hid : document.nearestId path with
  | some id =>
    have hgoverns := (nearestId_eq_some_iff hat).1 hid
    rw [Option.some_or]
    constructor
    · rintro (h | h)
      · rw [← hid, (nearestId_eq_some_iff hat).2 h]
      · exact absurd hgoverns (h id)
    · rintro rfl
      exact .id hgoverns
  | none =>
    have hnone : ∀ url, ¬ Governs document path url := by
      intro url h
      rw [(nearestId_eq_some_iff hat).2 h] at hid
      simp at hid
    rw [Option.none_or]
    constructor
    · rintro (h | -)
      · exact absurd h (hnone _)
      · rfl
    · rintro rfl
      exact .source hnone

/-! The URL of a reference that does not name its scheme, by how far it is read. -/

section Relative

variable {external : String} (hs : ¬ Url.Schemed external)

include hs

theorem absoluteUrl_of_relative :
    document.absoluteUrl path sourceUrl reference external =
      ((document.nearestId path).or sourceUrl).elim (.error (.unresolvableBase reference))
        fun base => readBase base >>= fun url =>
          ((url.join external).mapError (.invalidUrl external)).map Url.text := by
  have hscheme : Url.hasScheme external = false := Bool.eq_false_iff.2 (mt Url.hasScheme_iff.1 hs)
  have hbase : document.baseUrl path sourceUrl reference =
      ((document.nearestId path).or sourceUrl).elim (.error (.unresolvableBase reference))
        readBase := by
    unfold baseUrl
    cases document.nearestId path <;> cases sourceUrl <;> rfl
  unfold absoluteUrl
  rw [hscheme, hbase]
  cases (document.nearestId path).or sourceUrl <;> rfl

theorem absoluteUrl_of_noBase (hb : (document.nearestId path).or sourceUrl = none) :
    document.absoluteUrl path sourceUrl reference external =
      .error (.unresolvableBase reference) := by
  rw [absoluteUrl_of_relative hs, hb]
  rfl

variable {base : String} (hb : (document.nearestId path).or sourceUrl = some base)

include hb

theorem absoluteUrl_of_badBase {fault : UrlFault} (hr : Url.read base = .error fault) :
    document.absoluteUrl path sourceUrl reference external = .error (.invalidUrl base fault) := by
  rw [absoluteUrl_of_relative hs, hb, Option.elim_some, readBase, hr]
  rfl

theorem absoluteUrl_of_unjoinable {url : Url} {fault : UrlFault} (hr : Url.read base = .ok url)
    (hj : url.join external = .error fault) :
    document.absoluteUrl path sourceUrl reference external =
      .error (.invalidUrl external fault) := by
  rw [absoluteUrl_of_relative hs, hb, Option.elim_some, readBase, hr]
  change ((url.join external).mapError _).map _ = _
  rw [hj]
  rfl

theorem absoluteUrl_of_joined {url target : Url} (hr : Url.read base = .ok url)
    (hj : url.join external = .ok target) :
    document.absoluteUrl path sourceUrl reference external = .ok target.text := by
  rw [absoluteUrl_of_relative hs, hb, Option.elim_some, readBase, hr]
  change ((url.join external).mapError _).map _ = _
  rw [hj]
  rfl

end Relative

theorem absoluteUrl_of_schemed {external : String} (hs : Url.Schemed external) :
    document.absoluteUrl path sourceUrl reference external = .ok external :=
  if_pos (Url.hasScheme_iff.2 hs)

theorem names_absoluteUrl (hat : At document path w) (sourceUrl : Option String)
    (reference external : String) :
    Names document sourceUrl path reference external
      (document.absoluteUrl path sourceUrl reference external) := by
  by_cases hs : Url.Schemed external
  · rw [absoluteUrl_of_schemed hs]
    exact .itself hs
  · cases hb : (document.nearestId path).or sourceUrl with
    | none =>
      rw [absoluteUrl_of_noBase hs hb]
      exact .noBase hs ((base_iff hat).2 hb)
    | some base =>
      have hbase := (base_iff hat).2 hb
      cases hr : Url.read base with
      | error fault =>
        rw [absoluteUrl_of_badBase hs hb hr]
        exact .badBase hs hbase hr
      | ok url =>
        cases hj : url.join external with
        | error fault =>
          rw [absoluteUrl_of_unjoinable hs hb hr hj]
          exact .unjoinable hs hbase hr hj
        | ok target =>
          rw [absoluteUrl_of_joined hs hb hr hj]
          exact .joined hs hbase hr hj

/-- What a reference names is read, and nothing else is. -/
theorem names_iff (hat : At document path w) {external : String} {x : Except ResolveError String} :
    Names document sourceUrl path reference external x ↔
      document.absoluteUrl path sourceUrl reference external = x := by
  constructor
  · intro h
    cases h with
    | itself hs => exact absoluteUrl_of_schemed hs
    | noBase hs hb => exact absoluteUrl_of_noBase hs ((base_iff hat).1 hb)
    | badBase hs hb hr => exact absoluteUrl_of_badBase hs ((base_iff hat).1 hb) hr
    | unjoinable hs hb hr hj => exact absoluteUrl_of_unjoinable hs ((base_iff hat).1 hb) hr hj
    | joined hs hb hr hj => exact absoluteUrl_of_joined hs ((base_iff hat).1 hb) hr hj
  · rintro rfl
    exact names_absoluteUrl hat sourceUrl reference external

section Split

variable {external : String} {fragment : Option String} (hs : Splits reference external fragment)

include hs

theorem externalReference?_of_splits :
    document.externalReference? sourceUrl path reference =
      document.absoluteUrl path sourceUrl reference external >>= fun url =>
        if Url.isFetchable url then .ok { url, fragment := fragment.filter (· != ""), path }
        else .error (.unsupported reference .notFetchable) := by
  unfold externalReference?
  rw [splitFragment_eq_iff.2 hs]
  rfl

theorem externalReference?_of_error {e : ResolveError}
    (hx : document.absoluteUrl path sourceUrl reference external = .error e) :
    document.externalReference? sourceUrl path reference = .error e := by
  rw [externalReference?_of_splits hs, hx]
  rfl

variable {url : String} (hx : document.absoluteUrl path sourceUrl reference external = .ok url)

include hx

theorem externalReference?_of_fetchable (hf : Url.Fetchable url) :
    document.externalReference? sourceUrl path reference =
      .ok { url, fragment := fragment.filter (· != ""), path } := by
  rw [externalReference?_of_splits hs, hx]
  exact if_pos (Url.isFetchable_iff.2 hf)

theorem externalReference?_of_notFetchable (hf : ¬ Url.Fetchable url) :
    document.externalReference? sourceUrl path reference =
      .error (.unsupported reference .notFetchable) := by
  rw [externalReference?_of_splits hs, hx]
  exact if_neg (mt Url.isFetchable_iff.1 hf)

end Split

theorem listedAs_externalReference? (hat : At document path w) (sourceUrl : Option String)
    (reference : String) :
    ListedAs document sourceUrl path reference
      (document.externalReference? sourceUrl path reference) := by
  have hs := splits_splitFragment reference
  have hnames := names_absoluteUrl hat sourceUrl reference (splitFragment reference).1
  cases hx : document.absoluteUrl path sourceUrl reference (splitFragment reference).1 with
  | error e =>
    rw [externalReference?_of_error hs hx]
    exact .fails hs (hx ▸ hnames)
  | ok url =>
    rw [hx] at hnames
    by_cases hf : Url.Fetchable url
    · rw [externalReference?_of_fetchable hs hx hf]
      exact .item hs hnames hf
    · rw [externalReference?_of_notFetchable hs hx hf]
      exact .notFetchable hs hnames hf

/-- What a reference is listed as is read, and nothing else is. -/
theorem listedAs_iff (hat : At document path w) {x : Except ResolveError ExternalReference} :
    ListedAs document sourceUrl path reference x ↔
      document.externalReference? sourceUrl path reference = x := by
  constructor
  · intro h
    cases h with
    | item hs hn hf => exact externalReference?_of_fetchable hs ((names_iff hat).1 hn) hf
    | notFetchable hs hn hf => exact externalReference?_of_notFetchable hs ((names_iff hat).1 hn) hf
    | fails hs hn => exact externalReference?_of_error hs ((names_iff hat).1 hn)
  · rintro rfl
    exact listedAs_externalReference? hat sourceUrl reference

end ListedAs

/-! ### The list of the references -/

/-- A place where an object has under `$ref` a text that leads out of the document. -/
def ReferenceAt (document : Json) (path : List String) (reference : String) : Prop :=
  ∃ node members, path = node ++ ["$ref"] ∧ At document node (.object members) ∧
    Members.get? "$ref" members = some (.string reference) ∧ Outward reference

/-- A list of all places with a reference out of a document, in document order. -/
structure ListsReferences (document : Json) (places : List (List String × String)) : Prop where
  ordered : places.Pairwise fun a b => Before document a.1 b.1
  mem : ∀ path reference, (path, reference) ∈ places ↔ ReferenceAt document path reference

variable {document : Json} {sourceUrl : Option String}

theorem ReferenceAt.at_path {path : List String} {reference : String}
    (h : ReferenceAt document path reference) : At document path (.string reference) := by
  obtain ⟨node, members, rfl, hnode, hmember, -⟩ := h
  exact hnode.append (.member hmember .here)

theorem referenceAt_iff {path : List String} {reference : String} :
    ReferenceAt document path reference ↔
      path.getLast?.getD "" = "$ref" ∧ At document path (.string reference) ∧
        Outward reference := by
  constructor
  · intro h
    have hat := h.at_path
    obtain ⟨node, members, rfl, -, -, ho⟩ := h
    exact ⟨by simp, hat, ho⟩
  · rintro ⟨hlast, hat, ho⟩
    rw [eq_append_ref hlast] at hat
    obtain ⟨node, hnode, hkey⟩ := hat.split
    obtain ⟨u, hu, hstring⟩ := hkey.of_key (by decide)
    obtain rfl := At.nil_iff.1 hstring
    cases node with
    | object members => exact ⟨_, members, eq_append_ref hlast, hnode, hu, ho⟩
    | _ => simp [Json.get?] at hu

def outwardPlaces (document : Json) : List (List String × String) :=
  (document.leaves {}).filterMap fun leaf =>
    leaf.outward?.map fun reference => (leaf.path, reference)

theorem mem_outwardPlaces_iff (hd : document.WellFormed) {path : List String}
    {reference : String} :
    (path, reference) ∈ document.outwardPlaces ↔ ReferenceAt document path reference := by
  rw [referenceAt_iff, outwardPlaces, List.mem_filterMap]
  constructor
  · rintro ⟨leaf, hleaf, h⟩
    obtain ⟨text, ho, he⟩ := Option.map_eq_some_iff.1 h
    obtain ⟨rfl, rfl⟩ := Prod.mk.inj he
    obtain ⟨hlast, hv, hout⟩ := Leaf.outward?_eq_some.1 ho
    exact ⟨hlast, hv ▸ ((mem_leaves_iff hd).1 hleaf).2.1, hout⟩
  · rintro ⟨hlast, hat, hout⟩
    have hne : path ≠ [] := by
      rintro rfl
      simp at hlast
    exact ⟨⟨path, .string reference⟩, (mem_leaves_iff hd).2 ⟨hne, hat, rfl⟩,
      Option.map_eq_some_iff.2 ⟨_, Leaf.outward?_eq_some.2 ⟨hlast, rfl, hout⟩, rfl⟩⟩

theorem listsReferences_outwardPlaces (hd : document.WellFormed) :
    ListsReferences document document.outwardPlaces := by
  refine ⟨?_, fun _ _ => mem_outwardPlaces_iff hd⟩
  rw [outwardPlaces, List.pairwise_filterMap]
  refine (pairwise_before_leaves hd {}).imp fun hbefore a ha b hb => ?_
  obtain ⟨_, -, rfl⟩ := Option.map_eq_some_iff.1 ha
  obtain ⟨_, -, rfl⟩ := Option.map_eq_some_iff.1 hb
  exact hbefore

/-- There is one list of the references. -/
theorem ListsReferences.unique (hd : document.WellFormed)
    {places others : List (List String × String)}
    (h : ListsReferences document places) (h' : ListsReferences document others) :
    places = others :=
  Before.eq_of_pairwise hd h.ordered h'.ordered fun a => (h.mem a.1 a.2).trans (h'.mem a.1 a.2).symm

theorem externalReferences_eq_mapM : document.externalReferences sourceUrl =
    document.outwardPlaces.mapM fun place =>
      document.externalReference? sourceUrl place.1 place.2 := rfl

/-- The references out of a document are listed in document order, each with its position,
its URL and its fragment; where one has no URL, the first such one is complained of. -/
theorem externalReferences_course (hd : document.WellFormed) (sourceUrl : Option String) :
    ∃ places, ListsReferences document places ∧
      (∀ others, ListsReferences document others → others = places) ∧
      (∀ items, document.externalReferences sourceUrl = .ok items ↔
        List.Forall₂ (fun place item => item.path = place.1 ∧
            document.at? item.path = some (.string place.2) ∧
            ListedAs document sourceUrl place.1 place.2 (.ok item)) places items) ∧
      ∀ e, document.externalReferences sourceUrl = .error e ↔
        ∃ before place after, places = before ++ place :: after ∧
          (∀ earlier ∈ before, ∃ item,
            ListedAs document sourceUrl earlier.1 earlier.2 (.ok item)) ∧
          ListedAs document sourceUrl place.1 place.2 (.error e) := by
  have hlists := listsReferences_outwardPlaces hd
  have hat : ∀ place ∈ document.outwardPlaces, At document place.1 (.string place.2) :=
    fun place hm => ((hlists.mem _ _).1 hm).at_path
  have hlisted : ∀ place ∈ document.outwardPlaces, ∀ x,
      document.externalReference? sourceUrl place.1 place.2 = x ↔
        ListedAs document sourceUrl place.1 place.2 x :=
    fun place hm _ => (listedAs_iff (hat place hm)).symm
  refine ⟨_, hlists, fun _ h => h.unique hd hlists, fun items => ?_, fun e => ?_⟩
  · rw [externalReferences_eq_mapM, mapM_eq_ok]
    refine forall₂_congr_of_mem fun place hm item => ?_
    rw [hlisted place hm]
    refine ⟨fun h => ?_, fun h => h.2.2⟩
    have hpath := path_of_externalReference? ((hlisted place hm _).2 h)
    exact ⟨hpath, hpath ▸ (hat place hm).at?_eq, h⟩
  · rw [externalReferences_eq_mapM, mapM_eq_error_iff]
    refine exists_congr fun before => exists_congr fun place => exists_congr fun after =>
      and_congr_right fun hsplit => ?_
    rw [hsplit] at hlisted
    refine and_congr (forall₂_congr fun earlier hm => exists_congr fun item => ?_) ?_
    · exact hlisted earlier (List.mem_append_left _ hm) _
    · exact hlisted place (by simp) _

/-- A reference that names its scheme, and after it one that has no base. -/
theorem externalReferences_course_no_base :
    let document : Json := .object [("x", .object [("$ref", .string "http://t.example/d#/a")]),
      ("y", .array [.object [("$ref", .string "#/x")], .object [("$ref", .string "b.json")]])]
    document.WellFormed ∧
      ListsReferences document
        [(["x", "$ref"], "http://t.example/d#/a"), (["y", "1", "$ref"], "b.json")] ∧
      document.externalReferences none = .error (.unresolvableBase "b.json") ∧
      ∃ before place after, ListsReferences document (before ++ place :: after) ∧
        (∀ earlier ∈ before, ∃ item, ListedAs document none earlier.1 earlier.2 (.ok item)) ∧
        ListedAs document none place.1 place.2 (.error (.unresolvableBase "b.json")) := by
  intro document
  have hd : document.WellFormed := by decide
  have he : document.externalReferences none = .error (.unresolvableBase "b.json") := by decide
  have hplaces : document.outwardPlaces =
      [(["x", "$ref"], "http://t.example/d#/a"), (["y", "1", "$ref"], "b.json")] := by decide
  obtain ⟨places, hlists, -, -, herror⟩ := externalReferences_course hd none
  obtain ⟨before, place, after, rfl, hfirst⟩ := (herror _).1 he
  exact ⟨hd, hplaces ▸ listsReferences_outwardPlaces hd, he, before, place, after, hlists, hfirst⟩

end Json
end Rulebook
