import Rulebook.Json.Reader
import Rulebook.Reference.External
import Rulebook.Reference.Inlining
import Rulebook.Resolution.Cache
import Rulebook.Translation.Walk

/-!
Resolving a document: every external reference is replaced by the part of the
other document that it names, and the top-level properties are dereferenced.
Other documents are fetched and resolved at most once, and a document that is
met while it is being resolved is a cycle.

The URLs that a document refers to may be resolved concurrently, until one of them
fails. Here they are resolved one after another, in the order of first appearance, as
they are when every fetch is ready at once. How long a fetch takes is not modelled.
-/

namespace Rulebook

/-- What a fetch can find: texts by URL. -/
abbrev Library := List (String × String)

namespace Resolution

structure State where
  cache : Cache := {}
  fetched : List String := []

/-- A computation that may fail; what it fetched and cached remains. -/
abbrev Request := ExceptT ResolveError (StateM State)

def readDocument (text origin : String) : Except ResolveError Json :=
  (Json.read text).mapError (.invalidJson origin)

def notFound : String := "404 Not Found"

/-- Turn a reference to the document's own URL into a pointer. -/
def makeInternal (document : Json) (item : ExternalReference) : Json :=
  document.modifyAt item.path fun _ => .string ("#" ++ item.fragment.getD "")

def distinctUrls (items : List ExternalReference) : List String :=
  (items.map (·.url)).eraseDups

/-- What an external reference is replaced by: the part of the target that its
fragment names, without references into the target. -/
def replacement (target : Json) (item : ExternalReference) : Except ResolveError Json := do
  let part ← match item.fragment with
    | some pointer => Pointer.resolve target ("#" ++ pointer)
    | none => .ok target
  Json.inlineReferences target part

/-- Put a value in place of the node that carries a reference, under the
display text of that node. The document stays as it is when the node is gone. -/
def splice (document : Json) (item : ExternalReference) (value : Json) : Json :=
  document.modifyAt item.nodePath fun node => Json.withDisplay node.display value

def spliceItem (targets : List (String × Json)) (document : Json) (item : ExternalReference) :
    Except ResolveError Json :=
  match targets.lookup item.url with
  | some target => (replacement target item).map (splice document item)
  | none => .ok document

def dereferenceEach (document : Json) :
    List (String × Json) → Except ResolveError (List (String × Json))
  | [] => .ok []
  | (name, node) :: rest => do
    let v ← Json.dereferenceProperty document node
    return (name, v) :: (← dereferenceEach document rest)

def dereferenceProperties (document : Json) : Except ResolveError Json :=
  match document, (document.get? "properties").bind Json.asObject? with
  | .object members, some properties => do
    let properties ← dereferenceEach document properties
    return .object (Members.insert "properties" (.object properties) members)
  | _, _ => .ok document

/-- Replace the external references of a document, given their targets. -/
def assemble (document : Json) (items : List ExternalReference) (targets : List (String × Json)) :
    Except ResolveError Json := do
  let document ← items.foldlM (spliceItem targets) document
  dereferenceProperties document

/-- Resolve a document when `resolveUrl` resolves those it refers to. -/
def resolveDocument (resolveUrl : String → Request Json) (document : Json)
    (sourceUrl : Option String) : Request Json := do
  let items ← liftM (document.externalReferences sourceUrl)
  let (own, others) := items.partition fun item => some item.url == sourceUrl
  let document := own.foldl makeInternal document
  let targets ← (distinctUrls others).mapM fun url => do return (url, ← resolveUrl url)
  liftM (assemble document others targets)

/-- The URLs of a library that are not being resolved. -/
def idle (library : Library) (chain : List String) : List String :=
  (library.map Prod.fst).filter fun url => !chain.contains url

theorem length_idle_lt {library : Library} {chain : List String} {url text : String}
    (hc : url ∉ chain) (hl : library.lookup url = some text) :
    (idle library (chain ++ [url])).length < (idle library chain).length := by
  have hm : url ∈ idle library chain := by
    simp only [idle, List.mem_filter, List.mem_map, List.contains_eq_mem, hc, decide_false,
      Bool.not_false, and_true]
    induction library with
    | nil => simp at hl
    | cons entry rest ih =>
      obtain ⟨u, t⟩ := entry
      by_cases h : url = u
      · exact ⟨(u, t), by simp, h.symm⟩
      · have hb : (url == u) = false := by simpa using h
        simp only [List.lookup_cons, hb] at hl
        obtain ⟨e, he, hu⟩ := ih hl
        exact ⟨e, List.mem_cons_of_mem _ he, hu⟩
  have hsub : idle library (chain ++ [url]) = (idle library chain).filter (· != url) := by
    simp only [idle, List.filter_filter]
    apply List.filter_congr
    intro u _
    by_cases hu : u = url <;> by_cases hx : u ∈ chain <;> simp [hu, hx]
  rw [hsub]
  exact List.length_filter_lt_length_iff_exists.2 ⟨url, hm, by simp⟩

/-- Resolve the document at a URL. The chain holds the documents that are being
resolved; the cache is asked before anything is fetched. -/
def resolveUrl (library : Library) (chain : List String) (url : String) : Request Json :=
  if _hc : url ∈ chain then throw (.circular url)
  else do
    let state ← get
    match state.cache.get? url with
    | some document => return document
    | none =>
      set { state with fetched := state.fetched ++ [url] }
      match _hl : library.lookup url with
      | none => throw (.fetchFailed url notFound)
      | some text =>
        let document ← liftM (readDocument text url)
        let resolved ← resolveDocument (fun other => resolveUrl library (chain ++ [url]) other)
          document (some url)
        modify fun state => { state with cache := state.cache.insert url resolved }
        return resolved
termination_by (idle library chain).length
decreasing_by exact length_idle_lt _hc _hl

end Resolution

/-- What to resolve: a document or its text, a URL, or both. With both the URL
is the base of relative references and the key in the cache. -/
structure Source where
  document : Option Json := none
  text : Option String := none
  url : Option String := none

namespace Resolution

def inlineOrigin : String := "<inline>"

def sourceDocument (source : Source) : Except ResolveError (Option Json) :=
  match source.document, source.text with
  | some document, _ => .ok (some document)
  | none, some text => some <$> readDocument text (source.url.getD inlineOrigin)
  | none, none => .ok none

def cachedSource (source : Source) : Request (Option Json) :=
  match source.url with
  | none => return none
  | some url => do
    let _ ← liftM (Json.readBase url)
    return (← get).cache.get? url

def resolveFresh (library : Library) (source : Source) : Request Json := do
  match ← liftM (sourceDocument source), source.url with
  | some document, url =>
    let resolved ← resolveDocument (resolveUrl library url.toList) document url
    if let some url := url then
      modify fun state => { state with cache := state.cache.insert url resolved }
    return resolved
  | none, some url => resolveUrl library [] url
  | none, none => throw .missingSource

/-- Resolve a source: no external reference remains, and the top-level
properties are dereferenced. -/
def resolve (library : Library) (source : Source) : Request Json := do
  match ← cachedSource source with
  | some document => return document
  | none => resolveFresh library source

def run {α : Type} (request : Request α) (cache : Cache) : Except ResolveError α × State :=
  StateT.run (ExceptT.run request) { cache }

end Resolution

def compileResolved (resolved : Except ResolveError Json) : Except CompileError RuleTable :=
  match resolved with
  | .error e => .error (.resolve e)
  | .ok document => (translate document).mapError .translate

end Rulebook
