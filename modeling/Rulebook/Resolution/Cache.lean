import Rulebook.Json.Basic

/-!
Resolved documents by URL. The first document stored for a URL stays until the
cache is cleared.
-/

namespace Rulebook

structure Cache where
  entries : List (String × Json) := []

namespace Cache

def get? (cache : Cache) (url : String) : Option Json := cache.entries.lookup url

def contains (cache : Cache) (url : String) : Bool := (cache.get? url).isSome

/-- Store a document unless there is one for the URL already. -/
def insert (cache : Cache) (url : String) (document : Json) : Cache :=
  if cache.contains url then cache else ⟨cache.entries ++ [(url, document)]⟩

def urls (cache : Cache) : List String := cache.entries.map Prod.fst

def size (cache : Cache) : Nat := cache.entries.length

def isEmpty (cache : Cache) : Bool := cache.entries.isEmpty

@[simp] theorem get?_empty (url : String) : get? {} url = none := rfl

/-- A stored document stays, whatever is stored later. -/
theorem get?_insert_of_some {cache : Cache} {url : String} {document : Json}
    (h : cache.get? url = some document) (other : String) (d : Json) :
    (cache.insert other d).get? url = some document := by
  unfold insert
  split
  · exact h
  · simp only [get?] at h
    simp [get?, List.lookup_append, h]

/-- Storing a document for one URL leaves the others alone. -/
theorem get?_insert_of_ne {url other : String} (h : url ≠ other) (cache : Cache) (d : Json) :
    (cache.insert other d).get? url = cache.get? url := by
  unfold insert
  split
  · rfl
  · have hb : (url == other) = false := by simpa using h
    simp [get?, List.lookup_append, List.lookup_cons, hb]

theorem get?_insert_self {cache : Cache} {url : String} (h : cache.get? url = none) (d : Json) :
    (cache.insert url d).get? url = some d := by
  have hc : cache.contains url = false := by simp [contains, h]
  simp only [get?] at h
  simp [insert, hc, get?, List.lookup_append, h]

theorem mem_urls_iff {cache : Cache} {url : String} :
    url ∈ cache.urls ↔ ∃ document, cache.get? url = some document := by
  rw [← Option.isSome_iff_exists, get?, List.lookup_isSome_iff, urls, List.mem_map]
  refine exists_congr fun entry => and_congr_right fun _ => ?_
  rw [beq_iff_eq]
  exact eq_comm

theorem get?_eq_none_iff {cache : Cache} {url : String} :
    cache.get? url = none ↔ url ∉ cache.urls := by
  rw [mem_urls_iff]
  cases cache.get? url <;> simp

theorem mem_urls_insert {cache : Cache} {url other : String} {d : Json} :
    other ∈ (cache.insert url d).urls ↔ other ∈ cache.urls ∨ other = url := by
  unfold insert
  split
  · rename_i h
    have hm : url ∈ cache.urls := mem_urls_iff.2 (Option.isSome_iff_exists.1 h)
    constructor
    · exact .inl
    · rintro (ho | rfl)
      · exact ho
      · exact hm
  · simp [urls]

end Cache
end Rulebook
