import Mathlib.Data.List.Forall2
import Rulebook.Proofs.Json.Position
import Rulebook.Proofs.Text.Percent
import Rulebook.Reference.Pointer
import Rulebook.Validation.Fault

/-! Pointers as they are written for paths. The two escapes of a segment are undone in
turn, so that every place of a document is named by each pointer that is written for its
path, and a path that leads nowhere is complained of by the segment at which it ends. -/

namespace Rulebook
namespace Pointer

theorem unescape_cons_of_ne {c : Char} (h : c ≠ '~') (digit replacement : Char)
    (rest : List Char) :
    unescape digit replacement (c :: rest) = c :: unescape digit replacement rest := by
  cases rest with
  | nil => simp [unescape]
  | cons d rest => simp [unescape, h]

def escapeChar (c : Char) : List Char :=
  if c = '~' then ['~', '0'] else if c = '/' then ['~', '1'] else [c]

theorem unescape_slashes (key : List Char) :
    unescape '1' '/' (key.flatMap escapeChar) =
      key.flatMap fun c => if c = '~' then ['~', '0'] else [c] := by
  induction key with
  | nil => simp [unescape]
  | cons c rest ih =>
    rw [List.flatMap_cons, List.flatMap_cons]
    by_cases ht : c = '~'
    · subst ht
      have hstep := unescape_cons_of_ne (show '0' ≠ '~' by decide) '1' '/'
        (rest.flatMap escapeChar)
      simp [escapeChar, unescape, hstep, ih]
    · by_cases hs : c = '/'
      · subst hs
        simp [escapeChar, unescape, ih]
      · simp only [escapeChar, ht, hs, ↓reduceIte, List.singleton_append]
        rw [unescape_cons_of_ne ht, ih]

theorem unescape_tildes (key : List Char) :
    unescape '0' '~' (key.flatMap fun c => if c = '~' then ['~', '0'] else [c]) = key := by
  induction key with
  | nil => simp [unescape]
  | cons c rest ih =>
    rw [List.flatMap_cons]
    by_cases ht : c = '~'
    · subst ht
      simp [unescape, ih]
    · simp only [ht, ↓reduceIte, List.singleton_append]
      rw [unescape_cons_of_ne ht, ih]

/-- A key is read back from the segment that it is written as. -/
theorem unescapeSegment_escapeSegment (key : String) :
    unescapeSegment (Violation.escapeSegment key) = key := by
  have hslashes := unescape_slashes key.toList
  unfold unescapeSegment Violation.escapeSegment
  rw [String.toList_ofList]
  change String.ofList (unescape '0' '~' (unescape '1' '/' (key.toList.flatMap escapeChar))) = key
  rw [hslashes, unescape_tildes, String.ofList_toList]

theorem slash_notMem_escapeSegment (key : String) :
    '/' ∉ (Violation.escapeSegment key).toList := by
  unfold Violation.escapeSegment
  rw [String.toList_ofList, List.mem_flatMap]
  rintro ⟨c, -, hc⟩
  split_ifs at hc with ht hs
  · simp at hc
  · simp at hc
  · exact hs (List.mem_singleton.1 hc).symm

theorem splitSlashes_slash (rest : List Char) :
    splitSlashes ('/' :: rest) = [] :: splitSlashes rest := by
  have hne := splitSlashes_ne_nil rest
  rw [splitSlashes]
  cases hr : splitSlashes rest with
  | nil => exact absurd hr hne
  | cons part parts => simp

theorem splitSlashes_append {part rest : List Char} {parts : List (List Char)} (h : '/' ∉ part)
    (hr : splitSlashes rest = [] :: parts) : splitSlashes (part ++ rest) = part :: parts := by
  induction part with
  | nil => exact hr
  | cons c part ih =>
    obtain ⟨hc, hp⟩ := List.ne_and_not_mem_of_not_mem_cons h
    rw [List.cons_append, splitSlashes, ih hp]
    simp [hc.symm]

/-- The segments of a pointer are those of the path that it is written from. -/
theorem splitSlashes_pointerTo (path : List String) :
    splitSlashes (Violation.pointerTo path).toList =
      [] :: path.map fun key => (Violation.escapeSegment key).toList := by
  induction path with
  | nil => rfl
  | cons key rest ih =>
    have htext : (Violation.pointerTo (key :: rest)).toList =
        '/' :: ((Violation.escapeSegment key).toList ++ (Violation.pointerTo rest).toList) := by
      simp [Violation.pointerTo, String.join_cons]
    rw [htext, splitSlashes_slash, splitSlashes_append (slash_notMem_escapeSegment key) ih]
    rfl

/-! ### Reading what is written -/

/-- The text of a segment for a key: its tildes and slashes are escaped, and then some of
the characters are percent-encoded. -/
def WritesSegment (key : String) (raw : List Char) : Prop :=
  Percent.Writes (key.toList.flatMap escapeChar) raw

/-- A pointer for a path, with a slash before each segment; it may begin with a hash
sign. -/
def Writes (path : List String) (pointer : String) : Prop :=
  ∃ raws, List.Forall₂ WritesSegment path raws ∧
    (pointer.toList = raws.flatMap (List.cons '/') ∨
      pointer.toList = '#' :: raws.flatMap (List.cons '/'))

theorem decodeSegment_of_writes {key : String} {raw : List Char} (h : WritesSegment key raw) :
    decodeSegment (String.ofList raw) = some key := by
  have hkey : Violation.escapeSegment key = String.ofList (key.toList.flatMap escapeChar) := rfl
  rw [decodeSegment, Percent.decode?_of_writes h, Option.map_some, ← hkey,
    unescapeSegment_escapeSegment]

theorem slash_notMem_of_writes {key : String} {raw : List Char} (h : WritesSegment key raw) :
    '/' ∉ raw := by
  refine Percent.slash_notMem_of_writes h ?_
  have hescaped := slash_notMem_escapeSegment key
  rwa [Violation.escapeSegment, String.toList_ofList] at hescaped

theorem splitSlashes_flatMap {path : List String} {raws : List (List Char)}
    (h : List.Forall₂ WritesSegment path raws) :
    splitSlashes (raws.flatMap (List.cons '/')) = [] :: raws := by
  induction h with
  | nil => rfl
  | cons hs _ ih =>
    rw [List.flatMap_cons, List.cons_append, splitSlashes_slash,
      splitSlashes_append (slash_notMem_of_writes hs) ih]

/-- A path leads from a value to one below which there is nothing under the next segment:
an object without that key, an array that is not longer than that index, or a scalar. -/
inductive StopsAt : Json → List String → String → Prop where
  | member {members : Members} {key : String} {rest : List String}
      (hk : Members.get? key members = none) : StopsAt (.object members) (key :: rest) key
  | item {items : List Json} {i : Nat} {rest : List String} (hi : items.length ≤ i) :
      StopsAt (.array items) (toString i :: rest) (toString i)
  | scalar {v : Json} {segment : String} {rest : List String} (ha : v.asArray? = none)
      (ho : v.asObject? = none) : StopsAt v (segment :: rest) segment
  | under {v w : Json} {segment last : String} {rest : List String}
      (hs : Json.At v [segment] w) (h : StopsAt w rest last) : StopsAt v (segment :: rest) last

variable {pointer : String} {v w : Json} {path : List String} {raws : List (List Char)}

theorem follow_cons {key : String} {raw : List Char} {rest : List (List Char)}
    (h : WritesSegment key raw) : follow pointer (raw :: rest) v =
      (v.child? key).elim (.error (.pointerNotFound pointer key)) (follow pointer rest) := by
  rw [follow, decodeSegment_of_writes h]
  simp only
  cases v.child? key <;> rfl

theorem child?_of_at {segment : String} (h : Json.At v [segment] w) :
    v.child? segment = some w := by
  have hat := h.at?_eq
  rw [Json.at?_cons] at hat
  cases hc : v.child? segment <;> simp_all [Json.at?]

theorem follow_of_at (hw : List.Forall₂ WritesSegment path raws) (h : Json.At v path w) :
    follow pointer raws v = .ok w := by
  induction hw generalizing v with
  | nil =>
    obtain rfl := Json.At.nil_iff.1 h
    rfl
  | cons hs _ ih =>
    obtain ⟨u, hu, hrest⟩ := Json.At.cons_iff.1 h
    rw [follow_cons hs, child?_of_at hu, Option.elim_some, ih hrest]

theorem follow_of_stopsAt {segment : String} (hw : List.Forall₂ WritesSegment path raws)
    (h : StopsAt v path segment) :
    follow pointer raws v = .error (.pointerNotFound pointer segment) := by
  induction h generalizing raws with
  | member hk =>
    cases hw with
    | cons hs _ => rw [follow_cons hs, Json.child?_object, hk, Option.elim_none]
  | item hi =>
    cases hw with
    | cons hs _ =>
      rw [follow_cons hs, Json.child?_array_toString, List.getElem?_eq_none hi, Option.elim_none]
  | @scalar v _ _ ha ho =>
    have hchild : ∀ segment, v.child? segment = none := by
      cases v <;> simp_all [Json.child?, Json.asArray?, Json.asObject?]
    cases hw with
    | cons hs _ => rw [follow_cons hs, hchild, Option.elim_none]
  | under hu _ ih =>
    cases hw with
    | cons hs hrest => rw [follow_cons hs, child?_of_at hu, Option.elim_some, ih hrest]

theorem resolve_of_toList {root : Json} {segments : List Char}
    (h : pointer.toList = '/' :: segments ∨ pointer.toList = '#' :: '/' :: segments) :
    resolve root pointer = follow pointer (splitSlashes segments) root := by
  rcases h with h | h
  · unfold resolve
    rw [h]
    rfl
  · unfold resolve
    rw [h]
    rfl

/-- With or without a hash sign, a written pointer is followed along its segments. -/
theorem resolve_of_writes (h : Writes path pointer) (root : Json) :
    ∃ raws, List.Forall₂ WritesSegment path raws ∧
      resolve root pointer = follow pointer raws root := by
  obtain ⟨raws, hw, htext⟩ := h
  refine ⟨raws, hw, ?_⟩
  cases raws with
  | nil => rcases htext with htext | htext <;> simp [resolve, htext, follow]
  | cons raw rest =>
    have hsplit := splitSlashes_flatMap hw
    rw [List.flatMap_cons, List.cons_append] at htext hsplit
    rw [splitSlashes_slash] at hsplit
    rw [resolve_of_toList htext, (List.cons.inj hsplit).2]

/-- Every place of a document is named by each pointer that is written for its path, and a
path that leads nowhere is complained of by the segment at which it ends. -/
theorem resolve_written {path : List String} {pointer : String} (h : Writes path pointer)
    (document : Json) :
    (∀ v, Json.At document path v → resolve document pointer = .ok v) ∧
      ∀ segment, StopsAt document path segment →
        resolve document pointer = .error (.pointerNotFound pointer segment) := by
  obtain ⟨raws, hw, hresolve⟩ := resolve_of_writes h document
  rw [hresolve]
  exact ⟨fun v hat => follow_of_at hw hat, fun segment hstops => follow_of_stopsAt hw hstops⟩

theorem writes_encode {needed : Char → Bool} (h : needed '%') (path : List String) :
    Writes path (String.ofList (path.flatMap fun key =>
      '/' :: Percent.encode needed (key.toList.flatMap escapeChar))) := by
  refine ⟨path.map fun key => Percent.encode needed (key.toList.flatMap escapeChar), ?_, .inl ?_⟩
  · rw [List.forall₂_map_right_iff, List.forall₂_same]
    exact fun key _ => Percent.writes_encode h _
  · rw [String.toList_ofList, List.flatMap_map]

/-- A key that looks like an escape, below an array; and an index that is too large. -/
theorem resolve_written_escapes :
    let document : Json := .object [("~1/%2F", .array [.object [("é", .bool true)]])]
    let encode (path : List String) : String := String.ofList (path.flatMap fun key =>
      '/' :: Percent.encode (fun c => c == '%' || 127 < c.toNat) (key.toList.flatMap escapeChar))
    let path := ["~1/%2F", "0", "é"]
    let astray := ["~1/%2F", "1", "é"]
    Writes path (encode path) ∧ encode path = "/~01~1%252F/0/%C3%A9" ∧
      Json.At document path (.bool true) ∧ resolve document (encode path) = .ok (.bool true) ∧
      StopsAt document astray "1" ∧
      resolve document (encode astray) = .error (.pointerNotFound "/~01~1%252F/1/%C3%A9" "1") := by
  intro document encode path astray
  have hneeded : (fun c : Char => c == '%' || 127 < c.toNat) '%' = true := by decide
  have hpath : Writes path (encode path) := writes_encode hneeded path
  have hastray : Writes astray (encode astray) := writes_encode hneeded astray
  have htext : encode astray = "/~01~1%252F/1/%C3%A9" := by decide
  have hat : Json.At document path (.bool true) :=
    .member rfl (.item (i := 0) rfl (.member rfl .here))
  have hstops : StopsAt document astray "1" :=
    .under (.member rfl .here) (.item (i := 1) (by decide))
  refine ⟨hpath, by decide, hat, (resolve_written hpath document).1 _ hat, hstops, ?_⟩
  rw [← htext]
  exact (resolve_written hastray document).2 "1" hstops

end Pointer
end Rulebook
