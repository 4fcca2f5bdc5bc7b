import Mathlib.Data.List.Induction
import Mathlib.Data.List.Pairwise
import Mathlib.Data.String.Basic
import Mathlib.Tactic.SplitIfs
import Rulebook.Translation.Walk

/-! Tables of rules. A table in which the keys increase is known by what is under each
key, so tables can be put together in parts. A text before every key keeps the order of
the keys, so it can be put there before or after the table is made. -/

namespace Rulebook

theorem append_lt_append_iff (lead a b : String) : lead ++ a < lead ++ b ↔ a < b := by
  rw [String.lt_iff, String.lt_iff, String.toList_append, String.toList_append]
  induction lead.toList with
  | nil => rfl
  | cons c rest ih => rw [List.cons_append, List.cons_append, List.cons_lt_cons_self, ih]

theorem lt_append {lead rest : String} (h : rest ≠ "") : lead < lead ++ rest := by
  have hempty : "" < rest := by
    rw [String.lt_iff]
    cases hr : rest.toList with
    | nil => exact absurd (String.toList_eq_nil_iff.1 hr) h
    | cons c more => exact List.nil_lt_cons c more
  have hlead := (append_lt_append_iff lead "" rest).2 hempty
  rwa [String.append_empty] at hlead

namespace RuleTable

def leading (lead : String) (entry : String × Rule) : String × Rule := (lead ++ entry.1, entry.2)

def setAll (entries : List (String × Rule)) (table : List (String × Rule)) :
    List (String × Rule) :=
  entries.foldl (fun table entry => insertEntry entry.1 entry.2 table) table

theorem setAll_concat (front : List (String × Rule)) (last : String × Rule)
    (table : List (String × Rule)) :
    setAll (front ++ [last]) table = insertEntry last.1 last.2 (setAll front table) := by
  rw [setAll, List.foldl_append]
  rfl

theorem entries_ofExpansions (expansions : List Expansion) :
    (ofExpansions expansions).entries = setAll (expansions.map fun e => (e.key, e.rule)) [] := by
  have hfold : ∀ table : RuleTable,
      (expansions.foldl (fun table e => table.insert e.key e.rule) table).entries =
        setAll (expansions.map fun e => (e.key, e.rule)) table.entries := by
    induction expansions with
    | nil => exact fun _ => rfl
    | cons e rest ih => exact fun table => ih (table.insert e.key e.rule)
  exact hfold {}

theorem mem_insertEntry (key : String) (rule : Rule) (entries : List (String × Rule)) :
    (key, rule) ∈ insertEntry key rule entries := by
  induction entries with
  | nil => exact List.mem_singleton_self _
  | cons entry rest ih =>
    obtain ⟨k, r⟩ := entry
    unfold insertEntry
    split_ifs
    · exact List.mem_cons_self
    · exact List.mem_cons_self
    · exact List.mem_cons_of_mem _ ih

theorem mem_keys_insertEntry {key other : String} {rule : Rule} {entries : List (String × Rule)} :
    other ∈ (insertEntry key rule entries).map Prod.fst ↔
      other = key ∨ other ∈ entries.map Prod.fst := by
  induction entries with
  | nil => simp [insertEntry]
  | cons entry rest ih =>
    obtain ⟨k, r⟩ := entry
    unfold insertEntry
    split_ifs with hlt hsame
    · simp
    · simp [hsame]
    · rw [List.map_cons, List.mem_cons, ih, List.map_cons, List.mem_cons]
      exact or_left_comm

/-- The keys of entries that are set are in the table. -/
theorem mem_keys_setAll {key : String} {entries table : List (String × Rule)} :
    key ∈ (setAll entries table).map Prod.fst ↔
      key ∈ entries.map Prod.fst ∨ key ∈ table.map Prod.fst := by
  induction entries generalizing table with
  | nil => simp [setAll]
  | cons entry rest ih =>
    rw [setAll, List.foldl_cons, ← setAll, ih, mem_keys_insertEntry, List.map_cons, List.mem_cons]
    exact or_left_comm.trans or_assoc.symm

theorem get?_insert_self (table : RuleTable) (key : String) (rule : Rule) :
    (table.insert key rule).get? key = some rule := by
  unfold get? insert
  generalize table.entries = entries
  induction entries with
  | nil => simp [insertEntry]
  | cons entry rest ih =>
    obtain ⟨k, r⟩ := entry
    unfold insertEntry
    split_ifs with hlt hsame
    · simp
    · simp
    · rw [List.find?_cons_of_neg (by simpa using Ne.symm hsame)]
      exact ih

theorem get?_insert_of_ne {key other : String} (h : other ≠ key) (table : RuleTable)
    (rule : Rule) : (table.insert key rule).get? other = table.get? other := by
  unfold get? insert
  generalize table.entries = entries
  have hkey : ¬ key = other := Ne.symm h
  induction entries with
  | nil => simp [insertEntry, hkey]
  | cons entry rest ih =>
    obtain ⟨k, r⟩ := entry
    unfold insertEntry
    split_ifs with hlt hsame
    · rw [List.find?_cons_of_neg (by simpa using hkey)]
    · subst hsame
      rw [List.find?_cons_of_neg (by simpa using hkey),
        List.find?_cons_of_neg (by simpa using hkey)]
    · by_cases hk : k = other
      · simp [hk]
      · rw [List.find?_cons_of_neg (by simpa using hk), List.find?_cons_of_neg (by simpa using hk)]
        exact ih

/-- Under a key is the rule of the last expansion that has the key. -/
theorem get?_ofExpansions_eq (expansions : List Expansion) (key : String) :
    (ofExpansions expansions).get? key =
      (expansions.reverse.find? (·.key = key)).map Expansion.rule := by
  induction expansions using List.reverseRecOn with
  | nil => rfl
  | append_singleton front last ih =>
    have hlast : ofExpansions (front ++ [last]) =
        (ofExpansions front).insert last.key last.rule := by
      rw [ofExpansions, List.foldl_append]
      rfl
    rw [hlast, List.reverse_concat]
    by_cases hkey : last.key = key
    · subst hkey
      simp [get?_insert_self]
    · rw [get?_insert_of_ne (Ne.symm hkey), ih, List.find?_cons_of_neg (by simpa using hkey)]

/-- The rule of an expansion is under its key if no other one has the key. -/
theorem get?_ofExpansions {e : Expansion} {expansions : List Expansion} (he : e ∈ expansions)
    (hunique : ∀ other ∈ expansions, other.key = e.key → other = e) :
    (ofExpansions expansions).get? e.key = some e.rule := by
  rw [get?_ofExpansions_eq]
  cases hfind : expansions.reverse.find? (·.key = e.key) with
  | none =>
    have hnone := List.find?_eq_none.1 hfind e (List.mem_reverse.2 he)
    simp at hnone
  | some found =>
    have hmem := List.mem_reverse.1 (List.mem_of_find?_eq_some hfind)
    have hkey : found.key = e.key := by simpa using List.find?_some hfind
    rw [hunique found hmem hkey, Option.map_some]

theorem perm_insertEntry {key : String} {rule : Rule} {entries : List (String × Rule)}
    (h : key ∉ entries.map Prod.fst) :
    (insertEntry key rule entries).Perm ((key, rule) :: entries) := by
  induction entries with
  | nil => exact List.Perm.refl _
  | cons entry rest ih =>
    obtain ⟨k, r⟩ := entry
    obtain ⟨hne, hrest⟩ := List.ne_and_not_mem_of_not_mem_cons h
    unfold insertEntry
    split_ifs with hlt
    · exact List.Perm.refl _
    · exact ((ih hrest).cons _).trans (List.Perm.swap _ _ _)

/-- Entries with different keys are all kept. -/
theorem perm_setAll {entries : List (String × Rule)} (h : (entries.map Prod.fst).Nodup) :
    (setAll entries []).Perm entries := by
  induction entries using List.reverseRecOn with
  | nil => exact List.Perm.refl _
  | append_singleton front last ih =>
    rw [List.map_append, List.map_singleton, List.nodup_append] at h
    obtain ⟨hfront, -, hapart⟩ := h
    have hnew : last.1 ∉ (setAll front []).map Prod.fst := by
      rw [mem_keys_setAll]
      rintro (hm | hm)
      · exact hapart _ hm _ (List.mem_singleton_self _) rfl
      · simp at hm
    rw [setAll_concat]
    exact (perm_insertEntry hnew).trans
      (((ih hfront).cons last).trans (List.perm_append_singleton last front).symm)

theorem insertEntry_leading (lead key : String) (rule : Rule) (entries : List (String × Rule)) :
    insertEntry (lead ++ key) rule (entries.map (leading lead)) =
      (insertEntry key rule entries).map (leading lead) := by
  induction entries with
  | nil => rfl
  | cons entry rest ih =>
    obtain ⟨k, r⟩ := entry
    have heq : lead ++ key = lead ++ k ↔ key = k := String.append_right_inj lead
    simp only [List.map_cons, leading, insertEntry, append_lt_append_iff, heq]
    by_cases hlt : key < k
    · simp only [hlt, ↓reduceIte, List.map_cons, leading]
    · by_cases hsame : key = k
      · subst hsame
        simp only [hlt, ↓reduceIte, List.map_cons, leading]
      · simp only [hlt, hsame, ↓reduceIte, List.map_cons, leading]
        exact congrArg (List.cons _) ih

theorem setAll_leading (lead : String) (entries table : List (String × Rule)) :
    setAll (entries.map (leading lead)) (table.map (leading lead)) =
      (setAll entries table).map (leading lead) := by
  induction entries generalizing table with
  | nil => rfl
  | cons entry rest ih =>
    rw [List.map_cons, setAll, List.foldl_cons, ← setAll, leading, insertEntry_leading, ih]
    rfl

/-- An entry whose key comes before all others stays the first. -/
theorem setAll_cons {first : String × Rule} {entries table : List (String × Rule)}
    (h : ∀ entry ∈ entries, first.1 < entry.1) :
    setAll entries (first :: table) = first :: setAll entries table := by
  induction entries generalizing table with
  | nil => rfl
  | cons entry rest ih =>
    obtain ⟨hentry, hrest⟩ := List.forall_mem_cons.1 h
    have hlt : ¬ entry.1 < first.1 := String.lt_asymm hentry
    have hne : entry.1 ≠ first.1 := fun he => String.lt_irrefl _ (he ▸ hentry)
    have hinsert : insertEntry entry.1 entry.2 (first :: table) =
        first :: insertEntry entry.1 entry.2 table := by
      simp only [insertEntry, hlt, hne, ↓reduceIte]
    rw [setAll, List.foldl_cons, ← setAll, hinsert, ih hrest]
    rfl

/-- The rules of an expansion and of those below it, which are those of other expansions
with its key in front. -/
theorem entries_cons_of_leading {here : Expansion} {inner expansions : List Expansion}
    {sep : String} (hsep : sep ≠ "")
    (h : inner.map (fun e => (e.key, e.rule)) =
      (expansions.map fun e => (e.key, e.rule)).map (leading (here.key ++ sep))) :
    (ofExpansions (here :: inner)).entries =
      (here.key, here.rule) ::
        (ofExpansions expansions).entries.map (leading (here.key ++ sep)) := by
  have hless : ∀ entry ∈ inner.map (fun e => (e.key, e.rule)), here.key < entry.1 := by
    intro entry hm
    rw [h] at hm
    obtain ⟨below, -, rfl⟩ := List.mem_map.1 hm
    show here.key < here.key ++ sep ++ below.1
    rw [String.append_assoc]
    refine lt_append fun hempty => hsep ?_
    exact (String.append_eq_empty_iff.1 hempty).1
  have hstep : setAll ((here :: inner).map fun e => (e.key, e.rule)) [] =
      setAll (inner.map fun e => (e.key, e.rule)) [(here.key, here.rule)] := rfl
  rw [entries_ofExpansions, entries_ofExpansions, hstep, setAll_cons hless, h]
  exact congrArg _ (setAll_leading (here.key ++ sep) _ [])

theorem entries_pair {first second : Expansion} (hlt : first.key < second.key) :
    (ofExpansions [first, second]).entries =
      [(first.key, first.rule), (second.key, second.rule)] := by
  have hne : second.key ≠ first.key := fun h => String.lt_irrefl _ (h ▸ hlt)
  simp [entries_ofExpansions, setAll, insertEntry,
    String.lt_asymm hlt, hne]

def Increasing (table : RuleTable) : Prop := table.entries.Pairwise fun a b => a.1 < b.1

theorem Increasing.insert {table : RuleTable} (h : table.Increasing) (key : String)
    (rule : Rule) : (table.insert key rule).Increasing := by
  unfold Increasing RuleTable.insert at *
  generalize table.entries = entries at h
  induction entries with
  | nil => exact List.pairwise_singleton _ _
  | cons entry rest ih =>
    obtain ⟨k, r⟩ := entry
    obtain ⟨hfirst, hrest⟩ := List.pairwise_cons.1 h
    simp only [insertEntry]
    split_ifs with hlt hsame
    · refine List.pairwise_cons.2 ⟨List.forall_mem_cons.2 ⟨hlt, fun other ho => ?_⟩, h⟩
      exact lt_trans hlt (hfirst other ho)
    · subst hsame
      exact List.pairwise_cons.2 ⟨hfirst, hrest⟩
    · have hgt : k < key := lt_of_le_of_ne (not_lt.1 hlt) (Ne.symm hsame)
      refine List.pairwise_cons.2 ⟨fun other ho => ?_, ih hrest⟩
      rcases mem_keys_insertEntry.1 (List.mem_map_of_mem (f := Prod.fst) ho) with hkey | hkey
      · exact hkey ▸ hgt
      · obtain ⟨found, hfound, hkey⟩ := List.mem_map.1 hkey
        exact hkey ▸ hfirst found hfound

theorem increasing_setAll (entries : List (String × Rule)) {table : List (String × Rule)}
    (h : Increasing ⟨table⟩) : Increasing ⟨setAll entries table⟩ := by
  induction entries generalizing table with
  | nil => exact h
  | cons entry rest ih => exact ih (h.insert entry.1 entry.2)

theorem increasing_empty : Increasing {} := List.Pairwise.nil

theorem increasing_ofExpansions (expansions : List Expansion) :
    (ofExpansions expansions).Increasing := by
  unfold Increasing
  rw [entries_ofExpansions]
  exact increasing_setAll _ increasing_empty

/-- Where the keys increase, a rule is under its key. -/
theorem Increasing.get?_eq_some_iff {table : RuleTable} (h : table.Increasing) {key : String}
    {rule : Rule} : table.get? key = some rule ↔ (key, rule) ∈ table.entries := by
  unfold Increasing at h
  unfold get?
  generalize table.entries = entries at h
  induction entries with
  | nil => simp
  | cons entry rest ih =>
    obtain ⟨k, r⟩ := entry
    obtain ⟨hfirst, hrest⟩ := List.pairwise_cons.1 h
    by_cases hkey : k = key
    · subst hkey
      have hnot : (k, rule) ∉ rest := fun hm => lt_irrefl k (hfirst _ hm)
      simp [hnot, eq_comm]
    · have hne : (key, rule) ≠ (k, r) := fun he => hkey (Prod.mk.inj he).1.symm
      rw [List.find?_cons_of_neg (by simpa using hkey), ih hrest, List.mem_cons]
      exact (or_iff_right hne).symm

/-- Two tables are the same if they have the same under every key. -/
theorem Increasing.ext {a b : RuleTable} (ha : a.Increasing) (hb : b.Increasing)
    (h : ∀ key, a.get? key = b.get? key) : a = b := by
  have hmem : ∀ entry, entry ∈ a.entries ↔ entry ∈ b.entries := by
    rintro ⟨key, rule⟩
    rw [← ha.get?_eq_some_iff, ← hb.get?_eq_some_iff, h]
  have hnodup : ∀ {table : RuleTable}, table.Increasing → table.entries.Nodup := by
    intro table ht
    refine List.Pairwise.imp (fun {first second} hlt => ?_) ht
    rintro rfl
    exact lt_irrefl _ hlt
  have hperm : a.entries.Perm b.entries :=
    (List.perm_ext_iff_of_nodup (hnodup ha) (hnodup hb)).2 hmem
  have hentries : a.entries = b.entries :=
    hperm.eq_of_pairwise (fun _ _ _ _ hlt hgt => absurd hgt (lt_asymm hlt)) ha hb
  cases a
  cases b
  exact congrArg RuleTable.mk hentries

/-- Entries that are set come before those of the table. -/
theorem get?_setAll (entries table : List (String × Rule)) (key : String) :
    get? ⟨setAll entries table⟩ key = (get? ⟨setAll entries []⟩ key).or (get? ⟨table⟩ key) := by
  -- The entry that is set last counts, so the induction is from the end.
  induction entries using List.reverseRecOn with
  | nil => rfl
  | append_singleton front last ih =>
    have hlast : ∀ table, setAll (front ++ [last]) table =
        (insert ⟨setAll front table⟩ last.1 last.2).entries :=
      fun table => setAll_concat front last table
    rw [hlast, hlast]
    by_cases hkey : key = last.1
    · subst hkey
      rw [get?_insert_self, get?_insert_self, Option.some_or]
    · rw [get?_insert_of_ne hkey, get?_insert_of_ne hkey, ih]

/-- Setting the entries of a table one after another makes the table. -/
theorem Increasing.setAll_entries {table : RuleTable} (h : table.Increasing) :
    setAll table.entries [] = table.entries := by
  unfold Increasing at h
  generalize table.entries = entries at h
  induction entries with
  | nil => rfl
  | cons first rest ih =>
    obtain ⟨hfirst, hrest⟩ := List.pairwise_cons.1 h
    have hstep : setAll (first :: rest) [] = setAll rest [first] := rfl
    rw [hstep, setAll_cons hfirst, ih hrest]

/-- The rules of two tables. Under a key that both have, the rule of the second counts. -/
def union (a b : RuleTable) : RuleTable := ⟨setAll b.entries a.entries⟩

theorem Increasing.union {a : RuleTable} (h : a.Increasing) (b : RuleTable) :
    (a.union b).Increasing :=
  increasing_setAll b.entries h

theorem get?_union {a b : RuleTable} (hb : b.Increasing) (key : String) :
    (a.union b).get? key = (b.get? key).or (a.get? key) := by
  rw [union, get?_setAll, hb.setAll_entries]

/-- The table of expansions is put together from those of its parts. -/
theorem ofExpansions_append (xs ys : List Expansion) :
    ofExpansions (xs ++ ys) = (ofExpansions xs).union (ofExpansions ys) := by
  refine (increasing_ofExpansions _).ext ((increasing_ofExpansions xs).union _) fun key => ?_
  rw [get?_union (increasing_ofExpansions ys)]
  show get? ⟨(ofExpansions (xs ++ ys)).entries⟩ key =
    (get? ⟨(ofExpansions ys).entries⟩ key).or (get? ⟨(ofExpansions xs).entries⟩ key)
  rw [entries_ofExpansions, entries_ofExpansions, entries_ofExpansions, ← get?_setAll,
    List.map_append, setAll, List.foldl_append]
  rfl

end RuleTable
end Rulebook
