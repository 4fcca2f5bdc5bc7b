import Mathlib.Data.List.Perm.Subperm
import Mathlib.Data.List.Pairwise
import Rulebook.Pattern.Basic

/-! What an expression matches, as a relation between two positions of a text. The matcher
takes a list of starts to the list of all ends, and stops a repetition when nothing new comes
of it; the main statement is that it finds a match exactly when the relation has one. -/

namespace Rulebook
namespace Expr

def Iterates (R : Nat → Nat → Prop) : Nat → Nat → Nat → Prop
  | 0, i, j => i = j
  | n + 1, i, j => ∃ k, R i k ∧ Iterates R n k j

/-- That an expression matches a text from one position to another. The limit of a
repetition counts only where it is not below the least number. -/
def Matches (text : Array Char) : Expr → Nat → Nat → Prop
  | empty, i, j => i = j
  | chars set, i, j => text[i]?.any set.contains = true ∧ i + 1 = j
  | look condition, i, j => condition.holdsAt text i = true ∧ i = j
  | around true negated body, i, j => ((∃ k, Matches text body i k) ↔ negated = false) ∧ i = j
  | around false negated body, i, j =>
    ((∃ k ≤ i, Matches text body k i) ↔ negated = false) ∧ i = j
  | seq first second, i, j => ∃ k, Matches text first i k ∧ Matches text second k j
  | alt left right, i, j => Matches text left i j ∨ Matches text right i j
  | repeated least most body, i, j =>
    ∃ n, least ≤ n ∧ (∀ m, most = some m → n ≤ max least m) ∧ Iterates (Matches text body) n i j

structure Positions (size : Nat) (list : List Nat) : Prop where
  sorted : list.Pairwise (· < ·)
  le : ∀ i ∈ list, i ≤ size

/-- A step takes positions to positions, namely to those that a relation leads to. -/
structure Realizes (size : Nat) (step : List Nat → List Nat) (R : Nat → Nat → Prop) : Prop where
  positions : ∀ {starts}, Positions size starts → Positions size (step starts)
  mem_iff : ∀ {starts}, Positions size starts → ∀ {j}, j ∈ step starts ↔ ∃ i ∈ starts, R i j

theorem iterates_add {R : Nat → Nat → Prop} {m n i j : Nat} :
    Iterates R (m + n) i j ↔ ∃ k, Iterates R m i k ∧ Iterates R n k j := by
  induction m generalizing i with
  | zero => simp [Iterates]
  | succ m ih =>
    rw [Nat.succ_add]
    simp only [Iterates, ih]
    constructor
    · rintro ⟨k, hk, l, hl, hj⟩
      exact ⟨l, ⟨k, hk, hl⟩, hj⟩
    · rintro ⟨l, ⟨k, hk, hl⟩, hj⟩
      exact ⟨k, hk, l, hl, hj⟩

/-! ### Two lists of positions together -/

theorem mem_mergePositions {a b : List Nat} {i : Nat} :
    i ∈ mergePositions a b ↔ i ∈ a ∨ i ∈ b := by
  fun_induction mergePositions a b with
  | case1 => simp
  | case2 => simp
  | case3 x a y b hlt ih => simp [ih, or_assoc]
  | case4 x a y b hle hlt ih =>
    rw [List.mem_cons, ih, List.mem_cons (l := b)]
    tauto
  | case5 x a y b hle hge ih =>
    obtain rfl : x = y := by omega
    simp only [List.mem_cons, ih]
    tauto

theorem sublist_mergePositions (a b : List Nat) : a.Sublist (mergePositions a b) := by
  fun_induction mergePositions a b with
  | case1 => exact List.nil_sublist _
  | case2 => exact List.Sublist.refl _
  | case3 x a y b hlt ih => exact ih.cons_cons x
  | case4 x a y b hle hlt ih => exact ih.cons y
  | case5 x a y b hle hge ih => exact ih.cons_cons x

theorem pairwise_mergePositions {a b : List Nat} (ha : a.Pairwise (· < ·))
    (hb : b.Pairwise (· < ·)) : (mergePositions a b).Pairwise (· < ·) := by
  fun_induction mergePositions a b with
  | case1 => exact hb
  | case2 => exact ha
  | case3 x a y b hlt ih =>
    obtain ⟨hx, ha⟩ := List.pairwise_cons.1 ha
    refine List.pairwise_cons.2 ⟨fun i hi => ?_, ih ha hb⟩
    rcases mem_mergePositions.1 hi with hi | hi
    · exact hx i hi
    · rcases List.mem_cons.1 hi with rfl | hi
      · exact hlt
      · exact Nat.lt_trans hlt (List.rel_of_pairwise_cons hb hi)
  | case4 x a y b hle hlt ih =>
    obtain ⟨hy, hb⟩ := List.pairwise_cons.1 hb
    refine List.pairwise_cons.2 ⟨fun i hi => ?_, ih ha hb⟩
    rcases mem_mergePositions.1 hi with hi | hi
    · rcases List.mem_cons.1 hi with rfl | hi
      · exact hlt
      · exact Nat.lt_trans hlt (List.rel_of_pairwise_cons ha hi)
    · exact hy i hi
  | case5 x a y b hle hge ih =>
    obtain rfl : x = y := by omega
    obtain ⟨hx, ha⟩ := List.pairwise_cons.1 ha
    obtain ⟨hy, hb⟩ := List.pairwise_cons.1 hb
    refine List.pairwise_cons.2 ⟨fun i hi => ?_, ih ha hb⟩
    exact (mem_mergePositions.1 hi).elim (hx i) (hy i)

section Steps

variable {size : Nat} {a b starts : List Nat} {step next : List Nat → List Nat}
  {R S : Nat → Nat → Prop}

theorem Positions.merge (ha : Positions size a) (hb : Positions size b) :
    Positions size (mergePositions a b) where
  sorted := pairwise_mergePositions ha.sorted hb.sorted
  le i hi := (mem_mergePositions.1 hi).elim (ha.le i) (hb.le i)

theorem Positions.sublist (hb : Positions size b) (h : a.Sublist b) : Positions size a where
  sorted := hb.sorted.sublist h
  le i hi := hb.le i (h.subset hi)

theorem positions_range (size : Nat) : Positions size (List.range (size + 1)) where
  sorted := List.pairwise_lt_range
  le _ hi := Nat.lt_succ_iff.1 (List.mem_range.1 hi)

/-- As many positions as there are can only be all of them. -/
theorem Positions.mem_of_lt_length (h : Positions size a) (hsize : size < a.length) {i : Nat}
    (hi : i ≤ size) : i ∈ a := by
  by_contra hnot
  have hnodup : (i :: a).Nodup := List.nodup_cons.2 ⟨hnot, h.sorted.imp Nat.ne_of_lt⟩
  have hsubset : i :: a ⊆ List.range (size + 1) := fun j hj => by
    have hle : j ≤ size := (List.mem_cons.1 hj).elim (fun hj => hj ▸ hi) (h.le j)
    exact List.mem_range.2 (Nat.lt_succ_of_le hle)
  have hlength := (List.subperm_of_subset hnodup hsubset).length_le
  rw [List.length_cons, List.length_range] at hlength
  omega

theorem Realizes.comp (hs : Realizes size step R) (hn : Realizes size next S) :
    Realizes size (fun starts => next (step starts)) fun i j => ∃ k, R i k ∧ S k j where
  positions h := hn.positions (hs.positions h)
  mem_iff {_} h {j} := by
    rw [hn.mem_iff (hs.positions h)]
    constructor
    · rintro ⟨k, hk, hj⟩
      obtain ⟨i, hi, hR⟩ := (hs.mem_iff h).1 hk
      exact ⟨i, hi, k, hR, hj⟩
    · rintro ⟨i, hi, k, hR, hj⟩
      exact ⟨k, (hs.mem_iff h).2 ⟨i, hi, hR⟩, hj⟩

theorem Realizes.merge (hs : Realizes size step R) (hn : Realizes size next S) :
    Realizes size (fun starts => mergePositions (step starts) (next starts))
      fun i j => R i j ∨ S i j where
  positions h := (hs.positions h).merge (hn.positions h)
  mem_iff {_} h {j} := by
    rw [mem_mergePositions, hs.mem_iff h, hn.mem_iff h, ← exists_or]
    exact exists_congr fun i => and_or_left.symm

/-- A test of each start. -/
theorem realizes_filter {test : Nat → Bool} {P : Nat → Prop}
    (h : ∀ i ≤ size, test i = true ↔ P i) :
    Realizes size (List.filter test) fun i j => P i ∧ i = j where
  positions hstarts := hstarts.sublist List.filter_sublist
  mem_iff {_} hstarts {j} := by
    rw [List.mem_filter]
    constructor
    · rintro ⟨hj, htest⟩
      exact ⟨j, hj, (h j (hstarts.le j hj)).1 htest, rfl⟩
    · rintro ⟨i, hi, hP, rfl⟩
      exact ⟨hi, (h i (hstarts.le i hi)).2 hP⟩

/-! ### Repetition -/

theorem realizes_times (hs : Realizes size step R) (n : Nat) :
    Realizes size (times step n) (Iterates R n) := by
  induction n with
  | zero => exact ⟨id, fun _ j => by simp [times, Iterates]⟩
  | succ n ih =>
    have hstep : ∀ starts, Positions size starts → ∀ j, j ∈ times step (n + 1) starts ↔
        j ∈ times step n (step starts) := by
      intro starts h j
      rw [times]
      split_ifs with hempty
      · obtain rfl := List.isEmpty_iff.1 hempty
        simp [ih.mem_iff (hs.positions h), hs.mem_iff h]
      · rfl
    constructor
    · intro starts h
      rw [times]
      split_ifs
      · exact ⟨List.Pairwise.nil, by simp⟩
      · exact ih.positions (hs.positions h)
    · intro starts h j
      rw [hstep starts h, (hs.comp ih).mem_iff h]
      rfl

/-- Positions from which a relation leads to none but themselves are all that it leads to. -/
theorem mem_of_iterates (hclosed : ∀ i ∈ a, ∀ j, R i j → j ∈ a) {n i j : Nat} (hi : i ∈ a)
    (h : Iterates R n i j) : j ∈ a := by
  induction n generalizing i with
  | zero => exact h ▸ hi
  | succ n ih =>
    obtain ⟨k, hk, h⟩ := h
    exact ih (hclosed i hi k hk) h

/-- A round that makes a list no longer adds nothing. -/
theorem closed_of_length_mergePositions (hs : Realizes size step R) (h : Positions size starts)
    (hlength : (mergePositions starts (step starts)).length = starts.length) :
    ∀ i ∈ starts, ∀ j, R i j → j ∈ starts := by
  intro i hi j hR
  have heq := (sublist_mergePositions starts (step starts)).eq_of_length hlength.symm
  rw [heq]
  exact mem_mergePositions.2 (.inr ((hs.mem_iff h).2 ⟨i, hi, hR⟩))

theorem positions_upTo (hs : Realizes size step R) (n : Nat) (h : Positions size starts) :
    Positions size (upTo step n starts) := by
  induction n generalizing starts with
  | zero => exact h
  | succ n ih =>
    rw [upTo]
    split_ifs
    · exact h
    · exact ih (h.merge (hs.positions h))

theorem mem_upTo_iff (hs : Realizes size step R) (n : Nat) (h : Positions size starts) {j : Nat} :
    j ∈ upTo step n starts ↔ ∃ m ≤ n, ∃ i ∈ starts, Iterates R m i j := by
  induction n generalizing starts with
  | zero => simp [upTo, Iterates]
  | succ n ih =>
    rw [upTo]
    split_ifs with hlength
    · have hclosed := closed_of_length_mergePositions hs h hlength
      constructor
      · exact fun hj => ⟨0, Nat.zero_le _, j, hj, rfl⟩
      · rintro ⟨m, -, i, hi, hj⟩
        exact mem_of_iterates hclosed hi hj
    · rw [ih (h.merge (hs.positions h))]
      constructor
      · rintro ⟨m, hm, i, hi, hj⟩
        rcases mem_mergePositions.1 hi with hi | hi
        · exact ⟨m, by omega, i, hi, hj⟩
        · obtain ⟨k, hk, hR⟩ := (hs.mem_iff h).1 hi
          exact ⟨m + 1, by omega, k, hk, i, hR, hj⟩
      · rintro ⟨m, hm, i, hi, hj⟩
        cases m with
        | zero => exact ⟨0, Nat.zero_le _, i, mem_mergePositions.2 (.inl hi), hj⟩
        | succ m =>
          obtain ⟨k, hR, hj⟩ := hj
          exact ⟨m, by omega, k, mem_mergePositions.2 (.inr ((hs.mem_iff h).2 ⟨i, hi, hR⟩)), hj⟩

/-- Every round adds a position until nothing is left to add, so that as many rounds as
there are positions are enough. -/
theorem closed_upTo (hs : Realizes size step R) (n : Nat) (h : Positions size starts)
    (hn : size < n + starts.length) :
    ∀ i ∈ upTo step n starts, ∀ j, R i j → j ∈ upTo step n starts := by
  induction n generalizing starts with
  | zero =>
    intro i hi j hR
    have hj : j ∈ step starts := (hs.mem_iff h).2 ⟨i, hi, hR⟩
    exact h.mem_of_lt_length (by omega) ((hs.positions h).le j hj)
  | succ n ih =>
    rw [upTo]
    split_ifs with hlength
    · exact closed_of_length_mergePositions hs h hlength
    · have hle := (sublist_mergePositions starts (step starts)).length_le
      exact ih (h.merge (hs.positions h)) (by omega)

theorem mem_upTo_iff_of_unlimited (hs : Realizes size step R) (h : Positions size starts)
    {j : Nat} : j ∈ upTo step (size + 1) starts ↔ ∃ m, ∃ i ∈ starts, Iterates R m i j := by
  constructor
  · intro hj
    obtain ⟨m, -, hj⟩ := (mem_upTo_iff hs _ h).1 hj
    exact ⟨m, hj⟩
  · rintro ⟨m, i, hi, hj⟩
    have hstart : i ∈ upTo step (size + 1) starts :=
      (mem_upTo_iff hs _ h).2 ⟨0, Nat.zero_le _, i, hi, rfl⟩
    exact mem_of_iterates (closed_upTo hs _ h (by omega)) hstart hj

theorem realizes_repeated (hs : Realizes size step R) (least : Nat) (most : Option Nat) :
    Realizes size
      (fun starts => upTo step (most.elim (size + 1) (· - least)) (times step least starts))
      fun i j => ∃ n, least ≤ n ∧ (∀ m, most = some m → n ≤ max least m) ∧ Iterates R n i j where
  positions h := positions_upTo hs _ ((realizes_times hs least).positions h)
  mem_iff {starts} h {j} := by
    have htimes := realizes_times hs least
    have hfrom : ∀ n, (∃ k ∈ times step least starts, Iterates R n k j) ↔
        ∃ i ∈ starts, Iterates R (least + n) i j := by
      intro n
      constructor
      · rintro ⟨k, hk, hj⟩
        obtain ⟨i, hi, hk⟩ := (htimes.mem_iff h).1 hk
        exact ⟨i, hi, iterates_add.2 ⟨k, hk, hj⟩⟩
      · rintro ⟨i, hi, hj⟩
        obtain ⟨k, hk, hj⟩ := iterates_add.1 hj
        exact ⟨k, (htimes.mem_iff h).2 ⟨i, hi, hk⟩, hj⟩
    cases most with
    | none =>
      rw [Option.elim_none, mem_upTo_iff_of_unlimited hs (htimes.positions h)]
      constructor
      · rintro ⟨n, hn⟩
        obtain ⟨i, hi, hj⟩ := (hfrom n).1 hn
        exact ⟨i, hi, least + n, by omega, by simp, hj⟩
      · rintro ⟨i, hi, n, hleast, -, hj⟩
        refine ⟨n - least, (hfrom _).2 ⟨i, hi, ?_⟩⟩
        rwa [Nat.add_sub_cancel' hleast]
    | some most =>
      rw [Option.elim_some, mem_upTo_iff hs _ (htimes.positions h)]
      constructor
      · rintro ⟨n, hmost, hn⟩
        obtain ⟨i, hi, hj⟩ := (hfrom n).1 hn
        refine ⟨i, hi, least + n, by omega, fun m hm => ?_, hj⟩
        obtain rfl := Option.some.inj hm
        omega
      · rintro ⟨i, hi, n, hleast, hmost, hj⟩
        have hle := hmost most rfl
        refine ⟨n - least, by omega, (hfrom _).2 ⟨i, hi, ?_⟩⟩
        rwa [Nat.add_sub_cancel' hleast]

end Steps

/-! ### The matcher -/

theorem realizes_chars (text : Array Char) (set : CharSet) :
    Realizes text.size (ends text (chars set)) (Matches text (chars set)) where
  positions {starts} h := by
    have hsucc : ∀ i j, j ∈ (if text[i]?.any set.contains then some (i + 1) else none) →
        i + 1 = j ∧ i < text.size := by
      intro i j hj
      split_ifs at hj with hany
      · obtain ⟨hsome, -⟩ := (Option.any_eq_true_iff_get _ _).1 hany
        exact ⟨Option.some.inj hj, by simpa using hsome⟩
      · cases hj
    constructor
    · refine h.sorted.filterMap _ fun i k hlt j hj l hl => ?_
      have hij := (hsucc i j hj).1
      have hkl := (hsucc k l hl).1
      omega
    · intro j hj
      obtain ⟨i, -, hj⟩ := List.mem_filterMap.1 hj
      obtain ⟨rfl, hlt⟩ := hsucc i j hj
      exact hlt
  mem_iff {starts} h {j} := by
    simp only [ends, Matches, List.mem_filterMap, Option.ite_none_right_eq_some, Option.some.injEq]

/-- The ends that the matcher computes are those of the matches from its starts. -/
theorem realizes_ends (text : Array Char) (e : Expr) :
    Realizes text.size (ends text e) (Matches text e) := by
  induction e with
  | empty => exact ⟨id, fun _ j => by simp [ends, Matches]⟩
  | chars set => exact realizes_chars text set
  | look condition => exact realizes_filter fun i _ => Iff.rfl
  | around ahead negated body ih =>
    cases ahead with
    | true =>
      refine realizes_filter fun i hi => ?_
      have hstart : Positions text.size [i] := ⟨List.pairwise_singleton _ i, by simpa using hi⟩
      have hends : (ends text body [i]).isEmpty = false ↔ ∃ k, Matches text body i k := by
        rw [List.isEmpty_eq_false_iff_exists_mem]
        simp [ih.mem_iff hstart]
      rw [← hends]
      cases negated <;> simp
    | false =>
      refine realizes_filter fun i hi => ?_
      have hstarts : Positions text.size (List.range (i + 1)) :=
        (positions_range text.size).sublist (List.range_sublist.2 (by omega))
      have hends : (ends text body (List.range (i + 1))).contains i = true ↔
          ∃ k ≤ i, Matches text body k i := by
        rw [List.contains_iff_mem, ih.mem_iff hstarts]
        simp only [List.mem_range, Nat.lt_succ_iff]
      rw [← hends]
      cases negated <;> simp
  | seq first second ihf ihs => exact ihf.comp ihs
  | alt left right ihl ihr => exact ihl.merge ihr
  | repeated least most body ih => exact realizes_repeated ih least most

/-- The matcher says that an expression matches exactly when it does so somewhere. -/
theorem isMatch_iff (e : Expr) (s : String) : e.isMatch s = true ↔
    ∃ i ≤ s.toList.length, ∃ j, Matches s.toList.toArray e i j := by
  have hstarts := positions_range s.toList.toArray.size
  have hends : ∀ j, j ∈ e.ends s.toList.toArray (List.range (s.toList.toArray.size + 1)) ↔
      ∃ i ≤ s.toList.length, Matches s.toList.toArray e i j := by
    intro j
    rw [(realizes_ends _ e).mem_iff hstarts]
    simp only [List.mem_range, Nat.lt_succ_iff, List.size_toArray]
  rw [isMatch, Bool.not_eq_true', List.isEmpty_eq_false_iff_exists_mem, exists_congr hends]
  exact ⟨fun ⟨j, i, hi, h⟩ => ⟨i, hi, j, h⟩, fun ⟨i, hi, j, h⟩ => ⟨j, i, hi, h⟩⟩

end Expr
end Rulebook
