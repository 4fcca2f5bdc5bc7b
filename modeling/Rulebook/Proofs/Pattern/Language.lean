import Mathlib.Computability.Language
import Rulebook.Proofs.Pattern.Matching

/-! The words of an expression, as a language. Conditions on what is around a match can only
shut words out; an expression without them, bound to both ends of a text, matches exactly the
texts that are words of it. -/

namespace Rulebook
namespace Expr

/-- Whether an expression sets no condition on what is around a match. -/
def isPlain : Expr → Bool
  | empty | chars _ => true
  | look _ | around _ _ _ => false
  | seq first second => first.isPlain && second.isPlain
  | alt left right => left.isPlain && right.isPlain
  | repeated _ _ body => body.isPlain

def words {α : Type} (f : α → List Char) (P : α → Prop) : Language Char := {w | ∃ a, P a ∧ f a = w}

/-- The texts that an expression matches when its conditions are taken as met. -/
def language : Expr → Language Char
  | empty | look _ | around _ _ _ => 1
  | chars set => words (fun c => [c]) fun c => set.contains c = true
  | seq first second => first.language * second.language
  | alt left right => left.language + right.language
  | repeated least most body =>
    {w | ∃ n, least ≤ n ∧ (∀ m, most = some m → n ≤ max least m) ∧ w ∈ body.language ^ n}

@[simp] theorem language_seq (first second : Expr) :
    (seq first second).language = first.language * second.language := rfl

@[simp] theorem language_alt (left right : Expr) :
    (alt left right).language = left.language + right.language := rfl

def Reads (text : List Char) (L : Language Char) (i j : Nat) : Prop :=
  ∃ w ∈ L, w <+: text.drop i ∧ i + w.length = j

variable {text : List Char} {L M : Language Char} {i j : Nat}

theorem reads_one : Reads text 1 i j ↔ i = j := by
  simp [Reads, Language.mem_one]

theorem reads_mul : Reads text (L * M) i j ↔ ∃ k, Reads text L i k ∧ Reads text M k j := by
  constructor
  · rintro ⟨w, hw, ⟨rest, hrest⟩, rfl⟩
    obtain ⟨a, ha, b, hb, rfl⟩ := Language.mem_mul.1 hw
    rw [List.append_assoc] at hrest
    have hdrop : text.drop (i + a.length) = b ++ rest := by
      rw [← List.drop_drop, ← hrest, List.drop_left]
    refine ⟨i + a.length, ⟨a, ha, ⟨b ++ rest, hrest⟩, rfl⟩, b, hb, ⟨rest, hdrop.symm⟩, ?_⟩
    rw [List.length_append, Nat.add_assoc]
  · rintro ⟨k, ⟨a, ha, ⟨more, hmore⟩, rfl⟩, b, hb, ⟨rest, hrest⟩, rfl⟩
    have hdrop : text.drop (i + a.length) = more := by
      rw [← List.drop_drop, ← hmore, List.drop_left]
    rw [hdrop] at hrest
    refine ⟨a ++ b, Language.append_mem_mul ha hb, ⟨rest, ?_⟩, ?_⟩
    · rw [List.append_assoc, hrest, hmore]
    · rw [List.length_append, Nat.add_assoc]

theorem reads_add : Reads text (L + M) i j ↔ Reads text L i j ∨ Reads text M i j := by
  simp only [Reads, Language.mem_add, or_and_right, exists_or]

theorem reads_pow {n : Nat} : Reads text (L ^ n) i j ↔ Iterates (Reads text L) n i j := by
  induction n generalizing i with
  | zero => rw [pow_zero, reads_one, Iterates]
  | succ n ih =>
    rw [pow_succ', reads_mul, Iterates]
    exact exists_congr fun k => and_congr_right fun _ => ih

theorem reads_chars {set : CharSet} :
    Reads text (chars set).language i j ↔ text[i]?.any set.contains = true ∧ i + 1 = j := by
  rw [← List.head?_drop]
  constructor
  · rintro ⟨_, ⟨c, hc, rfl⟩, ⟨rest, hrest⟩, rfl⟩
    exact ⟨by simpa [← hrest] using hc, rfl⟩
  · rintro ⟨hany, rfl⟩
    cases hd : text.drop i with
    | nil => simp [hd] at hany
    | cons c rest => exact ⟨[c], ⟨c, by simpa [hd] using hany, rfl⟩, ⟨rest, hd.symm⟩, rfl⟩

theorem iterates_congr {R S : Nat → Nat → Prop} (h : ∀ i j, R i j ↔ S i j) {n i j : Nat} :
    Iterates R n i j ↔ Iterates S n i j := by
  induction n generalizing i with
  | zero => rfl
  | succ n ih => exact exists_congr fun k => and_congr (h i k) ih

/-- An expression without conditions matches where the text goes on with a word of it. -/
theorem matches_iff_reads {text : Array Char} {e : Expr} (h : e.isPlain = true) {i j : Nat} :
    Matches text e i j ↔ Reads text.toList e.language i j := by
  induction e generalizing i j with
  | empty => exact reads_one.symm
  | chars set => rw [reads_chars, Matches, Array.getElem?_toList]
  | look condition => cases h
  | around ahead negated body _ => cases h
  | seq first second ihf ihs =>
    obtain ⟨hfirst, hsecond⟩ := Bool.and_eq_true_iff.1 h
    rw [language_seq, reads_mul]
    exact exists_congr fun k => and_congr (ihf hfirst) (ihs hsecond)
  | alt left right ihl ihr =>
    obtain ⟨hleft, hright⟩ := Bool.and_eq_true_iff.1 h
    rw [language_alt, reads_add]
    exact or_congr (ihl hleft) (ihr hright)
  | repeated least most body ih =>
    have hpow : ∀ n, Iterates (Matches text body) n i j ↔
        Reads text.toList (body.language ^ n) i j := fun n =>
      (iterates_congr fun _ _ => ih h).trans reads_pow.symm
    constructor
    · rintro ⟨n, hleast, hmost, hn⟩
      obtain ⟨w, hw, hreads⟩ := (hpow n).1 hn
      exact ⟨w, ⟨n, hleast, hmost, hw⟩, hreads⟩
    · rintro ⟨w, ⟨n, hleast, hmost, hw⟩, hreads⟩
      exact ⟨n, hleast, hmost, (hpow n).2 ⟨w, hw, hreads⟩⟩

/-! ### Bound to the ends of the text -/

theorem matches_seq_assoc {text : Array Char} {a b c : Expr} {i j : Nat} :
    Matches text (seq a (seq b c)) i j ↔ Matches text (seq (seq a b) c) i j := by
  constructor
  · rintro ⟨k, hk, l, hl, hj⟩
    exact ⟨l, ⟨k, hk, hl⟩, hj⟩
  · rintro ⟨l, ⟨k, hk, hl⟩, hj⟩
    exact ⟨k, hk, l, hl, hj⟩

theorem isMatch_textStart {e : Expr} {s : String} :
    (seq (look .textStart) e).isMatch s = true ↔ ∃ j, Matches s.toList.toArray e 0 j := by
  rw [isMatch_iff]
  constructor
  · rintro ⟨i, hi, j, k, ⟨hstart, rfl⟩, hj⟩
    have hzero : i = 0 := by
      by_contra hne
      have hlt : i - 1 < s.toList.length := by omega
      simp [Look.holdsAt, Look.holds, hne, List.getElem?_eq_getElem hlt] at hstart
    exact ⟨j, hzero ▸ hj⟩
  · rintro ⟨j, hj⟩
    exact ⟨0, Nat.zero_le _, j, 0, ⟨rfl, rfl⟩, hj⟩

/-- Whether an expression without conditions matches a whole text. -/
theorem isMatch_whole {e : Expr} (h : e.isPlain = true) {s : String} :
    (seq (look .textStart) (seq e (look .textEnd))).isMatch s = true ↔
      s.toList ∈ e.language := by
  rw [isMatch_textStart]
  constructor
  · rintro ⟨j, k, hk, hend, rfl⟩
    obtain ⟨w, hw, hprefix, hlength⟩ := (matches_iff_reads h).1 hk
    have hle : s.toList.length ≤ w.length := by
      simpa [Look.holdsAt, Look.holds, ← hlength] using hend
    have heq : w = s.toList := hprefix.eq_of_length_le hle
    exact heq ▸ hw
  · intro hs
    refine ⟨_, _, (matches_iff_reads h).2 ⟨s.toList, hs, List.prefix_rfl, rfl⟩, ?_, rfl⟩
    simp [Look.holdsAt, Look.holds]

/-- The same for an expression in two parts. -/
theorem isMatch_whole_seq {a b : Expr} (h : (seq a b).isPlain = true) {s : String} :
    (seq (look .textStart) (seq a (seq b (look .textEnd)))).isMatch s = true ↔
      s.toList ∈ (seq a b).language := by
  rw [← isMatch_whole h, isMatch_textStart, isMatch_textStart]
  exact exists_congr fun _ => matches_seq_assoc

/-! ### The words of values -/

section Words

variable {α β : Type} {f : α → List Char} {P Q : α → Prop}

theorem mem_words {w : List Char} : w ∈ words f P ↔ ∃ a, P a ∧ f a = w := Iff.rfl

theorem words_add : words f P + words f Q = words f fun a => P a ∨ Q a := by
  ext w
  rw [Language.mem_add]
  constructor
  · rintro (⟨a, ha, hw⟩ | ⟨a, ha, hw⟩)
    · exact ⟨a, .inl ha, hw⟩
    · exact ⟨a, .inr ha, hw⟩
  · rintro ⟨a, ha | ha, hw⟩
    · exact .inl ⟨a, ha, hw⟩
    · exact .inr ⟨a, ha, hw⟩

theorem words_mul {g : β → List Char} {R : β → Prop} : words f P * words g R =
    words (fun p : α × β => f p.1 ++ g p.2) fun p => P p.1 ∧ R p.2 := by
  ext w
  rw [Language.mem_mul]
  constructor
  · rintro ⟨_, ⟨a, ha, rfl⟩, _, ⟨b, hb, rfl⟩, rfl⟩
    exact ⟨(a, b), ⟨ha, hb⟩, rfl⟩
  · rintro ⟨⟨a, b⟩, ⟨ha, hb⟩, rfl⟩
    exact ⟨f a, ⟨a, ha, rfl⟩, g b, ⟨b, hb, rfl⟩, rfl⟩

theorem words_congr {g : α → List Char} (hP : ∀ a, P a ↔ Q a) (hf : ∀ a, P a → f a = g a) :
    words f P = words g Q := by
  ext w
  constructor
  · rintro ⟨a, ha, rfl⟩
    exact ⟨a, (hP a).1 ha, (hf a ha).symm⟩
  · rintro ⟨a, ha, rfl⟩
    exact ⟨a, (hP a).2 ha, hf a ((hP a).2 ha)⟩

/-- The empty list is the only one without a part. -/
theorem words_nil {f : List α → List Char} :
    (words f fun parts => parts.length = 0 ∧ ∀ a ∈ parts, P a) = {f []} := by
  ext w
  constructor
  · rintro ⟨parts, ⟨hlength, -⟩, rfl⟩
    rw [List.length_eq_zero_iff.1 hlength]
    rfl
  · rintro rfl
    exact ⟨[], ⟨rfl, by simp⟩, rfl⟩

theorem exists_map_eq_of_forall_mem {list : List (List Char)} (h : ∀ w ∈ list, w ∈ words f P) :
    ∃ parts : List α, (∀ a ∈ parts, P a) ∧ parts.map f = list := by
  induction list with
  | nil => exact ⟨[], by simp, rfl⟩
  | cons w rest ih =>
    obtain ⟨⟨a, ha, rfl⟩, hrest⟩ := List.forall_mem_cons.1 h
    obtain ⟨parts, hparts, rfl⟩ := ih hrest
    exact ⟨a :: parts, List.forall_mem_cons.2 ⟨ha, hparts⟩, rfl⟩

/-! ### Repetition -/

variable {body : Expr} {least most : Nat}

theorem language_repeated (hbody : body.language = words f P) (h : least ≤ most) :
    (repeated least (some most) body).language = words (List.flatMap f) fun parts =>
      (least ≤ parts.length ∧ parts.length ≤ most) ∧ ∀ a ∈ parts, P a := by
  ext w
  constructor
  · rintro ⟨_, hleast, hmost, hw⟩
    obtain ⟨list, rfl, rfl, hlist⟩ := Language.mem_pow.1 hw
    obtain ⟨parts, hparts, rfl⟩ := exists_map_eq_of_forall_mem (hbody ▸ hlist)
    have hle := hmost most rfl
    rw [List.length_map] at hleast hle
    exact ⟨parts, ⟨⟨hleast, by omega⟩, hparts⟩, rfl⟩
  · rintro ⟨parts, ⟨⟨hleast, hmost⟩, hparts⟩, rfl⟩
    refine ⟨parts.length, hleast, fun m hm => ?_, Language.mem_pow.2 ⟨parts.map f, rfl, ?_, ?_⟩⟩
    · obtain rfl := Option.some.inj hm
      omega
    · exact List.length_map f
    · rw [hbody]
      exact List.forall_mem_map.2 fun a ha => ⟨a, hparts a ha, rfl⟩

theorem language_repeated_self (n : Nat) (body : Expr) :
    (repeated n (some n) body).language = body.language ^ n := by
  ext w
  constructor
  · rintro ⟨m, hleast, hmost, hw⟩
    obtain rfl : m = n := by
      have hle := hmost n rfl
      omega
    exact hw
  · exact fun hw => ⟨n, le_rfl, fun m _ => Nat.le_max_left n m, hw⟩

theorem language_optional (body : Expr) :
    (repeated 0 (some 1) body).language = 1 + body.language := by
  ext w
  rw [Language.mem_add]
  constructor
  · rintro ⟨n, -, hmost, hw⟩
    have hle := hmost 1 rfl
    obtain rfl | rfl : n = 0 ∨ n = 1 := by omega
    · exact .inl hw
    · exact .inr (pow_one body.language ▸ hw)
  · rintro (hw | hw)
    · exact ⟨0, le_rfl, fun m _ => Nat.zero_le _, hw⟩
    · refine ⟨1, Nat.zero_le _, fun m hm => ?_, (pow_one body.language).symm ▸ hw⟩
      obtain rfl := Option.some.inj hm
      exact le_rfl

/-! ### Parts between separators -/

theorem contains_ofChar {c d : Char} : (CharSet.ofChar c).contains d = true ↔ d = c := by
  simp only [CharSet.contains, CharSet.ofChar, List.any_cons, List.any_nil, Bool.or_false,
    Bool.and_eq_true, decide_eq_true_eq]
  rw [← Char.toNat_inj]
  omega

theorem language_ofChar (c : Char) : (chars (CharSet.ofChar c)).language = {[c]} := by
  ext w
  constructor
  · rintro ⟨d, hd, rfl⟩
    rw [contains_ofChar.1 hd]
    rfl
  · rintro rfl
    exact ⟨c, contains_ofChar.2 rfl, rfl⟩

variable {c : Char} {groups : List (List Char)}

theorem flatMap_append_singleton (h : groups ≠ []) :
    groups.flatMap (· ++ [c]) = [c].intercalate groups ++ [c] := by
  induction groups with
  | nil => exact absurd rfl h
  | cons g rest ih =>
    cases rest with
    | nil => simp
    | cons g' rest =>
      rw [List.flatMap_cons, ih (List.cons_ne_nil _ _), List.intercalate_cons_cons,
        List.append_assoc (g ++ [c])]

theorem flatMap_cons_eq (h : groups ≠ []) :
    groups.flatMap (c :: ·) = c :: [c].intercalate groups := by
  induction groups with
  | nil => exact absurd rfl h
  | cons g rest ih =>
    cases rest with
    | nil => simp
    | cons g' rest =>
      rw [List.flatMap_cons, ih (List.cons_ne_nil _ _), List.intercalate_cons_cons]
      simp

theorem intercalate_append_singleton (groups : List (List Char)) (last : List Char) :
    [c].intercalate (groups ++ [last]) = groups.flatMap (· ++ [c]) ++ last := by
  induction groups with
  | nil => simp
  | cons g rest ih =>
    rw [List.cons_append, List.intercalate_cons_of_ne_nil (by simp), ih, List.flatMap_cons]
    simp

variable (hbody : body.language = words f P)
include hbody

theorem language_repeated_before (h : least ≤ most) :
    (repeated least (some most) (seq body (chars (CharSet.ofChar c)))).language =
      words (fun parts : List α => (parts.map f).flatMap (· ++ [c])) fun parts =>
        (least ≤ parts.length ∧ parts.length ≤ most) ∧ ∀ a ∈ parts, P a := by
  have hpart : (seq body (chars (CharSet.ofChar c))).language = words (fun a => f a ++ [c]) P := by
    rw [language_seq, language_ofChar, hbody]
    ext w
    rw [Language.mem_mul]
    constructor
    · rintro ⟨_, ⟨a, ha, rfl⟩, _, rfl, hw⟩
      exact ⟨a, ha, hw⟩
    · rintro ⟨a, ha, hw⟩
      exact ⟨f a, ⟨a, ha, rfl⟩, _, rfl, hw⟩
  rw [language_repeated hpart h]
  exact words_congr (fun _ => Iff.rfl) fun parts _ => by rw [List.flatMap_map]

theorem language_repeated_after (h : least ≤ most) :
    (repeated least (some most) (seq (chars (CharSet.ofChar c)) body)).language =
      words (fun parts : List α => (parts.map f).flatMap (c :: ·)) fun parts =>
        (least ≤ parts.length ∧ parts.length ≤ most) ∧ ∀ a ∈ parts, P a := by
  have hpart : (seq (chars (CharSet.ofChar c)) body).language = words (fun a => c :: f a) P := by
    rw [language_seq, language_ofChar, hbody]
    ext w
    rw [Language.mem_mul]
    constructor
    · rintro ⟨_, rfl, _, ⟨a, ha, rfl⟩, hw⟩
      exact ⟨a, ha, hw⟩
    · rintro ⟨a, ha, hw⟩
      exact ⟨_, rfl, f a, ⟨a, ha, rfl⟩, hw⟩
  rw [language_repeated hpart h]
  exact words_congr (fun _ => Iff.rfl) fun parts _ => by rw [List.flatMap_map]

/-- So many parts, each before a separator, and a last one. -/
theorem language_separated (n : Nat) :
    (seq (repeated n (some n) (seq body (chars (CharSet.ofChar c)))) body).language =
      words (fun parts : List α => [c].intercalate (parts.map f)) fun parts =>
        parts.length = n + 1 ∧ ∀ a ∈ parts, P a := by
  have hjoin : ∀ first last, (first.map f).flatMap (· ++ [c]) ++ f last =
      [c].intercalate ((first ++ [last]).map f) := by
    intro first last
    rw [List.map_append]
    exact (intercalate_append_singleton (first.map f) (f last)).symm
  rw [language_seq, language_repeated_before hbody le_rfl, hbody]
  ext w
  rw [Language.mem_mul]
  constructor
  · rintro ⟨_, ⟨first, ⟨⟨hleast, hmost⟩, hfirst⟩, rfl⟩, _, ⟨last, hlast, rfl⟩, rfl⟩
    refine ⟨first ++ [last], ⟨?_, ?_⟩, (hjoin first last).symm⟩
    · rw [List.length_append, List.length_singleton]
      omega
    · exact List.forall_mem_append.2 ⟨hfirst, List.forall_mem_singleton.2 hlast⟩
  · rintro ⟨parts, ⟨hlength, hparts⟩, rfl⟩
    rcases List.eq_nil_or_concat' parts with rfl | ⟨first, last, rfl⟩
    · cases hlength
    · obtain ⟨hfirst, hlast⟩ := List.forall_mem_append.1 hparts
      rw [List.length_append, List.length_singleton] at hlength
      exact ⟨_, ⟨first, ⟨⟨by omega, by omega⟩, hfirst⟩, rfl⟩, _,
        ⟨last, List.forall_mem_singleton.1 hlast, rfl⟩, hjoin first last⟩

end Words

end Expr
end Rulebook
