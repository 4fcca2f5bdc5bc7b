import Rulebook.Proofs.Pattern.Language
import Rulebook.Proofs.Rule.Fields
import Rulebook.Proofs.Text.Percent

/-! The expressions of the two address formats accept exactly the addresses: four numbers
below 256 between points, and eight groups of hexadecimal digits between colons, of which
one run may be left out. -/

namespace Rulebook
namespace Formats
open Rulebook.Expr

/-- Four numbers from 0 to 255 between points, as numbers are written. -/
def IsIpv4 (s : String) : Prop :=
  ∃ numbers : List Nat, numbers.length = 4 ∧ (∀ n ∈ numbers, n ≤ 255) ∧
    s = ".".intercalate (numbers.map toString)

def IsGroup (group : List Char) : Prop :=
  1 ≤ group.length ∧ group.length ≤ 4 ∧ ∀ c ∈ group, ∃ n < 16, Percent.IsHexDigit n c

/-- Eight groups between colons; or two lists of groups, at most seven together, with two
colons between the lists. -/
def IsIpv6 (s : String) : Prop :=
  (∃ groups : List String, groups.length = 8 ∧ (∀ g ∈ groups, IsGroup g.toList) ∧
    s = ":".intercalate groups) ∨
  ∃ left right : List String, left.length + right.length ≤ 7 ∧
    (∀ g ∈ left ++ right, IsGroup g.toList) ∧
    s = ":".intercalate left ++ "::" ++ ":".intercalate right

/-! ### Four numbers -/

def digit (lo hi : Nat) : Expr := .chars [(48 + lo, 48 + hi)]

def byteExpr : Expr :=
  .alt (.seq (digit 2 2) (.seq (digit 5 5) (digit 0 5)))
    (.alt (.seq (digit 2 2) (.seq (digit 0 4) (digit 0 9)))
      (.alt (.seq (digit 1 1) (.repeated 2 (some 2) (digit 0 9)))
        (.seq (.repeated 0 (some 1) (digit 1 9)) (digit 0 9))))

def fourExpr : Expr :=
  .seq (.repeated 3 (some 3) (.seq byteExpr (.chars (CharSet.ofChar '.')))) byteExpr

abbrev numerals (P : Nat → Prop) : Language Char := words (Nat.toDigits 10) P

theorem language_digit {lo hi : Nat} (h : hi ≤ 9) :
    (digit lo hi).language = numerals fun n => lo ≤ n ∧ n ≤ hi := by
  ext w
  constructor
  · rintro ⟨c, hc, rfl⟩
    have hrange : 48 + lo ≤ c.toNat ∧ c.toNat ≤ 48 + hi := by
      simpa [CharSet.contains] using hc
    have hdigit : Nat.digitChar (c.toNat - 48) = c := by
      rw [← Char.toNat_inj, Nat.toNat_digitChar_of_lt_ten (by omega)]
      omega
    refine ⟨c.toNat - 48, ⟨by omega, by omega⟩, ?_⟩
    rw [Nat.toDigits_of_lt_base (by omega), hdigit]
  · rintro ⟨n, ⟨hlo, hhi⟩, rfl⟩
    refine ⟨Nat.digitChar n, ?_, (Nat.toDigits_of_lt_base (by omega)).symm⟩
    have hn := Nat.toNat_digitChar_of_lt_ten (show n < 10 by omega)
    simp [CharSet.contains, hn, hlo, hhi]

/-- A digit after a number that is not 0 makes another number. -/
theorem numerals_mul_digit {P : Nat → Prop} {lo hi : Nat} (hP : ∀ n, P n → 0 < n) (h : hi ≤ 9) :
    numerals P * (digit lo hi).language =
      numerals fun n => P (n / 10) ∧ lo ≤ n % 10 ∧ n % 10 ≤ hi := by
  rw [language_digit h]
  ext w
  constructor
  · rintro ⟨_, ⟨m, hm, rfl⟩, _, ⟨d, ⟨hlo, hhi⟩, rfl⟩, rfl⟩
    have hdiv : (10 * m + d) / 10 = m := by omega
    have hmod : (10 * m + d) % 10 = d := by omega
    have hproperty : P ((10 * m + d) / 10) ∧ lo ≤ (10 * m + d) % 10 ∧ (10 * m + d) % 10 ≤ hi := by
      rw [hdiv, hmod]
      exact ⟨hm, hlo, hhi⟩
    exact ⟨10 * m + d, hproperty,
      (Nat.toDigits_append_toDigits (by decide) (hP m hm) (by omega)).symm⟩
  · rintro ⟨n, ⟨hn, hlo, hhi⟩, rfl⟩
    refine ⟨_, ⟨n / 10, hn, rfl⟩, _, ⟨n % 10, ⟨hlo, hhi⟩, rfl⟩, ?_⟩
    have happend := Nat.toDigits_append_toDigits (b := 10) (by decide) (hP _ hn)
      (Nat.mod_lt n (by decide))
    rwa [Nat.div_add_mod] at happend

theorem language_three_digits {first lo hi lo' hi' : Nat} (hpos : 0 < first) (hfirst : first ≤ 9)
    (hhi : hi ≤ 9) (hhi' : hi' ≤ 9) :
    (digit first first).language * ((digit lo hi).language * (digit lo' hi').language) =
      numerals fun n => ((first ≤ n / 10 / 10 ∧ n / 10 / 10 ≤ first) ∧
        lo ≤ n / 10 % 10 ∧ n / 10 % 10 ≤ hi) ∧ lo' ≤ n % 10 ∧ n % 10 ≤ hi' := by
  rw [← mul_assoc, language_digit hfirst, numerals_mul_digit (by omega) hhi,
    numerals_mul_digit (by omega) hhi']

theorem language_two_digits : (1 + (digit 1 9).language) * (digit 0 9).language =
    numerals fun n => n ≤ 99 := by
  have hfirst : (digit 1 9).language = numerals fun n => 1 ≤ n ∧ n ≤ 9 := language_digit le_rfl
  rw [add_mul, one_mul, hfirst, numerals_mul_digit (by omega) le_rfl, language_digit le_rfl,
    words_add]
  congr! 2 with n
  omega

/-- The four branches are for the numbers from 250, from 200, from 100 and from 0. -/
theorem language_byteExpr : byteExpr.language = numerals fun n => n ≤ 255 := by
  simp only [byteExpr, language_alt, language_seq, language_repeated_self, language_optional,
    pow_two]
  rw [language_three_digits (by decide) (by decide) (by decide) (by decide),
    language_three_digits (by decide) (by decide) (by decide) (by decide),
    language_three_digits (by decide) (by decide) (by decide) (by decide),
    language_two_digits, words_add, words_add, words_add]
  congr! 2 with n
  omega

theorem mem_language_fourExpr (s : String) : s.toList ∈ fourExpr.language ↔ IsIpv4 s := by
  have hpoint : ".".toList = ['.'] := by decide
  have hjoin : ∀ numbers : List Nat, ['.'].intercalate (numbers.map (Nat.toDigits 10)) =
      (".".intercalate (numbers.map toString)).toList := by
    intro numbers
    rw [String.toList_intercalate, hpoint, List.map_map]
    exact congrArg _ (List.map_congr_left fun n _ => (String.toList_ofList ..).symm)
  rw [fourExpr, language_separated language_byteExpr, mem_words]
  refine exists_congr fun numbers => ?_
  rw [hjoin, String.toList_inj, and_assoc, eq_comm (b := s)]

/-! ### Groups around a gap -/

def colon : Expr := .chars (CharSet.ofChar ':')

def hexDigits : CharSet := [(48, 57), (65, 70), (97, 102)]

def groupExpr : Expr := .repeated 1 (some 4) (.chars hexDigits)

def before (most : Nat) : Expr := .repeated 1 (some most) (.seq groupExpr colon)

def after (most : Nat) : Expr := .repeated 1 (some most) (.seq colon groupExpr)

def fullExpr : Expr := .seq (.repeated 7 (some 7) (.seq groupExpr colon)) groupExpr

def gapExpr : Expr :=
  .alt (.seq (before 7) colon)
    (.alt (.seq (before 6) (.seq colon groupExpr))
      (.alt (.seq (before 5) (after 2))
        (.alt (.seq (before 4) (after 3))
          (.alt (.seq (before 3) (after 4))
            (.alt (.seq (before 2) (after 5))
              (.alt (.seq groupExpr (.seq colon (after 6)))
                (.seq colon (.alt (after 7) colon))))))))

/-- Lists of groups with a colon after each; alone it stands for no group. -/
def lefts (P : Nat → Prop) : Language Char :=
  words (fun groups : List String => [':'].intercalate (groups.map String.toList) ++ [':'])
    fun groups => P groups.length ∧ ∀ g ∈ groups, IsGroup g.toList

def rights (P : Nat → Prop) : Language Char :=
  words (fun groups : List String => ':' :: [':'].intercalate (groups.map String.toList))
    fun groups => P groups.length ∧ ∀ g ∈ groups, IsGroup g.toList

def gaps (P : Nat → Nat → Prop) : Language Char :=
  words (fun p : List String × List String =>
      (":".intercalate p.1 ++ "::" ++ ":".intercalate p.2).toList)
    fun p => P p.1.length p.2.length ∧ ∀ g ∈ p.1 ++ p.2, IsGroup g.toList

theorem contains_hexDigits {c : Char} :
    hexDigits.contains c = true ↔ ∃ n < 16, Percent.IsHexDigit n c := by
  have hascii : ∀ m < 128, hexDigits.contains (Char.ofNat m) = true →
      ∃ n < 16, Char.ofNat m = Nat.digitChar n ∨ Char.ofNat m = Percent.hexDigit n := by
    decide
  have hdigits : ∀ n < 16, hexDigits.contains (Nat.digitChar n) ∧
      hexDigits.contains (Percent.hexDigit n) := by
    decide
  constructor
  · intro hc
    have hlt : c.toNat < 128 := by
      simp [CharSet.contains, hexDigits] at hc
      omega
    rw [← Char.ofNat_toNat c] at hc ⊢
    exact hascii c.toNat hlt hc
  · rintro ⟨n, hn, rfl | rfl⟩
    · exact (hdigits n hn).1
    · exact (hdigits n hn).2

theorem isGroup_iff {group : List Char} : IsGroup group ↔
    1 ≤ group.length ∧ group.length ≤ 4 ∧ group.all hexDigits.contains = true := by
  simp only [IsGroup, contains_hexDigits, List.all_eq_true]

theorem language_groupExpr :
    groupExpr.language = words String.toList fun g => IsGroup g.toList := by
  rw [groupExpr, language_repeated rfl (by decide)]
  ext w
  constructor
  · rintro ⟨digits, ⟨⟨hleast, hmost⟩, hdigits⟩, rfl⟩
    rw [List.flatMap_singleton']
    have hgroup : IsGroup (String.ofList digits).toList := by
      rw [String.toList_ofList, isGroup_iff]
      exact ⟨hleast, hmost, List.all_eq_true.2 hdigits⟩
    exact ⟨String.ofList digits, hgroup, String.toList_ofList⟩
  · rintro ⟨g, hg, rfl⟩
    obtain ⟨hleast, hmost, hdigits⟩ := isGroup_iff.1 hg
    exact ⟨g.toList, ⟨⟨hleast, hmost⟩, List.all_eq_true.1 hdigits⟩, List.flatMap_singleton' _⟩

theorem intercalate_colon (groups : List String) :
    [':'].intercalate (groups.map String.toList) = (":".intercalate groups).toList := by
  have hcolon : ":".toList = [':'] := by decide
  rw [String.toList_intercalate, hcolon]

theorem lefts_mul_rights (P Q : Nat → Prop) :
    lefts P * rights Q = gaps fun m n => P m ∧ Q n := by
  have hcolons : "::".toList = [':', ':'] := by decide
  rw [lefts, rights, words_mul, gaps]
  refine words_congr (fun p => ?_) fun p _ => ?_
  · rw [List.forall_mem_append]
    tauto
  · simp only [intercalate_colon, String.toList_append, hcolons, List.append_assoc,
      List.cons_append, List.nil_append]

theorem gaps_add (P Q : Nat → Nat → Prop) :
    gaps P + gaps Q = gaps fun m n => P m n ∨ Q m n := by
  simp only [gaps, words_add, or_and_right]

theorem language_before {most : Nat} (h : 1 ≤ most) :
    (before most).language = lefts fun n => 1 ≤ n ∧ n ≤ most := by
  rw [before, colon, language_repeated_before language_groupExpr h]
  refine words_congr (fun _ => Iff.rfl) fun groups hgroups => flatMap_append_singleton ?_
  exact mt List.map_eq_nil_iff.1 (List.ne_nil_of_length_pos hgroups.1.1)

theorem language_after {most : Nat} (h : 1 ≤ most) :
    (after most).language = rights fun n => 1 ≤ n ∧ n ≤ most := by
  rw [after, colon, language_repeated_after language_groupExpr h]
  refine words_congr (fun _ => Iff.rfl) fun groups hgroups => flatMap_cons_eq ?_
  exact mt List.map_eq_nil_iff.1 (List.ne_nil_of_length_pos hgroups.1.1)

/-- One group before a colon is a repetition of one round. -/
theorem language_group_colon :
    groupExpr.language * colon.language = lefts fun n => 1 ≤ n ∧ n ≤ 1 := by
  rw [← language_before le_rfl, before, language_repeated_self, pow_one, language_seq]

theorem language_colon_group :
    colon.language * groupExpr.language = rights fun n => 1 ≤ n ∧ n ≤ 1 := by
  rw [← language_after le_rfl, after, language_repeated_self, pow_one, language_seq]

theorem language_colon_eq_lefts : colon.language = lefts fun n => n = 0 := by
  rw [colon, language_ofChar, lefts, words_nil]
  rfl

theorem language_colon_eq_rights : colon.language = rights fun n => n = 0 := by
  rw [colon, language_ofChar, rights, words_nil]
  rfl

/-- The branches are ordered by the number of groups after the gap, from none to seven, and
each allows as many before it as there is room for. -/
theorem language_gapExpr : gapExpr.language = gaps fun m n => m + n ≤ 7 := by
  have hsome : ∀ {m n : Nat}, 1 ≤ m → 1 ≤ n → (before m).language * (after n).language =
      gaps fun a b => (1 ≤ a ∧ a ≤ m) ∧ 1 ≤ b ∧ b ≤ n := by
    intro m n hm hn
    rw [language_before hm, language_after hn, lefts_mul_rights]
  have hlast : (before 7).language * colon.language =
      gaps fun m n => (1 ≤ m ∧ m ≤ 7) ∧ n = 0 := by
    rw [language_before (by decide), language_colon_eq_rights, lefts_mul_rights]
  have hone : (before 6).language * (colon.language * groupExpr.language) =
      gaps fun m n => (1 ≤ m ∧ m ≤ 6) ∧ 1 ≤ n ∧ n ≤ 1 := by
    rw [language_before (by decide), language_colon_group, lefts_mul_rights]
  have hsix : groupExpr.language * (colon.language * (after 6).language) =
      gaps fun m n => (1 ≤ m ∧ m ≤ 1) ∧ 1 ≤ n ∧ n ≤ 6 := by
    rw [← mul_assoc, language_group_colon, language_after (by decide), lefts_mul_rights]
  have hnone : colon.language * ((after 7).language + colon.language) =
      gaps fun m n => (m = 0 ∧ 1 ≤ n ∧ n ≤ 7) ∨ m = 0 ∧ n = 0 := by
    rw [mul_add, ← gaps_add, ← lefts_mul_rights, ← lefts_mul_rights, ← language_colon_eq_lefts,
      ← language_colon_eq_rights, ← language_after (by decide)]
  simp only [gapExpr, language_alt, language_seq]
  rw [hlast, hone, hsome (by decide) (by decide), hsome (by decide) (by decide),
    hsome (by decide) (by decide), hsome (by decide) (by decide), hsix, hnone]
  simp only [gaps_add]
  congr! 3 with m n
  omega

theorem mem_language_fullExpr (s : String) : s.toList ∈ fullExpr.language ↔
    ∃ groups : List String, groups.length = 8 ∧ (∀ g ∈ groups, IsGroup g.toList) ∧
      s = ":".intercalate groups := by
  rw [fullExpr, colon, language_separated language_groupExpr, mem_words]
  refine exists_congr fun groups => ?_
  rw [intercalate_colon, String.toList_inj, and_assoc, eq_comm (b := s)]

theorem mem_language_gapExpr (s : String) : s.toList ∈ gapExpr.language ↔
    ∃ left right : List String, left.length + right.length ≤ 7 ∧
      (∀ g ∈ left ++ right, IsGroup g.toList) ∧
      s = ":".intercalate left ++ "::" ++ ":".intercalate right := by
  rw [language_gapExpr]
  constructor
  · rintro ⟨⟨left, right⟩, ⟨hlength, hgroups⟩, hs⟩
    exact ⟨left, right, hlength, hgroups, (String.toList_inj.1 hs).symm⟩
  · rintro ⟨left, right, hlength, hgroups, rfl⟩
    exact ⟨(left, right), ⟨hlength, hgroups⟩, rfl⟩

/-! ### The rules -/

theorem read?_ipv4Source : Expr.read? .plain ipv4Source =
    some (.seq (.look .textStart)
      (.seq (.repeated 3 (some 3) (.seq byteExpr (.chars (CharSet.ofChar '.'))))
        (.seq byteExpr (.look .textEnd)))) := by
  unfold Expr.read? ipv4Source byte
  simp only [String.toList_append, -String.reduceAppend]
  decide +kernel

theorem read?_ipv6Source : Expr.read? .plain ipv6Source =
    some (.seq (.look .textStart) (.seq (.alt fullExpr gapExpr) (.look .textEnd))) := by
  unfold Expr.read? ipv6Source piecesBefore piecesAfter piece
  simp only [String.toList_append, -String.reduceAppend]
  decide +kernel

theorem rulePattern?_of_read? {kind : PatternKind} {e : Expr}
    (h : Expr.read? .plain (source kind) = some e) :
    rulePattern? kind = some { kind, pattern := { source := source kind, expr := e } } := by
  rw [rulePattern?, Pattern.read?, h]
  rfl

theorem exists_rulePattern_ipv4 : ∃ p, rulePattern? .ipv4 = some p ∧ p.kind = .ipv4 ∧
    ∀ s, p.pattern.isMatch s = true ↔ IsIpv4 s := by
  refine ⟨_, rulePattern?_of_read? read?_ipv4Source, rfl, fun s => ?_⟩
  exact (isMatch_whole_seq rfl).trans (mem_language_fourExpr s)

theorem exists_rulePattern_ipv6 : ∃ p, rulePattern? .ipv6 = some p ∧ p.kind = .ipv6 ∧
    ∀ s, p.pattern.isMatch s = true ↔ IsIpv6 s := by
  refine ⟨_, rulePattern?_of_read? read?_ipv6Source, rfl, fun s => ?_⟩
  refine (isMatch_whole rfl).trans ?_
  rw [language_alt, Language.mem_add]
  exact or_congr (mem_language_fullExpr s) (mem_language_gapExpr s)

end Formats

namespace Rule

variable {path : String} {node : Json} {required blackbox : Bool} {rule : Rule}

/-- Unless its node has a pattern of its own, the rule for an address format matches exactly
the texts that are such addresses. -/
theorem isMatch_iff_isAddress (h : ofNode path node required blackbox = .ok rule)
    (hp : node.get? "pattern" = none) :
    (node.text? "format" = some "ipv4" → ∃ p, rule.pattern = some p ∧ p.kind = .ipv4 ∧
      ∀ s, p.pattern.isMatch s = true ↔ Formats.IsIpv4 s) ∧
    (node.text? "format" = some "ipv6" → ∃ p, rule.pattern = some p ∧ p.kind = .ipv6 ∧
      ∀ s, p.pattern.isMatch s = true ↔ Formats.IsIpv6 s) := by
  constructor
  · intro hformat
    rw [pattern_of_ofNode h hp (by rw [hformat]; rfl)]
    exact Formats.exists_rulePattern_ipv4
  · intro hformat
    rw [pattern_of_ofNode h hp (by rw [hformat]; rfl)]
    exact Formats.exists_rulePattern_ipv6

/-- An address with numbers of each length, and one with groups of either case on both sides
of the gap. -/
theorem isMatch_iff_isAddress_both :
    let node (format : String) : Json :=
      .object [("type", .string "string"), ("format", .string format)]
    ∃ four six p q, ofNode "host" (node "ipv4") true false = .ok four ∧
      (node "ipv4").get? "pattern" = none ∧ (node "ipv4").text? "format" = some "ipv4" ∧
      four.pattern = some p ∧ p.pattern.isMatch "0.10.199.255" = true ∧
      ofNode "host" (node "ipv6") true false = .ok six ∧
      (node "ipv6").get? "pattern" = none ∧ (node "ipv6").text? "format" = some "ipv6" ∧
      six.pattern = some q ∧ q.pattern.isMatch "2001:Db8::a:0" = true := by
  intro node
  obtain ⟨four, hfour⟩ : ∃ rule, ofNode "host" (node "ipv4") true false = .ok rule := ⟨_, rfl⟩
  obtain ⟨six, hsix⟩ : ∃ rule, ofNode "host" (node "ipv6") true false = .ok rule := ⟨_, rfl⟩
  obtain ⟨p, hp, -, hipv4⟩ := (isMatch_iff_isAddress hfour rfl).1 rfl
  obtain ⟨q, hq, -, hipv6⟩ := (isMatch_iff_isAddress hsix rfl).2 rfl
  refine ⟨four, six, p, q, hfour, rfl, rfl, hp, (hipv4 _).2 ?_, hsix, rfl, rfl, hq, (hipv6 _).2 ?_⟩
  · exact ⟨[0, 10, 199, 255], rfl, by decide, by decide⟩
  · refine .inr ⟨["2001", "Db8"], ["a", "0"], by decide, ?_, by decide⟩
    simp only [Formats.isGroup_iff]
    decide

end Rule
end Rulebook
