import Rulebook.Number.Binary64

/-!
JSON values whose objects keep their members in order. An integer of 64 bits,
signed or unsigned, is kept exactly and is not the double of the same value.
-/

namespace Rulebook

/-- The integers that a JSON number holds exactly. -/
def fitsWord (n : Int) : Prop := -2 ^ 63 ≤ n ∧ n < 2 ^ 64

instance (n : Int) : Decidable (fitsWord n) := inferInstanceAs (Decidable (_ ∧ _))

inductive Number where
  | integer (n : Int) (fits : fitsWord n)
  | double (x : Binary64)
deriving DecidableEq

inductive Json where
  | null
  | bool (b : Bool)
  | number (n : Number)
  | string (s : String)
  | array (items : List Json)
  | object (members : List (String × Json))

/-- The members of an object, in order. -/
abbrev Members := List (String × Json)

namespace Number

def ofNat (n : Nat) (h : n < 2 ^ 64 := by decide) : Number :=
  .integer n ⟨by omega, by omega⟩

private theorem toDouble_isSome {n : Int} (h : fitsWord n) : (Binary64.ofInt? n).isSome := by
  obtain ⟨h₁, h₂⟩ := h
  have hn : n.natAbs < 2 ^ 64 := by omega
  have hp : Binary64.scaleFor (n.natAbs * Binary64.unit) 1 ≤ 1086 := by
    have h := Binary64.log2_mul_unit_le hn (by decide)
    unfold Binary64.scaleFor
    rw [Nat.div_one]
    omega
  unfold Binary64.ofInt? Binary64.ofQuotient Binary64.ofUnits
  simp only
  split
  · split
    · rfl
    · omega
  · split
    · rfl
    · omega

def toDouble : Number → Binary64
  | .integer n h => (Binary64.ofInt? n).get (toDouble_isSome h)
  | .double x => x

end Number

namespace Json

mutual

/-- Equality of values, member order and kind of number included. -/
def beq : Json → Json → Bool
  | .null, .null => true
  | .bool a, .bool b => a == b
  | .number a, .number b => a == b
  | .string a, .string b => a == b
  | .array a, .array b => beqItems a b
  | .object a, .object b => beqMembers a b
  | _, _ => false

def beqItems : List Json → List Json → Bool
  | [], [] => true
  | a :: as, b :: bs => beq a b && beqItems as bs
  | _, _ => false

def beqMembers : List (String × Json) → List (String × Json) → Bool
  | [], [] => true
  | (k, a) :: as, (l, b) :: bs => k == l && beq a b && beqMembers as bs
  | _, _ => false

end

mutual

theorem beq_iff (a b : Json) : beq a b = true ↔ a = b := by
  cases a <;> cases b <;> simp [beq]
  · exact beqItems_iff _ _
  · exact beqMembers_iff _ _

theorem beqItems_iff (a b : List Json) : beqItems a b = true ↔ a = b := by
  match a, b with
  | [], [] => simp [beqItems]
  | [], _ :: _ => simp [beqItems]
  | _ :: _, [] => simp [beqItems]
  | x :: xs, y :: ys => simp [beqItems, beq_iff x y, beqItems_iff xs ys]

theorem beqMembers_iff (a b : List (String × Json)) : beqMembers a b = true ↔ a = b := by
  match a, b with
  | [], [] => simp [beqMembers]
  | [], _ :: _ => simp [beqMembers]
  | _ :: _, [] => simp [beqMembers]
  | (k, x) :: xs, (l, y) :: ys =>
    simp [beqMembers, beq_iff x y, beqMembers_iff xs ys]

end

instance : DecidableEq Json := fun a b => decidable_of_iff _ (beq_iff a b)

instance : Inhabited Json := ⟨.null⟩

def asString? : Json → Option String
  | .string s => some s
  | _ => none

def asArray? : Json → Option (List Json)
  | .array items => some items
  | _ => none

def asObject? : Json → Option Members
  | .object members => some members
  | _ => none

def isNull : Json → Bool
  | .null => true
  | _ => false

def isObject (v : Json) : Bool := v.asObject?.isSome

end Json
end Rulebook
