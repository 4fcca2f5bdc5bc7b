import Rulebook.Pattern.Named
import Rulebook.Pattern.Size
import Rulebook.Text.Blank
import Rulebook.Text.Percent

/-!
Reading regular expressions. There are no back references, so every expression
describes a set of matches. Flags hold from where they are set to the end of the
group around them.
-/

namespace Rulebook
namespace Expr

inductive Dialect where
  /-- Without look-around. -/
  | plain
  /-- Without look-around; digits and word characters are those of ASCII, and
  control characters may be written by their letters. -/
  | schema
  /-- With look-around. -/
  | lookAround
deriving DecidableEq

structure Flags where
  ignoreCase : Bool := false
  multiLine : Bool := false
  dotAll : Bool := false
  swapGreed : Bool := false
  unicode : Bool := true
  crlf : Bool := false
  /-- Blanks and comments between the parts of the expression are skipped. -/
  extended : Bool := false
  dialect : Dialect := .plain

/-- The text that is still to be read, the flags that hold, and the names of
the groups so far. -/
structure Cursor where
  rest : List Char
  flags : Flags := {}
  names : List String := []

structure Part where
  expr : Expr
  height : Nat := 0
  /-- Flags are no expression that could be repeated. -/
  repeatable : Bool := true

def maxHeight : Nat := 250

def dropComments (inComment : Bool) : List Char → List Char
  | [] => []
  | c :: rest =>
    if inComment then dropComments (c != '\n') rest
    else if Text.isBlank c then dropComments false rest
    else if c = '#' then dropComments true rest
    else c :: rest

namespace Cursor

def skip (c : Cursor) : Cursor :=
  if c.flags.extended then { c with rest := dropComments false c.rest } else c

def drop (n : Nat) (c : Cursor) : Cursor := { c with rest := c.rest.drop n }

/-- Go past one character and what does not count after it. -/
def next (c : Cursor) : Cursor := (c.drop 1).skip

def peek? (c : Cursor) : Option Char := c.rest.head?

end Cursor

/-! ### Characters -/

def Flags.fold (flags : Flags) (set : CharSet) : CharSet :=
  if !flags.ignoreCase then set
  else if flags.unicode then set.foldCase
  else set.foldAsciiCase

/-- A set or its complement. Without Unicode only characters of ASCII can be
told apart, so that the set must lie inside it. -/
def Flags.class? (flags : Flags) (negated : Bool) (set : CharSet) : Option CharSet :=
  let set := if negated then set.complement else set
  if flags.unicode || set.isAscii then some set else none

inductive Escape where
  | literal (c : Char)
  | set (set : CharSet)
  | look (condition : Look)

def charOfCode? (n : Nat) : Option Char :=
  if n < 0xD800 ∨ (0xE000 ≤ n ∧ n ≤ 0x10FFFF) then some (Char.ofNat n) else none

def hexNumber? (digits : List Char) : Option Nat :=
  digits.foldlM (fun n c => (Percent.hexValue c).map (16 * n + ·)) 0

def takeChars : Nat → Cursor → Option (List Char × Cursor)
  | 0, c => some ([], c)
  | n + 1, c => do
    let first ← c.peek?
    let (more, c) ← takeChars n c.next
    return (first :: more, c)

def takeBraced : List Char → Option (List Char × List Char)
  | [] => none
  | '\x7d' :: rest => some ([], rest)
  | c :: rest => (takeBraced rest).map fun (letters, rest) => (c :: letters, rest)

def braced (c : Cursor) : Option (List Char × Cursor) := do
  let (letters, rest) ← takeBraced c.rest
  let letters := if c.flags.extended then letters.filter (!Text.isBlank ·) else letters
  return (letters, ({ c with rest } : Cursor))

/-- A character by its hexadecimal code: so many digits, or any number of them
in braces. Two digits alone name a byte, which must be ASCII without Unicode. -/
def hexEscape (digits : Nat) (c : Cursor) : Option (Escape × Cursor) := do
  if c.peek? = some '\x7b' then
    let (letters, c) ← braced (c.drop 1)
    if letters.isEmpty then none
    let char ← charOfCode? (← hexNumber? letters)
    return (.literal char, c)
  else
    let (letters, c) ← takeChars digits c
    let n ← hexNumber? letters
    let char ← charOfCode? n
    if digits = 2 ∧ 127 < n ∧ !c.flags.unicode then none
    return (.literal char, c)

def cutAt (separator : List Char) : List Char → Option (List Char × List Char)
  | [] => none
  | c :: rest =>
    if separator.isPrefixOf (c :: rest) then some ([], (c :: rest).drop separator.length)
    else (cutAt separator rest).map fun (before, after) => (c :: before, after)

def propertyQuery? (letters : List Char) : Option (Bool × CharSet) :=
  let valued (negated : Bool) (parts : List Char × List Char) : Option (Bool × CharSet) :=
    (CharSet.valued? (String.ofList parts.1) (String.ofList parts.2)).map fun s => (negated, s)
  match cutAt ['!', '='] letters, cutAt [':'] letters, cutAt ['='] letters with
  | some parts, _, _ => valued true parts
  | none, some parts, _ => valued false parts
  | none, none, some parts => valued false parts
  | none, none, none => (CharSet.named? (String.ofList letters)).map fun s => (false, s)

/-- A property: one letter, or a name in braces. -/
def propertyEscape (negated : Bool) (c : Cursor) : Option (Escape × Cursor) := do
  if !c.flags.unicode then none
  let (letters, c) ← if c.peek? = some '\x7b' then braced (c.drop 1)
    else takeChars 1 c
  let (inverse, set) ← propertyQuery? letters
  let set := c.flags.fold set
  return (.set (if negated != inverse then set.complement else set), c)

/-- A boundary whose side is named in braces; braces that hold anything else
are left alone. -/
def boundaryEscape (c : Cursor) : Option (Escape × Cursor) := do
  let isName (ch : Char) : Bool := ch.isAlpha || ch == '-'
  let plain : Escape × Cursor := (.look (.word .boundary (CharSet.word c.flags.unicode)), c)
  if c.peek? != some '\x7b' then return plain
  let inner := c.next
  match inner.peek? with
  | none => none
  | some first =>
    if !isName first then return plain
    let (letters, c) ← braced inner
    let side ← match String.ofList letters with
      | "start" => some WordSide.start
      | "end" => some .finish
      | "start-half" => some .startHalf
      | "end-half" => some .finishHalf
      | _ => none
    return (.look (.word side (CharSet.word c.flags.unicode)), c)

def escapesItself (ch : Char) : Bool :=
  ch.toNat < 128 && !ch.isAlphanum && ch != '<' && ch != '>'

def controlEscape? (ch : Char) : Option Char :=
  match ch with
  | 'a' => some (Char.ofNat 7)
  | 'f' => some (Char.ofNat 12)
  | 't' => some '\t'
  | 'n' => some '\n'
  | 'r' => some '\r'
  | 'v' => some (Char.ofNat 11)
  | _ => none

def escape (c : Cursor) : Option (Escape × Cursor) := do
  let ch ← c.peek?
  let unicode := c.flags.unicode
  let named (negated : Bool) (set : CharSet) : Option (Escape × Cursor) :=
    (c.flags.class? negated set).map fun set => (.set set, c.drop 1)
  let word := CharSet.word unicode
  let schema := c.flags.dialect == .schema
  let space := if schema then CharSet.schemaSpace else CharSet.space unicode
  match ch with
  | 'x' => hexEscape 2 c.next
  | 'u' => hexEscape 4 c.next
  | 'U' => hexEscape 8 c.next
  | 'p' => propertyEscape false c.next
  | 'P' => propertyEscape true c.next
  | 'd' => named false (CharSet.digit (unicode && !schema))
  | 'D' => named true (CharSet.digit (unicode && !schema))
  | 's' => named false space
  | 'S' => named true space
  | 'w' => named false (CharSet.word (unicode && !schema))
  | 'W' => named true (CharSet.word (unicode && !schema))
  | 'c' =>
    match (c.drop 1).peek? with
    | some letter =>
      if schema && letter.isAlpha then
        return (.literal (Char.ofNat (letter.toNat % 32)), c.drop 2)
      else none
    | none => none
  | 'A' => return (.look .textStart, c.drop 1)
  | 'z' => return (.look .textEnd, c.drop 1)
  | 'b' => boundaryEscape (c.drop 1)
  | 'B' => return (.look (.word .inside word), c.drop 1)
  | '<' => return (.look (.word .start word), c.drop 1)
  | '>' => return (.look (.word .finish word), c.drop 1)
  | _ =>
    match controlEscape? ch with
    | some control => return (.literal control, c.drop 1)
    | none => if escapesItself ch then return (.literal ch, c.drop 1) else none

/-! ### Sets in brackets -/

inductive SetOperation where
  | inter | diff | symmDiff

def SetOperation.apply : SetOperation → CharSet → CharSet → CharSet
  | inter => CharSet.inter
  | diff => CharSet.diff
  | symmDiff => CharSet.symmDiff

structure Bracket where
  negated : Bool
  /-- The left side of an operation. -/
  left : Option (SetOperation × CharSet) := none
  leftHeight : Nat := 0
  ranges : List (Nat × Nat) := []
  /-- How many items the right side has. -/
  count : Nat := 0
  /-- The nesting of its items. -/
  height : Nat := 0

namespace Bracket

def add (b : Bracket) (set : CharSet) (height : Nat) : Bracket :=
  { b with ranges := b.ranges ++ set, count := b.count + 1, height := max b.height height }

/-- The set so far, with a pending operation carried out. -/
def value (b : Bracket) (flags : Flags) : CharSet :=
  let right := CharSet.ofRanges b.ranges
  match b.left with
  | some (operation, left) => operation.apply (flags.fold left) (flags.fold right)
  | none => right

/-- The nesting of the set so far: several items are one level above each, and
an operation is one level above its sides. -/
def nesting (b : Bracket) : Nat :=
  let right := if 1 < b.count then b.height + 1 else b.height
  if b.left.isSome then max b.leftHeight right + 1 else right

def operate (b : Bracket) (flags : Flags) (operation : SetOperation) : Bracket :=
  { negated := b.negated, left := some (operation, b.value flags), leftHeight := b.nesting }

/-- Read the beginning of a set after its bracket: a hat negates it, and hyphens
and a bracket that come first stand for themselves. -/
def opened (c : Cursor) : Bracket × Cursor :=
  let c := c.skip
  let (negated, c) := if c.peek? = some '^' then (true, c.next) else (false, c)
  let rec hyphens : Nat → Bracket → Cursor → Bracket × Cursor
    | rounds + 1, b, c =>
      if c.peek? = some '-' then hyphens rounds (b.add (CharSet.ofChar '-') 0) c.next else (b, c)
    | 0, b, c => (b, c)
  let (b, c) := hyphens c.rest.length { negated } c
  if b.ranges.isEmpty ∧ c.peek? = some ']' then (b.add (CharSet.ofChar ']') 0, c.next) else (b, c)

end Bracket

def asciiClass? (rest : List Char) : Option (Bool × CharSet × List Char) :=
  match rest with
  | ':' :: rest => do
    let (negated, rest) := match rest with
      | '^' :: rest => (true, rest)
      | rest => (false, rest)
    let name := rest.takeWhile (· != ':')
    match rest.drop name.length with
    | ':' :: ']' :: rest => return (negated, ← CharSet.asciiClass? (String.ofList name), rest)
    | _ => none
  | _ => none

def bracketItem (c : Cursor) : Option (Escape × Cursor) :=
  match c.rest with
  | [] => none
  | '\\' :: _ => escape (c.drop 1)
  | ch :: _ => some (.literal ch, c.drop 1)

/-- A range, or a single item. Without Unicode only characters of ASCII may be
written. -/
def bracketRange (c : Cursor) : Option (CharSet × Cursor) := do
  let writable (ch : Char) : Bool := c.flags.unicode || ch.toNat < 128
  let (first, c) ← bracketItem c
  let c := c.skip
  let after := (c.next).peek?
  if c.peek? = some '-' ∧ after ≠ some ']' ∧ after ≠ some '-' then
    let (second, c) ← bracketItem c.next
    match first, second with
    | .literal lo, .literal hi =>
      if lo.toNat ≤ hi.toNat ∧ writable lo ∧ writable hi then return ([(lo.toNat, hi.toNat)], c)
      else none
    | _, _ => none
  else
    match first with
    | .literal ch => if writable ch then return (CharSet.ofChar ch, c) else none
    | .set set => return (set, c)
    | .look _ => none

def bracket : Nat → Bracket → Cursor → Option (CharSet × Nat × Cursor)
  | 0, _, _ => none
  | rounds + 1, b, c => do
    let c := c.skip
    let flags := c.flags
    match c.rest with
    | [] => none
    | ']' :: _ =>
      let set ← flags.class? b.negated (flags.fold (b.value flags))
      return (set, b.nesting + 1, c.drop 1)
    | '[' :: rest =>
      match asciiClass? rest with
      | some (negated, set, rest) =>
        bracket rounds (b.add (← flags.class? negated (flags.fold set)) 0) { c with rest }
      | none =>
        let (inner, c) := Bracket.opened (c.drop 1)
        let (set, height, c) ← bracket rounds inner c
        bracket rounds (b.add set height) c
    | '&' :: '&' :: _ => bracket rounds (b.operate flags .inter) (c.drop 2)
    | '-' :: '-' :: _ => bracket rounds (b.operate flags .diff) (c.drop 2)
    | '~' :: '~' :: _ => bracket rounds (b.operate flags .symmDiff) (c.drop 2)
    | _ =>
      let (set, c) ← bracketRange c
      bracket rounds (b.add set 0) c

/-! ### Repetition -/

def decimal (c : Cursor) : Option (Nat × Cursor) := do
  let blankless (c : Cursor) : Cursor := { c with rest := c.rest.dropWhile Text.isBlank }
  let c := blankless c
  let digits := c.rest.takeWhile Char.isDigit
  if digits.isEmpty then none
  let n := digits.foldl (fun n d => n * 10 + (d.toNat - 48)) 0
  if n < 2 ^ 32 then return (n, blankless (c.drop digits.length).skip) else none

def counts (c : Cursor) : Option (Nat × Option Nat × Cursor) := do
  let (least, c) ← decimal c
  let (most, c) ← match c.peek? with
    | some ',' =>
      let c := c.next
      if c.peek? = some '\x7d' then some (none, c)
      else (decimal c).map fun (n, c) => (some n, c)
    | _ => some (some least, c)
  if c.peek? ≠ some '\x7d' ∨ most.any (· < least) then none
  return (least, most, c.next)

/-- A question mark after a repetition asks for the shortest match first. -/
def dropLazy (c : Cursor) : Cursor := if c.peek? = some '?' then c.drop 1 else c

def isEmptyWidth : Expr → Bool
  | empty | look _ | around _ _ _ => true
  | chars _ => false
  | seq first second => first.isEmptyWidth && second.isEmptyWidth
  | alt left right => left.isEmptyWidth && right.isEmptyWidth
  | repeated _ most body => most == some 0 || body.isEmptyWidth

/-- How many characters every match has, if that is always the same number. -/
def width? : Expr → Option Nat
  | empty | look _ | around _ _ _ => some 0
  | chars _ => some 1
  | seq first second => do return (← first.width?) + (← second.width?)
  | alt left right => do
    let n ← left.width?
    if n = (← right.width?) then return n else none
  | repeated least most body => do
    if most = some least then return least * (← body.width?) else none

/-- Whether a condition on what stands before can be checked: the matches of
each branch have the same number of characters. -/
def isFixed : Expr → Bool
  | alt left right => left.isFixed && right.isFixed
  | e => e.width?.isSome

/-- A repetition. Where no character is matched, once is as good as many times. -/
def repetition (least : Nat) (most : Option Nat) (body : Expr) : Expr :=
  if most = some 0 then .empty
  else if body.isEmptyWidth then .repeated (min least 1) (some 1) body
  else .repeated least most body

def repeatLast (least : Nat) (most : Option Nat) (parts : List Part) : Option (List Part) :=
  match parts with
  | part :: parts =>
    if part.repeatable then
      some ({ expr := repetition least most part.expr, height := part.height + 1 } :: parts)
    else none
  | [] => none

/-! ### Groups -/

def isNameStart (ch : Char) : Bool :=
  ch == '_' || ch.isAlpha || (128 ≤ ch.toNat && ((CharSet.property? "alpha").getD []).contains ch)

def isNameChar (ch : Char) : Bool :=
  isNameStart ch || ch.isDigit || ch == '.' || ch == '[' || ch == ']' ||
    (128 ≤ ch.toNat && ((CharSet.category? "n").getD []).contains ch)

def groupName (c : Cursor) : Option Cursor := do
  let name := c.rest.takeWhile (· != '>')
  let first ← name.head?
  let text := String.ofList name
  if !isNameStart first || !name.all isNameChar || c.names.contains text then none
  if c.rest.length = name.length then none
  return { c.drop (name.length + 1) with names := text :: c.names }

def Flags.set? (flags : Flags) (value : Bool) (letter : Char) : Option Flags :=
  match letter with
  | 'i' => some { flags with ignoreCase := value }
  | 'm' => some { flags with multiLine := value }
  | 's' => some { flags with dotAll := value }
  | 'U' => some { flags with swapGreed := value }
  | 'u' => some { flags with unicode := value }
  | 'R' => some { flags with crlf := value }
  | 'x' => some { flags with extended := value }
  | _ => none

/-- Read flags up to the colon or the parenthesis that ends them, each letter
once. After a hyphen flags are cleared, and there has to be one. -/
def readFlags (flags : Flags) (seen : List Char) : List Char → Option (Flags × List Char)
  | [] => none
  | ch :: rest =>
    if ch = ':' ∨ ch = ')' then
      if seen.head? = some '-' then none else some (flags, ch :: rest)
    else if seen.contains ch then none
    else if ch = '-' then readFlags flags ('-' :: seen) rest
    else do readFlags (← flags.set? (!seen.contains '-') ch) (ch :: seen) rest

inductive GroupStart where
  /-- The parts of a group, read under its own flags. -/
  | body (c : Cursor)
  /-- The parts of a condition on what stands after, or before. -/
  | around (ahead negated : Bool) (c : Cursor)
  /-- Flags for what follows in the group around them. -/
  | flags (c : Cursor)

def groupStart (c : Cursor) : Option GroupStart :=
  let c := c.skip
  let around (ahead negated : Bool) (length : Nat) : Option GroupStart :=
    if c.flags.dialect = .lookAround then some (.around ahead negated (c.drop length)) else none
  match c.rest with
  | '?' :: '=' :: _ => around true false 2
  | '?' :: '!' :: _ => around true true 2
  | '?' :: '<' :: '=' :: _ => around false false 3
  | '?' :: '<' :: '!' :: _ => around false true 3
  | '?' :: 'P' :: '<' :: _ => (groupName (c.drop 3)).map .body
  | '?' :: '<' :: _ => (groupName (c.drop 2)).map .body
  | '?' :: rest =>
    match readFlags c.flags [] rest with
    | some (flags, ':' :: rest) => some (.body { c with rest, flags })
    | some (flags, _ :: after) =>
      if rest.head? = some ')' then none else some (.flags { c with rest := after, flags })
    | _ => none
  | _ => some (.body c)

def sequence (parts : List Part) : Part :=
  match parts with
  | [] => { expr := .empty }
  | [part] => part
  | last :: before =>
    { expr := before.foldl (fun e part => .seq part.expr e) last.expr
      height := parts.foldl (fun h part => max h part.height) 0 + 1 }

def choice (branches : List Part) : Part :=
  match branches with
  | [] => { expr := .empty }
  | [branch] => branch
  | last :: before =>
    { expr := before.foldl (fun e branch => .alt branch.expr e) last.expr
      height := branches.foldl (fun h branch => max h branch.height) 0 + 1 }

/-! ### Expressions -/

def literalPart (flags : Flags) (ch : Char) : Part :=
  { expr := .chars (flags.fold (CharSet.ofChar ch)) }

def pointPart? (flags : Flags) : Option Part :=
  if !flags.unicode then none
  else
    let excluded : CharSet :=
      if flags.dotAll then [] else if flags.crlf then [(10, 10), (13, 13)] else [(10, 10)]
    some { expr := .chars (CharSet.complement excluded) }

def hatPart (flags : Flags) : Part :=
  { expr := .look (if flags.multiLine then .lineStart flags.crlf else .textStart) }

def dollarPart (flags : Flags) : Part :=
  { expr := .look (if flags.multiLine then .lineEnd flags.crlf else .textEnd) }

def escapePart (flags : Flags) : Escape → Part
  | .literal ch => literalPart flags ch
  | .set set => { expr := .chars set }
  | .look condition => { expr := .look condition }

def simplePart (c : Cursor) : Option (Part × Cursor) :=
  match c.rest with
  | [] => none
  | '\\' :: _ => (escape (c.drop 1)).map fun (e, c) => (escapePart c.flags e, c)
  | '.' :: _ => (pointPart? c.flags).map fun part => (part, c.drop 1)
  | '^' :: _ => some (hatPart c.flags, c.drop 1)
  | '$' :: _ => some (dollarPart c.flags, c.drop 1)
  | '[' :: _ =>
    let (b, inner) := Bracket.opened (c.drop 1)
    (bracket c.rest.length b inner).map fun (set, height, c) => ({ expr := .chars set, height }, c)
  | ch :: _ => some (literalPart c.flags ch, c.drop 1)

/-- Read branches up to the end of the group they are in, or of the text. The
parts of the branch so far and the branches before it are given in reverse. -/
def branches : Nat → Bool → List Part → List Part → Cursor → Option (Part × Cursor)
  | 0, _, _, _, _ => none
  | rounds + 1, inGroup, parts, done, c => do
    let c := c.skip
    match c.rest with
    | [] => if inGroup then none else return (choice (sequence parts :: done), c)
    | ')' :: _ => if inGroup then return (choice (sequence parts :: done), c.drop 1) else none
    | '|' :: _ => branches rounds inGroup [] (sequence parts :: done) (c.drop 1)
    | '(' :: _ =>
      match ← groupStart (c.drop 1) with
      | .flags inner =>
        branches rounds inGroup ({ expr := .empty, repeatable := false } :: parts) done inner
      | .body inner =>
        let (part, after) ← branches rounds true [] [] inner
        branches rounds inGroup ({ expr := part.expr, height := part.height + 1 } :: parts) done
          { after with flags := c.flags }
      | .around ahead negated inner =>
        let (part, after) ← branches rounds true [] [] inner
        if !ahead && !part.expr.isFixed then none
        branches rounds inGroup
          ({ expr := .around ahead negated part.expr, height := part.height + 1 } :: parts) done
          { after with flags := c.flags }
    | '*' :: _ =>
      branches rounds inGroup (← repeatLast 0 none parts) done (dropLazy (c.drop 1))
    | '+' :: _ =>
      branches rounds inGroup (← repeatLast 1 none parts) done (dropLazy (c.drop 1))
    | '?' :: _ =>
      branches rounds inGroup (← repeatLast 0 (some 1) parts) done (dropLazy (c.drop 1))
    | '\x7b' :: _ =>
      let (least, most, after) ← counts c.next
      branches rounds inGroup (← repeatLast least most parts) done (dropLazy after)
    | _ =>
      let (part, c) ← simplePart c
      branches rounds inGroup (part :: parts) done c

/-- Read an expression, if it is one and not too large. -/
def read? (dialect : Dialect) (source : String) : Option Expr := do
  let letters := source.toList
  let start : Cursor := { rest := letters, flags := { dialect } }
  let (part, _) ← branches (letters.length + 1) false [] [] start
  if part.height ≤ maxHeight ∧ part.expr.cost ≤ maxCost then return part.expr else none

end Expr
end Rulebook
