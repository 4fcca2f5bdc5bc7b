import Mathlib.Data.List.Nodup
import Mathlib.Data.List.Flatten
import Mathlib.Data.List.Pairwise
import Rulebook.Json.Flatten
import Rulebook.Proofs.Json.Order

/-! The leaves of a document are the positions at which its flattening ends, in document
order and each listed once. Without a depth limit, and with arrays flattened too, these
are the scalars and the empty containers below the root. -/

namespace Rulebook

namespace FlattenOptions

/-- What is flattened further unless it lies too deep: an object that is not empty, and
an array that is not empty unless arrays are leaves. -/
def Opens (options : FlattenOptions) : Json → Prop
  | .object members => members ≠ []
  | .array items => options.safe = false ∧ items ≠ []
  | _ => False

def Within (options : FlattenOptions) (n : Nat) : Prop :=
  ∀ most, options.maxDepth = some most → n < most

theorem descends_iff {options : FlattenOptions} {depth : Nat} {v : Json} :
    options.descends depth v = true ↔ options.Within depth ∧ options.Opens v := by
  have hdepth : (!options.maxDepth.any (decide <| · ≤ depth)) = true ↔ options.Within depth := by
    cases h : options.maxDepth <;> simp [Within, h]
  unfold descends
  rw [Bool.and_eq_true, hdepth]
  cases v <;> simp [Opens]

end FlattenOptions

namespace Json

variable {options : FlattenOptions} {depth : Nat} {v w : Json}

/-- The leaves of a value that so many segments lead to, which is itself the only one when
it is not flattened further. -/
def leavesFrom (options : FlattenOptions) (depth : Nat) (v : Json) : List Leaf :=
  if options.descends depth v then leavesBelow options depth v else [⟨[], v⟩]

theorem leavesOfMembers_eq (depth : Nat) (members : Members) :
    leavesOfMembers options depth members =
      members.flatMap fun m => (leavesFrom options depth m.2).map (Leaf.under m.1) := by
  induction members with
  | nil => rfl
  | cons m rest ih =>
    obtain ⟨k, v⟩ := m
    simp only [leavesOfMembers, List.flatMap_cons, ih, leavesFrom]
    split <;> rfl

theorem leavesOfItems_eq (depth index : Nat) (items : List Json) :
    leavesOfItems options depth index items =
      (items.zipIdx index).flatMap fun m =>
        (leavesFrom options depth m.1).map (Leaf.under (toString m.2)) := by
  induction items generalizing index with
  | nil => rfl
  | cons v rest ih =>
    simp only [leavesOfItems, List.zipIdx_cons, List.flatMap_cons, ih, leavesFrom]
    split <;> rfl

/-- A leaf below a value is a leaf of one of its children. -/
theorem mem_leavesBelow_iff (hv : v.WellFormed) {leaf : Leaf} :
    leaf ∈ leavesBelow options depth v ↔
      ∃ segment w, At v [segment] w ∧
        ∃ inner ∈ leavesFrom options (depth + 1) w, inner.under segment = leaf := by
  cases v with
  | object members =>
    rw [leavesBelow, leavesOfMembers_eq, List.mem_flatMap]
    constructor
    · rintro ⟨m, hm, h⟩
      exact ⟨m.1, m.2, .member (Members.Distinct.get?_of_mem hv.self hm) .here, List.mem_map.1 h⟩
    · rintro ⟨key, w, hat, h⟩
      obtain ⟨u, hu, hw⟩ := At.object_iff.1 hat
      obtain rfl := At.nil_iff.1 hw
      exact ⟨_, Members.mem_of_get? hu, List.mem_map.2 h⟩
  | array items =>
    rw [leavesBelow, leavesOfItems_eq, List.mem_flatMap]
    constructor
    · rintro ⟨⟨w, i⟩, hm, h⟩
      exact ⟨_, w, .item (List.mem_zipIdx_iff_getElem?.1 hm) .here, List.mem_map.1 h⟩
    · rintro ⟨segment, w, hat, h⟩
      obtain ⟨i, u, rfl, hu, hw⟩ := At.array_iff.1 hat
      obtain rfl := At.nil_iff.1 hw
      exact ⟨(u, i), List.mem_zipIdx_iff_getElem?.2 hu, List.mem_map.2 h⟩
  | _ =>
    simp only [leavesBelow, List.not_mem_nil, false_iff]
    rintro ⟨segment, w, hat, -⟩
    cases hat

theorem mem_leavesBelow_nil (hv : v.WellFormed) : ⟨[], w⟩ ∉ leavesBelow options depth v := by
  rw [mem_leavesBelow_iff hv]
  rintro ⟨segment, u, -, inner, -, h⟩
  simp [Leaf.under] at h

theorem mem_leavesBelow_cons (hv : v.WellFormed) {segment : String} {rest : List String} :
    ⟨segment :: rest, w⟩ ∈ leavesBelow options depth v ↔
      ∃ u, At v [segment] u ∧ ⟨rest, w⟩ ∈ leavesFrom options (depth + 1) u := by
  rw [mem_leavesBelow_iff hv]
  constructor
  · rintro ⟨other, u, hat, ⟨path, x⟩, hm, h⟩
    obtain ⟨⟨rfl, rfl⟩, rfl⟩ : (other = segment ∧ path = rest) ∧ x = w := by
      simpa [Leaf.under] using h
    exact ⟨u, hat, hm⟩
  · rintro ⟨u, hat, hm⟩
    exact ⟨segment, u, hat, _, hm, rfl⟩

/-- The value at a position is flattened further, inside a value that so many segments lead
to. -/
def OpensAt (options : FlattenOptions) (depth : Nat) (v : Json) (path : List String) : Prop :=
  options.Within (depth + path.length) ∧ ∃ w, At v path w ∧ options.Opens w

theorem opensAt_nil_iff : OpensAt options depth v [] ↔ options.descends depth v = true := by
  simp [OpensAt, At.nil_iff, FlattenOptions.descends_iff]

theorem opensAt_cons_iff {segment : String} {rest : List String} (hat : At v [segment] w) :
    OpensAt options depth v (segment :: rest) ↔ OpensAt options (depth + 1) w rest := by
  have hlength : depth + (segment :: rest).length = depth + 1 + rest.length := by
    rw [List.length_cons]
    omega
  unfold OpensAt
  rw [hlength]
  refine and_congr_right fun _ => exists_congr fun u => and_congr_left fun _ => ?_
  rw [At.cons_iff]
  constructor
  · rintro ⟨x, hx, hu⟩
    rwa [hat.unique hx]
  · exact fun hu => ⟨w, hat, hu⟩

/-- The flattening of a value that so many segments lead to ends at a position: what
lies on the way there is flattened further, and what lies there is not. -/
structure Ends (options : FlattenOptions) (depth : Nat) (v : Json) (path : List String)
    (w : Json) : Prop where
  at_path : At v path w
  last : ¬ OpensAt options depth v path
  before : ∀ p, p <+: path → p ≠ path → OpensAt options depth v p

theorem ends_nil_iff : Ends options depth v [] w ↔ v = w ∧ options.descends depth v = false := by
  rw [← Bool.not_eq_true, ← opensAt_nil_iff]
  constructor
  · exact fun h => ⟨At.nil_iff.1 h.at_path, h.last⟩
  · rintro ⟨hv, hlast⟩
    exact ⟨At.nil_iff.2 hv, hlast, fun p hp hne => absurd (List.prefix_nil.1 hp) hne⟩

/-- Behind the first step the flattening goes on from the child that it leads to. -/
theorem ends_child_iff {segment : String} {rest : List String} :
    (∃ u, At v [segment] u ∧ Ends options (depth + 1) u rest w) ↔
      At v (segment :: rest) w ∧ ¬ OpensAt options depth v (segment :: rest) ∧
        ∀ p, p <+: rest → p ≠ rest → OpensAt options depth v (segment :: p) := by
  rw [At.cons_iff]
  constructor
  · rintro ⟨u, hu, hw, hlast, hbefore⟩
    exact ⟨⟨u, hu, hw⟩, mt (opensAt_cons_iff hu).1 hlast, fun p hp hne =>
      (opensAt_cons_iff hu).2 (hbefore p hp hne)⟩
  · rintro ⟨⟨u, hu, hw⟩, hlast, hbefore⟩
    exact ⟨u, hu, hw, mt (opensAt_cons_iff hu).2 hlast, fun p hp hne =>
      (opensAt_cons_iff hu).1 (hbefore p hp hne)⟩

/-- What is passed on the way to a place is what is passed at the first step and after it. -/
theorem opensAt_before_cons_iff {segment : String} {rest : List String} {P : List String → Prop} :
    (∀ p, p <+: segment :: rest → p ≠ segment :: rest → P p) ↔
      P [] ∧ ∀ p, p <+: rest → p ≠ rest → P (segment :: p) := by
  constructor
  · exact fun h => ⟨h [] List.nil_prefix (by simp), fun p hp hne =>
      h _ (List.cons_prefix_cons.2 ⟨rfl, hp⟩) fun he => hne (List.cons.inj he).2⟩
  · rintro ⟨hnil, hcons⟩ p hp hne
    cases p with
    | nil => exact hnil
    | cons other p =>
      obtain ⟨rfl, hrest⟩ := List.cons_prefix_cons.1 hp
      exact hcons p hrest fun he => hne (by rw [he])

theorem ends_cons_iff {segment : String} {rest : List String} :
    Ends options depth v (segment :: rest) w ↔
      options.descends depth v = true ∧
        ∃ u, At v [segment] u ∧ Ends options (depth + 1) u rest w := by
  rw [ends_child_iff, ← opensAt_nil_iff]
  constructor
  · rintro ⟨hw, hlast, hbefore⟩
    obtain ⟨hnil, hcons⟩ := opensAt_before_cons_iff.1 hbefore
    exact ⟨hnil, hw, hlast, hcons⟩
  · rintro ⟨hnil, hw, hlast, hcons⟩
    exact ⟨hw, hlast, opensAt_before_cons_iff.2 ⟨hnil, hcons⟩⟩

theorem mem_leavesFrom_iff (hv : v.WellFormed) {path : List String} :
    ⟨path, w⟩ ∈ leavesFrom options depth v ↔ Ends options depth v path w := by
  induction path generalizing v depth with
  | nil =>
    rw [ends_nil_iff, leavesFrom]
    split
    · rename_i hd
      simp [hd, mem_leavesBelow_nil hv]
    · rename_i hd
      simp [hd, eq_comm]
  | cons segment rest ih =>
    rw [ends_cons_iff, leavesFrom]
    split
    · rename_i hd
      rw [mem_leavesBelow_cons hv]
      simp only [hd, true_and]
      exact exists_congr fun u => and_congr_right fun hat => ih (hv.inside hat.inside)
    · rename_i hd
      simp [hd]

/-- The root is always flattened, so that the leaves of a document are the positions below
it that are not passed, behind none but passed ones. -/
theorem mem_leaves_options_iff (hv : v.WellFormed) {path : List String} :
    ⟨path, w⟩ ∈ v.leaves options ↔
      path ≠ [] ∧ At v path w ∧ ¬ OpensAt options 0 v path ∧
        ∀ p, p <+: path → p ≠ path → p ≠ [] → OpensAt options 0 v p := by
  cases path with
  | nil => simp [leaves, mem_leavesBelow_nil hv]
  | cons segment rest =>
    have hbelow : ⟨segment :: rest, w⟩ ∈ v.leaves options ↔
        ∃ u, At v [segment] u ∧ Ends options 1 u rest w := by
      rw [leaves, mem_leavesBelow_cons hv]
      exact exists_congr fun u => and_congr_right fun hat =>
        mem_leavesFrom_iff (hv.inside hat.inside)
    have hbefore : (∀ p, p <+: segment :: rest → p ≠ segment :: rest → p ≠ [] →
        OpensAt options 0 v p) ↔ _ := opensAt_before_cons_iff
    rw [hbelow, ends_child_iff, hbefore]
    simp

/-- Leaves under different keys or indices are ordered as these are. -/
theorem pairwise_before_leavesBelow (hv : v.WellFormed)
    (hc : ∀ segment w, At v [segment] w → (leavesFrom options (depth + 1) w).Pairwise
      fun a b => Before w a.path b.path) :
    (leavesBelow options depth v).Pairwise fun a b => Before v a.path b.path := by
  have hunder : ∀ segment w, At v [segment] w →
      ((leavesFrom options (depth + 1) w).map (Leaf.under segment)).Pairwise
        fun a b => Before v a.path b.path := fun segment w hat =>
    List.pairwise_map.2 ((hc segment w hat).imp fun h => .under hat h)
  cases v with
  | object members =>
    rw [leavesBelow, leavesOfMembers_eq, List.pairwise_flatMap]
    refine ⟨fun m hm => hunder _ _ (.member (Members.Distinct.get?_of_mem hv.self hm) .here), ?_⟩
    refine List.pairwise_iff_forall_sublist.2 fun {m n} hmn a ha b hb => ?_
    obtain ⟨a, -, rfl⟩ := List.mem_map.1 ha
    obtain ⟨b, -, rfl⟩ := List.mem_map.1 hb
    exact .apart (hmn.map Prod.fst)
  | array items =>
    rw [leavesBelow, leavesOfItems_eq, List.pairwise_flatMap]
    refine ⟨fun m hm => hunder _ _ (.item (List.mem_zipIdx_iff_getElem?.1 hm) .here), ?_⟩
    have hindices : items.zipIdx.Pairwise fun m n => m.2 < n.2 := by
      rw [← List.pairwise_map, List.zipIdx_map_snd]
      exact List.pairwise_lt_range'
    refine hindices.imp fun hmn a ha b hb => ?_
    obtain ⟨a, -, rfl⟩ := List.mem_map.1 ha
    obtain ⟨b, -, rfl⟩ := List.mem_map.1 hb
    exact .apart ⟨_, _, rfl, rfl, hmn⟩
  | _ => exact List.Pairwise.nil

/-- To prove a property of every value, prove it of a value from its children. -/
theorem childInduction {P : Json → Prop} (step : ∀ v, (∀ segment w, At v [segment] w → P w) → P v)
    (v : Json) : P v := by
  induction v using inductionOn with
  | scalar v ha ho =>
    refine step v fun segment w hat => ?_
    have hnil := (hat.eq_of_scalar ha ho).1
    simp at hnil
  | array items ih =>
    refine step _ fun segment w hat => ?_
    obtain ⟨i, u, -, hu, hw⟩ := At.array_iff.1 hat
    obtain rfl := At.nil_iff.1 hw
    exact ih u (List.mem_of_getElem? hu)
  | object members ih =>
    refine step _ fun segment w hat => ?_
    obtain ⟨u, hu, hw⟩ := At.object_iff.1 hat
    obtain rfl := At.nil_iff.1 hw
    exact ih _ (Members.mem_of_get? hu)

theorem pairwise_before_leavesFrom (hv : v.WellFormed) (depth : Nat) :
    (leavesFrom options depth v).Pairwise fun a b => Before v a.path b.path := by
  induction v using childInduction generalizing depth with
  | step v ih =>
    unfold leavesFrom
    split
    · exact pairwise_before_leavesBelow hv fun segment w hat =>
        ih segment w hat (hv.inside hat.inside) (depth + 1)
    · exact List.pairwise_singleton _ _

/-- The leaves of a document stand in document order. -/
theorem pairwise_before_leaves (hv : v.WellFormed) (options : FlattenOptions) :
    (v.leaves options).Pairwise fun a b => Before v a.path b.path :=
  pairwise_before_leavesBelow hv fun _ _ hat => pairwise_before_leavesFrom (hv.inside hat.inside) 1

/-- No position is listed twice. -/
theorem nodup_leaves_options (hv : v.WellFormed) (options : FlattenOptions) :
    ((v.leaves options).map Leaf.path).Nodup :=
  List.pairwise_map.2 ((pairwise_before_leaves hv options).imp fun h => h.ne hv)

/-- At a position the flattening ends when there is no container to open, or at the limit. -/
theorem not_opensAt_iff {path : List String} (hat : At v path w) :
    ¬ OpensAt options 0 v path ↔
      ¬ options.Opens w ∨ ∃ most, options.maxDepth = some most ∧ most ≤ path.length := by
  have hopens : (∃ u, At v path u ∧ options.Opens u) ↔ options.Opens w := by
    constructor
    · rintro ⟨u, hu, h⟩
      rwa [hat.unique hu]
    · exact fun h => ⟨w, hat, h⟩
  rw [OpensAt, hopens, not_and_or, or_comm, Nat.zero_add, FlattenOptions.Within]
  simp only [not_forall, Nat.not_lt, exists_prop]

/-- A leaf does not lie at or below another one. -/
theorem eq_of_prefix_of_mem_leaves (hv : v.WellFormed) {a b : Leaf} (ha : a ∈ v.leaves options)
    (hb : b ∈ v.leaves options) (h : a.path <+: b.path) : a = b := by
  by_contra hne
  have happart : (v.leaves options).Pairwise fun a b => ¬ a.path <+: b.path ∧ ¬ b.path <+: a.path :=
    (pairwise_before_leaves hv options).imp fun h => h.not_prefix hv
  have hsymm : Std.Symm fun a b : Leaf => ¬ a.path <+: b.path ∧ ¬ b.path <+: a.path :=
    ⟨fun _ _ h => ⟨h.2, h.1⟩⟩
  exact (happart.forall ha hb hne).1 h

/-- Paths stay within the limit, which one segment always is. -/
theorem length_le_of_mem_leaves (hv : v.WellFormed) {leaf : Leaf} (h : leaf ∈ v.leaves options)
    {most : Nat} (hmost : options.maxDepth = some most) (hpos : 1 ≤ most) :
    leaf.path.length ≤ most := by
  obtain ⟨hne, -, -, hbefore⟩ := (mem_leaves_options_iff hv).1 h
  have hpos' : 0 < leaf.path.length := List.length_pos_iff.2 hne
  have hlength : leaf.path.dropLast.length = leaf.path.length - 1 := List.length_dropLast
  by_cases hroot : leaf.path.dropLast = []
  · rw [hroot, List.length_nil] at hlength
    omega
  · have hproper : leaf.path.dropLast ≠ leaf.path := fun he => by
      rw [he] at hlength
      omega
    have hwithin := (hbefore _ (List.dropLast_prefix _) hproper hroot).1 most hmost
    omega

/-! ### Without a limit, and with arrays flattened -/

/-- An array or an object that is not empty; everything else is a leaf. -/
def isBranch (v : Json) : Bool := FlattenOptions.descends {} 0 v

theorem isBranch_of_at_cons {segment : String} {rest : List String}
    (h : At v (segment :: rest) w) : v.isBranch := by
  generalize hpath : segment :: rest = path at h
  cases h with
  | here => simp at hpath
  | @member members _ _ _ _ hk _ =>
    cases members with
    | nil => simp at hk
    | cons m rest => rfl
  | @item items _ _ _ _ hi _ =>
    cases items with
    | nil => simp at hi
    | cons v rest => rfl

section Unlimited

variable (hdepth : options.maxDepth = none) (hsafe : options.safe = false)

include hdepth hsafe

theorem opensAt_unlimited_iff {path : List String} :
    OpensAt options depth v path ↔ ∃ w, At v path w ∧ w.isBranch := by
  have hwithin : ∀ n, options.Within n := by simp [FlattenOptions.Within, hdepth]
  have hopens : ∀ w, options.Opens w ↔ w.isBranch := by
    intro w
    cases w <;> simp [FlattenOptions.Opens, hsafe, isBranch, FlattenOptions.descends]
  simp [OpensAt, hwithin, hopens]

theorem mem_leaves_unlimited_iff (hv : v.WellFormed) {leaf : Leaf} :
    leaf ∈ v.leaves options ↔
      leaf.path ≠ [] ∧ At v leaf.path leaf.value ∧ leaf.value.isBranch = false := by
  obtain ⟨path, w⟩ := leaf
  rw [mem_leaves_options_iff hv]
  simp only [opensAt_unlimited_iff hdepth hsafe]
  refine and_congr_right fun _ => and_congr_right fun hat => ?_
  constructor
  · rintro ⟨hlast, -⟩
    exact Bool.eq_false_iff.2 fun hb => hlast ⟨w, hat, hb⟩
  · refine fun hb => ⟨?_, fun p hp hne _ => ?_⟩
    · rintro ⟨u, hu, hbranch⟩
      rw [← hat.unique hu, hb] at hbranch
      contradiction
    · obtain ⟨more, rfl⟩ := hp
      obtain ⟨u, hu, hrest⟩ := hat.split
      cases more with
      | nil => simp at hne
      | cons segment rest => exact ⟨u, hu, isBranch_of_at_cons hrest⟩

/-- Every scalar below the root is listed, and once. -/
theorem count_leaves_of_scalar (hv : v.WellFormed) {path : List String} (hp : path ≠ [])
    (hat : At v path w) (ha : w.asArray? = none) (ho : w.asObject? = none) :
    ((v.leaves options).map Leaf.path).count path = 1 := by
  have hleaf : w.isBranch = false := by
    cases w <;> simp_all [isBranch, FlattenOptions.descends, asArray?, asObject?]
  have hm : ⟨path, w⟩ ∈ v.leaves options :=
    (mem_leaves_unlimited_iff hdepth hsafe hv).2 ⟨hp, hat, hleaf⟩
  exact List.count_eq_one_of_mem (nodup_leaves_options hv options) (List.mem_map.2 ⟨_, hm, rfl⟩)

end Unlimited

/-- The leaves of a document are what is no branch and stands below its root. -/
theorem mem_leaves_iff {v : Json} (hv : v.WellFormed) {leaf : Leaf} :
    leaf ∈ v.leaves {} ↔
      leaf.path ≠ [] ∧ At v leaf.path leaf.value ∧ leaf.value.isBranch = false :=
  mem_leaves_unlimited_iff rfl rfl hv

theorem nodup_leaves {v : Json} (hv : v.WellFormed) : ((v.leaves {}).map Leaf.path).Nodup :=
  nodup_leaves_options hv {}

/-! ### The list as a whole -/

/-- Flattening lists, in document order and without repetition, the positions below the
root at which it ends: only containers above the limit stand before them, and they are at
the limit or hold no such container themselves. -/
theorem leaves_are_endings {document : Json} (hd : document.WellFormed)
    (options : FlattenOptions) :
    let leaves := document.leaves options
    (leaves.Pairwise fun a b => Before document a.path b.path) ∧
      (leaves.map Leaf.path).Nodup ∧
      (∀ path value, ⟨path, value⟩ ∈ leaves ↔
        path ≠ [] ∧ At document path value ∧
          (∀ p, p <+: path → p ≠ path → p ≠ [] →
            options.Within p.length ∧ ∃ w, At document p w ∧ options.Opens w) ∧
          (¬ options.Opens value ∨ ∃ most, options.maxDepth = some most ∧ most ≤ path.length)) ∧
      (∀ a ∈ leaves, ∀ b ∈ leaves, a.path <+: b.path → a = b) ∧
      (options.maxDepth = none → options.safe = false → ∀ path value, path ≠ [] →
        At document path value → value.asArray? = none → value.asObject? = none →
          (leaves.map Leaf.path).count path = 1) ∧
      (∀ most, options.maxDepth = some most → 1 ≤ most →
        ∀ leaf ∈ leaves, leaf.path.length ≤ most) := by
  intro leaves
  refine ⟨pairwise_before_leaves hd options, nodup_leaves_options hd options, fun path value => ?_,
    fun a ha b hb => eq_of_prefix_of_mem_leaves hd ha hb,
    fun hdepth hsafe path value hp hat => count_leaves_of_scalar hdepth hsafe hd hp hat,
    fun most hmost hpos leaf hm => length_le_of_mem_leaves hd hm hmost hpos⟩
  have hopensAt : ∀ p, OpensAt options 0 document p ↔
      options.Within p.length ∧ ∃ w, At document p w ∧ options.Opens w := by
    simp [OpensAt]
  rw [mem_leaves_options_iff hd]
  refine and_congr_right fun _ => and_congr_right fun hat => ?_
  rw [not_opensAt_iff hat, and_comm]
  simp only [hopensAt]

/-- Cut at two segments, with an array on the way and an empty one as a leaf. -/
theorem leaves_are_endings_shallow :
    let document : Json := .object [("a", .array [.object [("b", .null)], .bool true]),
      ("c", .array []), ("d", .object [("e", .object [("f", .null)])])]
    let options : FlattenOptions := { maxDepth := some 2 }
    document.WellFormed ∧
      (document.leaves options).map Leaf.path = [["a", "0"], ["a", "1"], ["c"], ["d", "e"]] ∧
      ((document.leaves options).map Leaf.path).Nodup := by
  intro document options
  have hd : document.WellFormed := by decide
  exact ⟨hd, by decide, (leaves_are_endings hd options).2.1⟩

end Json
end Rulebook
