import Mathlib.Tactic.Set
import Schedule.Proofs.OutlineTables

/-!
# The outline is the forest its nesting grows

The outline of the task records is assembled depth first: a bar takes its place, then the bars
and leaves it holds, in order, and a record already placed gives nothing. This module shows that
the assembly never runs out of fuel and never meets a placed record where it looks for one: its
result is exactly the forest that starts at the roots and in which every bar holds the trees of
what nests under it (its child bars in bar order, then its leaves in leaf order), with no position
twice; a position occurs iff it is reached from a root through nesting.

The assembly is followed with a state invariant, `Assembly.Fresh`: a free bar still holds what
nests under it, and what nests under a free bar is free. A position is placed only once every bar
it nests under is placed, so placing it keeps the invariant; the fuel outlasts the free bars,
since every level of nesting takes one.

## Main definitions

* `OutlineTree` — a tree of bar and leaf positions.
* `OutlineTree.Follows` — every bar of a tree holds the trees of what nests under it.
* `Assembly.Fresh` — an assembly state agrees with a nesting.
* `Outline` — the sorted and decorated bars, the sorted leaves, and how they nest.
* `Outline.Grows` — a forest of positions starts at the roots, follows the nesting and holds no
  position twice.

## Main statements

* `Assembly.tree_spec` — assembling a free position whose bars are all placed yields the tree of
  its nesting.
* `Outline.buildRowHierarchy_eq_rowsList`, `buildRowHierarchy_grows` — the outline is the records
  of the forest the nesting grows from the roots, and a position occurs in it iff it is reached
  from a root.
-/

namespace Schedule

/-- A tree of outline positions: a bar or a leaf, and the trees under it. -/
inductive OutlineTree where
  | node (child : OutlineChild) (children : List OutlineTree)

/-- The record at a position. -/
def OutlineChild.row (bars leaves : Array Row) : OutlineChild → Row
  | .bar i => bars.getD i default
  | .leaf j => leaves.getD j default

theorem OutlineChild.nodup_map_bar {l : List Nat} (h : l.Nodup) :
    (l.map OutlineChild.bar).Nodup :=
  List.Pairwise.map OutlineChild.bar (fun _ _ hab h => hab (OutlineChild.bar.inj h)) h

namespace OutlineTree

/-- The position at the top of a tree. -/
def label : OutlineTree → OutlineChild
  | node c _ => c

mutual

/-- The positions of a tree, in preorder. -/
def labels : OutlineTree → List OutlineChild
  | node c ts => c :: labelsList ts

/-- The positions of a forest, in preorder. -/
def labelsList : List OutlineTree → List OutlineChild
  | [] => []
  | t :: ts => labels t ++ labelsList ts

end

mutual

/-- The records at the positions of a tree. -/
def rows (bars leaves : Array Row) : OutlineTree → RowTree
  | node c ts => .node (c.row bars leaves) (rowsList bars leaves ts)

/-- The records at the positions of a forest. -/
def rowsList (bars leaves : Array Row) : List OutlineTree → List RowTree
  | [] => []
  | t :: ts => rows bars leaves t :: rowsList bars leaves ts

end

mutual

/-- A tree follows a nesting: a bar holds the trees of what nests under it, in order, and a leaf
holds nothing. -/
def Follows (nested : Nat → List OutlineChild) : OutlineTree → Prop
  | node (.leaf _) ts => ts = []
  | node (.bar i) ts => ts.map label = nested i ∧ FollowsList nested ts

/-- Every tree of a forest follows a nesting. -/
def FollowsList (nested : Nat → List OutlineChild) : List OutlineTree → Prop
  | [] => True
  | t :: ts => Follows nested t ∧ FollowsList nested ts

end

@[simp] theorem labels_node (c : OutlineChild) (ts : List OutlineTree) :
    labels (node c ts) = c :: labelsList ts := by
  simp [labels]

@[simp] theorem labelsList_nil : labelsList [] = [] := by
  simp [labelsList]

@[simp] theorem labelsList_cons (t : OutlineTree) (ts : List OutlineTree) :
    labelsList (t :: ts) = labels t ++ labelsList ts := by
  simp [labelsList]

@[simp] theorem label_node (c : OutlineChild) (ts : List OutlineTree) : label (node c ts) = c :=
  rfl

theorem label_mem_labels (t : OutlineTree) : t.label ∈ t.labels := by
  cases t
  simp

theorem mem_labelsList_of_mem_map_label {ts : List OutlineTree} {c : OutlineChild}
    (h : c ∈ ts.map label) : c ∈ labelsList ts := by
  induction ts with
  | nil => simp at h
  | cons t ts ih =>
    rcases List.mem_cons.mp h with rfl | h
    · exact List.mem_append_left _ (label_mem_labels t)
    · exact List.mem_append_right _ (ih h)

section Nesting

variable {nested : Nat → List OutlineChild}

mutual

/-- A position of a tree that follows a nesting is its top, or nests under a bar of the tree. -/
theorem Follows.mem_labels : ∀ {t : OutlineTree}, Follows nested t → ∀ {x}, x ∈ labels t →
    x = t.label ∨ ∃ p, .bar p ∈ labels t ∧ x ∈ nested p
  | node (.leaf _) ts, h, x, hx => by
    simp only [Follows] at h
    subst h
    simpa using hx
  | node (.bar i) ts, h, x, hx => by
    simp only [Follows] at h
    rcases List.mem_cons.mp (by simpa using hx) with rfl | hx
    · exact .inl rfl
    · right
      rcases FollowsList.mem_labelsList h.2 hx with hroot | ⟨p, hp, hxp⟩
      · exact ⟨i, by simp, h.1 ▸ hroot⟩
      · exact ⟨p, by simp [hp], hxp⟩

/-- A position of a forest that follows a nesting is a top, or nests under a bar of the forest. -/
theorem FollowsList.mem_labelsList : ∀ {ts : List OutlineTree}, FollowsList nested ts →
    ∀ {x}, x ∈ labelsList ts →
      x ∈ ts.map label ∨ ∃ p, .bar p ∈ labelsList ts ∧ x ∈ nested p
  | [], _, _, hx => by simp at hx
  | t :: ts, h, x, hx => by
    simp only [FollowsList] at h
    rcases List.mem_append.mp (by simpa using hx) with hx | hx
    · rcases Follows.mem_labels h.1 hx with rfl | ⟨p, hp, hxp⟩
      · exact .inl (by simp)
      · exact .inr ⟨p, by simp [hp], hxp⟩
    · rcases FollowsList.mem_labelsList h.2 hx with hroot | ⟨p, hp, hxp⟩
      · exact .inl (by simp [hroot])
      · exact .inr ⟨p, by simp [hp], hxp⟩

end

mutual

/-- What nests under a bar of a tree that follows a nesting is in the tree. -/
theorem Follows.mem_of_nested : ∀ {t : OutlineTree}, Follows nested t →
    ∀ {p}, .bar p ∈ labels t → ∀ {c}, c ∈ nested p → c ∈ labels t
  | node (.leaf _) ts, h, p, hp, c, _ => by
    simp only [Follows] at h
    subst h
    simp at hp
  | node (.bar i) ts, h, p, hp, c, hc => by
    simp only [Follows] at h
    simp only [labels_node, List.mem_cons, OutlineChild.bar.injEq] at hp
    rcases hp with rfl | hp
    · -- the bar at the top holds the tops of its subtrees
      exact List.mem_cons_of_mem _ (mem_labelsList_of_mem_map_label (h.1 ▸ hc))
    · exact List.mem_cons_of_mem _ (FollowsList.mem_of_nested h.2 hp hc)

/-- What nests under a bar of a forest that follows a nesting is in the forest. -/
theorem FollowsList.mem_of_nested : ∀ {ts : List OutlineTree}, FollowsList nested ts →
    ∀ {p}, .bar p ∈ labelsList ts → ∀ {c}, c ∈ nested p → c ∈ labelsList ts
  | [], _, _, hp, _, _ => by simp at hp
  | t :: ts, h, p, hp, c, hc => by
    simp only [FollowsList] at h
    rcases List.mem_append.mp (by simpa using hp) with hp | hp
    · exact List.mem_append_left _ (Follows.mem_of_nested h.1 hp hc)
    · exact List.mem_append_right _ (FollowsList.mem_of_nested h.2 hp hc)

end

mutual

/-- A property that holds at the top of a tree and passes from each bar to what nests under it
holds at every position of the tree. -/
theorem Follows.forall_labels {R : OutlineChild → Prop}
    (hR : ∀ p c, R (.bar p) → c ∈ nested p → R c) :
    ∀ {t : OutlineTree}, Follows nested t → R t.label → ∀ x ∈ labels t, R x
  | node (.leaf _) ts, h, ht, x, hx => by
    simp only [Follows] at h
    subst h
    simp only [labels_node, labelsList_nil, List.mem_singleton] at hx
    exact hx ▸ ht
  | node (.bar i) ts, h, ht, x, hx => by
    simp only [Follows] at h
    rcases List.mem_cons.mp (by simpa using hx) with rfl | hx
    · exact ht
    · refine FollowsList.forall_labels hR h.2 (fun t' ht' => hR i _ ht ?_) x hx
      exact h.1 ▸ List.mem_map_of_mem ht'

/-- A property that holds at the tops of a forest and passes from each bar to what nests under it
holds at every position of the forest. -/
theorem FollowsList.forall_labels {R : OutlineChild → Prop}
    (hR : ∀ p c, R (.bar p) → c ∈ nested p → R c) :
    ∀ {ts : List OutlineTree}, FollowsList nested ts → (∀ t ∈ ts, R t.label) →
      ∀ x ∈ labelsList ts, R x
  | [], _, _, x, hx => by simp at hx
  | t :: ts, h, hts, x, hx => by
    simp only [FollowsList] at h
    rcases List.mem_append.mp (by simpa using hx) with hx | hx
    · exact Follows.forall_labels hR h.1 (hts t (by simp)) x hx
    · exact FollowsList.forall_labels hR h.2 (fun t' ht' => hts t' (by simp [ht'])) x hx

end

end Nesting

mutual

/-- A tree follows any nesting that agrees at its bars with one it follows. -/
theorem Follows.congr {nested nested' : Nat → List OutlineChild} :
    ∀ {t : OutlineTree}, Follows nested t →
      (∀ p, .bar p ∈ labels t → nested p = nested' p) → Follows nested' t
  | node (.leaf _) ts, h, _ => h
  | node (.bar i) ts, h, hagree => by
    simp only [Follows] at h ⊢
    refine ⟨h.1.trans (hagree i (by simp)), FollowsList.congr h.2 fun p hp => hagree p ?_⟩
    simp [hp]

/-- A forest follows any nesting that agrees at its bars with one it follows. -/
theorem FollowsList.congr {nested nested' : Nat → List OutlineChild} :
    ∀ {ts : List OutlineTree}, FollowsList nested ts →
      (∀ p, .bar p ∈ labelsList ts → nested p = nested' p) → FollowsList nested' ts
  | [], _, _ => trivial
  | t :: ts, h, hagree => by
    simp only [FollowsList] at h ⊢
    exact ⟨Follows.congr h.1 fun p hp => hagree p (by simp [hp]),
      FollowsList.congr h.2 fun p hp => hagree p (by simp [hp])⟩

end

end OutlineTree

/-! ### Placing positions -/

namespace Assembly

/-- Whether a position is placed already; a position past the end counts as placed. -/
def taken (s : Assembly) : OutlineChild → Bool
  | .bar i => s.barTaken.getD i true
  | .leaf j => s.leafTaken.getD j true

/-- Places a position; a bar gives up what it holds. -/
def take (s : Assembly) : OutlineChild → Assembly
  | .bar i => { s with barTaken := s.barTaken.set! i true, children := s.children.set! i [] }
  | .leaf j => { s with leafTaken := s.leafTaken.set! j true }

/-- Places positions in turn. -/
def takeAll (s : Assembly) (cs : List OutlineChild) : Assembly :=
  cs.foldl take s

/-- How many bars are free. -/
def freeBars (s : Assembly) : Nat :=
  s.barTaken.count false

@[simp] theorem takeAll_nil (s : Assembly) : s.takeAll [] = s :=
  rfl

@[simp] theorem takeAll_cons (s : Assembly) (c : OutlineChild) (cs : List OutlineChild) :
    s.takeAll (c :: cs) = (s.take c).takeAll cs :=
  rfl

theorem takeAll_append (s : Assembly) (cs ds : List OutlineChild) :
    s.takeAll (cs ++ ds) = (s.takeAll cs).takeAll ds :=
  List.foldl_append

theorem getD_setIfInBounds_true (xs : Array Bool) (i j : Nat) :
    (xs.setIfInBounds i true).getD j true = (xs.getD j true || j == i) := by
  simp only [Array.getD_eq_getD_getElem?, Array.getElem?_setIfInBounds]
  by_cases hij : i = j
  · subst hij
    by_cases hi : i < xs.size <;> simp [hi]
  · simp [hij, Ne.symm hij]

theorem taken_take_eq_false (s : Assembly) (c x : OutlineChild) :
    (s.take c).taken x = false ↔ s.taken x = false ∧ x ≠ c := by
  cases c <;> cases x <;>
    simp only [take, taken, Array.set!_eq_setIfInBounds, getD_setIfInBounds_true] <;> simp

theorem taken_take_self (s : Assembly) (c : OutlineChild) : (s.take c).taken c = true := by
  rw [← Bool.not_eq_false]
  exact fun h => ((taken_take_eq_false s c c).mp h).2 rfl

theorem taken_takeAll_eq_false (s : Assembly) (cs : List OutlineChild) (x : OutlineChild) :
    (s.takeAll cs).taken x = false ↔ s.taken x = false ∧ x ∉ cs := by
  induction cs generalizing s with
  | nil => simp
  | cons c cs ih =>
    rw [takeAll_cons, ih, taken_take_eq_false, List.mem_cons, not_or, and_assoc]

theorem taken_takeAll_of_taken {s : Assembly} {x : OutlineChild} (h : s.taken x = true)
    (cs : List OutlineChild) : (s.takeAll cs).taken x = true := by
  rw [← Bool.not_eq_false] at h ⊢
  exact fun h' => h ((taken_takeAll_eq_false s cs x).mp h').1

theorem children_take_of_ne (s : Assembly) {c : OutlineChild} {i : Nat} (h : c ≠ .bar i) :
    (s.take c).children.getD i [] = s.children.getD i [] := by
  cases c with
  | bar p =>
    have hpi : p ≠ i := fun hp => h (hp ▸ rfl)
    simp [take, hpi]
  | leaf j => rfl

/-- Placing a free bar leaves one free bar fewer. -/
theorem freeBars_take_bar {s : Assembly} {i : Nat} (h : s.taken (.bar i) = false) :
    (s.take (.bar i)).freeBars + 1 = s.freeBars := by
  simp only [taken, Array.getD_eq_getD_getElem?] at h
  have hi : i < s.barTaken.size := by
    rcases Nat.lt_or_ge i s.barTaken.size with hi | hi
    · exact hi
    · simp [Array.getElem?_eq_none hi] at h
  have hfalse : s.barTaken[i] = false := by simpa [hi] using h
  have hpos : 1 ≤ s.barTaken.count false := by
    simpa [hfalse] using Array.boole_getElem_le_count (a := false) hi
  have hset : (s.take (.bar i)).barTaken = s.barTaken.set i true hi := by
    simp [take, Array.setIfInBounds, hi]
  have hcount : (s.barTaken.set i true hi).count false = s.barTaken.count false - 1 := by
    simp [Array.count_set hi, hfalse]
  simp only [freeBars, hset, hcount]
  omega

theorem freeBars_take_le (s : Assembly) (c : OutlineChild) :
    (s.take c).freeBars ≤ s.freeBars := by
  cases c with
  | bar i =>
    cases h : s.taken (.bar i) with
    | false => exact Nat.le_of_lt (Nat.lt_of_succ_le (Nat.le_of_eq (freeBars_take_bar h)))
    | true =>
      -- a placed bar stays placed, so counting the free bars again finds the same number
      simp only [taken, Array.getD_eq_getD_getElem?] at h
      simp only [take, freeBars, Array.set!_eq_setIfInBounds, Array.setIfInBounds]
      split
      · rename_i hi
        simp only [Array.count_set hi]
        have : s.barTaken[i] = true := by simpa [hi] using h
        simp [this]
      · exact Nat.le_refl _
  | leaf j => exact Nat.le_refl _

theorem freeBars_takeAll_le (s : Assembly) (cs : List OutlineChild) :
    (s.takeAll cs).freeBars ≤ s.freeBars := by
  induction cs generalizing s with
  | nil => exact Nat.le_refl _
  | cons c cs ih => exact Nat.le_trans (ih (s.take c)) (freeBars_take_le s c)

section Invariant

variable {nested : Nat → List OutlineChild}

/-- An assembly state agrees with a nesting: a free bar still holds what nests under it, and what
nests under a free bar is free. -/
structure Fresh (nested : Nat → List OutlineChild) (s : Assembly) : Prop where
  holds : ∀ i, s.taken (.bar i) = false → s.children.getD i [] = nested i
  free : ∀ i, s.taken (.bar i) = false → ∀ c ∈ nested i, s.taken c = false

/-- A position may be placed once every bar it nests under is placed. -/
def Placeable (nested : Nat → List OutlineChild) (s : Assembly) (c : OutlineChild) : Prop :=
  ∀ i, c ∈ nested i → s.taken (.bar i) = true

theorem Placeable.takeAll {s : Assembly} {c : OutlineChild} (h : Placeable nested s c)
    (cs : List OutlineChild) : Placeable nested (s.takeAll cs) c :=
  fun i hi => taken_takeAll_of_taken (h i hi) cs

/-- Placing a placeable position keeps a state in agreement with the nesting. -/
theorem Fresh.take {s : Assembly} {c : OutlineChild} (hs : Fresh nested s)
    (hc : Placeable nested s c) : Fresh nested (s.take c) := by
  constructor
  · intro i hi'
    obtain ⟨hi, hne⟩ := (taken_take_eq_false s c _).mp hi'
    rw [children_take_of_ne s (Ne.symm hne)]
    exact hs.holds i hi
  · intro i hi' x hx
    obtain ⟨hi, -⟩ := (taken_take_eq_false s c _).mp hi'
    refine (taken_take_eq_false s c x).mpr ⟨hs.free i hi x hx, ?_⟩
    -- what nests under a free bar is not placeable yet
    rintro rfl
    exact absurd (hc i hx) (by simp [hi])

/-- Assembling from `s` placed the forest `ts`: it follows the nesting, its positions were free
and occur once each, and the state after placing them still agrees with the nesting. -/
structure Placed (nested : Nat → List OutlineChild) (s : Assembly) (ts : List OutlineTree) :
    Prop where
  follows : OutlineTree.FollowsList nested ts
  free : ∀ x ∈ OutlineTree.labelsList ts, s.taken x = false
  nodup : (OutlineTree.labelsList ts).Nodup
  fresh : Fresh nested (s.takeAll (OutlineTree.labelsList ts))

theorem Placed.nil {s : Assembly} (hs : Fresh nested s) : Placed nested s [] :=
  ⟨trivial, by simp, by simp, hs⟩

/-- A tree placed from `s`, then a forest placed after it, are placed together. -/
theorem Placed.cons {s : Assembly} {t : OutlineTree} {ts : List OutlineTree}
    (ht : Placed nested s [t]) (hts : Placed nested (s.takeAll t.labels) ts) :
    Placed nested s (t :: ts) := by
  have hfree : ∀ x ∈ t.labels, s.taken x = false := fun x hx => ht.free x (by simpa using hx)
  refine ⟨⟨ht.follows.1, hts.follows⟩, ?_, ?_, ?_⟩
  · intro x hx
    rcases List.mem_append.mp (by simpa using hx) with hx | hx
    · exact hfree x hx
    · exact ((taken_takeAll_eq_false s _ x).mp (hts.free x hx)).1
  · -- the forest's positions were free once the tree's were placed
    rw [OutlineTree.labelsList_cons, List.nodup_append]
    refine ⟨by simpa using ht.nodup, hts.nodup, fun x hx y hy hxy => ?_⟩
    subst hxy
    exact ((taken_takeAll_eq_false s _ x).mp (hts.free x hy)).2 hx
  · rw [OutlineTree.labelsList_cons, takeAll_append]
    exact hts.fresh

/-- A free bar placed, then a forest placed under it whose tops are what nests under the bar,
make one tree. -/
theorem Placed.bar {s : Assembly} {i : Nat} {ts : List OutlineTree} (hi : s.taken (.bar i) = false)
    (hts : Placed nested (s.take (.bar i)) ts) (htops : ts.map OutlineTree.label = nested i) :
    Placed nested s [.node (.bar i) ts] := by
  refine ⟨⟨⟨htops, hts.follows⟩, trivial⟩, ?_, ?_, ?_⟩
  · intro x hx
    rcases List.mem_cons.mp (by simpa using hx) with rfl | hx
    · exact hi
    · exact ((taken_take_eq_false s _ x).mp (hts.free x hx)).1
  · -- the bar was placed before the forest under it, whose positions were free then
    have hnodup : (OutlineChild.bar i :: OutlineTree.labelsList ts).Nodup :=
      List.nodup_cons.mpr ⟨fun hmem => ((taken_take_eq_false s _ _).mp (hts.free _ hmem)).2 rfl,
        hts.nodup⟩
    simpa using hnodup
  · simpa using hts.fresh

end Invariant

/-! ### Assembling -/

/-- One step of assembling a list of positions: the tree of the next position, if it gives one,
goes in front. -/
def gather (bars leaves : Array Row) (fuel : Nat) (acc : List RowTree × Assembly)
    (c : OutlineChild) : List RowTree × Assembly :=
  let (t, s) := Assembly.tree bars leaves fuel c acc.2
  match t with
  | some t => (t :: acc.1, s)
  | none => (acc.1, s)

theorem tree_leaf (bars leaves : Array Row) (fuel j : Nat) (s : Assembly) :
    Assembly.tree bars leaves (fuel + 1) (.leaf j) s =
      if s.taken (.leaf j) then (none, s)
      else (some (.node (leaves.getD j default) []), s.take (.leaf j)) :=
  rfl

theorem tree_bar (bars leaves : Array Row) (fuel i : Nat) (s : Assembly) :
    Assembly.tree bars leaves (fuel + 1) (.bar i) s =
      if s.taken (.bar i) then (none, s)
      else
        let r := (s.children.getD i []).foldl (gather bars leaves fuel) ([], s.take (.bar i))
        (some (.node (bars.getD i default) r.1.reverse), r.2) :=
  rfl

section Spec

variable (bars leaves : Array Row) {nested : Nat → List OutlineChild}

/-- Assembling a position with fuel `f` yields the tree of its nesting, from any state that
agrees with the nesting and has fewer than `f` free bars, where the position is free and
placeable. -/
def TreeSpec (nested : Nat → List OutlineChild) (f : Nat) : Prop :=
  ∀ c s, Fresh nested s → s.freeBars < f → s.taken c = false → Placeable nested s c →
    ∃ t : OutlineTree, t.label = c ∧ Placed nested s [t] ∧
      Assembly.tree bars leaves f c s = (some (t.rows bars leaves), s.takeAll t.labels)

/-- Assembling a list of free, placeable positions, none twice, yields the forest of their
nesting, each tree in front of what was gathered before. -/
theorem foldl_gather {f : Nat} (htree : TreeSpec bars leaves nested f) :
    ∀ (cs : List OutlineChild) (acc : List RowTree) (s : Assembly), Fresh nested s →
      s.freeBars < f → cs.Nodup → (∀ c ∈ cs, s.taken c = false ∧ Placeable nested s c) →
      ∃ ts : List OutlineTree, ts.map OutlineTree.label = cs ∧ Placed nested s ts ∧
        cs.foldl (gather bars leaves f) (acc, s) =
          ((OutlineTree.rowsList bars leaves ts).reverse ++ acc,
            s.takeAll (OutlineTree.labelsList ts))
  | [], acc, s, hs, _, _, _ => ⟨[], rfl, Placed.nil hs, by simp [OutlineTree.rowsList]⟩
  | c :: cs, acc, s, hs, hfuel, hnodup, hcs => by
    obtain ⟨hc, hcs'⟩ := List.nodup_cons.mp hnodup
    obtain ⟨t, rfl, ht, hrun⟩ := htree c s hs hfuel (hcs c (by simp)).1 (hcs c (by simp)).2
    have hstep : gather bars leaves f (acc, s) t.label =
        (t.rows bars leaves :: acc, s.takeAll t.labels) := by
      simp only [gather, hrun]
    -- the later positions are not in the tree: a position of the tree below its top nests under
    -- one of its bars, which was free, while the later positions are placeable
    have hrest : ∀ d ∈ cs, (s.takeAll t.labels).taken d = false ∧
        Placeable nested (s.takeAll t.labels) d := by
      intro d hd
      obtain ⟨hdfree, hdplace⟩ := hcs d (by simp [hd])
      refine ⟨(taken_takeAll_eq_false s _ d).mpr ⟨hdfree, fun hmem => ?_⟩,
        hdplace.takeAll _⟩
      rcases ht.follows.1.mem_labels hmem with rfl | ⟨p, hp, hdp⟩
      · exact hc hd
      · exact absurd (hdplace p hdp) (by simp [ht.free _ (by simpa using hp)])
    obtain ⟨ts, rfl, hts, hfold⟩ := foldl_gather htree cs (t.rows bars leaves :: acc) _
      (by simpa using ht.fresh) (Nat.lt_of_le_of_lt (freeBars_takeAll_le s _) hfuel) hcs' hrest
    refine ⟨t :: ts, rfl, ht.cons hts, ?_⟩
    rw [List.foldl_cons, hstep, hfold]
    simp [OutlineTree.rowsList, OutlineTree.labelsList_cons, takeAll_append]

variable (hnodup : ∀ p, (nested p).Nodup)
  (hone : ∀ p q c, c ∈ nested p → c ∈ nested q → p = q)
include hnodup hone

/-- Assembling yields the tree of the nesting whenever the fuel outlasts the free bars: every
level of nesting places a bar. -/
theorem tree_spec : ∀ f, TreeSpec bars leaves nested f
  | 0, _, _, _, hfuel, _, _ => absurd hfuel (Nat.not_lt_zero _)
  | f + 1, .leaf j, s, hs, _, hfree, hplace => by
    refine ⟨.node (.leaf j) [], rfl, ⟨⟨rfl, trivial⟩, ?_, by simp, ?_⟩, ?_⟩
    · intro x hx
      simp only [OutlineTree.labelsList_cons, OutlineTree.labels_node, OutlineTree.labelsList_nil,
        List.append_nil, List.mem_singleton] at hx
      exact hx ▸ hfree
    · simpa using hs.take hplace
    · simp [tree_leaf, hfree, OutlineTree.rows, OutlineTree.rowsList, OutlineChild.row]
  | f + 1, .bar i, s, hs, hfuel, hfree, hplace => by
    have hs₁ := hs.take hplace
    have hfuel₁ : (s.take (.bar i)).freeBars < f := by
      have := freeBars_take_bar hfree
      omega
    -- what nests under the bar is free: it nests under a free bar, and is not the bar itself,
    -- which would then not be placeable
    have hkids : ∀ c ∈ nested i, (s.take (.bar i)).taken c = false ∧
        Placeable nested (s.take (.bar i)) c := by
      intro c hc
      refine ⟨(taken_take_eq_false s _ c).mpr ⟨hs.free i hfree c hc, ?_⟩, ?_⟩
      · rintro rfl
        exact absurd (hplace i hc) (by simp [hfree])
      · intro p hp
        rw [hone p i c hp hc]
        exact taken_take_self s (.bar i)
    obtain ⟨ts, htops, hts, hfold⟩ :=
      foldl_gather bars leaves (tree_spec f) (nested i) [] _ hs₁ hfuel₁ (hnodup i) hkids
    refine ⟨.node (.bar i) ts, rfl, Placed.bar hfree hts htops, ?_⟩
    rw [tree_bar, if_neg (by simp [hfree]), hs.holds i hfree]
    simp only [hfold, List.append_nil, List.reverse_reverse]
    simp [OutlineTree.rows, OutlineChild.row]

end Spec

end Assembly

/-! ### Assembling the outline -/

/-- The outline assembled from its roots as it is read, with the table of bars by id and the
table of bars by expanded task id. -/
def assemble (barIndex expandedIndex : Std.HashMap Int Nat) (bars leaves : Array Row) :
    List RowTree :=
  let nest := outlineChildren barIndex expandedIndex bars leaves
  let start := splitRoots nest.1 (nest.2.filter fun p => isNamedBar (bars.getD p default))
  (start.1.foldl (Assembly.gather bars leaves (bars.size + 1))
    ([], { barTaken := Array.replicate bars.size false,
           leafTaken := Array.replicate leaves.size false, children := start.2 })).1.reverse

/-- Reading the outline assembles it from the sorted bars, decorated by their expanded tasks, and
the sorted leaves. -/
theorem buildRowHierarchy_eq_assemble (bars expandedTasks tasks milestones hammocks : List Row) :
    buildRowHierarchy bars expandedTasks tasks milestones hammocks =
      let sorted := (sortRows ["EXPANDED_TASK", "NATURAL_ORDER"] bars).toArray
      assemble (barPositions sorted) (decorateBars (barPositions sorted) sorted expandedTasks).2
        (decorateBars (barPositions sorted) sorted expandedTasks).1
        (sortRows ["NATURAL_ORDER"] (tasks ++ milestones ++ hammocks)).toArray :=
  rfl

/-! ### The outline, position by position -/

/-- The positions of the outline: the sorted bars, each decorated by its expanded tasks, the sorted
leaves, the bar an id finds, and the bar an expanded task id finds. -/
structure Outline where
  bars : Array Row
  leaves : Array Row
  barAt : Int → Option Nat
  expandedAt : Int → Option Nat
  barAt_lt : ∀ id p, barAt id = some p → p < bars.size
  expandedAt_lt : ∀ id p, expandedAt id = some p → p < bars.size

namespace Outline

/-- The outline of the task records. The bars are sorted by their expanded task and natural order,
and the leaves (tasks, then milestones, then hammocks) by natural order. A bar id finds the last
bar that carries it. Each bar is merged with the expanded tasks that decorate it, and an expanded
task id finds the bar that the last expanded task carrying it decorates. -/
def of (bars expandedTasks tasks milestones hammocks : List Row) : Outline :=
  let sorted := (sortRows ["EXPANDED_TASK", "NATURAL_ORDER"] bars).toArray
  { bars := decorate (lastWith sorted "BARID") expandedTasks sorted
    leaves := (sortRows ["NATURAL_ORDER"] (tasks ++ milestones ++ hammocks)).toArray
    barAt := lastWith sorted "BARID"
    expandedAt := expandedBar (lastWith sorted "BARID") expandedTasks
    barAt_lt := fun _ _ h => (size_decorate _ _ _).symm ▸ lastWith_lt h
    expandedAt_lt := fun _ _ h => by
      obtain ⟨e, -, he⟩ := List.exists_of_findSome?_eq_some h
      split at he
      · obtain ⟨id, -, hid⟩ := Option.bind_eq_some_iff.mp he
        exact (size_decorate _ _ _).symm ▸ lastWith_lt hid
      · cases he }

variable (o : Outline)

/-- The bar a bar nests under: the one its expanded task decorates. -/
def parent (i : Nat) : Option Nat :=
  ((o.bars.getD i default).key? "EXPANDED_TASK").bind o.expandedAt

/-- The bar a leaf nests under: the one it names. -/
def home (j : Nat) : Option Nat :=
  ((o.leaves.getD j default).key? "BAR").bind o.barAt

/-- The bar a position nests under. -/
def up : OutlineChild → Option Nat
  | .bar i => o.parent i
  | .leaf j => o.home j

/-- A position holds a record of the outline. -/
def Within : OutlineChild → Prop
  | .bar i => i < o.bars.size
  | .leaf j => j < o.leaves.size

/-- What nests under a bar: its child bars in bar order, then its leaves in leaf order. -/
def nested (p : Nat) : List OutlineChild :=
  ((List.range o.bars.size).filter fun i => o.parent i = some p).map .bar ++
    ((List.range o.leaves.size).filter fun j => o.home j = some p).map .leaf

/-- The bars at the top: named, and nested nowhere. -/
def top : List Nat :=
  (List.range o.bars.size).filter fun p => isNamedBar (o.bars.getD p default) && (o.parent p).isNone

/-- Where the outline starts: a lone bar at the top stands for the project and what nests under
it starts the outline; otherwise the bars at the top do. -/
def roots : List OutlineChild :=
  match o.top with
  | [only] => o.nested only
  | top => top.map .bar

/-- A position is reached from the roots through nesting. -/
inductive Reaches : OutlineChild → Prop
  | root {c : OutlineChild} : c ∈ o.roots → Reaches c
  | nested {p : Nat} {c : OutlineChild} : Reaches (.bar p) → c ∈ o.nested p → Reaches c

/-- A forest of positions grows from the roots: its tops are the roots, every bar holds the trees
of what nests under it, and no position occurs twice. -/
structure Grows (F : List OutlineTree) : Prop where
  tops : F.map OutlineTree.label = o.roots
  follows : OutlineTree.FollowsList o.nested F
  nodup : (OutlineTree.labelsList F).Nodup

/-- The positions of a forest that grows from the roots are exactly those reached from them. -/
theorem Grows.mem_labelsList_iff {F : List OutlineTree} (h : o.Grows F) (c : OutlineChild) :
    c ∈ OutlineTree.labelsList F ↔ o.Reaches c := by
  constructor
  · refine h.follows.forall_labels (fun _ _ hp hc => .nested hp hc) (fun t ht => ?_) c
    exact .root (h.tops ▸ List.mem_map_of_mem ht)
  · intro hc
    induction hc with
    | root hc => exact OutlineTree.mem_labelsList_of_mem_map_label (h.tops ▸ hc)
    | nested _ hc ih => exact h.follows.mem_of_nested ih hc

theorem parent_lt {i p : Nat} (h : o.parent i = some p) : p < o.bars.size := by
  obtain ⟨id, -, hid⟩ := Option.bind_eq_some_iff.mp h
  exact o.expandedAt_lt id p hid

theorem home_lt {j p : Nat} (h : o.home j = some p) : p < o.bars.size := by
  obtain ⟨id, -, hid⟩ := Option.bind_eq_some_iff.mp h
  exact o.barAt_lt id p hid

theorem mem_nested {c : OutlineChild} {p : Nat} :
    c ∈ o.nested p ↔ o.Within c ∧ o.up c = some p := by
  cases c <;> simp [nested, Within, up]

theorem nested_nodup (p : Nat) : (o.nested p).Nodup := by
  refine List.nodup_append.mpr ⟨?_, ?_, ?_⟩
  · exact OutlineChild.nodup_map_bar (List.nodup_range.filter _)
  · exact List.Pairwise.map OutlineChild.leaf (fun _ _ hab h => hab (OutlineChild.leaf.inj h))
      (List.nodup_range.filter _)
  · intro x hx y hy hxy
    subst hxy
    simp only [List.mem_map] at hx hy
    obtain ⟨_, -, rfl⟩ := hx
    obtain ⟨_, -, h⟩ := hy
    cases h

theorem eq_of_mem_nested {c : OutlineChild} {p q : Nat} (hp : c ∈ o.nested p)
    (hq : c ∈ o.nested q) : p = q :=
  Option.some.inj (((o.mem_nested).mp hp).2.symm.trans ((o.mem_nested).mp hq).2)

theorem nested_eq_nil_of_ge {p : Nat} (hp : o.bars.size ≤ p) : o.nested p = [] := by
  refine List.eq_nil_iff_forall_not_mem.mpr fun c hc => ?_
  obtain ⟨-, hup⟩ := (o.mem_nested).mp hc
  cases c with
  | bar i => exact Nat.not_lt_of_ge hp (o.parent_lt hup)
  | leaf j => exact Nat.not_lt_of_ge hp (o.home_lt hup)

/-! ### What each bar holds -/

theorem getD_modify_cons {α : Type} (xs : Array (List α)) {p q : Nat} (hp : p < xs.size)
    (x : α) :
    (xs.modify q (x :: ·)).getD p [] = (if q = p then [x] else []) ++ xs.getD p [] := by
  simp only [Array.getD_eq_getD_getElem?, Array.getElem?_modify]
  by_cases hq : q = p <;> simp [hq, hp]

section Tables

/-! The outline is read with lookup tables that find what `barAt` and `expandedAt` find. -/

variable {barIndex expandedIndex : Std.HashMap Int Nat}
  (hbar : ∀ id, barIndex[id]? = o.barAt id)
  (hexpanded : ∀ id, expandedIndex[id]? = o.expandedAt id)

include hexpanded in
theorem parent_eq (i : Nat) :
    ((o.bars.getD i default).key? "EXPANDED_TASK").bind expandedIndex.get? = o.parent i := by
  unfold parent
  congr 1
  funext id
  exact hexpanded id

include hbar in
theorem home_eq (j : Nat) : ((o.leaves.getD j default).key? "BAR").bind barIndex.get? = o.home j := by
  unfold home
  congr 1
  funext id
  exact hbar id

include hexpanded in
theorem nestBar_of_some {i p : Nat} (h : o.parent i = some p)
    (acc : Array (List OutlineChild) × List Nat) :
    nestBar expandedIndex o.bars acc i = (acc.1.modify p (.bar i :: ·), acc.2) := by
  simp only [nestBar, o.parent_eq hexpanded, h]

include hexpanded in
theorem nestBar_of_none {i : Nat} (h : o.parent i = none)
    (acc : Array (List OutlineChild) × List Nat) :
    nestBar expandedIndex o.bars acc i = (acc.1, i :: acc.2) := by
  simp only [nestBar, o.parent_eq hexpanded, h]

include hbar in
theorem nestLeaf_of_some {j p : Nat} (h : o.home j = some p) (ch : Array (List OutlineChild)) :
    nestLeaf barIndex o.leaves ch j = ch.modify p (.leaf j :: ·) := by
  simp only [nestLeaf, o.home_eq hbar, h]

include hbar in
theorem nestLeaf_of_none {j : Nat} (h : o.home j = none) (ch : Array (List OutlineChild)) :
    nestLeaf barIndex o.leaves ch j = ch := by
  simp only [nestLeaf, o.home_eq hbar, h]

include hexpanded in
/-- Filing bars keeps the table's size, lists each bar latest first under its parent, and keeps
those that nest nowhere latest first. -/
theorem foldl_nestBar (l : List Nat) (acc : Array (List OutlineChild) × List Nat) :
    (l.foldl (nestBar expandedIndex o.bars) acc).1.size = acc.1.size ∧
      (∀ p < acc.1.size, (l.foldl (nestBar expandedIndex o.bars) acc).1.getD p [] =
        ((l.filter fun i => o.parent i = some p).map .bar).reverse ++ acc.1.getD p []) ∧
      (l.foldl (nestBar expandedIndex o.bars) acc).2 =
        (l.filter fun i => (o.parent i).isNone).reverse ++ acc.2 := by
  induction l generalizing acc with
  | nil => simp
  | cons i l ih =>
    rw [List.foldl_cons]
    cases hi : o.parent i with
    | none =>
      obtain ⟨hsize, hget, htop⟩ := ih (acc.1, i :: acc.2)
      rw [o.nestBar_of_none hexpanded hi]
      refine ⟨hsize, fun p hp => by simp [hget p hp, hi], by simp [htop, hi]⟩
    | some q =>
      obtain ⟨hsize, hget, htop⟩ := ih (acc.1.modify q (.bar i :: ·), acc.2)
      rw [o.nestBar_of_some hexpanded hi]
      refine ⟨by simp [hsize], fun p hp => ?_, by simp [htop, hi]⟩
      rw [hget p (by simpa using hp), getD_modify_cons _ hp]
      by_cases hqp : q = p <;> simp [hi, hqp]

include hbar in
/-- Filing leaves keeps the table's size and lists each leaf latest first under its bar. -/
theorem foldl_nestLeaf (l : List Nat) (ch : Array (List OutlineChild)) :
    (l.foldl (nestLeaf barIndex o.leaves) ch).size = ch.size ∧
      ∀ p < ch.size, (l.foldl (nestLeaf barIndex o.leaves) ch).getD p [] =
        ((l.filter fun j => o.home j = some p).map .leaf).reverse ++ ch.getD p [] := by
  induction l generalizing ch with
  | nil => simp
  | cons j l ih =>
    rw [List.foldl_cons]
    cases hj : o.home j with
    | none =>
      obtain ⟨hsize, hget⟩ := ih ch
      rw [o.nestLeaf_of_none hbar hj]
      exact ⟨hsize, fun p hp => by simp [hget p hp, hj]⟩
    | some q =>
      obtain ⟨hsize, hget⟩ := ih (ch.modify q (.leaf j :: ·))
      rw [o.nestLeaf_of_some hbar hj]
      refine ⟨by simp [hsize], fun p hp => ?_⟩
      rw [hget p (by simpa using hp), getD_modify_cons _ hp]
      by_cases hqp : q = p <;> simp [hj, hqp]

theorem outlineChildren_eq (barIndex expandedIndex : Std.HashMap Int Nat)
    (bars leaves : Array Row) :
    outlineChildren barIndex expandedIndex bars leaves =
      (((List.range leaves.size).foldl (nestLeaf barIndex leaves)
          ((List.range bars.size).foldl (nestBar expandedIndex bars)
            (Array.replicate bars.size [], [])).1).map List.reverse,
        ((List.range bars.size).foldl (nestBar expandedIndex bars)
          (Array.replicate bars.size [], [])).2.reverse) :=
  rfl

theorem getD_map_reverse {α : Type} (xs : Array (List α)) (p : Nat) :
    (xs.map List.reverse).getD p [] = (xs.getD p []).reverse := by
  simp only [Array.getD_eq_getD_getElem?, Array.getElem?_map]
  cases xs[p]? <;> rfl

include hbar hexpanded in
/-- Each bar holds what nests under it. -/
theorem outlineChildren_getD (p : Nat) :
    (outlineChildren barIndex expandedIndex o.bars o.leaves).1.getD p [] = o.nested p := by
  rw [outlineChildren_eq, getD_map_reverse]
  obtain ⟨hsize₁, hget₁, -⟩ :=
    o.foldl_nestBar hexpanded (List.range o.bars.size) (Array.replicate o.bars.size [], [])
  obtain ⟨hsize₂, hget₂⟩ := o.foldl_nestLeaf hbar (List.range o.leaves.size)
    ((List.range o.bars.size).foldl (nestBar expandedIndex o.bars)
      (Array.replicate o.bars.size [], [])).1
  have hsize : ((List.range o.leaves.size).foldl (nestLeaf barIndex o.leaves)
      ((List.range o.bars.size).foldl (nestBar expandedIndex o.bars)
        (Array.replicate o.bars.size [], [])).1).size = o.bars.size := by
    rw [hsize₂, hsize₁]
    simp
  by_cases hp : p < o.bars.size
  · -- the leaves were filed after the bars, and each list is reversed at the end
    rw [hget₂ p (by rw [hsize₁]; simpa using hp), hget₁ p (by simpa using hp)]
    simp [nested, hp]
  · -- past the last bar nothing is filed, and nothing nests
    rw [Array.getD_eq_getD_getElem?, Array.getElem?_eq_none (by omega),
      o.nested_eq_nil_of_ge (Nat.le_of_not_lt hp)]
    rfl

include hexpanded in
/-- The bars that nest nowhere, in bar order. -/
theorem outlineChildren_snd :
    (outlineChildren barIndex expandedIndex o.bars o.leaves).2 =
      (List.range o.bars.size).filter fun i => (o.parent i).isNone := by
  rw [outlineChildren_eq, (o.foldl_nestBar hexpanded _ _).2.2]
  simp

/-! ### The roots -/

theorem mem_top {p : Nat} :
    p ∈ o.top ↔
      p < o.bars.size ∧ isNamedBar (o.bars.getD p default) = true ∧ o.parent p = none := by
  simp [top]

include hexpanded in
/-- The bars at the top, as the outline files them. -/
theorem top_eq :
    (outlineChildren barIndex expandedIndex o.bars o.leaves).2.filter
      (fun p => isNamedBar (o.bars.getD p default)) = o.top := by
  rw [o.outlineChildren_snd hexpanded, List.filter_filter]
  rfl

theorem roots_of_top_eq {only : Nat} (h : o.top = [only]) : o.roots = o.nested only := by
  simp only [roots, h]

theorem roots_of_top_ne (h : ∀ only, o.top ≠ [only]) : o.roots = o.top.map .bar := by
  unfold roots
  split
  · rename_i only honly
    exact absurd honly (h only)
  · rfl

/-- A root holds a record, and nests under a bar only when that bar is alone at the top. -/
theorem mem_roots {c : OutlineChild} (hc : c ∈ o.roots) :
    o.Within c ∧ ∀ i, o.up c = some i → o.top = [i] := by
  by_cases hlone : ∃ only, o.top = [only]
  · obtain ⟨only, htop⟩ := hlone
    rw [o.roots_of_top_eq htop] at hc
    obtain ⟨hwithin, hup⟩ := (o.mem_nested).mp hc
    exact ⟨hwithin, fun i hi => by rw [htop, Option.some.inj (hup.symm.trans hi)]⟩
  · -- otherwise the roots are the bars at the top, which nest nowhere
    rw [o.roots_of_top_ne fun only h => hlone ⟨only, h⟩, List.mem_map] at hc
    obtain ⟨r, hr, rfl⟩ := hc
    obtain ⟨hlt, -, hnone⟩ := (o.mem_top).mp hr
    exact ⟨hlt, fun i hi => absurd (hnone.symm.trans hi) (by simp)⟩

theorem bar_not_mem_roots_of_top_eq {only : Nat} (h : o.top = [only]) : .bar only ∉ o.roots := by
  rw [o.roots_of_top_eq h]
  intro hmem
  have hnone := ((o.mem_top).mp (h ▸ List.mem_singleton_self only)).2.2
  have hsome := ((o.mem_nested).mp hmem).2
  exact absurd (hnone.symm.trans hsome) (by simp)

theorem roots_nodup : o.roots.Nodup := by
  by_cases hlone : ∃ only, o.top = [only]
  · obtain ⟨only, htop⟩ := hlone
    exact (o.roots_of_top_eq htop) ▸ o.nested_nodup only
  · rw [o.roots_of_top_ne fun only h => hlone ⟨only, h⟩]
    exact OutlineChild.nodup_map_bar (List.nodup_range.filter _)

include hbar hexpanded in
/-- Splitting off the roots: they are the outline's roots, and every bar keeps what nests under
it, save a lone bar at the top, which gives it up. -/
theorem splitRoots_spec :
    (splitRoots (outlineChildren barIndex expandedIndex o.bars o.leaves).1 o.top).1 =
        o.roots ∧
      ∀ p, (splitRoots (outlineChildren barIndex expandedIndex o.bars o.leaves).1
        o.top).2.getD p [] = if o.top = [p] then [] else o.nested p := by
  unfold splitRoots
  split
  · rename_i only htop
    have honly : only < o.bars.size := ((o.mem_top).mp (htop ▸ List.mem_singleton_self only)).1
    refine ⟨(o.roots_of_top_eq htop).symm ▸ o.outlineChildren_getD hbar hexpanded only,
      fun p => ?_⟩
    by_cases hp : only = p
    · subst hp
      simp [Array.getD_eq_getD_getElem?, htop]
    · have hne : ¬[only] = [p] := by simpa using hp
      rw [htop, if_neg hne, Array.set!_eq_setIfInBounds, Array.getD_eq_getD_getElem?,
        Array.getElem?_setIfInBounds_ne hp, ← Array.getD_eq_getD_getElem?,
        o.outlineChildren_getD hbar hexpanded]
  · rename_i htop
    refine ⟨?_, fun p => by rw [if_neg (htop p), o.outlineChildren_getD hbar hexpanded]⟩
    unfold roots
    split
    · rename_i only honly
      exact absurd honly (htop only)
    · rfl

/-! ### The outline is the forest its nesting grows -/

include hbar hexpanded in
/-- Assembling the outline grows the forest of its nesting from the roots. -/
theorem assemble_grows :
    ∃ F, o.Grows F ∧
      assemble barIndex expandedIndex o.bars o.leaves = OutlineTree.rowsList o.bars o.leaves F := by
  obtain ⟨hroots, hkept⟩ := o.splitRoots_spec hbar hexpanded
  -- what each bar holds when the assembly starts
  set split := splitRoots (outlineChildren barIndex expandedIndex o.bars o.leaves).1 o.top
    with hsplit
  have hsub : ∀ p c, c ∈ split.2.getD p [] → c ∈ o.nested p := by
    intro p c hc
    rw [hkept] at hc
    split at hc
    · simp at hc
    · exact hc
  have hnodup : ∀ p, (split.2.getD p []).Nodup := by
    intro p
    rw [hkept]
    split
    · exact List.nodup_nil
    · exact o.nested_nodup p
  have hone : ∀ p q c, c ∈ split.2.getD p [] → c ∈ split.2.getD q [] → p = q :=
    fun p q c hp hq => o.eq_of_mem_nested (hsub p c hp) (hsub q c hq)
  -- at the start every record is free
  let start : Assembly :=
    { barTaken := Array.replicate o.bars.size false,
      leafTaken := Array.replicate o.leaves.size false, children := split.2 }
  have hfree : ∀ c, o.Within c → start.taken c = false := by
    intro c hc
    cases c <;> simp [Assembly.taken, start, Within] at hc ⊢ <;> simp [hc]
  have hfresh : Assembly.Fresh (fun p => split.2.getD p []) start :=
    ⟨fun _ _ => rfl, fun i _ c hc => hfree c ((o.mem_nested).mp (hsub i c hc)).1⟩
  have hfuel : start.freeBars < o.bars.size + 1 := by
    simp [Assembly.freeBars, start]
  -- a root nests under no bar that still holds it: only the lone bar at the top could, and it
  -- has given up what it held
  have hstart : ∀ c ∈ o.roots, start.taken c = false ∧
      Assembly.Placeable (fun p => split.2.getD p []) start c := by
    intro c hc
    obtain ⟨hwithin, htop⟩ := o.mem_roots hc
    refine ⟨hfree c hwithin, fun i hi => absurd hi ?_⟩
    show c ∉ split.2.getD i []
    rw [hkept, if_pos (htop i ((o.mem_nested).mp (hsub i c hi)).2)]
    simp
  obtain ⟨ts, htops, hplaced, hfold⟩ := Assembly.foldl_gather o.bars o.leaves
    (Assembly.tree_spec o.bars o.leaves hnodup hone _) o.roots [] start hfresh hfuel
    o.roots_nodup hstart
  refine ⟨ts, ⟨htops, ?_, hplaced.nodup⟩, ?_⟩
  · -- the lone bar at the top is in no tree, so every bar of the forest holds what nests under it
    refine hplaced.follows.congr fun p hp => ?_
    rw [hkept, if_neg]
    intro htop
    have hnone := ((o.mem_top).mp (htop ▸ List.mem_singleton_self p)).2.2
    rcases hplaced.follows.mem_labelsList hp with hroot | ⟨q, -, hq⟩
    · exact o.bar_not_mem_roots_of_top_eq htop (htops ▸ hroot)
    · exact absurd (hnone.symm.trans ((o.mem_nested).mp (hsub q _ hq)).2) (by simp)
  · have heq : assemble barIndex expandedIndex o.bars o.leaves =
        (o.roots.foldl (Assembly.gather o.bars o.leaves (o.bars.size + 1))
          ([], start)).1.reverse := by
      unfold assemble
      dsimp only
      rw [o.top_eq hexpanded, ← hsplit, ← hroots]
    rw [heq, hfold]
    simp

end Tables

end Outline

/-- The outline of the task records holds the records of a forest that grows from the roots. -/
theorem Outline.buildRowHierarchy_eq_rowsList (bars expandedTasks tasks milestones hammocks : List Row) :
    ∃ F, (Outline.of bars expandedTasks tasks milestones hammocks).Grows F ∧
      buildRowHierarchy bars expandedTasks tasks milestones hammocks =
        OutlineTree.rowsList (Outline.of bars expandedTasks tasks milestones hammocks).bars
          (Outline.of bars expandedTasks tasks milestones hammocks).leaves F := by
  set o := Outline.of bars expandedTasks tasks milestones hammocks
  set sorted := (sortRows ["EXPANDED_TASK", "NATURAL_ORDER"] bars).toArray
  -- the tables the outline is read with find what the outline's finders find
  have hbar : ∀ id, (barPositions sorted)[id]? = o.barAt id := barPositions_getElem? sorted
  have hfinder : (fun id => (barPositions sorted)[id]?) = lastWith sorted "BARID" :=
    funext hbar
  have hexpanded : ∀ id,
      (decorateBars (barPositions sorted) sorted expandedTasks).2[id]? = o.expandedAt id := by
    intro id
    rw [decorateBars_snd_getElem?, hfinder]
    rfl
  have hbars : (decorateBars (barPositions sorted) sorted expandedTasks).1 = o.bars := by
    rw [decorateBars_fst, hfinder]
    rfl
  obtain ⟨F, hF, hrun⟩ := o.assemble_grows hbar hexpanded
  refine ⟨F, hF, ?_⟩
  rw [buildRowHierarchy_eq_assemble]
  dsimp only
  rw [hbars]
  exact hrun

/-- The outline of the task records is exactly the forest their nesting grows from the roots:
every bar holds its child bars in bar order, then its leaves in leaf order, no record occurs
twice, and a record occurs iff it is reached from a root through nesting. -/
theorem buildRowHierarchy_grows (bars expandedTasks tasks milestones hammocks : List Row) :
    ∃ F, (Outline.of bars expandedTasks tasks milestones hammocks).Grows F ∧
      (∀ c, c ∈ OutlineTree.labelsList F ↔
        (Outline.of bars expandedTasks tasks milestones hammocks).Reaches c) ∧
      buildRowHierarchy bars expandedTasks tasks milestones hammocks =
        OutlineTree.rowsList (Outline.of bars expandedTasks tasks milestones hammocks).bars
          (Outline.of bars expandedTasks tasks milestones hammocks).leaves F := by
  obtain ⟨F, hF, hrun⟩ :=
    Outline.buildRowHierarchy_eq_rowsList bars expandedTasks tasks milestones hammocks
  exact ⟨F, hF, hF.mem_labelsList_iff, hrun⟩

end Schedule
