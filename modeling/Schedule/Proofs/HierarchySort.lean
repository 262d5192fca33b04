import Schedule.Proofs.HierarchyOrder
import Schedule.Proofs.OutlineNumbers

/-!
# The order of a hierarchy, exactly

`Hierarchy.order` puts items whose parents are named by key into an order where parents come
first. This module says which order that is. An item's parent is the first item carrying its
parent key, unless that is the item itself; the items without a parent are the roots. The order
lists the roots, each followed by the items under it depth first, in outline order, with roots
and siblings in input order or sorted stably by the given comparison; then every item whose chain
of parents never reaches a root, in input order. Every item is listed once.

The walk in the code goes as many levels deep as there are items; a chain of parents that
reaches a root is shorter than that (`RootedIn.depth_lt`), so the walk is the whole outline
order of the rooted items (`outlineOrder_preorder`). It lists each of them once because an item
has one parent: two items above a third are one above the other (`inSubtree_total_of_parent`),
and no item is under its own child (`not_inSubtree_of_child`).

## Main definitions

* `Hierarchy.parentOf` — the parent of each item, by the first item carrying its parent key.
* `Hierarchy.rootsIn`, `Hierarchy.childrenIn` — the roots and the children of an item, in input
  order.
* `Hierarchy.arrangeBy` — siblings in input order, or sorted stably by a comparison.
* `Hierarchy.IsOrder` — the order of a hierarchy, said without the walk.

## Main statements

* `Hierarchy.order_isOrder` — the order is the outline order of the rooted items followed by
  the others in input order, lists every item once, and lists a rooted item after its parent.
-/

namespace Schedule

/-- Every task of an outline order is under one of its keys. -/
theorem OutlineOrder.exists_of_mem {ch : TaskKey → List TaskKey} {keys order : List TaskKey}
    (h : OutlineOrder ch keys order) {j : TaskKey} (hj : j ∈ order) :
    ∃ k ∈ keys, InSubtree ch k j := by
  induction h with
  | nil => simp at hj
  | @cons k ks below rest _ _ ihbelow ihrest =>
    rcases List.mem_cons.mp hj with rfl | hj
    · exact ⟨j, List.mem_cons_self, Relation.ReflTransGen.refl⟩
    · rcases List.mem_append.mp hj with hj | hj
      · obtain ⟨c, hc, hcj⟩ := ihbelow hj
        exact ⟨k, List.mem_cons_self, inSubtree_iff.mpr (.inr ⟨c, hc, hcj⟩)⟩
      · obtain ⟨k', hk', hk'j⟩ := ihrest hj
        exact ⟨k', List.mem_cons_of_mem k hk', hk'j⟩

namespace Hierarchy

/-! ### The forest of the items -/

section Items

variable {α κ : Type} [BEq κ]

/-- The parent of each item: the first item that carries its parent key, unless that is the item
itself. -/
def parentOf (items : Array α) (id parent : α → Option κ) : Array (Option Nat) :=
  Array.ofFn fun i : Fin items.size => (parent items[i]).bind fun k =>
    ((List.range items.size).find? fun p => items[p]?.bind id == some k).bind fun p =>
      if p = i.val then none else some p

/-- The items without a parent, in input order. -/
def rootsIn (up : Array (Option Nat)) : List Nat :=
  (List.range up.size).filter fun i => (up.getD i none).isNone

/-- The children of an item, in input order. -/
def childrenIn (up : Array (Option Nat)) (x : Nat) : List Nat :=
  (List.range up.size).filter fun i => up.getD i none == some x

/-- Siblings in input order, or sorted by `before` with the library's stable merge sort: an item
goes after another only when `before` puts it strictly first. -/
def arrangeBy (before : Option (Nat → Nat → Bool)) (xs : List Nat) : List Nat :=
  match before with
  | some lt => xs.mergeSort fun a b => !lt b a
  | none => xs

theorem mem_arrangeBy (before : Option (Nat → Nat → Bool)) (xs : List Nat) (x : Nat) :
    x ∈ arrangeBy before xs ↔ x ∈ xs := by
  cases before with
  | none => rfl
  | some lt => exact List.mem_mergeSort

theorem arrangeBy_perm (before : Option (Nat → Nat → Bool)) (xs : List Nat) :
    (arrangeBy before xs).Perm xs := by
  cases before with
  | none => exact List.Perm.refl xs
  | some lt => exact List.mergeSort_perm xs _

theorem size_parentOf (items : Array α) (id parent : α → Option κ) :
    (parentOf items id parent).size = items.size :=
  Array.size_ofFn

theorem getD_map_none {β : Type} (items : Array α) (f : α → Option β) (i : Nat) :
    (items.map f).getD i none = items[i]?.bind f := by
  rw [Array.getD_eq_getD_getElem?, Array.getElem?_map]
  cases items[i]? <;> rfl

theorem getD_parentOf (items : Array α) (id parent : α → Option κ) (i : Nat) :
    (parentOf items id parent).getD i none =
      (items[i]?.bind parent).bind fun k =>
        ((List.range items.size).find? fun p => items[p]?.bind id == some k).bind fun p =>
          if p = i then none else some p := by
  rw [Array.getD_eq_getD_getElem?]
  by_cases hi : i < items.size
  · simp [parentOf, hi]
  · simp [parentOf, hi]

variable [Hashable κ] [LawfulBEq κ] [LawfulHashable κ]

/-- The table of parents that the order builds is `parentOf`. -/
theorem parentPositions_map (items : Array α) (id parent : α → Option κ) :
    parentPositions (items.map id) (items.map parent) = parentOf items id parent := by
  apply Array.ext_getElem?
  intro i
  have h := parentPositions_getD (items.map id) (items.map parent) i
  rw [getD_map_none, Array.size_map] at h
  simp only [getD_map_none] at h
  rw [← getD_parentOf] at h
  have hsize : (parentPositions (items.map id) (items.map parent)).size =
      (parentOf items id parent).size := by
    rw [size_parentPositions, size_parentOf, Array.size_map]
  by_cases hi : i < (parentOf items id parent).size
  · rw [Array.getElem?_eq_getElem hi, Array.getElem?_eq_getElem (hsize ▸ hi)]
    rw [Array.getD_eq_getD_getElem?, Array.getElem?_eq_getElem (hsize ▸ hi),
      Array.getD_eq_getD_getElem?, Array.getElem?_eq_getElem hi] at h
    exact congrArg some h
  · rw [Array.getElem?_eq_none (Nat.le_of_not_lt hi),
      Array.getElem?_eq_none (Nat.le_of_not_lt (hsize ▸ hi))]

end Items

/-! ### Children in input order -/

/-- Prepending each position that `keep` picks to one slot lists the picked positions in the
order opposite to the fold's. -/
theorem getD_foldl_prepend {step : Array (List Nat) → Nat → Array (List Nat)}
    (keep : Nat → Bool) {x : Nat} (hsize : ∀ acc j, (step acc j).size = acc.size)
    (hget : ∀ acc j, x < acc.size →
      (step acc j).getD x [] = (if keep j then [j] else []) ++ acc.getD x []) :
    ∀ (l : List Nat) (acc : Array (List Nat)), x < acc.size →
      (l.foldl step acc).getD x [] = l.reverse.filter keep ++ acc.getD x []
  | [], _, _ => rfl
  | j :: l, acc, hx => by
    rw [List.foldl_cons, getD_foldl_prepend keep hsize hget l _ (by rw [hsize]; exact hx),
      hget acc j hx, List.reverse_cons, List.filter_append, List.append_assoc,
      List.filter_singleton]
    cases keep j <;> rfl

/-- The children table lists the children of each item in input order. -/
theorem getD_childPositions (up : Array (Option Nat)) {x : Nat} (hx : x < up.size) :
    (childPositions up).getD x [] = childrenIn up x := by
  have hempty : (Array.replicate up.size ([] : List Nat)).getD x [] = [] := by
    rw [Array.getD_eq_getD_getElem?, Array.getElem?_replicate]
    split <;> rfl
  unfold childPositions
  refine (getD_foldl_prepend (fun j => up.getD j none == some x) ?_ ?_ _ _
    (by rw [Array.size_replicate]; exact hx)).trans ?_
  · intro acc j
    split <;> simp
  · -- a position goes in front of its parent's children and nowhere else
    intro acc j hxa
    split
    · next p hj =>
      rw [getD_modify, hj]
      by_cases hp : p = x
      · subst hp
        simp [hxa]
      · have hne : (some p == some x) = false := by simpa using hp
        simp [hp, hne]
    · next hj => simp [hj]
  · rw [hempty, List.reverse_reverse, List.append_nil]
    rfl

theorem mem_childrenIn {up : Array (Option Nat)} {x c : Nat} :
    c ∈ childrenIn up x ↔ c < up.size ∧ up.getD c none = some x := by
  simp [childrenIn]

/-! ### One parent per item -/

section OneParent

variable {up : Array (Option Nat)} {ch : Nat → List Nat}
  (hch : ∀ x c, c ∈ ch x → up.getD c none = some x)
include hch

/-- An item has one parent, so two items above a third are one above the other. -/
theorem inSubtree_total_of_parent {a b y : Nat} (ha : InSubtree ch a y) (hb : InSubtree ch b y) :
    InSubtree ch a b ∨ InSubtree ch b a := by
  unfold InSubtree at *
  revert ha
  induction hb with
  | refl => exact .inl
  | tail hbq hqy ih =>
    intro ha
    rcases ha.cases_tail with rfl | ⟨q', haq', hq'y⟩
    · exact .inr (hbq.tail hqy)
    · -- the last steps to `y` leave from its parent, so from the same item
      have hq : q' = _ := Option.some.inj ((hch _ _ hq'y).symm.trans (hch _ _ hqy))
      exact ih (hq ▸ haq')

/-- Going down from an item only goes deeper: an item above one at depth `e` is at depth at most
`e`, and at depth `e` only when it is that item. -/
theorem rootedIn_of_inSubtree {a y : Nat} (h : InSubtree ch a y) :
    ∀ {e : Nat}, RootedIn up e y → ∃ e' ≤ e, RootedIn up e' a ∧ (e' = e → a = y) := by
  unfold InSubtree at h
  induction h with
  | refl => exact fun hy => ⟨_, Nat.le_refl _, hy, fun _ => rfl⟩
  | tail _ hqy ih =>
    intro e hy
    obtain ⟨d, rfl, hq⟩ := hy.of_parent (hch _ _ hqy)
    obtain ⟨e', he', ha, -⟩ := ih hq
    exact ⟨e', Nat.le_succ_of_le he', ha, fun h => absurd h (by omega)⟩

/-- No item is above its own parent. -/
theorem not_inSubtree_of_child {x c e : Nat} (hc : c ∈ ch x) (hx : RootedIn up e x) :
    ¬InSubtree ch c x := by
  intro h
  obtain ⟨e', he', hc', -⟩ := rootedIn_of_inSubtree hch h hx
  obtain ⟨d, rfl, hd⟩ := hc'.of_parent (hch _ _ hc)
  have := RootedIn.depth_unique hd hx
  omega

/-- The children of a rooted item are not above one another. -/
theorem children_antichain {x e : Nat} (hx : RootedIn up e x) :
    ∀ a ∈ ch x, ∀ b ∈ ch x, InSubtree ch a b → a = b := by
  intro a ha b hb hab
  unfold InSubtree at hab
  rcases hab.cases_tail with rfl | ⟨q, haq, hqb⟩
  · rfl
  · -- `b`'s parent is `x`, so `a` would be above its own parent
    have hq : q = x := Option.some.inj ((hch _ _ hqb).symm.trans (hch _ _ hb))
    exact absurd (hq ▸ haq) (not_inSubtree_of_child hch ha hx)

/-- An outline order from rooted items none of which is above another lists each item once. -/
theorem OutlineOrder.nodup_of_parent (hnd : ∀ x, (ch x).Nodup) {keys order : List Nat}
    (h : OutlineOrder ch keys order) (hkeys : keys.Nodup)
    (hanti : ∀ a ∈ keys, ∀ b ∈ keys, InSubtree ch a b → a = b)
    (hrooted : ∀ k ∈ keys, ∃ e, RootedIn up e k) : order.Nodup := by
  induction h with
  | nil => exact List.nodup_nil
  | @cons k ks below rest _ _ ihbelow ihrest =>
    obtain ⟨e, hk⟩ := hrooted k List.mem_cons_self
    have hks : k ∉ ks := (List.nodup_cons.mp hkeys).1
    -- the items under `k` are the items under its children
    have hunder : ∀ y ∈ below, InSubtree ch k y := by
      intro y hy
      obtain ⟨c, hc, hcy⟩ := OutlineOrder.exists_of_mem (by assumption) hy
      exact inSubtree_iff.mpr (.inr ⟨c, hc, hcy⟩)
    have hbelow : below.Nodup := by
      refine ihbelow (hnd k) (children_antichain hch hk) fun c hc => ⟨e + 1, ?_⟩
      exact RootedIn.child (hch _ _ hc) hk
    have hrest : rest.Nodup :=
      ihrest (List.nodup_cons.mp hkeys).2
        (fun a ha b hb => hanti a (List.mem_cons_of_mem k ha) b (List.mem_cons_of_mem k hb))
        fun k' hk' => hrooted k' (List.mem_cons_of_mem k hk')
    -- an item under another key would put that key above `k`, or `k` above it
    have hother : ∀ y, InSubtree ch k y → y ∉ rest := by
      intro y hky hy
      obtain ⟨k', hk', hk'y⟩ := OutlineOrder.exists_of_mem (by assumption) hy
      have hkk' : k = k' := by
        rcases inSubtree_total_of_parent hch hky hk'y with h | h
        · exact hanti k List.mem_cons_self k' (List.mem_cons_of_mem k hk') h
        · exact (hanti k' (List.mem_cons_of_mem k hk') k List.mem_cons_self h).symm
      exact hks (hkk' ▸ hk')
    refine List.nodup_cons.mpr ⟨?_, List.nodup_append.mpr ⟨hbelow, hrest, ?_⟩⟩
    · rintro hk'
      rcases List.mem_append.mp hk' with hk' | hk'
      · obtain ⟨c, hc, hck⟩ := OutlineOrder.exists_of_mem (by assumption) hk'
        exact not_inSubtree_of_child hch hc hk hck
      · exact hother k Relation.ReflTransGen.refl hk'
    · intro a ha b hb hab
      exact hother a (hunder a ha) (hab ▸ hb)

end OneParent

/-! ### The walk is the outline order -/

section Walk

variable {up : Array (Option Nat)} (hbound : ∀ x p, up.getD x none = some p → p < up.size)
  {arrange : List Nat → List Nat} (harrange : ∀ xs x, x ∈ arrange xs ↔ x ∈ xs)
include hbound harrange

/-- The walk from rooted items, at least as deep as the deepest of them is far from the bottom,
is the outline order of the items under them. The induction is on the depth the walk may still
go, and the rooted items it starts from lie that much above the bottom. -/
theorem outlineOrder_preorder : ∀ (f : Nat) (nodes : List Nat),
    (∀ z ∈ nodes, z < up.size ∧ ∃ e, RootedIn up e z ∧ up.size < e + f) →
      OutlineOrder (fun x => arrange (childrenIn up x)) nodes
        (preorder (childPositions up) arrange f nodes)
  | 0, nodes, h => by
    -- a rooted item is less deep than there are items, so no item is left at the bottom
    have hnil : nodes = [] := by
      refine List.eq_nil_iff_forall_not_mem.mpr fun z hz => ?_
      obtain ⟨hz, e, he, hlt⟩ := h z hz
      have := he.depth_lt hbound hz
      omega
    subst hnil
    exact .nil
  | f + 1, nodes, h => by
    induction nodes with
    | nil => exact .nil
    | cons x xs ih =>
      obtain ⟨hx, e, hex, hlt⟩ := h x List.mem_cons_self
      simp only [preorder, List.flatMap_cons, List.cons_append] at ih ⊢
      rw [getD_childPositions up hx]
      refine .cons (outlineOrder_preorder f _ fun c hc => ?_)
        (ih fun z hz => h z (List.mem_cons_of_mem x hz))
      obtain ⟨hc, hcx⟩ := mem_childrenIn.mp ((harrange _ _).mp hc)
      exact ⟨hc, e + 1, RootedIn.child hcx hex, by omega⟩

end Walk

/-! ### Marks of the walk -/

theorem getD_foldl_set_of_mem (l : List Nat) :
    ∀ (acc : Array Bool) (i : Nat), i < acc.size → (acc.getD i false = true ∨ i ∈ l) →
      (l.foldl (fun acc x => acc.set! x true) acc).getD i false = true := by
  induction l with
  | nil =>
    rintro acc i - (h | h)
    · exact h
    · simp at h
  | cons x l ih =>
    intro acc i hi h
    rw [List.foldl_cons]
    refine ih _ i (by simpa using hi) ?_
    rw [Array.getD_eq_getD_getElem?, Array.set!_eq_setIfInBounds, Array.getElem?_setIfInBounds]
    -- marking `x` keeps every mark and sets the one of `x`
    by_cases hxi : x = i
    · exact .inl (by simp [hxi, hi])
    · rcases h with h | h
      · refine .inl ?_
        rw [if_neg hxi, ← Array.getD_eq_getD_getElem?]
        exact h
      · exact .inr ((List.mem_cons.mp h).resolve_left (Ne.symm hxi))

/-- A position is marked by the walk exactly when the walk lists it. -/
theorem getD_marks {reached : List Nat} {n i : Nat} (hi : i < n) :
    (reached.foldl (fun acc x => acc.set! x true) (Array.replicate n false)).getD i false =
      decide (i ∈ reached) := by
  by_cases h : i ∈ reached
  · rw [decide_eq_true h]
    exact getD_foldl_set_of_mem reached _ i (by simpa using hi) (.inr h)
  · rw [decide_eq_false h]
    cases hm : (reached.foldl (fun acc x => acc.set! x true) (Array.replicate n false)).getD
        i false with
    | false => rfl
    | true =>
      rcases getD_foldl_set reached _ i hm with h' | h'
      · rw [Array.getD_eq_getD_getElem?, Array.getElem?_replicate] at h'
        split at h' <;> cases h'
      · exact absurd h' h

/-! ### The order -/

section Order

variable {α κ : Type} [BEq κ] [Hashable κ] [LawfulBEq κ] [LawfulHashable κ]

theorem order_map (items : Array α) (id parent : α → Option κ)
    (before : Option (Nat → Nat → Bool)) :
    order (items.map id) (items.map parent) before =
      let up := parentOf items id parent
      let reached := preorder (childPositions up) (arrangeBy before) (up.size + 1)
        (arrangeBy before (rootsIn up))
      reached ++ (List.range up.size).filter fun i =>
        !(reached.foldl (fun acc x => acc.set! x true) (Array.replicate up.size false)).getD i
          false := by
  rw [order, parentPositions_map]
  rfl

theorem parentOf_lt (items : Array α) (id parent : α → Option κ) {x p : Nat}
    (h : (parentOf items id parent).getD x none = some p) :
    p < (parentOf items id parent).size := by
  rw [← parentPositions_map] at h
  have hlt := parentPositions_lt h
  rw [Array.size_map] at hlt
  rw [size_parentOf]
  exact hlt

/-- A rooted item lies under its root along children, and every item so reached is rooted. -/
theorem rootedIn_of_inSubtree_root (before : Option (Nat → Nat → Bool))
    {up : Array (Option Nat)} {r y : Nat}
    (h : InSubtree (fun x => arrangeBy before (childrenIn up x)) r y) (hr : r ∈ rootsIn up) :
    y < up.size ∧ ∃ d, RootedIn up d y := by
  unfold InSubtree at h
  induction h with
  | refl =>
    obtain ⟨hr, hroot⟩ := List.mem_filter.mp hr
    exact ⟨List.mem_range.mp hr, 0, RootedIn.root (Option.isNone_iff_eq_none.mp hroot)⟩
  | tail _ hqy ih =>
    obtain ⟨-, d, hq⟩ := ih
    obtain ⟨hy, hyq⟩ := mem_childrenIn.mp ((mem_arrangeBy _ _ _).mp hqy)
    exact ⟨hy, d + 1, RootedIn.child hyq hq⟩

variable (items : Array α) (id parent : α → Option κ) (before : Option (Nat → Nat → Bool))

/-- The walk of the order from the roots, as many levels deep as there are items. -/
def rootedWalk : List Nat :=
  preorder (childPositions (parentOf items id parent)) (arrangeBy before)
    ((parentOf items id parent).size + 1) (arrangeBy before (rootsIn (parentOf items id parent)))

/-- The roots are at depth 0, so the walk from them reaches the bottom. -/
theorem outlineOrder_rootedWalk :
    OutlineOrder (fun x => arrangeBy before (childrenIn (parentOf items id parent) x))
      (arrangeBy before (rootsIn (parentOf items id parent)))
      (rootedWalk items id parent before) := by
  refine outlineOrder_preorder (fun _ _ h => parentOf_lt items id parent h) (mem_arrangeBy before)
    _ _ fun z hz => ?_
  obtain ⟨hz, hroot⟩ := List.mem_filter.mp ((mem_arrangeBy _ _ _).mp hz)
  exact ⟨List.mem_range.mp hz, 0, RootedIn.root (Option.isNone_iff_eq_none.mp hroot), by omega⟩

/-- The walk lists exactly the items whose chain of parents reaches a root. -/
theorem mem_rootedWalk (i : Nat) :
    i ∈ rootedWalk items id parent before ↔
      i < items.size ∧ ∃ d, RootedIn (parentOf items id parent) d i := by
  rw [← size_parentOf items id parent]
  constructor
  · intro hi
    obtain ⟨r, hr, hri⟩ := (outlineOrder_rootedWalk items id parent before).exists_of_mem hi
    exact rootedIn_of_inSubtree_root before hri ((mem_arrangeBy _ _ _).mp hr)
  · rintro ⟨hi, d, hd⟩
    have hbound : ∀ x p, (parentOf items id parent).getD x none = some p →
        p < (parentOf items id parent).size := fun _ _ h => parentOf_lt items id parent h
    exact preorder_mono_le _ (Nat.succ_le_succ (Nat.le_of_lt (hd.depth_lt hbound hi)))
      (mem_preorder_of_rootedIn (mem_arrangeBy before) hbound hd hi)

/-- The walk lists every rooted item once. -/
theorem rootedWalk_nodup : (rootedWalk items id parent before).Nodup := by
  have hchild : ∀ x c, c ∈ arrangeBy before (childrenIn (parentOf items id parent) x) →
      (parentOf items id parent).getD c none = some x :=
    fun x c hc => (mem_childrenIn.mp ((mem_arrangeBy _ _ _).mp hc)).2
  refine OutlineOrder.nodup_of_parent hchild
    (fun x => (arrangeBy_perm _ _).nodup_iff.mpr (List.nodup_range.filter _))
    (outlineOrder_rootedWalk items id parent before)
    ((arrangeBy_perm _ _).nodup_iff.mpr (List.nodup_range.filter _)) ?_ ?_
  · intro a _ b hb hab
    unfold InSubtree at hab
    rcases hab.cases_tail with rfl | ⟨q, -, hqb⟩
    · rfl
    · -- a root has no parent
      have hroot := (List.mem_filter.mp ((mem_arrangeBy _ _ _).mp hb)).2
      rw [hchild _ _ hqb] at hroot
      cases hroot
  · intro k hk
    exact (rootedIn_of_inSubtree_root before Relation.ReflTransGen.refl
      ((mem_arrangeBy _ _ _).mp hk)).2

/-- The order is the walk followed by the items it does not list, in input order. -/
theorem order_eq_rootedWalk_append :
    order (items.map id) (items.map parent) before =
      rootedWalk items id parent before ++
        (List.range items.size).filter (· ∉ rootedWalk items id parent before) := by
  rw [order_map, ← size_parentOf items id parent]
  refine congrArg (rootedWalk items id parent before ++ ·) (List.filter_congr fun i hi => ?_)
  rw [getD_marks (List.mem_range.mp hi), decide_not]
  rfl

/-- Every item is listed once. -/
theorem order_perm_range :
    (order (items.map id) (items.map parent) before).Perm (List.range items.size) := by
  rw [order_eq_rootedWalk_append]
  refine (List.perm_ext_iff_of_nodup ?_ List.nodup_range).mpr fun i => ?_
  · refine List.nodup_append.mpr ⟨rootedWalk_nodup items id parent before,
      List.nodup_range.filter _, ?_⟩
    intro a ha b hb hab
    exact (of_decide_eq_true (List.mem_filter.mp hb).2) (hab ▸ ha)
  · rw [List.mem_append, List.mem_filter, List.mem_range]
    by_cases hi : i ∈ rootedWalk items id parent before
    · simp [hi, ((mem_rootedWalk items id parent before i).mp hi).1]
    · simp [hi]

/-- `result` lists the items of a hierarchy in its order: the rooted items in outline order, with
roots and siblings arranged by `before`, then every item whose chain of parents never reaches a
root, in input order. Every item is listed once, and a rooted item comes after its parent. -/
structure IsOrder (result : List Nat) : Prop where
  outline : ∃ reached,
    OutlineOrder (fun x => arrangeBy before (childrenIn (parentOf items id parent) x))
      (arrangeBy before (rootsIn (parentOf items id parent))) reached ∧
    (∀ i, i ∈ reached ↔ i < items.size ∧ ∃ d, RootedIn (parentOf items id parent) d i) ∧
    result = reached ++ (List.range items.size).filter (· ∉ reached)
  perm : result.Perm (List.range items.size)
  parent_first : ∀ i j, (parentOf items id parent).getD i none = some j →
    (∃ d, RootedIn (parentOf items id parent) d i) → ComesBefore j i result

/-- The order of a hierarchy lists the rooted items in outline order, roots and siblings in input
order or sorted stably by `before`, then every item whose chain of parents never reaches a root,
in input order; it lists every item once, and a rooted item after its parent. -/
theorem order_isOrder :
    IsOrder items id parent before (order (items.map id) (items.map parent) before) where
  outline := ⟨rootedWalk items id parent before, outlineOrder_rootedWalk items id parent before,
    mem_rootedWalk items id parent before, order_eq_rootedWalk_append items id parent before⟩
  perm := order_perm_range items id parent before
  parent_first i j hij hroot := by
    rw [← parentPositions_map] at hij hroot
    exact comesBefore_order (by simp) before hij hroot

/-- The hierarchy of the library's own test: items 3, 1, 2, 4 where 3 and 2 are under 1 and 4 is
under 3 are ordered 1, 3, 4, 2. -/
theorem isOrder_of_parents_declared_later :
    IsOrder #[((3 : Int), some (1 : Int)), (1, none), (2, some 1), (4, some 3)]
      (fun i => some i.1) (fun i => i.2) none [1, 0, 3, 2] := by
  have hrun : order (#[((3 : Int), some (1 : Int)), (1, none), (2, some 1), (4, some 3)].map
      fun i => some i.1) (#[((3 : Int), some (1 : Int)), (1, none), (2, some 1), (4, some 3)].map
      fun i => i.2) none = [1, 0, 3, 2] := by
    rw [order_map]
    decide
  rw [← hrun]
  exact order_isOrder _ _ _ _

/-- Items whose parents form a cycle follow the rooted ones. -/
example : order (#[((1 : Int), some (2 : Int)), (2, some 1), (3, none)].map fun i => some i.1)
    (#[((1 : Int), some (2 : Int)), (2, some 1), (3, none)].map fun i => i.2) none = [2, 0, 1] := by
  rw [order_map]
  decide

end Order

end Hierarchy

end Schedule
