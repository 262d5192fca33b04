import Schedule.Hierarchy.Order

/-!
# Parents come first

`Hierarchy.order` lists positions so that parents come before their children: every root is
followed by its descendants depth first, and the positions that no root reaches follow at the end.
An item's parent is the first item that carries its parent id, unless that is the item itself.

This module shows that every position is listed, and that a position whose chain of parents
reaches a root comes after its parent, every time it is listed. The chain bound is what makes the
depth-first walk, which only goes as many levels deep as there are items, reach every such
position.

## Main definitions

* `Hierarchy.firstPositions` — the first position of every id, as the table the order builds.
* `Hierarchy.RootedIn` — the chain of parents from a position reaches a root in so many steps.
* `Hierarchy.ComesBefore` — every occurrence of one position in a list has another before it.

## Main statements

* `Hierarchy.parentPositions_getD` — the parent of a position is the first position that carries
  its parent id, unless that is the position itself.
* `Hierarchy.mem_childPositions` — the children of a position are the positions whose parent it
  is.
* `Hierarchy.RootedIn.depth_lt` — a chain of parents that reaches a root is shorter than the list.
* `Hierarchy.mem_order` — every position is listed.
* `Hierarchy.comesBefore_order` — a position whose parents lead to a root comes after its parent.
-/

namespace Schedule.Hierarchy

/-! ### Parents -/

section Parents

variable {κ : Type} [BEq κ] [Hashable κ] [LawfulBEq κ] [LawfulHashable κ]

/-- The first position of every id among the positions below `n`. -/
def firstPositions (ids : Array (Option κ)) (n : Nat) : Std.HashMap κ Nat :=
  (List.range n).foldl (fun m i =>
    match ids.getD i none with
    | some k => if m.contains k then m else m.insert k i
    | none => m) {}

/-- The table holds, for every id, the first position below `n` that carries it. -/
theorem firstPositions_getElem? (ids : Array (Option κ)) (k : κ) :
    ∀ n, (firstPositions ids n)[k]? = (List.range n).find? fun p => ids.getD p none == some k
  | 0 => by simp [firstPositions]
  | n + 1 => by
    have ih := firstPositions_getElem? ids k n
    have hstep : firstPositions ids (n + 1) =
        match ids.getD n none with
        | some k' => if (firstPositions ids n).contains k' then firstPositions ids n
          else (firstPositions ids n).insert k' n
        | none => firstPositions ids n := by
      unfold firstPositions
      rw [List.range_succ, List.foldl_append]
      rfl
    rw [hstep, List.range_succ, List.find?_append, ← ih, List.find?_singleton]
    cases hn : ids.getD n none with
    | none => simp
    | some k' =>
      dsimp only
      by_cases hc : (firstPositions ids n).contains k' = true
      · -- an id seen before keeps its first position
        rw [if_pos hc]
        by_cases hk : k' = k
        · subst hk
          have hsome : ((firstPositions ids n)[k']?).isSome := by
            rw [← Std.HashMap.contains_eq_isSome_getElem?]
            exact hc
          obtain ⟨p, hp⟩ := Option.isSome_iff_exists.mp hsome
          simp [hp]
        · have hne : (some k' == some k) = false :=
            beq_eq_false_iff_ne.mpr fun h => hk (Option.some.inj h)
          simp [hne]
      · rw [if_neg hc, Std.HashMap.getElem?_insert]
        by_cases hk : k' = k
        · subst hk
          have hnone : (firstPositions ids n)[k']? = none := by
            rw [Std.HashMap.contains_eq_isSome_getElem?] at hc
            exact Option.not_isSome_iff_eq_none.mp hc
          simp only [beq_self_eq_true, if_true, hnone, Option.none_or]
        · have hne : (some k' == some k) = false :=
            beq_eq_false_iff_ne.mpr fun h => hk (Option.some.inj h)
          have hne' : (k' == k) = false := beq_eq_false_iff_ne.mpr hk
          simp [hne, hne']

omit [LawfulBEq κ] [LawfulHashable κ] in
theorem parentPositions_eq (ids parents : Array (Option κ)) :
    parentPositions ids parents = (Array.range parents.size).map fun i =>
      match parents.getD i none with
      | some k => match (firstPositions ids ids.size).get? k with
        | some p => if p = i then none else some p
        | none => none
      | none => none := rfl

/-- The parent of a position is the first position that carries its parent id, unless that is
the position itself. -/
theorem parentPositions_getD (ids parents : Array (Option κ)) (i : Nat) :
    (parentPositions ids parents).getD i none =
      (parents.getD i none).bind fun k =>
        ((List.range ids.size).find? fun p => ids.getD p none == some k).bind fun p =>
          if p = i then none else some p := by
  rw [parentPositions_eq, Array.getD_eq_getD_getElem?, Array.getElem?_map, Array.getElem?_range]
  by_cases hi : i < parents.size
  · simp only [hi, if_true, Option.map_some, Option.getD_some]
    cases parents.getD i none with
    | none => rfl
    | some k =>
      simp only [Option.bind_some, Std.HashMap.get?_eq_getElem?, firstPositions_getElem?]
      cases (List.range ids.size).find? fun p => ids.getD p none == some k <;> rfl
  · have hnone : parents.getD i none = none := by
      rw [Array.getD_eq_getD_getElem?, Array.getElem?_eq_none (Nat.le_of_not_lt hi)]
      rfl
    simp [hi, hnone]

omit [LawfulBEq κ] [LawfulHashable κ] in
theorem size_parentPositions (ids parents : Array (Option κ)) :
    (parentPositions ids parents).size = parents.size := by
  simp [parentPositions_eq]

/-- A parent is a position of the list of ids. -/
theorem parentPositions_lt {ids parents : Array (Option κ)} {i p : Nat}
    (h : (parentPositions ids parents).getD i none = some p) : p < ids.size := by
  rw [parentPositions_getD] at h
  obtain ⟨k, -, h⟩ := Option.bind_eq_some_iff.mp h
  obtain ⟨p', hp', h⟩ := Option.bind_eq_some_iff.mp h
  have hp : p' = p := by
    split at h
    · cases h
    · exact Option.some.inj h
  exact hp ▸ List.mem_range.mp (List.mem_of_find?_eq_some hp')

end Parents

/-! ### Children -/

theorem getD_modify {α : Type} (acc : Array α) (q p : Nat) (f : α → α) (d : α) :
    (acc.modify q f).getD p d =
      if q = p ∧ p < acc.size then f (acc.getD p d) else acc.getD p d := by
  simp only [Array.getD_eq_getD_getElem?, Array.getElem?_modify]
  by_cases hq : q = p
  · subst hq
    by_cases hp : q < acc.size
    · simp [hp]
    · simp [hp]
  · simp [hq]

theorem mem_foldl_children (parent : Array (Option Nat)) (p x : Nat) :
    ∀ (l : List Nat) (acc : Array (List Nat)),
      x ∈ (l.foldl (fun acc j =>
        match parent.getD j none with
        | some q => acc.modify q (j :: ·)
        | none => acc) acc).getD p [] ↔
        (p < acc.size ∧ x ∈ l ∧ parent.getD x none = some p) ∨ x ∈ acc.getD p []
  | [], acc => by simp
  | j :: l, acc => by
    rw [List.foldl_cons, mem_foldl_children parent p x l]
    cases hj : parent.getD j none with
    | none =>
      -- a position without a parent is nobody's child
      have hx : x = j → parent.getD x none ≠ some p := by
        intro h hx
        rw [h, hj] at hx
        cases hx
      simp only [List.mem_cons]
      constructor
      · rintro (⟨hp, hl, hx'⟩ | h)
        · exact .inl ⟨hp, .inr hl, hx'⟩
        · exact .inr h
      · rintro (⟨hp, rfl | hl, hx'⟩ | h)
        · exact absurd hx' (hx rfl)
        · exact .inl ⟨hp, hl, hx'⟩
        · exact .inr h
    | some q =>
      dsimp only
      rw [Array.size_modify, getD_modify]
      simp only [List.mem_cons]
      by_cases hq : q = p ∧ p < acc.size
      · obtain ⟨rfl, hp⟩ := hq
        rw [if_pos ⟨rfl, hp⟩, List.mem_cons]
        constructor
        · rintro (⟨-, hl, hx'⟩ | rfl | h)
          · exact .inl ⟨hp, .inr hl, hx'⟩
          · exact .inl ⟨hp, .inl rfl, hj⟩
          · exact .inr h
        · rintro (⟨-, rfl | hl, hx'⟩ | h)
          · exact .inr (.inl rfl)
          · exact .inl ⟨hp, hl, hx'⟩
          · exact .inr (.inr h)
      · rw [if_neg hq]
        constructor
        · rintro (⟨hp, hl, hx'⟩ | h)
          · exact .inl ⟨hp, .inr hl, hx'⟩
          · exact .inr h
        · rintro (⟨hp, rfl | hl, hx'⟩ | h)
          · exact absurd ⟨Option.some.inj (hj.symm.trans hx'), hp⟩ hq
          · exact .inl ⟨hp, hl, hx'⟩
          · exact .inr h

/-- The children of a position are the positions whose parent it is. -/
theorem mem_childPositions (parent : Array (Option Nat)) (p x : Nat) :
    x ∈ (childPositions parent).getD p [] ↔
      p < parent.size ∧ x < parent.size ∧ parent.getD x none = some p := by
  have h := mem_foldl_children parent p x (List.range parent.size).reverse
    (Array.replicate parent.size [])
  -- every position starts with no children
  have hempty : (Array.replicate parent.size ([] : List Nat)).getD p [] = [] := by
    rw [Array.getD_eq_getD_getElem?, Array.getElem?_replicate]
    split <;> rfl
  rw [childPositions]
  refine h.trans ?_
  rw [hempty, Array.size_replicate, List.mem_reverse, List.mem_range]
  simp only [List.not_mem_nil, or_false]

/-! ### Positions one after another -/

/-- Every occurrence of `i` in `l` has an occurrence of `j` before it. -/
def ComesBefore (j i : Nat) (l : List Nat) : Prop := ∀ l₁ l₂, l = l₁ ++ i :: l₂ → j ∈ l₁

namespace ComesBefore

variable {j i : Nat}

theorem of_not_mem {l : List Nat} (h : i ∉ l) : ComesBefore j i l := by
  rintro l₁ l₂ rfl
  exact absurd (List.mem_append_right l₁ List.mem_cons_self) h

theorem cons {x : Nat} {l : List Nat} (hx : x ≠ i) (h : x = j ∨ ComesBefore j i l) :
    ComesBefore j i (x :: l) := by
  intro l₁ l₂ hl
  rcases List.cons_eq_append_iff.mp hl with ⟨rfl, hl'⟩ | ⟨l₁', rfl, hl'⟩
  · exact absurd (List.cons.inj hl').1.symm hx
  · rcases h with rfl | h
    · exact List.mem_cons_self
    · exact List.mem_cons_of_mem x (h l₁' l₂ hl')

/-- Every occurrence in a part before the rest has `j` before it. -/
theorem of_append {l m : List Nat} (h : ComesBefore j i (l ++ m)) : ComesBefore j i l :=
  fun l₁ l₂ hl => h l₁ (l₂ ++ m) (by rw [hl]; simp)

/-- An occurrence in the second part has `j` before it when `j` is in the first part, or before
it within the second. -/
theorem append {l l' : List Nat} (h : ComesBefore j i l) (h' : j ∈ l ∨ ComesBefore j i l') :
    ComesBefore j i (l ++ l') := by
  intro l₁ l₂ hl
  rcases List.append_eq_append_iff.mp hl with ⟨m, rfl, hm⟩ | ⟨m, rfl, hm⟩
  · rcases h' with h' | h'
    · exact List.mem_append_left m h'
    · exact List.mem_append_right l (h' m l₂ hm)
  · rcases List.cons_eq_append_iff.mp hm with ⟨rfl, rfl⟩ | ⟨m', rfl, -⟩
    · -- `i` opens the second part, so `j` is in the first
      rcases h' with h' | h'
      · simpa using h'
      · exact absurd (h' [] l₂ rfl) List.not_mem_nil
    · exact h l₁ m' rfl

end ComesBefore

/-! ### The depth-first walk -/

section Walk

variable (children : Array (List Nat)) {arrange : List Nat → List Nat}
  (harrange : ∀ xs x, x ∈ arrange xs ↔ x ∈ xs)

theorem mem_preorder_succ {f : Nat} {nodes : List Nat} {x : Nat} :
    x ∈ preorder children arrange (f + 1) nodes ↔
      ∃ y ∈ nodes, x = y ∨ x ∈ preorder children arrange f (arrange (children.getD y [])) := by
  simp [preorder, List.mem_flatMap]

theorem mem_preorder_of_mem {f : Nat} {nodes : List Nat} {x : Nat} (hx : x ∈ nodes) :
    x ∈ preorder children arrange (f + 1) nodes :=
  (mem_preorder_succ children).mpr ⟨x, hx, .inl rfl⟩

/-- A walk one level deeper lists everything the shallower one does. -/
theorem preorder_mono : ∀ {f : Nat} {nodes : List Nat} {x : Nat},
    x ∈ preorder children arrange f nodes → x ∈ preorder children arrange (f + 1) nodes
  | 0, _, _, h => by simp [preorder] at h
  | f + 1, nodes, x, h => by
    obtain ⟨y, hy, h⟩ := (mem_preorder_succ children).mp h
    refine (mem_preorder_succ children).mpr ⟨y, hy, ?_⟩
    rcases h with rfl | h
    · exact .inl rfl
    · exact .inr (preorder_mono h)

include harrange in
/-- A child of a listed position is listed by a walk one level deeper. -/
theorem mem_preorder_of_child : ∀ {f : Nat} {nodes : List Nat} {j i : Nat},
    j ∈ preorder children arrange f nodes → i ∈ children.getD j [] →
      i ∈ preorder children arrange (f + 1) nodes
  | 0, _, _, _, h, _ => by simp [preorder] at h
  | f + 1, nodes, j, i, h, hi => by
    obtain ⟨y, hy, h⟩ := (mem_preorder_succ children).mp h
    refine (mem_preorder_succ children).mpr ⟨y, hy, .inr ?_⟩
    rcases h with rfl | h
    · exact mem_preorder_of_mem children ((harrange _ _).mpr hi)
    · exact mem_preorder_of_child h hi

include harrange in
/-- In the walk from positions other than `i`, every occurrence of `i` follows an occurrence of
`j`, the only position that has `i` as a child. -/
theorem comesBefore_preorder {j i : Nat} (hchild : ∀ x, i ∈ children.getD x [] → x = j) :
    ∀ (f : Nat) (nodes : List Nat), i ∉ nodes →
      ComesBefore j i (preorder children arrange f nodes)
  | 0, _, _ => ComesBefore.of_not_mem (by simp [preorder])
  | f + 1, nodes, hi => by
    induction nodes with
    | nil => exact ComesBefore.of_not_mem (by simp [preorder])
    | cons x xs ih =>
      simp only [preorder, List.flatMap_cons] at ih ⊢
      have hx : x ≠ i := fun h => hi (h ▸ List.mem_cons_self)
      refine ComesBefore.append (ComesBefore.cons hx ?_)
        (.inr (ih fun h => hi (List.mem_cons_of_mem x h)))
      -- either `i` is a child of `x`, so `x` is `j`, or `i` lies deeper below `x`
      by_cases hc : i ∈ children.getD x []
      · exact .inl (hchild x hc)
      · exact .inr (comesBefore_preorder hchild f _ fun h => hc ((harrange _ _).mp h))

end Walk

/-! ### Chains of parents -/

/-- The chain of parents from position `i` reaches a root in `d` steps. -/
inductive RootedIn (parent : Array (Option Nat)) : Nat → Nat → Prop
  | root {i : Nat} : parent.getD i none = none → RootedIn parent 0 i
  | child {d i j : Nat} : parent.getD i none = some j → RootedIn parent d j →
      RootedIn parent (d + 1) i

namespace RootedIn

variable {parent : Array (Option Nat)}

/-- The chain from a position is the chain of its parent, one step longer. -/
theorem of_parent {d i j : Nat} (h : RootedIn parent d i) (hj : parent.getD i none = some j) :
    ∃ d', d = d' + 1 ∧ RootedIn parent d' j := by
  cases h with
  | root hi => exact absurd (hi.symm.trans hj) nofun
  | child hi h => exact ⟨_, rfl, Option.some.inj (hi.symm.trans hj) ▸ h⟩

/-- A chain of parents has one length. -/
theorem depth_unique {d d' i : Nat} (h : RootedIn parent d i) (h' : RootedIn parent d' i) :
    d = d' := by
  induction h generalizing d' with
  | root hi =>
    cases h' with
    | root _ => rfl
    | child hj _ => exact absurd (hi.symm.trans hj) nofun
  | child hi _ ih =>
    obtain ⟨d'', rfl, h''⟩ := h'.of_parent hi
    rw [ih h'']

/-- The positions of a chain of parents, each one further from the root, none twice. -/
theorem exists_chain {n : Nat} (hbound : ∀ x p, parent.getD x none = some p → p < n)
    {d i : Nat} (h : RootedIn parent d i) (hi : i < n) :
    ∃ l : List Nat, l.length = d + 1 ∧ l.Nodup ∧ (∀ x ∈ l, x < n) ∧
      ∀ x ∈ l, ∃ e ≤ d, RootedIn parent e x := by
  induction h with
  | root hroot => exact ⟨[_], rfl, List.nodup_cons.mpr ⟨List.not_mem_nil, List.nodup_nil⟩,
      by simpa using hi,
      by simpa using RootedIn.root hroot⟩
  | @child d i j hij hj ih =>
    obtain ⟨l, hlen, hnd, hlt, hdepth⟩ := ih (hbound i j hij)
    -- `i` is one step further from the root than every position of its parent's chain
    have hnew : i ∉ l := by
      intro hil
      obtain ⟨e, he, hie⟩ := hdepth i hil
      have := depth_unique hie (RootedIn.child hij hj)
      omega
    refine ⟨i :: l, by simp [hlen], List.nodup_cons.mpr ⟨hnew, hnd⟩, ?_, ?_⟩
    · intro x hx
      rcases List.mem_cons.mp hx with rfl | hx
      · exact hi
      · exact hlt x hx
    · intro x hx
      rcases List.mem_cons.mp hx with rfl | hx
      · exact ⟨d + 1, Nat.le_refl _, RootedIn.child hij hj⟩
      · obtain ⟨e, he, hxe⟩ := hdepth x hx
        exact ⟨e, Nat.le_succ_of_le he, hxe⟩

/-- A chain of parents that reaches a root visits each position at most once, so it is shorter
than the list of positions. -/
theorem depth_lt {n : Nat} (hbound : ∀ x p, parent.getD x none = some p → p < n)
    {d i : Nat} (h : RootedIn parent d i) (hi : i < n) : d < n := by
  obtain ⟨l, hlen, hnd, hlt, -⟩ := h.exists_chain hbound hi
  have hsub : l ⊆ List.range n := fun x hx => List.mem_range.mpr (hlt x hx)
  have hle := hnd.length_le_of_subset hsub
  rw [hlen, List.length_range] at hle
  omega

end RootedIn

/-! ### The order -/

section Order

variable (children : Array (List Nat)) {arrange : List Nat → List Nat}
  (harrange : ∀ xs x, x ∈ arrange xs ↔ x ∈ xs)

theorem preorder_mono_le {f f' : Nat} (hf : f ≤ f') {nodes : List Nat} {x : Nat}
    (h : x ∈ preorder children arrange f nodes) : x ∈ preorder children arrange f' nodes := by
  induction hf with
  | refl => exact h
  | step _ ih => exact preorder_mono children ih

include harrange in
/-- A position whose chain of parents reaches a root in `d` steps is listed by a walk from the
roots `d + 1` levels deep. -/
theorem mem_preorder_of_rootedIn {parent : Array (Option Nat)}
    (hbound : ∀ x p, parent.getD x none = some p → p < parent.size) {d i : Nat}
    (h : RootedIn parent d i) (hi : i < parent.size) :
    i ∈ preorder (childPositions parent) arrange (d + 1)
      (arrange ((List.range parent.size).filter fun i => (parent.getD i none).isNone)) := by
  induction h with
  | @root i hroot =>
    refine mem_preorder_of_mem _ ((harrange _ _).mpr (List.mem_filter.mpr ⟨?_, ?_⟩))
    · exact List.mem_range.mpr hi
    · simp [hroot]
  | @child d i j hij _ ih =>
    have hj := hbound i j hij
    exact mem_preorder_of_child _ harrange (ih hj)
      ((mem_childPositions parent j i).mpr ⟨hj, hi, hij⟩)

include harrange in
/-- The walk from the roots, one level deeper than there are positions, lists a position whose
chain of parents reaches a root, and lists its parent before every occurrence of it. -/
theorem comesBefore_walk {parent : Array (Option Nat)}
    (hbound : ∀ x p, parent.getD x none = some p → p < parent.size) {i j : Nat}
    (hij : parent.getD i none = some j) (hroot : ∃ d, RootedIn parent d i) :
    ComesBefore j i (preorder (childPositions parent) arrange (parent.size + 1)
        (arrange ((List.range parent.size).filter fun i => (parent.getD i none).isNone))) ∧
      j ∈ preorder (childPositions parent) arrange (parent.size + 1)
        (arrange ((List.range parent.size).filter fun i => (parent.getD i none).isNone)) := by
  obtain ⟨d, hd⟩ := hroot
  -- `i` has a parent, so it is no root; its parent's chain reaches a root one step sooner
  have hchild : ∀ x, i ∈ (childPositions parent).getD x [] → x = j :=
    fun x hx => Option.some.inj (((mem_childPositions _ x i).mp hx).2.2.symm.trans hij)
  have hnotroot : i ∉ (List.range parent.size).filter fun i => (parent.getD i none).isNone := by
    rw [List.mem_filter, hij]
    exact fun h => Bool.false_ne_true h.2
  obtain ⟨d', rfl, hd'⟩ := hd.of_parent hij
  have hj := hbound i j hij
  refine ⟨comesBefore_preorder _ harrange hchild _ _ fun h => hnotroot ((harrange _ _).mp h), ?_⟩
  exact preorder_mono_le _ (Nat.succ_le_succ (Nat.le_of_lt (hd'.depth_lt hbound hj)))
    (mem_preorder_of_rootedIn harrange hbound hd' hj)

end Order

theorem getD_foldl_set (l : List Nat) :
    ∀ (acc : Array Bool) (i : Nat),
      (l.foldl (fun acc x => acc.set! x true) acc).getD i false = true →
        acc.getD i false = true ∨ i ∈ l := by
  induction l with
  | nil => exact fun acc i h => .inl h
  | cons x l ih =>
    intro acc i h
    rcases ih _ i h with h | h
    · -- a position marked by the first mark is that position
      have h' : (acc.set! x true).getD i false = true := h
      rw [Array.getD_eq_getD_getElem?, Array.set!_eq_setIfInBounds,
        Array.getElem?_setIfInBounds] at h'
      split at h'
      · rename_i hxi
        exact .inr (hxi ▸ List.mem_cons_self)
      · exact .inl (by rw [Array.getD_eq_getD_getElem?]; exact h')
    · exact .inr (List.mem_cons_of_mem x h)

/-- The walk's positions followed by the positions it did not mark list every position. -/
theorem mem_reached_append_unseen (reached : List Nat) {n i : Nat} (hi : i < n) :
    i ∈ reached ++ (List.range n).filter fun i =>
      !(reached.foldl (fun acc x => acc.set! x true) (Array.replicate n false)).getD i false := by
  by_cases h : i ∈ reached
  · exact List.mem_append_left _ h
  · refine List.mem_append_right _ (List.mem_filter.mpr ⟨List.mem_range.mpr hi, ?_⟩)
    -- an unlisted position is never marked
    cases hseen : (reached.foldl (fun acc x => acc.set! x true)
        (Array.replicate n false)).getD i false with
    | false => rfl
    | true =>
      rcases getD_foldl_set reached _ i hseen with h' | h'
      · rw [Array.getD_eq_getD_getElem?, Array.getElem?_replicate] at h'
        split at h' <;> cases h'
      · exact absurd h' h

section OrderOf

variable {κ : Type} [BEq κ] [Hashable κ] [LawfulBEq κ] [LawfulHashable κ]

omit [LawfulBEq κ] [LawfulHashable κ] in
/-- Every position is listed. -/
theorem mem_order {ids parents : Array (Option κ)} {before : Option (Nat → Nat → Bool)} {i : Nat}
    (hi : i < parents.size) : i ∈ order ids parents before := by
  unfold order
  exact mem_reached_append_unseen _ (by rw [size_parentPositions]; exact hi)

/-- A position whose chain of parents reaches a root comes after its parent, every time it is
listed. -/
theorem comesBefore_order {ids parents : Array (Option κ)} (hsize : ids.size = parents.size)
    (before : Option (Nat → Nat → Bool)) {i j : Nat}
    (hij : (parentPositions ids parents).getD i none = some j)
    (hroot : ∃ d, RootedIn (parentPositions ids parents) d i) :
    ComesBefore j i (order ids parents before) := by
  have hbound : ∀ x p, (parentPositions ids parents).getD x none = some p →
      p < (parentPositions ids parents).size := by
    intro x p h
    rw [size_parentPositions, ← hsize]
    exact parentPositions_lt h
  -- siblings are kept or sorted; either way the walk lists `j`, and lists it before `i`
  unfold order
  cases before with
  | none =>
    obtain ⟨h, hj⟩ := @comesBefore_walk (fun xs => xs) (fun _ _ => Iff.rfl) _ hbound _ _ hij hroot
    exact h.append (.inl hj)
  | some lt =>
    obtain ⟨h, hj⟩ := @comesBefore_walk (fun xs => xs.mergeSort fun a b => !lt b a)
      (fun _ _ => List.mem_mergeSort) _ hbound _ _ hij hroot
    exact h.append (.inl hj)

end OrderOf

end Schedule.Hierarchy
