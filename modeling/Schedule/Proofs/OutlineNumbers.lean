import Mathlib.Data.List.Nodup
import Mathlib.Logic.Relation
import Schedule.Proofs.FinishingPasses

/-!
# Outline numbers

Once the tasks are read, every task is numbered by its place in the outline and gets its depth.
The pass keeps a stack of the tasks still to number, each with its depth, the next one on top: it
numbers the task on top and puts the task's children in its place, the first child on top. On a
forest this is the recursive numbering in outline order (`Forest.numberOutline_eq_numberFrom`),
every task is numbered once, and the tasks under a task take the numbers right after it.

Both numberings are run against `outlineWalk`, the tasks in outline order with their depths: the
stack with some keys on top first numbers the walk of those keys (`numberStack_walk`), the
recursion numbers it too (`numberFrom_eq_foldl`), and numbering a walk numbers its tasks one by
one (`task_foldl_numberTask`). What remains are facts of the forest: its walk lists every task
once (`Forest.walk_perm`), and the tasks under a task are one block of it (`infix_walk`).

## Main definitions

* `OutlineOrder` — a list of tasks in outline order, said without a walk.
* `InSubtree` — a task is a given task or under it.
* `Project.Numbered` — the tasks are numbered in outline order and have their depths.

## Main statements

* `Project.Forest.numbered_numberOutline` — numbering a forest numbers it in outline order.
* `Builder.processTasks_numbers_outline` — after reading the tasks, they are numbered in outline
  order, and the numbering by a stack is the recursive one.
-/

namespace Schedule

/-! ### Outline order of a forest given by its children -/

section Walk

variable (ch : TaskKey → List TaskKey)

/-- `order` lists the tasks under `keys` in outline order: a task, then the tasks under its
children in their order, then the next of `keys`. -/
inductive OutlineOrder : List TaskKey → List TaskKey → Prop
  | nil : OutlineOrder [] []
  | cons {k : TaskKey} {ks below rest : List TaskKey} :
    OutlineOrder (ch k) below → OutlineOrder ks rest → OutlineOrder (k :: ks) (k :: below ++ rest)

/-- `j` is `t` or a task under it. -/
def InSubtree (t j : TaskKey) : Prop := Relation.ReflTransGen (fun q k => k ∈ ch q) t j

/-- The tasks under `keys` in outline order, each with its depth, `level` for the keys; the walk
goes at most `fuel` levels deep. -/
def outlineWalk : Nat → Nat → List TaskKey → List (TaskKey × Nat)
  | 0, _, _ => []
  | fuel + 1, level, keys =>
    keys.flatMap fun k => (k, level) :: outlineWalk fuel (level + 1) (ch k)

/-- No task under `keys` is more than `fuel` levels deep. -/
def Shallow : Nat → List TaskKey → Prop
  | 0, keys => keys = []
  | fuel + 1, keys => ∀ k ∈ keys, Shallow fuel (ch k)

variable {ch}

@[simp] theorem outlineWalk_zero (level : Nat) (keys : List TaskKey) :
    outlineWalk ch 0 level keys = [] := rfl

@[simp] theorem outlineWalk_nil (fuel level : Nat) : outlineWalk ch fuel level [] = [] := by
  cases fuel <;> rfl

theorem outlineWalk_cons (fuel level : Nat) (k : TaskKey) (ks : List TaskKey) :
    outlineWalk ch (fuel + 1) level (k :: ks) =
      (k, level) :: outlineWalk ch fuel (level + 1) (ch k) ++ outlineWalk ch (fuel + 1) level ks :=
  rfl

theorem shallow_zero {keys : List TaskKey} : Shallow ch 0 keys ↔ keys = [] := Iff.rfl

theorem Shallow.head {fuel : Nat} {k : TaskKey} {ks : List TaskKey}
    (h : Shallow ch (fuel + 1) (k :: ks)) : Shallow ch fuel (ch k) :=
  h k List.mem_cons_self

theorem Shallow.tail {fuel : Nat} {k : TaskKey} {ks : List TaskKey}
    (h : Shallow ch (fuel + 1) (k :: ks)) : Shallow ch (fuel + 1) ks :=
  fun k' hk' => h k' (List.mem_cons_of_mem k hk')

theorem inSubtree_iff {t j : TaskKey} : InSubtree ch t j ↔ t = j ∨ ∃ c ∈ ch t, InSubtree ch c j :=
  Relation.ReflTransGen.cases_head_iff

/-- A walk that reaches the bottom lists the tasks in outline order. -/
theorem outlineOrder_walk : ∀ (fuel level : Nat) (keys : List TaskKey), Shallow ch fuel keys →
    OutlineOrder ch keys ((outlineWalk ch fuel level keys).map Prod.fst) := by
  intro fuel
  induction fuel with
  | zero =>
    intro level keys h
    rw [shallow_zero.mp h]
    exact .nil
  | succ fuel ih =>
    intro level keys h
    induction keys with
    | nil => exact .nil
    | cons k ks ihks =>
      rw [outlineWalk_cons, List.map_append, List.map_cons]
      exact .cons (ih _ _ h.head) (ihks h.tail)

/-- Every task of a walk is under one of its keys. -/
theorem exists_of_mem_walk : ∀ {fuel level : Nat} {keys : List TaskKey} {j : TaskKey},
    j ∈ (outlineWalk ch fuel level keys).map Prod.fst → ∃ k ∈ keys, InSubtree ch k j := by
  intro fuel
  induction fuel with
  | zero => simp
  | succ fuel ih =>
    intro level keys j hj
    induction keys with
    | nil => simp at hj
    | cons k ks ihks =>
      rw [outlineWalk_cons, List.map_append, List.map_cons, List.mem_append, List.mem_cons] at hj
      rcases hj with (rfl | hj) | hj
      · exact ⟨j, List.mem_cons_self, Relation.ReflTransGen.refl⟩
      · obtain ⟨c, hc, hcj⟩ := ih hj
        exact ⟨k, List.mem_cons_self, inSubtree_iff.mpr (.inr ⟨c, hc, hcj⟩)⟩
      · obtain ⟨k', hk', hk'j⟩ := ihks hj
        exact ⟨k', List.mem_cons_of_mem k hk', hk'j⟩

/-- The tasks of a walk that reaches the bottom are exactly those under its keys. -/
theorem mem_walk_iff : ∀ {fuel level : Nat} {keys : List TaskKey}, Shallow ch fuel keys →
    ∀ j, j ∈ (outlineWalk ch fuel level keys).map Prod.fst ↔ ∃ k ∈ keys, InSubtree ch k j := by
  intro fuel
  induction fuel with
  | zero =>
    intro level keys h j
    simp [shallow_zero.mp h]
  | succ fuel ih =>
    intro level keys h j
    refine ⟨exists_of_mem_walk, ?_⟩
    induction keys with
    | nil => simp
    | cons k ks ihks =>
      rintro ⟨k', hk', hk'j⟩
      rw [outlineWalk_cons, List.map_append, List.map_cons, List.mem_append, List.mem_cons]
      rcases List.mem_cons.mp hk' with rfl | hk'
      · -- under the first key: the key itself, or under one of its children
        rcases inSubtree_iff.mp hk'j with rfl | hc
        · exact .inl (.inl rfl)
        · exact .inl (.inr ((ih h.head j).mpr hc))
      · exact .inr (ihks h.tail ⟨k', hk', hk'j⟩)

/-- A key of a walk that reaches the bottom is in it at the walk's level. -/
theorem mem_walk_of_mem {fuel level : Nat} {keys : List TaskKey} (h : Shallow ch fuel keys)
    {k : TaskKey} (hk : k ∈ keys) : (k, level) ∈ outlineWalk ch fuel level keys := by
  cases fuel with
  | zero => simp [shallow_zero.mp h] at hk
  | succ fuel => exact List.mem_flatMap.mpr ⟨k, hk, List.mem_cons_self⟩

/-- In a walk that reaches the bottom, the children of a task follow one level deeper. -/
theorem mem_walk_child : ∀ {fuel level : Nat} {keys : List TaskKey}, Shallow ch fuel keys →
    ∀ {q c : TaskKey} {l : Nat}, (q, l) ∈ outlineWalk ch fuel level keys → c ∈ ch q →
      (c, l + 1) ∈ outlineWalk ch fuel level keys := by
  intro fuel
  induction fuel with
  | zero => simp
  | succ fuel ih =>
    intro level keys h q c l hq hc
    induction keys with
    | nil => simp at hq
    | cons k ks ihks =>
      rw [outlineWalk_cons, List.mem_append, List.mem_cons] at hq ⊢
      rcases hq with (hq | hq) | hq
      · obtain ⟨rfl, rfl⟩ := Prod.mk.inj hq
        exact .inl (.inr (mem_walk_of_mem h.head hc))
      · exact .inl (.inr (ih h.head hq hc))
      · exact .inr (ihks h.tail hq)

/-- A task of a walk that reaches the bottom is followed by the walk of its children: together
they are one block of the walk. -/
theorem infix_walk : ∀ {fuel level : Nat} {keys : List TaskKey}, Shallow ch fuel keys →
    ∀ {k : TaskKey} {l : Nat}, (k, l) ∈ outlineWalk ch fuel level keys →
      ∃ fuel', Shallow ch fuel' (ch k) ∧
        (k, l) :: outlineWalk ch fuel' (l + 1) (ch k) <:+: outlineWalk ch fuel level keys := by
  intro fuel
  induction fuel with
  | zero => simp
  | succ fuel ih =>
    intro level keys h k l hk
    induction keys with
    | nil => simp at hk
    | cons k' ks ihks =>
      rw [outlineWalk_cons] at hk ⊢
      rw [List.mem_append, List.mem_cons] at hk
      rcases hk with (hk | hk) | hk
      · obtain ⟨rfl, rfl⟩ := Prod.mk.inj hk
        exact ⟨fuel, h.head, (List.prefix_append _ _).isInfix⟩
      · obtain ⟨fuel', hsh, hinfix⟩ := ih h.head hk
        exact ⟨fuel', hsh, (List.infix_cons hinfix).trans (List.infix_append [] _ _)⟩
      · obtain ⟨fuel', hsh, hinfix⟩ := ihks h.tail hk
        exact ⟨fuel', hsh, hinfix.trans (List.suffix_append _ _).isInfix⟩

end Walk

/-- A task's id and its depth in the outline. -/
def Task.place (t : Task) : Option Int32 × Nat := (t.id, t.outlineLevel)

namespace Project

/-- The children of a task. -/
def childrenOf (p : Project) (k : TaskKey) : List TaskKey := (p.task k).children

theorem childrenOf_of_outline_eq {p p' : Project} (h : p'.outline = p.outline) :
    p'.childrenOf = p.childrenOf :=
  funext fun k => congrArg Prod.snd (task_links_of_outline_eq h k)

/-- Only a task that exists has a parent. -/
theorem lt_size_of_parent_eq_some {p : Project} {k q : TaskKey} (h : (p.task k).parent = some q) :
    k < p.tasks.size := by
  by_contra hk
  simp [task_eq, Array.getElem?_eq_none (Nat.le_of_not_lt hk)] at h

/-- The tasks in outline order with their depths, the top-level tasks at depth 1. -/
def outlineEntries (p : Project) : List (TaskKey × Nat) :=
  outlineWalk p.childrenOf (p.tasks.size + 1) 1 p.childTasks

/-! ### Facts of a forest -/

section Forest

variable {p : Project} (hf : p.Forest)
include hf

theorem Forest.parent_of_mem {q c : TaskKey} (hc : c ∈ p.childrenOf q) :
    (p.task c).parent = some q :=
  (hf.parent_iff c (hf.child_lt hc) q).mpr hc

theorem Forest.lt_of_mem {q c : TaskKey} (hc : c ∈ p.childrenOf q) : q < c :=
  hf.parent_lt c q (hf.parent_of_mem hc)

theorem Forest.le_of_inSubtree {a x : TaskKey} (h : InSubtree p.childrenOf a x) : a ≤ x := by
  unfold InSubtree at h
  induction h with
  | refl => exact Nat.le_refl a
  | tail _ hc ih => exact Nat.le_of_lt (Nat.lt_of_le_of_lt ih (hf.lt_of_mem hc))

theorem Forest.lt_size_of_inSubtree {a x : TaskKey} (h : InSubtree p.childrenOf a x)
    (ha : a < p.tasks.size) : x < p.tasks.size := by
  unfold InSubtree at h
  induction h with
  | refl => exact ha
  | tail _ hc _ => exact hf.child_lt hc

/-- A task has one parent, so two tasks above a third are one above the other. -/
theorem Forest.inSubtree_total {a b x : TaskKey} (ha : InSubtree p.childrenOf a x)
    (hb : InSubtree p.childrenOf b x) :
    InSubtree p.childrenOf a b ∨ InSubtree p.childrenOf b a := by
  unfold InSubtree at *
  revert ha
  induction hb with
  | refl => exact .inl
  | tail hby hyx ih =>
    intro ha
    rcases ha.cases_tail with rfl | ⟨y', hay', hy'x⟩
    · exact .inr (hby.tail hyx)
    · -- the last steps to `x` leave from its parent, so from the same task
      have hy : y' = _ := Option.some.inj ((hf.parent_of_mem hy'x).symm.trans
        (hf.parent_of_mem hyx))
      exact ih (hy ▸ hay')

/-- A task is not under another task with the same parent, or with none. -/
theorem Forest.not_inSubtree_of_parent_eq {a b : TaskKey} (hab : a ≠ b) (hb : b < p.tasks.size)
    (hpar : (p.task a).parent = (p.task b).parent) : ¬InSubtree p.childrenOf b a := by
  intro h
  unfold InSubtree at h
  rcases h.cases_tail with rfl | ⟨y, hby, hya⟩
  · exact hab rfl
  · -- the parent of `a` is then the parent of `b`, and also under `b`
    have hyb : b ∈ p.childrenOf y :=
      (hf.parent_iff b hb y).mp (hpar.symm.trans (hf.parent_of_mem hya))
    have h₁ := hf.le_of_inSubtree hby
    have h₂ := hf.lt_of_mem hyb
    dsimp only [TaskKey] at h₁ h₂
    omega

theorem Forest.listedKeys_nodup : p.listedKeys.Nodup :=
  hf.listed_once.nodup_iff.mpr List.nodup_range

theorem Forest.childTasks_nodup : p.childTasks.Nodup :=
  List.Nodup.of_append_left hf.listedKeys_nodup

theorem Forest.childrenOf_nodup (q : TaskKey) : (p.childrenOf q).Nodup := by
  have h := (List.nodup_flatMap.mp (List.Nodup.of_append_right hf.listedKeys_nodup)).1
  simp only [childrenOf, task_eq]
  cases hq : p.tasks[q]? with
  | none => exact List.nodup_nil
  | some t => exact h t (Array.mem_toList_iff.mpr (Array.mem_of_getElem? hq))

/-- A task `k` levels above the last one has nothing more than `k` levels under it. -/
theorem Forest.shallow : ∀ (fuel : Nat) (keys : List TaskKey),
    (∀ k ∈ keys, k < p.tasks.size ∧ p.tasks.size ≤ k + fuel) → Shallow p.childrenOf fuel keys := by
  intro fuel
  induction fuel with
  | zero =>
    intro keys h
    refine List.eq_nil_iff_forall_not_mem.mpr fun k hk => ?_
    have hk := h k hk
    dsimp only [TaskKey] at hk
    omega
  | succ fuel ih =>
    intro keys h k hk
    apply ih
    intro c hc
    have hk := h k hk
    have hkc := hf.lt_of_mem hc
    have hc := hf.child_lt hc
    dsimp only [TaskKey] at hk hkc hc ⊢
    omega

/-- The walk from tasks with one parent, or with none, lists every task once. -/
theorem Forest.nodup_walk : ∀ (fuel level : Nat) (keys : List TaskKey) (par : Option TaskKey),
    keys.Nodup → (∀ k ∈ keys, k < p.tasks.size ∧ (p.task k).parent = par) →
      ((outlineWalk p.childrenOf fuel level keys).map Prod.fst).Nodup := by
  intro fuel
  induction fuel with
  | zero => simp
  | succ fuel ih =>
    intro level keys par hnd hkeys
    induction keys with
    | nil => simp
    | cons k ks ihks =>
      rw [List.nodup_cons] at hnd
      have hk := hkeys k List.mem_cons_self
      have hks : ∀ k' ∈ ks, k' < p.tasks.size ∧ (p.task k').parent = par :=
        fun k' hk' => hkeys k' (List.mem_cons_of_mem k hk')
      -- below `k` every task is under a child of `k`; after it, under a later key
      have hbelow : ∀ x ∈ (outlineWalk p.childrenOf fuel (level + 1) (p.childrenOf k)).map
          Prod.fst, ∃ c ∈ p.childrenOf k, InSubtree p.childrenOf c x := fun x hx =>
        exists_of_mem_walk hx
      have hafter : ∀ x ∈ (outlineWalk p.childrenOf (fuel + 1) level ks).map Prod.fst,
          ∃ k' ∈ ks, InSubtree p.childrenOf k' x := fun x hx => exists_of_mem_walk hx
      have hsibling : ∀ k' ∈ ks, ¬InSubtree p.childrenOf k' k ∧ ¬InSubtree p.childrenOf k k' :=
        fun k' hk' => by
          have hne : k ≠ k' := fun h => hnd.1 (h ▸ hk')
          have hpar := (hk.2.trans (hks k' hk').2.symm)
          exact ⟨hf.not_inSubtree_of_parent_eq hne (hks k' hk').1 hpar,
            hf.not_inSubtree_of_parent_eq (Ne.symm hne) hk.1 hpar.symm⟩
      rw [outlineWalk_cons, List.map_append, List.map_cons, List.nodup_append, List.nodup_cons]
      refine ⟨⟨?_, ih _ _ (some k) (hf.childrenOf_nodup k)
        fun c hc => ⟨hf.child_lt hc, hf.parent_of_mem hc⟩⟩, ihks hnd.2 hks, ?_⟩
      · intro hmem
        obtain ⟨c, hc, hck⟩ := hbelow k hmem
        have h₁ := hf.lt_of_mem hc
        have h₂ := hf.le_of_inSubtree hck
        dsimp only [TaskKey] at h₁ h₂
        omega
      · intro x hx y hy hxy
        subst hxy
        obtain ⟨k', hk', hk'x⟩ := hafter x hy
        have hkx : InSubtree p.childrenOf k x := by
          rcases List.mem_cons.mp hx with rfl | hx
          · exact Relation.ReflTransGen.refl
          · obtain ⟨c, hc, hcx⟩ := hbelow x hx
            exact inSubtree_iff.mpr (.inr ⟨c, hc, hcx⟩)
        rcases hf.inSubtree_total hkx hk'x with h | h
        · exact (hsibling k' hk').2 h
        · exact (hsibling k' hk').1 h

/-- Every task is under a top-level task. -/
theorem Forest.exists_top_inSubtree :
    ∀ j < p.tasks.size, ∃ k ∈ p.childTasks, InSubtree p.childrenOf k j := by
  intro j
  induction j using Nat.strongRecOn with
  | ind j ih =>
    intro hj
    cases hpar : (p.task j).parent with
    | none => exact ⟨j, (hf.top_iff j hj).mp hpar, Relation.ReflTransGen.refl⟩
    | some q =>
      have hqj := hf.parent_lt j q hpar
      obtain ⟨k, hk, hkq⟩ := ih q hqj (Nat.lt_trans hqj hj)
      exact ⟨k, hk, Relation.ReflTransGen.tail hkq ((hf.parent_iff j hj q).mp hpar)⟩

/-- The walk from the top-level tasks reaches the bottom of the forest. -/
theorem Forest.shallow_childTasks : Shallow p.childrenOf (p.tasks.size + 1) p.childTasks :=
  hf.shallow _ _ fun k hk => ⟨hf.top_lt hk, by omega⟩

/-- The walk from the top-level tasks lists every task once. -/
theorem Forest.walk_perm : (p.outlineEntries.map Prod.fst).Perm (List.range p.tasks.size) := by
  refine (List.perm_ext_iff_of_nodup ?_ List.nodup_range).mpr fun j => ?_
  · exact hf.nodup_walk _ _ _ none hf.childTasks_nodup
      fun k hk => ⟨hf.top_lt hk, (hf.top_iff k (hf.top_lt hk)).mpr hk⟩
  · rw [outlineEntries, mem_walk_iff hf.shallow_childTasks, List.mem_range]
    constructor
    · rintro ⟨k, hk, hkj⟩
      exact hf.lt_size_of_inSubtree hkj (hf.top_lt hk)
    · exact hf.exists_top_inSubtree j

end Forest

/-! ### Numbering a walk -/

theorem outline_numberTask (s : Project × Int32) (e : TaskKey × Nat) :
    (numberTask s e).1.outline = s.1.outline :=
  (settledEdit_numberTask s e).taskEdit.outline_eq

theorem outline_foldl_numberTask : ∀ (W : List (TaskKey × Nat)) (s : Project × Int32),
    (W.foldl numberTask s).1.outline = s.1.outline
  | [], _ => rfl
  | e :: W, s => (outline_foldl_numberTask W _).trans (outline_numberTask s e)

@[simp] theorem size_numberTask (s : Project × Int32) (e : TaskKey × Nat) :
    (numberTask s e).1.tasks.size = s.1.tasks.size :=
  size_modifyTask _ _ _

/-- Numbering tasks leaves every other task as it was. -/
theorem task_foldl_numberTask_of_not_mem : ∀ (W : List (TaskKey × Nat)) (s : Project × Int32)
    {j : TaskKey}, j ∉ W.map Prod.fst → (W.foldl numberTask s).1.task j = s.1.task j
  | [], _, _, _ => rfl
  | e :: W, s, j, hj => by
    rw [List.map_cons, List.mem_cons, not_or] at hj
    rw [List.foldl_cons, task_foldl_numberTask_of_not_mem W _ hj.2]
    simp only [numberTask]
    rw [task_modifyTask, if_neg fun h => hj.1 h.1.symm]

/-- Numbering tasks one by one, each once, gives the `i`-th of them the `i`-th id after the
counter, and its depth. -/
theorem task_foldl_numberTask : ∀ (W : List (TaskKey × Nat)) (s : Project × Int32),
    (W.map Prod.fst).Nodup → (∀ e ∈ W, e.1 < s.1.tasks.size) → ∀ i (hi : i < W.length),
      ((W.foldl numberTask s).1.task W[i].1).id = some (s.2 + Int32.ofNat (i + 1)) ∧
        ((W.foldl numberTask s).1.task W[i].1).outlineLevel = W[i].2
  | [], _, _, _, i, hi => absurd hi (Nat.not_lt_zero i)
  | e :: W, s, hnd, hlt, 0, _ => by
    -- the first task is numbered now and not again
    rw [List.map_cons, List.nodup_cons] at hnd
    rw [List.getElem_cons_zero, List.foldl_cons, task_foldl_numberTask_of_not_mem W _ hnd.1]
    simp only [numberTask]
    rw [task_modifyTask, if_pos ⟨rfl, hlt e List.mem_cons_self⟩]
    exact ⟨rfl, rfl⟩
  | e :: W, s, hnd, hlt, i + 1, hi => by
    rw [List.map_cons, List.nodup_cons] at hnd
    have hlt' : ∀ e' ∈ W, e'.1 < (numberTask s e).1.tasks.size := fun e' he' => by
      rw [size_numberTask]
      exact hlt e' (List.mem_cons_of_mem e he')
    obtain ⟨hid, hlevel⟩ :=
      task_foldl_numberTask W (numberTask s e) hnd.2 hlt' i (Nat.lt_of_succ_lt_succ hi)
    rw [List.getElem_cons_succ, List.foldl_cons]
    refine ⟨?_, hlevel⟩
    -- the counter went one up for the first task, and `i + 1` up for the ones before this
    rw [hid]
    simp only [numberTask]
    rw [Int32.add_assoc, Int32.ofNat_add (i + 1) 1, Int32.add_comm 1]
    rfl

theorem outlineLevel_foldl_numberTask {W : List (TaskKey × Nat)} {s : Project × Int32}
    (hnd : (W.map Prod.fst).Nodup) (hlt : ∀ e ∈ W, e.1 < s.1.tasks.size) {k : TaskKey} {l : Nat}
    (h : (k, l) ∈ W) : ((W.foldl numberTask s).1.task k).outlineLevel = l := by
  obtain ⟨i, hi, hik⟩ := List.mem_iff_getElem.mp h
  have hlevel := (task_foldl_numberTask W s hnd hlt i hi).2
  rw [hik] at hlevel
  exact hlevel

/-! ### The stack and the recursion number the walk -/

@[simp] theorem numberStack_nil (fuel : Nat) (s : Project × Int32) : numberStack fuel [] s = s := by
  cases fuel <;> rfl

/-- With `keys` on top of the stack, each `level` deep, the stack numbers the walk of `keys`, one
task a step, and then goes on with the rest of the stack. -/
theorem numberStack_walk {p : Project} : ∀ (fuel level : Nat) (keys : List TaskKey)
    (rest : List (TaskKey × Nat)) (extra : Nat) (s : Project × Int32),
    Shallow p.childrenOf fuel keys → s.1.outline = p.outline →
      numberStack ((outlineWalk p.childrenOf fuel level keys).length + extra)
          (keys.map (·, level) ++ rest) s =
        numberStack extra rest ((outlineWalk p.childrenOf fuel level keys).foldl numberTask s) := by
  intro fuel
  induction fuel with
  | zero =>
    intro level keys rest extra s h _
    rw [shallow_zero.mp h]
    simp
  | succ fuel ih =>
    intro level keys
    induction keys with
    | nil =>
      intro rest extra s _ _
      simp
    | cons k ks ihks =>
      intro rest extra s h hs
      -- the task on top is numbered, and its children take its place on the stack
      have hs' : (numberTask s (k, level)).1.outline = p.outline :=
        (outline_numberTask s _).trans hs
      have hch : ((numberTask s (k, level)).1.task k).children = p.childrenOf k :=
        congrFun (childrenOf_of_outline_eq hs') k
      have hlen : (outlineWalk p.childrenOf (fuel + 1) level (k :: ks)).length + extra =
          (outlineWalk p.childrenOf fuel (level + 1) (p.childrenOf k)).length +
            ((outlineWalk p.childrenOf (fuel + 1) level ks).length + extra) + 1 := by
        rw [outlineWalk_cons, List.length_append, List.length_cons]
        omega
      rw [hlen, List.map_cons, List.cons_append, numberStack, hch,
        ih _ _ _ _ _ h.head hs', ihks _ _ _ h.tail ((outline_foldl_numberTask _ _).trans hs'),
        outlineWalk_cons, List.foldl_append, List.foldl_cons]

/-- Numbers the tasks under `keys` in outline order, `level` deep, by recursion into the children
of each task. -/
def numberFrom : Nat → Nat → List TaskKey → Project × Int32 → Project × Int32
  | 0, _, _, s => s
  | fuel + 1, level, keys, s =>
    keys.foldl (fun acc k =>
      let acc := numberTask acc (k, level)
      numberFrom fuel (level + 1) (acc.1.task k).children acc) s

/-- The recursion numbers the walk of its keys. -/
theorem numberFrom_eq_foldl {p : Project} : ∀ (fuel level : Nat) (keys : List TaskKey)
    (s : Project × Int32), s.1.outline = p.outline →
      numberFrom fuel level keys s = (outlineWalk p.childrenOf fuel level keys).foldl numberTask s := by
  intro fuel
  induction fuel with
  | zero => intro _ _ _ _; rfl
  | succ fuel ih =>
    intro level keys
    induction keys with
    | nil => intro _ _; rfl
    | cons k ks ihks =>
      intro s hs
      have hs' : (numberTask s (k, level)).1.outline = p.outline :=
        (outline_numberTask s _).trans hs
      have hch : ((numberTask s (k, level)).1.task k).children = p.childrenOf k :=
        congrFun (childrenOf_of_outline_eq hs') k
      -- the first key and the tasks under it, then the other keys
      have hfirst : numberFrom (fuel + 1) level (k :: ks) s = numberFrom (fuel + 1) level ks
          (numberFrom fuel (level + 1) (p.childrenOf k) (numberTask s (k, level))) := by
        rw [← hch]
        rfl
      rw [hfirst, ih _ _ _ hs', ihks _ ((outline_foldl_numberTask _ _).trans hs'), outlineWalk_cons,
        List.foldl_append, List.foldl_cons]

section Forest

variable {p : Project} (hf : p.Forest)
include hf

/-- On a forest, the stack numbers the walk from the top-level tasks. -/
theorem Forest.numberOutline_eq_foldl :
    p.numberOutline = (p.outlineEntries.foldl numberTask (p, 0)).1 := by
  have hlen : p.outlineEntries.length = p.tasks.size := by
    simpa using hf.walk_perm.length_eq
  have hrun := numberStack_walk (p.tasks.size + 1) 1 p.childTasks [] 1 (p, 0)
    hf.shallow_childTasks rfl
  rw [← outlineEntries, hlen, List.append_nil, numberStack_nil] at hrun
  exact congrArg Prod.fst hrun

/-- On a forest, numbering by a stack is numbering by recursion. -/
theorem Forest.numberOutline_eq_numberFrom :
    p.numberOutline = (numberFrom (p.tasks.size + 1) 1 p.childTasks (p, 0)).1 := by
  rw [hf.numberOutline_eq_foldl, numberFrom_eq_foldl _ _ _ _ rfl, outlineEntries]

end Forest

/-! ### The numbers of a numbered outline -/

/-- The tasks are numbered in the outline order `order`: `order` lists every task once, in outline
order; the task at position `i` has id `i + 1`; a top-level task has depth 1 and a child one more
than its parent; and the tasks under a task are the block of `order` that starts with it, so that
their ids run on from its own. -/
structure Numbered (p : Project) (order : List TaskKey) : Prop where
  ordered : OutlineOrder p.childrenOf p.childTasks order
  perm : order.Perm (List.range p.tasks.size)
  id_eq : ∀ i (hi : i < order.length), (p.task order[i]).id = some (Int32.ofNat (i + 1))
  level_top : ∀ k < p.tasks.size, (p.task k).parent = none → (p.task k).outlineLevel = 1
  level_child : ∀ k q, (p.task k).parent = some q →
    (p.task k).outlineLevel = (p.task q).outlineLevel + 1
  subtree : ∀ k < p.tasks.size, ∃ before below after, order = before ++ k :: below ++ after ∧
    (∀ j, InSubtree p.childrenOf k j ↔ j ∈ k :: below) ∧
    ∀ i (hi : i < (k :: below).length),
      (p.task (k :: below)[i]).id = some (Int32.ofNat (before.length + i + 1))

/-- The element at a position of the middle one of three lists. -/
theorem getElem_append_middle {α : Type} {a b c : List α} {i : Nat} (hi : i < b.length)
    (h : a.length + i < (a ++ b ++ c).length) : (a ++ b ++ c)[a.length + i] = b[i] := by
  rw [List.getElem_append_left (by simp only [List.length_append]; omega),
    List.getElem_append_right (Nat.le_add_right _ _)]
  simp

/-- The ids of a numbered outline are `1 … n`, one to a task. -/
theorem Numbered.ids_perm {p : Project} {order : List TaskKey} (h : p.Numbered order) :
    ((List.range p.tasks.size).map fun k => (p.task k).id).Perm
      ((List.range p.tasks.size).map fun i => some (Int32.ofNat (i + 1))) := by
  have hlen : order.length = p.tasks.size := by simpa using h.perm.length_eq
  have hids : order.map (fun k => (p.task k).id) =
      (List.range p.tasks.size).map fun i => some (Int32.ofNat (i + 1)) := by
    apply List.ext_getElem (by simp [hlen])
    intro i h₁ _
    rw [List.getElem_map, List.getElem_map, List.getElem_range]
    exact h.id_eq i (by simpa using h₁)
  rw [← hids]
  exact (h.perm.map _).symm

section Forest

variable {p : Project} (hf : p.Forest)
include hf

/-- Numbering a forest numbers its tasks in outline order, with their depths. -/
theorem Forest.numbered_numberOutline :
    p.numberOutline.Numbered (p.outlineEntries.map Prod.fst) := by
  have hshallow := hf.shallow_childTasks
  have hperm := hf.walk_perm
  have hnd : (p.outlineEntries.map Prod.fst).Nodup := hperm.nodup_iff.mpr List.nodup_range
  have hlt : ∀ e ∈ p.outlineEntries, e.1 < (p, (0 : Int32)).1.tasks.size := fun e he =>
    List.mem_range.mp (hperm.subset (List.mem_map_of_mem he))
  -- numbering keeps the outline, and numbers the entries one by one
  have ho : p.numberOutline.outline = p.outline := (settledEdit_numberOutline p).taskEdit.outline_eq
  have hsize : p.numberOutline.tasks.size = p.tasks.size := size_of_outline_eq ho
  have hparent : ∀ k, (p.numberOutline.task k).parent = (p.task k).parent := fun k =>
    congrArg Prod.fst (task_links_of_outline_eq ho k)
  have hid : ∀ i (hi : i < (p.outlineEntries.map Prod.fst).length),
      (p.numberOutline.task (p.outlineEntries.map Prod.fst)[i]).id = some (Int32.ofNat (i + 1)) := by
    intro i hi
    rw [List.getElem_map, hf.numberOutline_eq_foldl,
      (task_foldl_numberTask _ (p, 0) hnd hlt i (by simpa using hi)).1]
    exact congrArg some (Int32.zero_add _)
  have hlevel : ∀ {k l}, (k, l) ∈ p.outlineEntries → (p.numberOutline.task k).outlineLevel = l := by
    intro k l h
    rw [hf.numberOutline_eq_foldl]
    exact outlineLevel_foldl_numberTask hnd hlt h
  have hentry : ∀ k < p.tasks.size, ∃ l, (k, l) ∈ p.outlineEntries := fun k hk => by
    obtain ⟨e, he, rfl⟩ := List.mem_map.mp (hperm.symm.subset (List.mem_range.mpr hk))
    exact ⟨e.2, he⟩
  refine ⟨?_, hsize ▸ hperm, hid, ?_, ?_, ?_⟩
  · have htop : p.numberOutline.childTasks = p.childTasks := congrArg Prod.fst ho
    rw [childrenOf_of_outline_eq ho, htop]
    exact outlineOrder_walk _ _ _ hshallow
  · intro k hk hnone
    rw [hsize] at hk
    rw [hparent] at hnone
    exact hlevel (mem_walk_of_mem hshallow ((hf.top_iff k hk).mp hnone))
  · intro k q hq
    rw [hparent] at hq
    have hk := lt_size_of_parent_eq_some hq
    -- the child follows its parent in the walk, one level deeper
    obtain ⟨l, hql⟩ := hentry q (Nat.lt_trans (hf.parent_lt k q hq) hk)
    rw [hlevel hql, hlevel (mem_walk_child hshallow hql ((hf.parent_iff k hk q).mp hq))]
  · intro k hk
    rw [hsize] at hk
    obtain ⟨l, hkl⟩ := hentry k hk
    obtain ⟨fuel, hsh, A, C, hsplit⟩ := infix_walk hshallow hkl
    have horder : p.outlineEntries.map Prod.fst = A.map Prod.fst ++
        k :: (outlineWalk p.childrenOf fuel (l + 1) (p.childrenOf k)).map Prod.fst ++
          C.map Prod.fst := by
      rw [outlineEntries, ← hsplit]
      simp
    refine ⟨A.map Prod.fst, _, C.map Prod.fst, horder, fun j => ?_, fun i hi => ?_⟩
    · rw [childrenOf_of_outline_eq ho, inSubtree_iff, List.mem_cons, mem_walk_iff hsh, eq_comm]
    · -- the block starts at the position of `k`
      rw [horder] at hid
      have hpos : (A.map Prod.fst).length + i < (A.map Prod.fst ++
          k :: (outlineWalk p.childrenOf fuel (l + 1) (p.childrenOf k)).map Prod.fst ++
            C.map Prod.fst).length := by
        simp only [List.length_append, List.length_cons] at hi ⊢
        omega
      rw [← getElem_append_middle hi hpos, hid _ hpos]

end Forest

/-- Two top-level tasks, the first with a child: the child is numbered between them. -/
example : ({ tasks := #[{ children := [2] }, {}, { parent := some 0 }], childTasks := [0, 1] } :
    Project).numberOutline.tasks.toList.map Task.place = [(some 1, 1), (some 3, 1), (some 2, 2)] := by
  decide

/-! ### The passes after numbering -/

/-- Numbers and depths carry over to a project with the same outline, ids and depths. -/
theorem Numbered.of_keeps {p p' : Project} {order : List TaskKey} (h : p.Numbered order)
    (hk : p.Keeps Task.place p') : p'.Numbered order := by
  have hch : p'.childrenOf = p.childrenOf := childrenOf_of_outline_eq hk.outline
  have hsize : p'.tasks.size = p.tasks.size := size_of_outline_eq hk.outline
  have hparent : ∀ k, (p'.task k).parent = (p.task k).parent := fun k =>
    congrArg Prod.fst (task_links_of_outline_eq hk.outline k)
  have hid : ∀ k, (p'.task k).id = (p.task k).id := fun k => congrArg Prod.fst (hk.view k)
  have hlevel : ∀ k, (p'.task k).outlineLevel = (p.task k).outlineLevel := fun k =>
    congrArg Prod.snd (hk.view k)
  refine ⟨?_, ?_, fun i hi => (hid _).trans (h.id_eq i hi), ?_, ?_, ?_⟩
  · have htop : p'.childTasks = p.childTasks := congrArg Prod.fst hk.outline
    rw [hch, htop]
    exact h.ordered
  · rw [hsize]
    exact h.perm
  · intro k hk' hnone
    rw [hlevel]
    exact h.level_top k (hsize ▸ hk') (hparent k ▸ hnone)
  · intro k q hq
    rw [hlevel, hlevel]
    exact h.level_child k q (hparent k ▸ hq)
  · intro k hk'
    obtain ⟨before, below, after, horder, hsub, hids⟩ := h.subtree k (hsize ▸ hk')
    refine ⟨before, below, after, horder, ?_, fun i hi => (hid _).trans (hids i hi)⟩
    rw [hch]
    exact hsub

end Project

namespace Builder

/-- After the tasks are read, each task is numbered by its place in outline order, from 1, and has
its depth; the tasks under a task take the ids right after its own; so the ids are `1 … n`, one
to a task. The stack that numbers them numbers every forest as the recursion does. -/
theorem processTasks_numbers_outline {b b' : Builder} (hs : b.Sound) {t : TaskTables}
    (h : b.processTasks t = .ok b') :
    (∃ order, b'.project.Numbered order) ∧
      ((List.range b'.project.tasks.size).map fun k => (b'.project.task k).id).Perm
        ((List.range b'.project.tasks.size).map fun i => some (Int32.ofNat (i + 1))) ∧
      ∀ p : Project, p.Forest →
        p.numberOutline = (Project.numberFrom (p.tasks.size + 1) 1 p.childTasks (p, 0)).1 := by
  have hforest := (hs.processTasks h).forest
  unfold processTasks at h
  obtain ⟨b₁, -, h⟩ := Reading.bind_eq_ok.mp h
  rw [Reading.pure_eq_ok] at h
  generalize hq : ((b₁.addCompletedSections t.completedSections).project.deriveDefaultCalendar
    ).numberUnidentified = q at h
  -- the numbered project is widened and rolled up, which keeps every task's place
  obtain ⟨p', hp', hkeep⟩ : ∃ p', _ ∧ Project.Keeps Task.place _ p' :=
    rollUpProgress_keeps (fun _ _ _ _ _ => rfl)
      { b₁.addCompletedSections t.completedSections with project := q.numberOutline.widenSummaryDates }
  have hb' : b'.project = p' := congrArg Builder.project (h.symm.trans hp')
  have hkeeps : q.numberOutline.Keeps Task.place b'.project :=
    hb' ▸ (Project.keeps_widenSummaryDates (fun _ _ _ => rfl) _).trans hkeep
  have hqf : q.Forest := hforest.of_outline_eq
    (hkeeps.outline.trans (Project.settledEdit_numberOutline q).taskEdit.outline_eq).symm
  have hnum := hqf.numbered_numberOutline.of_keeps hkeeps
  exact ⟨⟨_, hnum⟩, hnum.ids_perm, fun p hp => hp.numberOutline_eq_numberFrom⟩

/-- Reading the sample outline numbers its five tasks in outline order. -/
theorem sample_outline_numbered :
    ∃ b', ({} : Builder).processTasks Sample.outline = .ok b' ∧
      (∃ order, b'.project.Numbered order) ∧
      ((List.range b'.project.tasks.size).map fun k => (b'.project.task k).id).Perm
        ((List.range b'.project.tasks.size).map fun i => some (Int32.ofNat (i + 1))) ∧
      ∀ p : Project, p.Forest →
        p.numberOutline = (Project.numberFrom (p.tasks.size + 1) 1 p.childTasks (p, 0)).1 := by
  obtain ⟨b', h⟩ := processTasks_ok {} Sample.outline_hours.1 Sample.outline_hours.2
  exact ⟨b', h, processTasks_numbers_outline sound_empty h⟩

end Builder

end Schedule
