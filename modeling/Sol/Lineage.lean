import Mathlib.Logic.Relation
import Mathlib.Tactic

/-!
# Lineages

Stacked things, the topmost one first, each with a key and perhaps with the key of a parent.
They are stacked well if nothing is below its parent.  Whatever is brought up takes its
descendants along; they are found from the back, one after the other.

* `stacked_bringUp`: then all of them are stacked well again;
* `lt_of_transGen`: everything is above all of its ancestors.
-/

open Relation

namespace Lineage

variable {α κ : Type}

/-- The parent of one is the other. -/
def ChildOf (a b : κ × Option κ) : Prop := a.2 = some b.1

instance [DecidableEq κ] (a b : κ × Option κ) : Decidable (ChildOf a b) :=
  inferInstanceAs (Decidable (a.2 = some b.1))

/-- Nothing is below its parent. -/
def Stacked (l : List (κ × Option κ)) : Prop := l.Pairwise fun above below => ¬ChildOf below above

/-- A key has the other one as its parent's. -/
def HasParent (l : List (κ × Option κ)) (a b : κ) : Prop := (a, some b) ∈ l

/-- Nothing descends from itself. -/
def Acyclic (l : List (κ × Option κ)) : Prop := ∀ a, ¬TransGen (HasParent l) a a

/-- What is at one place is a child of what is at the other. -/
def ChildAt (l : List (κ × Option κ)) (i j : ℕ) : Prop :=
  ∃ a b, l[i]? = some a ∧ l[j]? = some b ∧ ChildOf a b

/-! ### Order -/

section Order

variable {l l' : List (κ × Option κ)} {a b : κ × Option κ}

theorem chain_mono (hsub : ∀ a ∈ l', a ∈ l) {x y : κ} (h : TransGen (HasParent l') x y) :
    TransGen (HasParent l) x y := TransGen.mono (fun _ _ hparent => hsub _ hparent) x y h

theorem Acyclic.mono (h : Acyclic l) (hsub : ∀ a ∈ l', a ∈ l) : Acyclic l' :=
  fun a hcycle => h a (chain_mono hsub hcycle)

/-- Keys that are numbered with every parent before its children have no cycle. -/
theorem acyclic_of_rank (rank : κ → ℕ) (h : ∀ a ∈ l, ∀ b ∈ a.2, rank b < rank a.1) : Acyclic l := by
  intro a hcycle
  have hdecreasing : ∀ b, TransGen (HasParent l) a b → rank b < rank a := by
    intro b hb
    induction hb with
    | single hparent => exact h _ hparent _ rfl
    | tail _ hparent ih => exact (h _ hparent _ rfl).trans ih
  exact lt_irrefl _ (hdecreasing a hcycle)

theorem Acyclic.not_childOf_self (h : Acyclic l) (ha : a ∈ l) : ¬ChildOf a a := by
  intro hself
  refine h a.1 (.single ?_)
  rwa [HasParent, ← show a.2 = some a.1 from hself]

/-- A child is above its parent. -/
theorem lt_of_childAt (h : Stacked l) (hacyclic : Acyclic l) {i j : ℕ} (hchild : ChildAt l i j) :
    i < j := by
  obtain ⟨a, b, ha, hb, hab⟩ := hchild
  obtain ⟨hi, rfl⟩ := List.getElem?_eq_some_iff.mp ha
  obtain ⟨hj, rfl⟩ := List.getElem?_eq_some_iff.mp hb
  by_contra hle
  rcases Nat.eq_or_lt_of_le (Nat.le_of_not_lt hle) with rfl | hlt
  · exact hacyclic.not_childOf_self (List.getElem_mem hi) hab
  · exact List.pairwise_iff_getElem.mp h j i hj hi hlt hab

/-- Everything is above its ancestors. -/
theorem lt_of_transGen (h : Stacked l) (hacyclic : Acyclic l) {i j : ℕ}
    (hchain : TransGen (ChildAt l) i j) : i < j := by
  induction hchain with
  | single hchild => exact lt_of_childAt h hacyclic hchild
  | tail _ hchild ih => exact ih.trans (lt_of_childAt h hacyclic hchild)

/-- Another parent for one of them puts nothing else below its parent. -/
theorem pairwise_set (h : Stacked l) {i : ℕ} (hi : l[i]? = some a) (hkey : b.1 = a.1) :
    (l.set i b).Pairwise fun above below => ChildOf below above → below = b := by
  obtain ⟨hlt, rfl⟩ := List.getElem?_eq_some_iff.mp hi
  refine List.pairwise_iff_getElem.mpr fun j k hj hk hjk hchild => ?_
  rw [List.length_set] at hj hk
  rw [List.getElem_set] at hchild ⊢
  split_ifs at hchild ⊢ with hik
  · rfl
  · have hsame : (l.set i b)[j].1 = l[j].1 := by
      rw [List.getElem_set]
      split_ifs with hij
      · subst hij
        exact hkey
      · rfl
    refine absurd ?_ (List.pairwise_iff_getElem.mp h j k hj hk hjk)
    exact hchild.trans (congrArg some hsame)

end Order

/-! ### Bringing up descendants -/

section Split

variable [DecidableEq κ] (kin : α → κ × Option κ) (top : α)

/-- Those of a list that descend from something above it, and the others. -/
def split : List α → List α × List α
  | [] => ([], [])
  | a :: l =>
    let (descendants, rest) := split l
    if ChildOf (kin a) (kin top) ∨ ∃ b ∈ descendants, ChildOf (kin a) (kin b) then
      (a :: descendants, rest)
    else (descendants, a :: rest)

variable {kin top} {a b : α} {pre l : List α}

theorem split_cons (a : α) (l : List α) : split kin top (a :: l) =
    if ChildOf (kin a) (kin top) ∨ ∃ b ∈ (split kin top l).1, ChildOf (kin a) (kin b) then
      (a :: (split kin top l).1, (split kin top l).2)
    else ((split kin top l).1, a :: (split kin top l).2) := rfl

theorem perm_split (l : List α) : ((split kin top l).1 ++ (split kin top l).2).Perm l := by
  induction l with
  | nil => exact .refl _
  | cons a l ih =>
    rw [split_cons]
    split_ifs
    · exact ih.cons a
    · exact List.perm_middle.trans (ih.cons a)

theorem sublist_split (l : List α) :
    (split kin top l).1.Sublist l ∧ (split kin top l).2.Sublist l := by
  induction l with
  | nil => exact ⟨.slnil, .slnil⟩
  | cons a l ih =>
    rw [split_cons]
    split_ifs
    · exact ⟨ih.1.cons_cons a, ih.2.cons a⟩
    · exact ⟨ih.1.cons a, ih.2.cons_cons a⟩

/-- What is brought up is a descendant. -/
theorem transGen_of_mem_split (ha : a ∈ (split kin top l).1) :
    TransGen (HasParent (l.map kin)) (kin a).1 (kin top).1 := by
  induction l generalizing a with
  | nil => cases ha
  | cons b l ih =>
    have hmono : ∀ {c}, c ∈ (split kin top l).1 →
        TransGen (HasParent ((b :: l).map kin)) (kin c).1 (kin top).1 :=
      fun hc => chain_mono (fun _ hparent => List.mem_cons_of_mem _ hparent) (ih hc)
    have hself : ∀ {p}, (kin b).2 = some p → HasParent ((b :: l).map kin) (kin b).1 p := by
      intro p hp
      rw [HasParent, ← hp]
      exact List.mem_cons_self
    rw [split_cons] at ha
    split_ifs at ha with hb
    · rcases List.mem_cons.mp ha with rfl | ha
      · rcases hb with htop | ⟨c, hc, hchild⟩
        · exact .single (hself htop)
        · exact .head (hself hchild) (hmono hc)
      · exact hmono ha
    · exact hmono ha

/-- What stays is no child of anything that is brought up. -/
theorem not_childOf_split (h : Stacked (l.map kin)) (ha : a ∈ (split kin top l).2) :
    ¬ChildOf (kin a) (kin top) ∧ ∀ b ∈ (split kin top l).1, ¬ChildOf (kin a) (kin b) := by
  induction l with
  | nil => cases ha
  | cons c l ih =>
    rw [Stacked, List.map_cons, List.pairwise_cons] at h
    have hbelow : ∀ b ∈ l, ¬ChildOf (kin b) (kin c) :=
      fun b hb => h.1 _ (List.mem_map_of_mem hb)
    rw [split_cons] at ha ⊢
    split_ifs at ha ⊢ with hc
    · refine ⟨(ih h.2 ha).1, fun b hb => ?_⟩
      rcases List.mem_cons.mp hb with rfl | hb
      · exact hbelow a ((sublist_split l).2.subset ha)
      · exact (ih h.2 ha).2 b hb
    · push Not at hc
      rcases List.mem_cons.mp ha with rfl | ha
      · exact hc
      · exact ih h.2 ha

/-- Something that is below nothing of its own takes its descendants with it, and
everything is stacked well. -/
theorem stacked_bringUp (h : Stacked ((pre ++ l).map kin))
    (hacyclic : Acyclic ((pre ++ top :: l).map kin)) (htop : ∀ a ∈ pre, ¬ChildOf (kin top) (kin a)) :
    Stacked ((pre ++ (split kin top l).1 ++ top :: (split kin top l).2).map kin) := by
  obtain ⟨hdescendants, hrest⟩ : (split kin top l).1.Sublist l ∧ (split kin top l).2.Sublist l :=
    sublist_split l
  unfold Stacked at h ⊢
  rw [List.pairwise_map] at h ⊢
  obtain ⟨hpre, hl, hcross⟩ := List.pairwise_append.mp h
  have hstays : ∀ a ∈ (split kin top l).2, ¬ChildOf (kin a) (kin top) ∧
      ∀ b ∈ (split kin top l).1, ¬ChildOf (kin a) (kin b) :=
    fun a ha => not_childOf_split (List.pairwise_map.mpr hl) ha
  refine List.pairwise_append.mpr ⟨List.pairwise_append.mpr ⟨hpre, hl.sublist hdescendants,
    fun a ha b hb => hcross a ha b (hdescendants.subset hb)⟩, List.pairwise_cons.mpr
      ⟨fun a ha => (hstays a ha).1, hl.sublist hrest⟩, fun a ha b hb => ?_⟩
  rcases List.mem_append.mp ha with hpre | hdescends <;>
    rcases List.mem_cons.mp hb with heq | hstay
  · exact heq ▸ htop a hpre
  · exact hcross a hpre b (hrest.subset hstay)
  · -- a parent among the descendants would close a cycle
    intro hchild
    refine hacyclic (kin top).1 (.head (b := (kin a).1) ?_ ?_)
    · rw [HasParent, ← show (kin top).2 = some (kin a).1 from heq ▸ hchild]
      exact List.mem_map_of_mem (List.mem_append_right _ List.mem_cons_self)
    · have hsub : l ⊆ pre ++ top :: l := fun _ hmem =>
        List.mem_append_right pre (List.mem_cons_of_mem top hmem)
      exact chain_mono (List.map_subset kin hsub) (transGen_of_mem_split hdescends)
  · exact (hstays b hstay).2 a hdescends

end Split

end Lineage
