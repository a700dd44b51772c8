import Sol.Assoc

/-!
# Event loops

The sources registered with an event loop, each under a token of its own; a token is
never used again.  What is remembered elsewhere is a token, and a token may outlive its
source.

* `tokens`: the tokens of a source, after an insertion and after a removal;
* `Owned`: no other source has the token, now or later;
* `Extends`: what insertions and removals lead to.
-/

structure EventLoop (α : Type*) where
  sources : List (ℕ × α)
  next : ℕ
  nodup : (Assoc.keys sources).Nodup
  fresh : ∀ token ∈ Assoc.keys sources, token < next

namespace EventLoop

variable {α : Type*} {loop loop₁ loop₂ : EventLoop α} {a b : α} {token : ℕ}

def empty : EventLoop α := ⟨[], 0, List.nodup_nil, nofun⟩

/-- The source is registered under the next token. -/
def insertSource (loop : EventLoop α) (a : α) : ℕ × EventLoop α :=
  (loop.next, {
    sources := loop.sources ++ [(loop.next, a)]
    next := loop.next + 1
    nodup := Assoc.nodup_keys_concat loop.nodup fun h => (loop.fresh _ h).false
    fresh := by
      intro token htoken
      rw [Assoc.keys_append, List.mem_append] at htoken
      rcases htoken with htoken | htoken
      · exact (loop.fresh token htoken).trans (Nat.lt_succ_self _)
      · simp_all })

def remove (loop : EventLoop α) (token : ℕ) : EventLoop α where
  sources := Assoc.remove token loop.sources
  next := loop.next
  nodup := Assoc.nodup_keys_filter loop.nodup _
  fresh := fun t ht => loop.fresh t ((List.filter_sublist.map Prod.fst).subset ht)

/-- The source under a token, if it is still there. -/
def source (loop : EventLoop α) (token : ℕ) : Option α := Assoc.get loop.sources token

@[simp] theorem insertSource_next : (loop.insertSource a).2.next = loop.next + 1 := rfl

@[simp] theorem remove_next : (loop.remove token).next = loop.next := rfl

theorem source_insertSource (t : ℕ) : (loop.insertSource a).2.source t =
    if t = loop.next then some a else loop.source t :=
  Assoc.get_concat fun h => (loop.fresh _ h).false

theorem source_remove (t : ℕ) :
    (loop.remove token).source t = if t = token then none else loop.source t :=
  Assoc.get_remove

theorem sources_eq_nil (h : ∀ t, loop.source t = none) : loop.sources = [] := by
  cases hsources : loop.sources with
  | nil => rfl
  | cons entry rest =>
    have hkey := Assoc.get_eq_none_iff.mp (h entry.1)
    rw [hsources] at hkey
    exact absurd List.mem_cons_self hkey

variable [DecidableEq α]

/-- The tokens under which a source is registered. -/
def tokens (loop : EventLoop α) (a : α) : List ℕ :=
  Assoc.keys (loop.sources.filter fun s => s.2 = a)

theorem mem_tokens : token ∈ loop.tokens a ↔ (token, a) ∈ loop.sources := by
  unfold tokens Assoc.keys
  simp only [List.mem_map, List.mem_filter, decide_eq_true_eq, Prod.exists]
  constructor
  · rintro ⟨t, b, ⟨hmem, rfl⟩, rfl⟩
    exact hmem
  · intro hmem
    exact ⟨token, a, ⟨hmem, rfl⟩, rfl⟩

theorem source_eq_some_iff : loop.source token = some a ↔ token ∈ loop.tokens a := by
  rw [mem_tokens]
  exact Assoc.get_eq_some_iff loop.nodup

theorem lt_next_of_mem (h : token ∈ loop.tokens a) : token < loop.next := by
  have hkey : token ∈ Assoc.keys loop.sources :=
    List.mem_map.mpr ⟨(token, a), mem_tokens.mp h, rfl⟩
  exact loop.fresh token hkey

theorem eq_of_mem_tokens (ha : token ∈ loop.tokens a) (hb : token ∈ loop.tokens b) : a = b := by
  have hga : Assoc.get loop.sources token = some a := source_eq_some_iff.mpr ha
  have hgb : Assoc.get loop.sources token = some b := source_eq_some_iff.mpr hb
  exact Option.some.inj (hga.symm.trans hgb)

theorem tokens_insertSource : (loop.insertSource a).2.tokens b =
    if a = b then loop.tokens b ++ [loop.next] else loop.tokens b := by
  unfold tokens insertSource
  rw [List.filter_append]
  by_cases h : a = b
  · rw [if_pos h, List.filter_cons_of_pos (by simp [h]), Assoc.keys_append]
    rfl
  · rw [if_neg h, List.filter_cons_of_neg (by simp [h]), List.filter_nil, List.append_nil]

theorem tokens_remove : (loop.remove token).tokens b = (loop.tokens b).filter (· ≠ token) := by
  unfold tokens remove Assoc.remove Assoc.keys
  rw [List.filter_map, List.filter_filter, List.filter_filter]
  congr 1
  refine List.filter_congr fun s _ => ?_
  simp only [Function.comp_apply, Bool.and_comm]

/-! ### Tokens of one source -/

/-- The token was given out, and no other source has it. -/
structure Owned (loop : EventLoop α) (token : ℕ) (a : α) : Prop where
  lt_next : token < loop.next
  unique : ∀ b, token ∈ loop.tokens b → b = a

/-- What insertions and removals lead to: the tokens there are new, or were there. -/
structure Extends (before after : EventLoop α) : Prop where
  next_le : before.next ≤ after.next
  tokens : ∀ b token, token ∈ after.tokens b → token ∈ before.tokens b ∨ before.next ≤ token

namespace Extends

theorem refl (loop : EventLoop α) : loop.Extends loop := ⟨le_rfl, fun _ _ h => .inl h⟩

theorem trans {loop₃ : EventLoop α} (h₁ : loop₁.Extends loop₂) (h₂ : loop₂.Extends loop₃) :
    loop₁.Extends loop₃ := by
  refine ⟨h₁.next_le.trans h₂.next_le, ?_⟩
  intro b token htoken
  rcases h₂.tokens b token htoken with htoken | hle
  · exact h₁.tokens b token htoken
  · exact .inr (h₁.next_le.trans hle)

theorem insertSource (loop : EventLoop α) (a : α) : loop.Extends (loop.insertSource a).2 := by
  refine ⟨Nat.le_succ _, ?_⟩
  intro b token htoken
  rw [tokens_insertSource] at htoken
  split_ifs at htoken with h
  · rcases List.mem_append.mp htoken with htoken | htoken
    · exact .inl htoken
    · exact .inr (List.mem_singleton.mp htoken).ge
  · exact .inl htoken

theorem remove (loop : EventLoop α) (token : ℕ) : loop.Extends (loop.remove token) := by
  refine ⟨le_rfl, ?_⟩
  intro b t ht
  rw [tokens_remove] at ht
  exact .inl (List.mem_of_mem_filter ht)

end Extends

theorem Owned.extends (h : loop₁.Owned token a) (hloop : loop₁.Extends loop₂) :
    loop₂.Owned token a := by
  refine ⟨h.lt_next.trans_le hloop.next_le, ?_⟩
  intro b htoken
  rcases hloop.tokens b token htoken with htoken | hle
  · exact h.unique b htoken
  · exact absurd h.lt_next hle.not_gt

theorem owned_of_mem (h : token ∈ loop.tokens a) : loop.Owned token a :=
  ⟨lt_next_of_mem h, fun _ hb => eq_of_mem_tokens hb h⟩

/-- A new token belongs to the source that was inserted. -/
theorem owned_insertSource (loop : EventLoop α) (a : α) :
    (loop.insertSource a).2.Owned (loop.insertSource a).1 a := by
  refine owned_of_mem ?_
  rw [tokens_insertSource, if_pos rfl]
  exact List.mem_append_right _ (List.mem_singleton_self _)

/-- The removal of a token leaves the other sources alone. -/
theorem Owned.tokens_remove (h : loop.Owned token a) (hb : b ≠ a) :
    (loop.remove token).tokens b = loop.tokens b := by
  rw [EventLoop.tokens_remove, List.filter_eq_self]
  intro t ht
  have hne : t ≠ token := by
    rintro rfl
    exact hb (h.unique b ht)
  simpa using hne

/-- The removal of the only token of a source. -/
theorem tokens_remove_self (h : loop.tokens a = [token]) : (loop.remove token).tokens a = [] := by
  rw [tokens_remove, h]
  simp

end EventLoop
