import Sol.Assoc

/-!
# Objects that events tell of

A log of events, each on one object: the object is created, told something, or destroyed.
Whoever reads a log has a view of the objects that there are; what it knows of one object
depends on the events of that object only.

* `get_view`: the view of one object, from its own events;
* `get_view_filter`: the view of whoever reads the events of some of the objects;
* `known_each`: one batch of events after the other, each batch on its own object;
* `Shows`: the objects that a log tells of, through `Shows.create` and `Shows.each`;
* `Always.append`: few objects have some property at every point of a log.
-/

namespace Objects

/-- What an event does to its object. -/
inductive Sent (ε : Type*)
  | create
  | tell (event : ε)
  | destroy

variable {η ε ν : Type*}

section View

variable [DecidableEq η] (initial : ν) (receive : ν → ε → ν)

/-- What is known of the object after one more of its events. -/
def knownStep (known : Option ν) : Sent ε → Option ν
  | .create => some initial
  | .tell event => known.map fun v => receive v event
  | .destroy => none

/-- The objects after one more event. -/
def viewStep (view : List (η × ν)) (entry : η × Sent ε) : List (η × ν) :=
  match entry.2 with
  | .create => Assoc.remove entry.1 view ++ [(entry.1, initial)]
  | .tell event => Assoc.modify entry.1 (fun v => receive v event) view
  | .destroy => Assoc.remove entry.1 view

/-- The objects that there are after the events, and what is known of them. -/
def view (log : List (η × Sent ε)) : List (η × ν) := log.foldl (viewStep initial receive) []

/-- What is known of one object after the events. -/
def known (log : List (η × Sent ε)) (h : η) : Option ν :=
  ((log.filter fun entry => entry.1 = h).map Prod.snd).foldl (knownStep initial receive) none

variable {initial receive} {log events : List (η × Sent ε)} {h : η}

theorem get_viewStep (view : List (η × ν)) (entry : η × Sent ε) (h : η) :
    Assoc.get (viewStep initial receive view entry) h =
      if entry.1 = h then knownStep initial receive (Assoc.get view h) entry.2
      else Assoc.get view h := by
  obtain ⟨h', sent⟩ := entry
  have hnot : h' ∉ Assoc.keys (Assoc.remove h' view) := by
    rw [← Assoc.get_eq_none_iff, Assoc.get_remove, if_pos rfl]
  cases sent with
  | create =>
    change Assoc.get (Assoc.remove h' view ++ [(h', initial)]) h = _
    rw [Assoc.get_concat hnot, Assoc.get_remove]
    by_cases heq : h = h'
    · rw [if_pos heq, if_pos heq.symm]
      rfl
    · rw [if_neg heq, if_neg heq, if_neg (Ne.symm heq)]
  | tell event =>
    change Assoc.get (Assoc.modify h' (fun v => receive v event) view) h = _
    rw [Assoc.get_modify]
    by_cases heq : h = h'
    · rw [if_pos heq, if_pos heq.symm]
      rfl
    · rw [if_neg heq, if_neg (Ne.symm heq)]
  | destroy =>
    change Assoc.get (Assoc.remove h' view) h = _
    rw [Assoc.get_remove]
    by_cases heq : h = h'
    · rw [if_pos heq, if_pos heq.symm]
      rfl
    · rw [if_neg heq, if_neg (Ne.symm heq)]

/-- The objects of a view are distinct. -/
theorem nodup_keys_view (log : List (η × Sent ε)) :
    (Assoc.keys (view initial receive log)).Nodup := by
  induction log using List.reverseRecOn with
  | nil => exact List.nodup_nil
  | append_singleton log entry ih =>
    unfold view at ih ⊢
    rw [List.foldl_concat]
    obtain ⟨h', sent⟩ := entry
    cases sent with
    | create =>
      refine Assoc.nodup_keys_concat (Assoc.nodup_keys_filter ih _) ?_
      change h' ∉ Assoc.keys (Assoc.remove h' _)
      rw [← Assoc.get_eq_none_iff, Assoc.get_remove, if_pos rfl]
    | tell event =>
      exact (Assoc.keys_modify h' (fun v => receive v event) _).symm ▸ ih
    | destroy => exact Assoc.nodup_keys_filter ih _

/-- What is known of an object comes from its own events. -/
theorem get_view (log : List (η × Sent ε)) (h : η) :
    Assoc.get (view initial receive log) h = known initial receive log h := by
  induction log using List.reverseRecOn with
  | nil => rfl
  | append_singleton log entry ih =>
    unfold view known at ih ⊢
    rw [List.foldl_concat, get_viewStep, ih, List.filter_append, List.map_append,
      List.foldl_append]
    by_cases heq : entry.1 = h
    · rw [if_pos heq, List.filter_cons_of_pos (by simpa using heq)]
      rfl
    · rw [if_neg heq, List.filter_cons_of_neg (by simpa using heq)]
      rfl

/-- The view of whoever reads the events of some of the objects. -/
theorem get_view_filter (p : η → Bool) (log : List (η × Sent ε)) (h : η) :
    Assoc.get (view initial receive (log.filter fun entry => p entry.1)) h =
      if p h then known initial receive log h else none := by
  rw [get_view]
  unfold known
  rw [List.filter_filter]
  split_ifs with hp
  · congr 2
    refine List.filter_congr fun entry _ => ?_
    by_cases heq : entry.1 = h
    · simp [heq, hp]
    · simp [heq]
  · have hnil : log.filter (fun entry => decide (entry.1 = h) && p entry.1) = [] := by
      refine List.filter_eq_nil_iff.mpr fun entry _ => ?_
      by_cases heq : entry.1 = h
      · simp [heq, hp]
      · simp [heq]
    rw [hnil]
    rfl

@[simp] theorem known_nil : known initial receive ([] : List (η × Sent ε)) h = none := rfl

/-- Events on other objects change nothing. -/
theorem known_append_of_ne (hevents : ∀ entry ∈ events, entry.1 ≠ h) :
    known initial receive (log ++ events) h = known initial receive log h := by
  have hnil : events.filter (fun entry => entry.1 = h) = [] :=
    List.filter_eq_nil_iff.mpr fun entry hentry => by simpa using hevents entry hentry
  unfold known
  rw [List.filter_append, hnil, List.append_nil]

/-- A batch of events on the object. -/
theorem known_append_batch (batch : List (Sent ε)) :
    known initial receive (log ++ batch.map (Prod.mk h)) h =
      batch.foldl (knownStep initial receive) (known initial receive log h) := by
  have hall : (batch.map (Prod.mk h)).filter (fun entry => entry.1 = h) =
      batch.map (Prod.mk h) :=
    List.filter_eq_self.mpr fun entry hentry => by
      obtain ⟨sent, -, rfl⟩ := List.mem_map.mp hentry
      exact decide_eq_true rfl
  unfold known
  rw [List.filter_append, hall, List.map_append, List.foldl_append, List.map_map]
  congr 1
  exact List.map_id batch

/-- A batch of tidings on an object that there is. -/
theorem foldl_tell (v : ν) (batch : List ε) :
    (batch.map Sent.tell).foldl (knownStep initial receive) (some v) =
      some (batch.foldl receive v) := by
  induction batch generalizing v with
  | nil => rfl
  | cons event batch ih => exact ih (receive v event)

end View

section Each

variable [DecidableEq η] {initial : ν} {receive : ν → ε → ν} {log : List (η × Sent ε)} {h : η}

/-- Batches on distinct objects, one after the other. -/
theorem known_each {ι : Type*} (objects : List ι) (handle : ι → η)
    (hnodup : (objects.map handle).Nodup) (batch : ι → List (Sent ε)) {o : ι} (ho : o ∈ objects) :
    known initial receive (log ++ objects.flatMap fun o => (batch o).map (Prod.mk (handle o)))
        (handle o) =
      (batch o).foldl (knownStep initial receive) (known initial receive log (handle o)) := by
  obtain ⟨before, after, rfl⟩ := List.append_of_mem ho
  rw [List.map_append, List.map_cons, List.nodup_append, List.nodup_cons] at hnodup
  obtain ⟨-, ⟨hafter, -⟩, hbefore⟩ := hnodup
  have hother : ∀ l : List ι, (∀ o' ∈ l, handle o' ≠ handle o) →
      ∀ entry ∈ l.flatMap fun o => (batch o).map (Prod.mk (handle o)), entry.1 ≠ handle o := by
    intro l hl entry hentry
    obtain ⟨o', ho', hmem⟩ := List.mem_flatMap.mp hentry
    obtain ⟨sent, -, rfl⟩ := List.mem_map.mp hmem
    exact hl o' ho'
  rw [List.flatMap_append, List.flatMap_cons, ← List.append_assoc, ← List.append_assoc,
    known_append_of_ne (hother after fun o' ho' heq => hafter (heq ▸ List.mem_map_of_mem ho')),
    known_append_batch,
    known_append_of_ne (hother before fun o' ho' =>
      hbefore _ (List.mem_map_of_mem ho') _ List.mem_cons_self)]

/-- Batches on other objects change nothing. -/
theorem known_each_of_ne {ι : Type*} (objects : List ι) (handle : ι → η)
    (batch : ι → List (Sent ε)) (hne : ∀ o ∈ objects, handle o ≠ h) :
    known initial receive (log ++ objects.flatMap fun o => (batch o).map (Prod.mk (handle o))) h =
      known initial receive log h := by
  refine known_append_of_ne fun entry hentry => ?_
  obtain ⟨o, ho, hmem⟩ := List.mem_flatMap.mp hentry
  obtain ⟨sent, -, rfl⟩ := List.mem_map.mp hmem
  exact hne o ho

end Each

/-! ### What a log shows -/

section Shows

variable [DecidableEq η] {initial : ν} {receive : ν → ε → ν}

/-- The objects that there are after the events, and what is known of them, in any order. -/
structure Shows (initial : ν) (receive : ν → ε → ν) (l : List (η × ν))
    (log : List (η × Sent ε)) : Prop where
  nodup : (Assoc.keys l).Nodup
  known : ∀ h, known initial receive log h = Assoc.get l h

variable {l l' : List (η × ν)} {log : List (η × Sent ε)}

theorem shows_nil : Shows initial receive [] ([] : List (η × Sent ε)) :=
  ⟨List.nodup_nil, fun _ => rfl⟩

/-- The order does not matter. -/
theorem Shows.perm (h : Shows initial receive l log) (hl : l.Perm l') :
    Shows initial receive l' log :=
  ⟨(hl.map Prod.fst).nodup_iff.mp h.nodup, fun k =>
    (h.known k).trans (Assoc.get_eq_of_perm h.nodup hl k)⟩

/-- Whoever reads the events of some objects has those in the view. -/
theorem Shows.view_perm (h : Shows initial receive l log) (p : η → Bool) :
    (view initial receive (log.filter fun entry => p entry.1)).Perm
      (l.filter fun entry => p entry.1) := by
  refine Assoc.perm_of_get_eq (nodup_keys_view _) (Assoc.nodup_keys_filter h.nodup _) fun k => ?_
  rw [get_view_filter, Assoc.get_filter, h.known k]

/-- Batches on some objects, one after the other. -/
theorem Shows.each (l' : List (η × ν)) (h : Shows initial receive l log) {ι : Type*} (objects : List ι)
    (handle : ι → η) (hhandles : (objects.map handle).Nodup) (batch : ι → List (Sent ε))
    (hnodup : (Assoc.keys l').Nodup)
    (hin : ∀ o ∈ objects, Assoc.get l' (handle o) =
      (batch o).foldl (knownStep initial receive) (Assoc.get l (handle o)))
    (hout : ∀ k, (∀ o ∈ objects, handle o ≠ k) → Assoc.get l' k = Assoc.get l k) :
    Shows initial receive l'
      (log ++ objects.flatMap fun o => (batch o).map (Prod.mk (handle o))) := by
  refine ⟨hnodup, fun k => ?_⟩
  by_cases hk : ∃ o ∈ objects, handle o = k
  · obtain ⟨o, ho, rfl⟩ := hk
    rw [known_each objects handle hhandles batch ho, h.known, hin o ho]
  · have hne : ∀ o ∈ objects, handle o ≠ k := fun o ho heq => hk ⟨o, ho, heq⟩
    rw [known_each_of_ne objects handle batch hne, h.known, hout k hne]

/-- A new object, with its first events. -/
theorem Shows.create (h : Shows initial receive l log) {k : η} (hk : k ∉ Assoc.keys l)
    (batch : List ε) :
    Shows initial receive (l ++ [(k, batch.foldl receive initial)])
      (log ++ (.create :: batch.map .tell).map (Prod.mk k)) := by
  have heach := h.each (l ++ [(k, batch.foldl receive initial)]) [k] id
    (List.nodup_singleton k) (fun _ => .create :: batch.map .tell)
    (Assoc.nodup_keys_concat h.nodup hk) ?_ ?_
  · simpa using heach
  · intro o ho
    rw [List.mem_singleton.mp ho, id_eq, Assoc.get_concat hk, if_pos rfl, List.foldl_cons]
    exact (foldl_tell initial batch).symm
  · intro k' hk'
    rw [Assoc.get_concat hk, if_neg fun heq => hk' k (List.mem_singleton_self k) heq.symm]

end Shows

/-! ### Properties of few objects -/

section Only

variable [DecidableEq η] {initial : ν} {receive : ν → ε → ν} {φ : ν → Prop} {A : η → Prop}
  {log events : List (η × Sent ε)}

/-- Only objects of `A` have the property. -/
def Only (initial : ν) (receive : ν → ε → ν) (φ : ν → Prop) (A : η → Prop)
    (log : List (η × Sent ε)) : Prop :=
  ∀ h v, known initial receive log h = some v → φ v → A h

/-- The event gives no object the property. -/
def Sent.Calm (initial : ν) (receive : ν → ε → ν) (φ : ν → Prop) : Sent ε → Prop
  | .create => ¬φ initial
  | .tell event => ∀ v, φ (receive v event) → φ v
  | .destroy => True

/-- Other objects do not get the property through calm events. -/
theorem Only.append (h : Only initial receive φ A log)
    (hevents : ∀ entry ∈ events, A entry.1 ∨ entry.2.Calm initial receive φ) :
    Only initial receive φ A (log ++ events) := by
  induction events using List.reverseRecOn with
  | nil => rwa [List.append_nil]
  | append_singleton events entry ih =>
    have ih := ih fun entry' hentry' => hevents entry' (List.mem_append_left _ hentry')
    rcases hevents entry (List.mem_append_right _ (List.mem_singleton_self _)) with hA | hcalm
    · intro k v hv hφ
      by_cases heq : entry.1 = k
      · exact heq ▸ hA
      · rw [← List.append_assoc, known_append_of_ne (by simpa using heq)] at hv
        exact ih k v hv hφ
    · intro k v hv hφ
      rw [← get_view, view, ← List.append_assoc, List.foldl_concat, get_viewStep] at hv
      change (if entry.1 = k then
        knownStep initial receive (Assoc.get (view initial receive (log ++ events)) k) entry.2
        else Assoc.get (view initial receive (log ++ events)) k) = some v at hv
      rw [get_view] at hv
      split_ifs at hv with heq
      · obtain ⟨h', sent⟩ := entry
        cases sent with
        | create =>
          cases hv
          exact absurd hφ hcalm
        | tell event =>
          obtain ⟨v', hv', rfl⟩ := Option.map_eq_some_iff.mp hv
          exact ih k v' hv' (hcalm v' hφ)
        | destroy => cases hv
      · exact ih k v hv hφ

/-- At every point of the events only few objects have the property. -/
def Always (initial : ν) (receive : ν → ε → ν) (φ : ν → Prop) (few : (η → Prop) → Prop)
    (log : List (η × Sent ε)) : Prop :=
  ∀ p, p <+: log → ∃ A, few A ∧ Only initial receive φ A p

theorem Always.append {few : (η → Prop) → Prop} (h : Always initial receive φ few log)
    (hfew : few A) (honly : Only initial receive φ A log)
    (hevents : ∀ entry ∈ events, A entry.1 ∨ entry.2.Calm initial receive φ) :
    Always initial receive φ few (log ++ events) := by
  intro p hp
  rcases List.prefix_or_prefix_of_prefix hp (List.prefix_append log events) with hbefore | ⟨p', rfl⟩
  · exact h p hbefore
  · have hp' := (List.prefix_append_right_inj log).mp hp
    exact ⟨A, hfew, honly.append fun entry hentry => hevents entry (hp'.subset hentry)⟩

end Only

end Objects
