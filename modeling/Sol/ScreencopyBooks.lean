import Sol.ScreencopyQueues

/-!
# The books of screen copies

A frame whose copy was asked for is accounted for in one place: the queue of its manager, the
sync points, or the answers.

* `State.count`: how often a frame is accounted for;
* `State.Books`: what holds of all of the queues, also before those without use are cleaned up;
* `Books.filter`: a queue without frames may be dropped, once its manager is not alive;
* `Books.queues`, `Books.setQueue`: a step of every queue, and one of a single queue and of one of
  its frames.
-/

namespace Sol.ScreencopyManager

open Panicking

/-! ### Counting -/

section Count

variable {queues : List (Manager × ScreencopyQueue)} {manager : Manager}
variable {queue queue' : ScreencopyQueue} {f : Frame}

/-- How often the frame is in the queues. -/
def queuedCount (queues : List (Manager × ScreencopyQueue)) (frame : Frame) : ℕ :=
  (queues.map fun p => p.2.count frame).sum

theorem queuedCount_modify (f : Frame) (queue' : ScreencopyQueue)
    (hnodup : (Assoc.keys queues).Nodup)
    (hget : Assoc.get queues manager = some queue) :
    queuedCount (Assoc.modify manager (fun _ => queue') queues) f + queue.count f =
      queuedCount queues f + queue'.count f := by
  obtain ⟨before, after, hsplit, hmodify⟩ := Assoc.exists_split hnodup hget
  rw [hmodify, hsplit]
  unfold queuedCount
  simp only [List.map_append, List.map_cons, List.sum_append, List.sum_cons]
  omega

theorem queuedCount_filter {keep : Manager × ScreencopyQueue → Bool}
    (h : ∀ p ∈ queues, keep p = false → p.2.isEmpty = true) :
    queuedCount (queues.filter keep) f = queuedCount queues f := by
  unfold queuedCount
  induction queues with
  | nil => rfl
  | cons p queues ih =>
    have ih := ih fun p hp => h p (List.mem_cons_of_mem _ hp)
    rw [List.filter_cons, List.map_cons, List.sum_cons]
    cases hp : keep p with
    | true =>
      rw [if_pos rfl, List.map_cons, List.sum_cons, ih]
    | false =>
      rw [if_neg Bool.false_ne_true, ih,
        ScreencopyQueue.count_of_isEmpty (h p List.mem_cons_self hp), zero_add]

/-- A frame in no other queue is as often in the queues as in that one. -/
theorem queuedCount_eq_get (hnodup : (Assoc.keys queues).Nodup)
    (h : ∀ p ∈ queues, 0 < p.2.count f → p.1 = manager) :
    queuedCount queues f = ((Assoc.get queues manager).map fun q => q.count f).getD 0 := by
  unfold queuedCount
  induction queues with
  | nil => rfl
  | cons p queues ih =>
    rw [Assoc.keys_cons, List.nodup_cons] at hnodup
    have ih := ih hnodup.2 fun q hq => h q (List.mem_cons_of_mem _ hq)
    rw [List.map_cons, List.sum_cons, ih, Assoc.get_cons]
    split_ifs with hp
    · rw [← hp, Assoc.get_eq_none_iff.mpr hnodup.1]
      rfl
    · have hzero : p.2.count f = 0 := by
        by_contra hpos
        exact hp (h p List.mem_cons_self (Nat.pos_of_ne_zero hpos))
      rw [hzero, zero_add]

/-- One step of every queue, and what became of the copies. -/
def Stepped (queues : List (Manager × ScreencopyQueue))
    (results : List (Manager × ScreencopyQueue × List Effect)) : Prop :=
  List.Forall₂ (fun p r => r.1 = p.1 ∧ p.2.Moves r.2.1 r.2.2 ∧
    r.2.1.pendingFrames = p.2.pendingFrames) queues results

variable {results : List (Manager × ScreencopyQueue × List Effect)}

theorem Stepped.keys_eq (h : Stepped queues results) :
    Assoc.keys (results.map fun r => (r.1, r.2.1)) = Assoc.keys queues := by
  induction h with
  | nil => rfl
  | cons hp _ ih => rw [List.map_cons, Assoc.keys_cons, Assoc.keys_cons, ih, hp.1]

theorem Stepped.count_eq (h : Stepped queues results) (frame : Frame) :
    queuedCount (results.map fun r => (r.1, r.2.1)) frame +
      ((results.flatMap fun r => r.2.2).map Effect.frame).count frame =
        queuedCount queues frame := by
  unfold queuedCount
  induction h with
  | nil => rfl
  | cons hp _ ih =>
    have hp := hp.2.1.count frame
    simp only [List.map_cons, List.sum_cons, List.flatMap_cons, List.map_append,
      List.count_append] at ih ⊢
    omega

theorem Stepped.ok {frames : Frame → Option FrameObject} (h : Stepped queues results)
    (hok : ∀ p ∈ queues, p.2.Ok frames p.1) :
    ∀ p ∈ results.map fun r => (r.1, r.2.1), p.2.Ok frames p.1 := by
  induction h with
  | nil => exact nofun
  | cons hp _ ih =>
    rw [List.forall_mem_cons] at hok
    rw [List.map_cons, List.forall_mem_cons]
    refine ⟨?_, ih hok.2⟩
    show (_ : ScreencopyQueue).Ok frames _
    rw [hp.1]
    exact hp.2.1.ok hok.1 hp.2.2

end Count

namespace State

variable {s : State} {f : Frame}

/-- How often the frame is accounted for. -/
def count (self : State) (frame : Frame) : ℕ :=
  queuedCount self.queues frame + (self.waiting.map Screencopy.frame).count frame +
    (self.answers.map Prod.fst).count frame

theorem perform_eq (self : State) (effect : Effect) : ∃ waiting answers,
    self.perform effect = { self with waiting, answers } := by
  cases effect
  · exact ⟨self.waiting, _, rfl⟩
  · exact ⟨self.waiting, _, rfl⟩
  · exact ⟨_, self.answers, rfl⟩

theorem count_perform (effect : Effect) :
    (s.perform effect).count f = s.count f + if effect.frame = f then 1 else 0 := by
  have hbeq : ∀ g : Frame, (if (g == f) = true then 1 else 0) = if g = f then 1 else 0 := by
    simp
  cases effect with
  | ready screencopy =>
    show _ + _ + List.count f (screencopy.frame :: _) = _
    rw [List.count_cons, hbeq, ← add_assoc]
    rfl
  | failed screencopy =>
    show _ + _ + List.count f (screencopy.frame :: _) = _
    rw [List.count_cons, hbeq, ← add_assoc]
    rfl
  | waits screencopy =>
    show _ + List.count f (screencopy.frame :: _) + _ = _
    rw [List.count_cons, hbeq, ← add_assoc, add_right_comm]
    rfl

theorem performAll_eq (self : State) (effects : List Effect) : ∃ waiting answers,
    self.performAll effects = { self with waiting, answers } := by
  induction effects generalizing self with
  | nil => exact ⟨self.waiting, self.answers, rfl⟩
  | cons effect effects ih =>
    obtain ⟨waiting, answers, h⟩ := self.perform_eq effect
    obtain ⟨waiting', answers', h'⟩ := ih (self.perform effect)
    refine ⟨waiting', answers', ?_⟩
    show (self.perform effect).performAll effects = _
    rw [h', h]

theorem count_performAll (effects : List Effect) :
    (s.performAll effects).count f = s.count f + (effects.map Effect.frame).count f := by
  induction effects generalizing s with
  | nil => rfl
  | cons effect effects ih =>
    show ((s.perform effect).performAll effects).count f = _
    rw [ih, count_perform, List.map_cons, List.count_cons, add_assoc, Nat.add_comm (ite _ _ _)]
    simp

/-! ### What holds of the queues -/

structure Books (s : State) : Prop where
  nodup : (Assoc.keys s.queues).Nodup
  count : ∀ frame, s.count frame = if copied s.frames frame then 1 else 0
  ok : ∀ p ∈ s.queues, p.2.Ok s.frames p.1
  pending : ∀ manager frame, Pending s.frames manager frame → manager ∈ Assoc.keys s.queues
  alive : ∀ manager, s.isAlive manager = true → manager ∈ Assoc.keys s.queues
  known : ∀ manager ∈ Assoc.keys s.queues, s.managers manager ≠ none

theorem Books.ok_get (h : s.Books) {manager : Manager} {queue : ScreencopyQueue}
    (hget : Assoc.get s.queues manager = some queue) : queue.Ok s.frames manager :=
  h.ok (manager, queue) (Assoc.mem_of_get_eq_some hget)

theorem Books.filter (h : s.Books) {keep : Manager × ScreencopyQueue → Bool}
    (hkeep : ∀ p ∈ s.queues, keep p = false → p.2.isEmpty = true ∧ s.isAlive p.1 = false) :
    { s with queues := s.queues.filter keep }.Books := by
  have hkept : ∀ manager ∈ Assoc.keys s.queues,
      (∀ p ∈ s.queues, p.1 = manager → ¬(p.2.isEmpty = true ∧ s.isAlive manager = false)) →
        manager ∈ Assoc.keys (s.queues.filter keep) := by
    intro manager hmem huse
    obtain ⟨p, hp, rfl⟩ := List.mem_map.mp hmem
    refine List.mem_map.mpr ⟨p, List.mem_filter.mpr ⟨hp, ?_⟩, rfl⟩
    by_contra hnot
    exact huse p hp rfl (hkeep p hp (Bool.not_eq_true _ ▸ hnot))
  refine ⟨Assoc.nodup_keys_filter h.nodup _, fun frame => ?_, ?_, ?_, ?_, ?_⟩
  · rw [← h.count frame]
    show queuedCount _ _ + _ + _ = queuedCount _ _ + _ + _
    rw [queuedCount_filter fun p hp hnot => (hkeep p hp hnot).1]
  · exact fun p hp => h.ok p (List.mem_of_mem_filter hp)
  · intro manager frame hpending
    refine hkept manager (h.pending manager frame hpending) ?_
    rintro p hp rfl ⟨hempty, -⟩
    have hmem := ((h.ok p hp).pending frame).mpr hpending
    rw [(ScreencopyQueue.isEmpty_iff.mp hempty).1] at hmem
    exact Finset.notMem_empty frame hmem
  · intro manager halive
    refine hkept manager (h.alive manager halive) ?_
    rintro p - rfl ⟨-, hdead⟩
    have halive : s.isAlive p.1 = true := halive
    rw [hdead] at halive
    cases halive
  · exact fun manager hmem =>
      h.known manager ((List.filter_sublist.map Prod.fst).subset hmem)

/-- One step of every queue. -/
theorem Books.queues (h : s.Books) {results : List (Manager × ScreencopyQueue × List Effect)}
    (hresults : Stepped s.queues results) :
    (({ s with queues := results.map fun r => (r.1, r.2.1) } : State).performAll
      (results.flatMap fun r => r.2.2)).Books := by
  generalize hqueues : (results.map fun r => (r.1, r.2.1)) = queues
  have hkeys : Assoc.keys queues = Assoc.keys s.queues := hqueues ▸ hresults.keys_eq
  have hcount : ∀ frame, (({ s with queues := queues } : State).performAll
      (results.flatMap fun r => r.2.2)).count frame = if copied s.frames frame then 1 else 0 := by
    intro frame
    have hqueued := hresults.count_eq frame
    rw [hqueues] at hqueued
    rw [count_performAll, ← h.count frame]
    unfold State.count
    dsimp only
    omega
  obtain ⟨waiting, answers, heq⟩ :=
    performAll_eq { s with queues := queues } (results.flatMap fun r => r.2.2)
  rw [heq] at hcount ⊢
  refine ⟨hkeys ▸ h.nodup, hcount, hqueues ▸ hresults.ok h.ok, ?_, ?_, ?_⟩
  · exact fun manager frame hp => hkeys ▸ h.pending manager frame hp
  · exact fun manager halive => hkeys ▸ h.alive manager halive
  · exact fun manager hmem => h.known manager (hkeys ▸ hmem)

/-- One queue changes, and one of the frames of its manager. -/
theorem Books.setQueue (h : s.Books) {manager : Manager} {queue queue' : ScreencopyQueue}
    {object : FrameObject} {waiting : List Screencopy} {answers : List (Frame × Answer)}
    (hget : Assoc.get s.queues manager = some queue) (hf : Captured s.frames manager f)
    (hobject : ∃ info copied, object.state = .pending manager info copied)
    (hok : queue'.Ok (Function.update s.frames f (some object)) manager)
    (hcount : ∀ frame, queue'.count frame + (waiting.map Screencopy.frame).count frame +
        (answers.map Prod.fst).count frame + s.count frame =
      queue.count frame + (s.waiting.map Screencopy.frame).count frame +
        (s.answers.map Prod.fst).count frame +
        if copied (Function.update s.frames f (some object)) frame then 1 else 0) :
    ({ s with
      frames := Function.update s.frames f (some object)
      queues := Assoc.modify manager (fun _ => queue') s.queues
      waiting, answers } : State).Books := by
  have hf' : Captured (Function.update s.frames f (some object)) manager f := by
    obtain ⟨info, copied, hstate⟩ := hobject
    exact captured_of_eq_some (Function.update_self _ _ _) hstate
  have hkeys : Assoc.keys (Assoc.modify manager (fun _ => queue') s.queues) = Assoc.keys s.queues :=
    Assoc.keys_modify _ _ _
  refine ⟨hkeys ▸ h.nodup, fun frame => ?_, ?_, ?_, ?_, ?_⟩
  · have hcount := hcount frame
    have hqueued := queuedCount_modify frame queue' h.nodup hget
    unfold State.count at hcount ⊢
    dsimp only at hcount ⊢
    omega
  · intro p' hp'
    obtain ⟨p, hp, rfl⟩ := List.mem_map.mp hp'
    split_ifs with hmanager
    · rw [hmanager]
      exact hok
    · refine (h.ok p hp).update ⟨fun hnew => ?_, fun hold => ?_⟩ fun screencopy hsc => ?_
      · exact absurd (hf'.of_pending hnew) hmanager
      · exact absurd (hf.of_pending hold) hmanager
      · rintro rfl
        exact hmanager (hf.of_queued ((h.ok p hp).queued screencopy hsc))
  · intro manager' frame hpending
    refine hkeys ▸ ?_
    by_cases hframe : frame = f
    · subst hframe
      rw [hf'.of_pending hpending]
      exact Assoc.mem_keys_of_get hget
    · exact h.pending manager' frame ((pending_update_of_ne hframe).mp hpending)
  · exact fun manager' halive => hkeys ▸ h.alive manager' halive
  · exact fun manager' hmem => h.known manager' (hkeys ▸ hmem)

end State

end Sol.ScreencopyManager
