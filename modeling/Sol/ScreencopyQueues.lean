import Sol.Screencopy

/-!
# The queues of screen copies

* `Pending`, `Queued`: the frames and the copies that belong into the queue of a manager;
* `ScreencopyQueue.Ok`: the queue of a manager holds them;
* `Moves`: what an operation on the queue may do to the copies in it;
* `redrawQueue_spec`: a redraw only moves copies, and does not panic.
-/

namespace Sol.ScreencopyManager

open Panicking

def Effect.frame : Effect → Frame
  | .ready screencopy => screencopy.frame
  | .failed screencopy => screencopy.frame
  | .waits screencopy => screencopy.frame

@[simp] theorem frame_submitAfterSync (screencopy : Screencopy) (sync : Bool) :
    (submitAfterSync screencopy sync).frame = screencopy.frame := by
  cases sync <;> rfl

/-- Copied, or failed from the start. -/
def ScreencopyFrameState.copied : ScreencopyFrameState → Bool
  | .failed => true
  | .pending _ _ copied => copied

/-! ### Frames of a manager -/

section Frames

variable {frames frames' : Frame → Option FrameObject} {manager manager' : Manager} {frame f : Frame}
variable {screencopy : Screencopy} {object : FrameObject}

/-- A frame of the manager that was not copied, and whose `destroyed` handler did not run. -/
def Pending (frames : Frame → Option FrameObject) (manager : Manager) (frame : Frame) : Prop :=
  ∃ object info, frames frame = some object ∧ object.life ≠ .destroyed ∧
    object.state = .pending manager info false

/-- The copy is one of a frame of the manager. -/
def Queued (frames : Frame → Option FrameObject) (manager : Manager) (screencopy : Screencopy) :
    Prop :=
  ∃ object, frames screencopy.frame = some object ∧ object.life ≠ .destroyed ∧
    object.state = .pending manager screencopy.info true

/-- The frames have the states they had, and the same handlers ran. -/
def SameFrames (frames frames' : Frame → Option FrameObject) : Prop :=
  ∀ frame, (frames' frame).map (fun object => (object.state, decide (object.life = .destroyed))) =
    (frames frame).map fun object => (object.state, decide (object.life = .destroyed))

theorem SameFrames.exists (h : SameFrames frames frames') (hobject : frames f = some object) :
    ∃ object', frames' f = some object' ∧ object'.state = object.state ∧
      (object'.life = .destroyed ↔ object.life = .destroyed) := by
  have hf := h f
  rw [hobject, Option.map_some, Option.map_eq_some_iff] at hf
  obtain ⟨object', hobject', heq⟩ := hf
  rw [Prod.mk.injEq, decide_eq_decide] at heq
  exact ⟨object', hobject', heq⟩

theorem SameFrames.symm (h : SameFrames frames frames') : SameFrames frames' frames :=
  fun f => (h f).symm

theorem SameFrames.queued (h : SameFrames frames frames') (hq : Queued frames manager screencopy) :
    Queued frames' manager screencopy := by
  obtain ⟨object, hobject, hlife, hstate⟩ := hq
  obtain ⟨object', hobject', hstate', hlife'⟩ := h.exists hobject
  exact ⟨object', hobject', mt hlife'.mp hlife, hstate'.trans hstate⟩

theorem SameFrames.pending (h : SameFrames frames frames') (hp : Pending frames manager f) :
    Pending frames' manager f := by
  obtain ⟨object, info, hobject, hlife, hstate⟩ := hp
  obtain ⟨object', hobject', hstate', hlife'⟩ := h.exists hobject
  exact ⟨object', info, hobject', mt hlife'.mp hlife, hstate'.trans hstate⟩

theorem SameFrames.pending_iff (h : SameFrames frames frames') :
    Pending frames' manager f ↔ Pending frames manager f :=
  ⟨h.symm.pending, h.pending⟩

/-- Whether the copy of the frame was asked for, or the frame failed from the start. -/
def copied (frames : Frame → Option FrameObject) (frame : Frame) : Bool :=
  (frames frame).any fun object => object.state.copied

theorem copied_of_eq_some (h : frames f = some object) : copied frames f = object.state.copied := by
  unfold copied
  rw [h]
  rfl

theorem copied_of_eq_none (h : frames f = none) : copied frames f = false := by
  unfold copied
  rw [h]
  rfl

theorem SameFrames.copied_eq (h : SameFrames frames frames') :
    copied frames' f = copied frames f := by
  cases hf : frames f with
  | none =>
    have hf' := h f
    rw [hf, Option.map_none, Option.map_eq_none_iff] at hf'
    rw [copied_of_eq_none hf, copied_of_eq_none hf']
  | some object =>
    obtain ⟨object', hobject', hstate, -⟩ := h.exists hf
    rw [copied_of_eq_some hf, copied_of_eq_some hobject', hstate]

theorem copied_update : copied (Function.update frames frame (some object)) f =
    if f = frame then object.state.copied else copied frames f := by
  split_ifs with hf
  · subst hf
    exact copied_of_eq_some (Function.update_self _ _ _)
  · unfold copied
    rw [Function.update_of_ne hf]

theorem pending_update_of_ne (hf : f ≠ frame) :
    Pending (Function.update frames frame (some object)) manager f ↔ Pending frames manager f := by
  unfold Pending
  rw [Function.update_of_ne hf]

theorem queued_update_of_ne (hf : screencopy.frame ≠ frame) :
    Queued (Function.update frames frame (some object)) manager screencopy ↔
      Queued frames manager screencopy := by
  unfold Queued
  rw [Function.update_of_ne hf]

theorem not_pending_update (h : object.life = .destroyed ∨ object.state.copied = true) :
    ¬Pending (Function.update frames frame (some object)) manager frame := by
  rintro ⟨object', info, hobject, hlife, hstate⟩
  rw [Function.update_self, Option.some.injEq] at hobject
  subst hobject
  rcases h with h | h
  · exact hlife h
  · rw [hstate] at h
    cases h

theorem not_pending_of_eq_none (h : frames f = none) : ¬Pending frames manager f := by
  rintro ⟨_, _, hobject, -⟩
  rw [h] at hobject
  cases hobject

/-- The frame, if there is one, was captured through the manager. -/
def Captured (frames : Frame → Option FrameObject) (manager : Manager) (frame : Frame) : Prop :=
  ∀ object, frames frame = some object → ∃ info copied, object.state = .pending manager info copied

theorem captured_of_eq_none (h : frames f = none) : Captured frames manager f := by
  intro object hobject
  rw [h] at hobject
  cases hobject

theorem captured_of_eq_some {info : ScreencopyFrameInfo} {copied : Bool}
    (h : frames f = some object) (hstate : object.state = .pending manager info copied) :
    Captured frames manager f := by
  intro object' hobject
  rw [h] at hobject
  cases hobject
  exact ⟨info, copied, hstate⟩

theorem Captured.of_pending (h : Captured frames manager f) (hp : Pending frames manager' f) :
    manager' = manager := by
  obtain ⟨object, info, hobject, -, hstate⟩ := hp
  obtain ⟨_, _, hstate'⟩ := h object hobject
  rw [hstate] at hstate'
  cases hstate'
  rfl

theorem Captured.of_queued (h : Captured frames manager screencopy.frame)
    (hq : Queued frames manager' screencopy) : manager' = manager := by
  obtain ⟨object, hobject, -, hstate⟩ := hq
  obtain ⟨_, _, hstate'⟩ := h object hobject
  rw [hstate] at hstate'
  cases hstate'
  rfl

end Frames

/-! ### Queues -/

namespace ScreencopyQueue

variable {frames frames' : Frame → Option FrameObject} {manager : Manager} {queue : ScreencopyQueue}
variable {now : ℕ} {f : Frame}

/-- How often the frame is in the queue. -/
def count (self : ScreencopyQueue) (frame : Frame) : ℕ :=
  (self.screencopies.map Screencopy.frame).count frame

structure Ok (frames : Frame → Option FrameObject) (manager : Manager) (queue : ScreencopyQueue) :
    Prop where
  cast : queue.screencopies ≠ [] → ∃ cast, queue.cast = some cast
  pending : ∀ frame, frame ∈ queue.pendingFrames ↔ Pending frames manager frame
  queued : ∀ screencopy ∈ queue.screencopies, Queued frames manager screencopy

theorem Ok.congr (h : queue.Ok frames manager) (hframes : SameFrames frames frames') :
    queue.Ok frames' manager where
  cast := h.cast
  pending := fun frame => (h.pending frame).trans hframes.pending_iff.symm
  queued := fun screencopy hsc => hframes.queued (h.queued screencopy hsc)

/-- Other frames may change. -/
theorem Ok.update {object : FrameObject} (h : queue.Ok frames manager)
    (hpending : Pending (Function.update frames f (some object)) manager f ↔
      Pending frames manager f)
    (hqueued : ∀ screencopy ∈ queue.screencopies, screencopy.frame ≠ f) :
    queue.Ok (Function.update frames f (some object)) manager where
  cast := h.cast
  pending := by
    intro frame
    by_cases hf : frame = f
    · rw [hf, hpending]
      exact h.pending f
    · rw [pending_update_of_ne hf]
      exact h.pending frame
  queued := fun screencopy hsc =>
    (queued_update_of_ne (hqueued screencopy hsc)).mpr (h.queued screencopy hsc)

theorem isEmpty_iff : queue.isEmpty = true ↔ queue.pendingFrames = ∅ ∧ queue.screencopies = [] := by
  simp [isEmpty]

theorem count_of_isEmpty (h : queue.isEmpty = true) : queue.count f = 0 := by
  rw [count, (isEmpty_iff.mp h).2]
  rfl

theorem exists_of_count_pos (h : 0 < queue.count f) :
    ∃ screencopy ∈ queue.screencopies, screencopy.frame = f :=
  List.mem_map.mp (List.count_pos_iff.mp h)

theorem count_eq_zero (h : ∀ screencopy ∈ queue.screencopies, screencopy.frame ≠ f) :
    queue.count f = 0 := by
  refine List.count_eq_zero.mpr fun hmem => ?_
  obtain ⟨screencopy, hsc, hf⟩ := List.mem_map.mp hmem
  exact h screencopy hsc hf

/-- What becomes of the copies of a queue: no frame is lost, and none is answered that was not
in the queue. -/
structure Moves (queue queue' : ScreencopyQueue) (effects : List Effect) : Prop where
  count : ∀ frame, queue'.count frame + (effects.map Effect.frame).count frame = queue.count frame
  subset : queue'.screencopies ⊆ queue.screencopies
  cast : (queue.screencopies ≠ [] → ∃ cast, queue.cast = some cast) → queue'.screencopies ≠ [] →
    ∃ cast, queue'.cast = some cast

theorem Moves.refl (queue : ScreencopyQueue) : queue.Moves queue [] :=
  ⟨fun _ => rfl, List.Subset.refl _, fun h => h⟩

theorem moves_clearExpiredCast : queue.Moves (queue.clearExpiredCast now) [] := by
  unfold clearExpiredCast
  split_ifs with h
  · exact ⟨fun _ => rfl, List.Subset.refl _, fun _ hne => absurd h.1 hne⟩
  · exact .refl queue

theorem moves_retain (keep : Screencopy → Bool) :
    queue.Moves (queue.retain keep now).1 (queue.retain keep now).2 := by
  unfold retain
  split_ifs with h
  · exact .refl queue
  · refine ⟨fun frame => ?_, List.filter_subset_self _, fun hcast hne => ?_⟩
    · have hmap : ((queue.screencopies.filter fun s => !keep s).map Effect.failed).map Effect.frame =
          (queue.screencopies.filter fun s => !keep s).map Screencopy.frame := by
        rw [List.map_map]
        rfl
      rw [hmap]
      have hperm := (List.filter_append_perm keep queue.screencopies).map Screencopy.frame
      rw [List.map_append] at hperm
      show List.count _ _ + List.count _ _ = List.count _ _
      rw [← List.count_append, hperm.count_eq]
    · obtain ⟨cast, hcast⟩ := hcast h
      show ∃ cast, (if queue.screencopies.filter keep = [] then _ else queue.cast) = some cast
      rw [if_neg hne]
      exact ⟨cast, hcast⟩

@[simp] theorem retain_pendingFrames (keep : Screencopy → Bool) :
    (queue.retain keep now).1.pendingFrames = queue.pendingFrames := by
  unfold retain
  split_ifs <;> rfl

theorem mem_retain {keep : Screencopy → Bool} {screencopy : Screencopy}
    (h : screencopy ∈ (queue.retain keep now).1.screencopies) : keep screencopy = true := by
  unfold retain at h
  split_ifs at h with hnil
  · rw [hnil] at h
    cases h
  · exact (List.mem_filter.mp h).2

/-- Popping the first copy is safe while copies in the queue have a cast. -/
theorem pop_eq (now : ℕ) {first : Screencopy} {rest : List Screencopy}
    (hqueue : queue.screencopies = first :: rest) (hcast : ∃ cast, queue.cast = some cast) :
    ∃ cast, queue.pop now = .ok (first, { queue with screencopies := rest, cast := some cast }) := by
  obtain ⟨cast, hcast⟩ := hcast
  unfold pop
  rw [hqueue]
  simp only [hcast]
  exact ⟨_, rfl⟩

theorem moves_pop {first : Screencopy} {rest : List Screencopy} {cast : ScreencopyCast}
    {effect : Effect} (hqueue : queue.screencopies = first :: rest)
    (heffect : effect.frame = first.frame) :
    queue.Moves { queue with screencopies := rest, cast := some cast } [effect] := by
  refine ⟨fun frame => ?_, ?_, fun _ _ => ⟨cast, rfl⟩⟩
  · show List.count _ (rest.map _) + List.count _ [effect.frame] = List.count _ _
    rw [heffect, hqueue, List.map_cons, List.count_cons, List.count_cons, List.count_nil, zero_add]
  · show rest ⊆ _
    rw [hqueue]
    exact List.subset_cons_self _ _

theorem Moves.ok {queue' : ScreencopyQueue} {effects : List Effect} (h : queue.Moves queue' effects)
    (hok : queue.Ok frames manager) (hpending : queue'.pendingFrames = queue.pendingFrames) :
    queue'.Ok frames manager where
  cast := h.cast hok.cast
  pending := fun frame => hpending ▸ hok.pending frame
  queued := fun screencopy hsc => hok.queued screencopy (h.subset hsc)

end ScreencopyQueue

/-- The redraw of an output does not panic, and moves copies of each queue. -/
theorem redrawQueue_spec {frames : Frame → Option FrameObject} {manager : Manager}
    {queue : ScreencopyQueue} (hok : queue.Ok frames manager) (output : Output) (now : ℕ)
    (outcome : State.RedrawOutcome) : Returns (State.redrawQueue output now queue outcome) fun r =>
      queue.Moves r.1 r.2 ∧ r.1.pendingFrames = queue.pendingFrames := by
  unfold State.redrawQueue
  cases hqueue : queue.screencopies with
  | nil => exact ⟨_, rfl, .refl queue, rfl⟩
  | cons first rest =>
    simp only
    have hcast := hok.cast (by rw [hqueue]; exact List.cons_ne_nil _ _)
    obtain ⟨cast, hpop⟩ := ScreencopyQueue.pop_eq now hqueue hcast
    split_ifs with houtput
    · exact ⟨_, rfl, .refl queue, rfl⟩
    · cases outcome with
      | noDamage => exact ⟨_, rfl, .refl queue, rfl⟩
      | failed =>
        simp only [hpop]
        exact ⟨_, rfl, ScreencopyQueue.moves_pop hqueue rfl, rfl⟩
      | rendered sync =>
        simp only [hpop]
        exact ⟨_, rfl, ScreencopyQueue.moves_pop hqueue (frame_submitAfterSync _ _), rfl⟩

end Sol.ScreencopyManager
