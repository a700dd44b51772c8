import Sol.ScreencopyBooks

/-!
# The frames of screen copies

* `Books.inv_cleanupQueues`, `Books.inv_cleanUpQueue`: queues without use are dropped;
* `State.Inv`: the books are kept, and no queue without frames outlives its manager;
* `step_spec`: no step panics, and every step keeps this;
* `frames_spec`: in every reachable state, no frame is answered twice, and a frame whose copy was
  asked for was answered, is in the queue of its manager, or waits for its sync point.
-/

namespace Sol.ScreencopyManager

open Panicking

namespace State

variable {s : State} {f : Frame} {manager : Manager}

structure Inv (s : State) : Prop extends Books s where
  useful : ∀ p ∈ s.queues, ∀ client, s.managers p.1 = some ⟨client, .destroyed⟩ →
    p.2.isEmpty = false

theorem isAlive_eq {object : ManagerObject} (h : s.managers manager = some object) :
    s.isAlive manager = decide (object.life = .alive) := by
  unfold isAlive
  rw [h]

theorem isAlive_iff : s.isAlive manager = true ↔
    ∃ client, s.managers manager = some ⟨client, .alive⟩ := by
  unfold isAlive
  split
  · rename_i object hobject
    rw [decide_eq_true_iff, hobject]
    exact ⟨fun hlife => ⟨object.client, hlife ▸ rfl⟩, fun ⟨_, hsome⟩ => by cases hsome; rfl⟩
  · rename_i hnone
    rw [hnone]
    exact ⟨nofun, fun ⟨_, hsome⟩ => nomatch hsome⟩

theorem Books.inv_cleanupQueues (h : s.Books) : s.cleanupQueues.Inv := by
  refine ⟨h.filter fun p _ hkeep => ?_, fun p hp client hmanager => ?_⟩
  · rw [Bool.or_eq_false_iff, Bool.not_eq_false'] at hkeep
    exact ⟨hkeep.2, hkeep.1⟩
  · have hkeep := (List.mem_filter.mp hp).2
    rw [isAlive_eq (s := s) hmanager] at hkeep
    simpa using hkeep

/-- The others were of use. -/
theorem Books.inv_cleanUpQueue {queue : ScreencopyQueue} (h : (s.setQueue manager queue).Books)
    (huseful : ∀ p ∈ s.queues, p.1 ≠ manager → ∀ client,
      s.managers p.1 = some ⟨client, .destroyed⟩ → p.2.isEmpty = false) :
    (s.cleanUpQueue manager queue).Inv := by
  have hmem : ∀ p ∈ (s.setQueue manager queue).queues,
      p = (manager, queue) ∨ p ∈ s.queues ∧ p.1 ≠ manager := by
    intro p' hp'
    obtain ⟨p, hp, rfl⟩ := List.mem_map.mp hp'
    split_ifs with hmanager
    · exact .inl (by rw [hmanager])
    · exact .inr ⟨hp, hmanager⟩
  unfold cleanUpQueue
  split_ifs with hdrop
  · have hremove : s.removeQueue manager = (s.setQueue manager queue).removeQueue manager := by
      unfold removeQueue State.setQueue
      rw [Assoc.remove_modify]
    rw [hremove]
    refine ⟨h.filter fun p hp hkeep => ?_, fun p hp => ?_⟩
    · obtain rfl | ⟨-, hne⟩ := hmem p hp
      · exact ⟨hdrop.1, eq_false_of_ne_true hdrop.2⟩
      · simp [hne] at hkeep
    · obtain ⟨hp, hne⟩ := List.mem_filter.mp hp
      obtain rfl | ⟨hp, hne⟩ := hmem p hp
      · simp at hne
      · exact huseful p hp hne
  · refine ⟨h, fun p hp client hmanager => ?_⟩
    obtain rfl | ⟨hp, hne⟩ := hmem p hp
    · rw [isAlive_eq (s := s) hmanager] at hdrop
      simpa using hdrop
    · exact huseful p hp hne client hmanager

/-- Some of the managers have another life now. -/
def Changes (life : Life) (managers managers' : Manager → Option ManagerObject) : Prop :=
  ∀ m, managers' m = managers m ∨
    ∃ client old, managers m = some ⟨client, old⟩ ∧ managers' m = some ⟨client, life⟩

theorem changes_update {managers : Manager → Option ManagerObject} {client : Client} {old : Life}
    (life : Life) (h : managers manager = some ⟨client, old⟩) :
    Changes life managers (Function.update managers manager (some ⟨client, life⟩)) := by
  intro m
  by_cases hm : m = manager
  · subst hm
    exact .inr ⟨client, old, h, Function.update_self _ _ _⟩
  · exact .inl (Function.update_of_ne hm _ _)

theorem Books.managers {managers : Manager → Option ManagerObject} {life : Life} (h : s.Books)
    (hchanges : Changes life s.managers managers) (hlife : life ≠ .alive) :
    ({ s with managers } : State).Books where
  nodup := h.nodup
  count := h.count
  ok := h.ok
  pending := h.pending
  alive := by
    intro m hm
    refine h.alive m (isAlive_iff.mpr ?_)
    obtain ⟨client, hclient⟩ := isAlive_iff.mp hm
    rcases hchanges m with heq | ⟨client', old, -, hnew⟩
    · exact ⟨client, heq.symm.trans hclient⟩
    · cases hnew.symm.trans hclient
      exact absurd rfl hlife
  known := by
    intro m hm
    show managers m ≠ none
    rcases hchanges m with heq | ⟨client, old, -, hnew⟩
    · rw [heq]
      exact h.known m hm
    · rw [hnew]
      exact Option.some_ne_none _

theorem Inv.managers {managers : Manager → Option ManagerObject} (h : s.Inv)
    (hchanges : Changes .dead s.managers managers) : ({ s with managers } : State).Inv := by
  refine ⟨h.toBooks.managers hchanges nofun, fun p hp client hclient => ?_⟩
  rcases hchanges p.1 with heq | ⟨client', old, -, hnew⟩
  · exact h.useful p hp client (heq.symm.trans hclient)
  · cases hnew.symm.trans hclient

theorem Books.sameFrames (h : s.Books) {frames : Frame → Option FrameObject}
    (hframes : SameFrames s.frames frames) : ({ s with frames } : State).Books where
  nodup := h.nodup
  count := fun frame => hframes.copied_eq ▸ h.count frame
  ok := fun p hp => (h.ok p hp).congr hframes
  pending := fun m frame hpending => h.pending m frame (hframes.symm.pending hpending)
  alive := h.alive
  known := h.known

theorem sameFrames_update {object object' : FrameObject} (hf : s.frames f = some object)
    (hstate : object'.state = object.state)
    (hlife : object'.life = .destroyed ↔ object.life = .destroyed) :
    SameFrames s.frames (Function.update s.frames f (some object')) := by
  intro frame
  by_cases hframe : frame = f
  · subst hframe
    rw [Function.update_self, hf, Option.map_some, Option.map_some, hstate,
      decide_eq_decide.mpr hlife]
  · rw [Function.update_of_ne hframe]

/-! ### Managers -/

theorem Inv.bind (h : s.Inv) (client : Client) (manager : Manager) :
    (s.bind client manager).Inv := by
  unfold State.bind
  cases hmanager : s.managers manager with
  | some object => exact h
  | none =>
    have hfresh : manager ∉ Assoc.keys s.queues := fun hmem => h.known manager hmem hmanager
    have hnew : ∀ p ∈ s.queues ++ [(manager, ScreencopyQueue.new)],
        p ∈ s.queues ∧ p.1 ≠ manager ∨ p = (manager, .new) := by
      intro p hp
      rcases List.mem_append.mp hp with hp | hp
      · refine .inl ⟨hp, fun heq => hfresh ?_⟩
        exact heq ▸ List.mem_map_of_mem hp
      · exact .inr (List.mem_singleton.mp hp)
    have hkeys : ∀ m, m ∈ Assoc.keys (s.queues ++ [(manager, ScreencopyQueue.new)]) ↔
        m ∈ Assoc.keys s.queues ∨ m = manager := by
      intro m
      rw [Assoc.keys_append, List.mem_append]
      exact or_congr_right List.mem_singleton
    generalize hmanagers : Function.update s.managers manager (some ⟨client, .alive⟩) = managers
    have hself : managers manager = some ⟨client, .alive⟩ := hmanagers ▸ Function.update_self _ _ _
    have hother : ∀ m, m ≠ manager → managers m = s.managers m :=
      fun m hm => hmanagers ▸ Function.update_of_ne hm _ _
    refine ⟨⟨Assoc.nodup_keys_concat h.nodup hfresh, fun frame => ?_, ?_, ?_, ?_, ?_⟩, ?_⟩
    · rw [← h.count frame]
      show queuedCount (s.queues ++ _) _ + _ + _ = queuedCount _ _ + _ + _
      unfold queuedCount
      rw [List.map_append, List.sum_append]
      rfl
    · intro p hp
      rcases hnew p hp with ⟨hp, -⟩ | rfl
      · exact h.ok p hp
      · refine ⟨fun hne => absurd rfl hne, fun frame => ?_, nofun⟩
        refine ⟨fun hmem => absurd hmem (Finset.notMem_empty frame), fun hpending => ?_⟩
        exact absurd (h.pending manager frame hpending) hfresh
    · exact fun m frame hpending => (hkeys m).mpr (.inl (h.pending m frame hpending))
    · intro m halive
      refine (hkeys m).mpr ?_
      by_cases hm : m = manager
      · exact .inr hm
      · obtain ⟨client', hclient⟩ := isAlive_iff.mp halive
        exact .inl (h.alive m (isAlive_iff.mpr ⟨client', (hother m hm).symm.trans hclient⟩))
    · intro m hmem
      show managers m ≠ none
      by_cases hm : m = manager
      · rw [hm, hself]
        exact Option.some_ne_none _
      · rw [hother m hm]
        exact h.known m (((hkeys m).mp hmem).resolve_right hm)
    · intro p hp client' hdestroyed
      rcases hnew p hp with ⟨hp, hne⟩ | rfl
      · exact h.useful p hp client' ((hother p.1 hne).symm.trans hdestroyed)
      · cases hself.symm.trans hdestroyed

theorem Inv.destroyManager (h : s.Inv) (manager : Manager) : (s.destroyManager manager).Inv := by
  unfold State.destroyManager
  split
  · rename_i client hmanager
    exact h.managers (changes_update .dead hmanager)
  · exact h

theorem Inv.managerDestroyed (h : s.Inv) (manager : Manager) :
    (s.managerDestroyed manager).Inv := by
  unfold State.managerDestroyed
  split
  · rename_i client hmanager
    generalize hmanagers : Function.update s.managers manager (some ⟨client, .destroyed⟩) = managers
    have hself : managers manager = some ⟨client, .destroyed⟩ :=
      hmanagers ▸ Function.update_self _ _ _
    have hother : ∀ m, m ≠ manager → managers m = s.managers m :=
      fun m hm => hmanagers ▸ Function.update_of_ne hm _ _
    have hchanges : Changes .destroyed s.managers managers :=
      hmanagers ▸ changes_update .destroyed hmanager
    have hbooks : ({ s with managers } : State).Books := h.toBooks.managers hchanges nofun
    have huseful : ∀ p ∈ s.queues, p.1 ≠ manager → ∀ client', managers p.1 =
        some ⟨client', .destroyed⟩ → p.2.isEmpty = false :=
      fun p hp hne client' hclient => h.useful p hp client' ((hother p.1 hne).symm.trans hclient)
    have hdead : ({ s with managers } : State).isAlive manager = false :=
      isAlive_eq (s := { s with managers }) hself
    dsimp only
    cases hget : Assoc.get s.queues manager with
    | none =>
      refine ⟨hbooks, fun p hp => huseful p hp ?_⟩
      rintro rfl
      exact Assoc.get_eq_none_iff.mp hget (List.mem_map_of_mem hp)
    | some queue =>
      have hunique : ∀ p ∈ s.queues, p.1 = manager → p.2 = queue := by
        rintro ⟨_, queue'⟩ hp rfl
        have hget' := (Assoc.get_eq_some_iff h.nodup).mpr hp
        exact Option.some.inj (hget'.symm.trans hget)
      show (ite _ _ _ : State).Inv
      split_ifs with hempty
      · refine ⟨hbooks.filter fun p hp hkeep => ?_, fun p hp => ?_⟩
        · obtain rfl : p.1 = manager := by simpa using hkeep
          rw [hunique p hp rfl]
          exact ⟨hempty, hdead⟩
        · obtain ⟨hp, hne⟩ := List.mem_filter.mp hp
          exact huseful p hp (of_decide_eq_true hne)
      · refine ⟨hbooks, fun p hp => ?_⟩
        by_cases hne : p.1 = manager
        · intro _ _
          rw [hunique p hp hne]
          exact eq_false_of_ne_true hempty
        · exact huseful p hp hne
  · exact h

theorem sameFrames_disconnect (s : State) (client : Client) :
    SameFrames s.frames (s.disconnect client).frames := by
  intro frame
  show Option.map _ (Option.map _ (s.frames frame)) = _
  rw [Option.map_map]
  congr 1
  funext object
  rw [Function.comp_apply]
  split_ifs with halive
  · show (object.state, decide (Life.dead = .destroyed)) = _
    rw [halive.2]
    rfl
  · rfl

theorem Inv.disconnect (h : s.Inv) (client : Client) : (s.disconnect client).Inv := by
  have hchanges : Changes .dead s.managers (s.disconnect client).managers := by
    intro m
    unfold State.disconnect
    cases hm : s.managers m with
    | none => exact .inl (by simp only [hm, Option.map_none])
    | some object =>
      obtain ⟨client', old⟩ := object
      by_cases halive : client' = client ∧ old = .alive
      · exact .inr ⟨client', old, rfl, by simp only [hm, Option.map_some, if_pos halive]⟩
      · exact .inl (by simp only [hm, Option.map_some, if_neg halive])
  have hmanagers := h.managers hchanges
  exact ⟨hmanagers.toBooks.sameFrames (sameFrames_disconnect s client), hmanagers.useful⟩

/-! ### Frames -/

theorem Inv.destroyFrame (h : s.Inv) (frame : Frame) : (s.destroyFrame frame).Inv := by
  unfold State.destroyFrame
  split
  · rename_i client state hframe
    have hsame : SameFrames s.frames
        (Function.update s.frames frame (some ⟨client, .dead, state⟩)) :=
      sameFrames_update hframe rfl ⟨nofun, nofun⟩
    exact ⟨h.toBooks.sameFrames hsame, h.useful⟩
  · exact h

/-- A frame that was not pending before and is in no queue changes. -/
theorem Inv.update (h : s.Inv) {object : FrameObject} {answers : List (Frame × Answer)}
    (hpending : ∀ m, Pending (Function.update s.frames f (some object)) m f ↔ Pending s.frames m f)
    (hqueued : ∀ p ∈ s.queues, ∀ screencopy ∈ p.2.screencopies, screencopy.frame ≠ f)
    (hcount : ∀ frame, ({ s with answers } : State).count frame =
      if copied (Function.update s.frames f (some object)) frame then 1 else 0) :
    ({ s with frames := Function.update s.frames f (some object), answers } : State).Inv := by
  refine ⟨⟨h.nodup, hcount, fun p hp => (h.ok p hp).update (hpending p.1) (hqueued p hp),
    fun m frame hp => ?_, h.alive, h.known⟩, h.useful⟩
  by_cases hframe : frame = f
  · subst hframe
    exact h.pending m frame ((hpending m).mp hp)
  · exact h.pending m frame ((pending_update_of_ne hframe).mp hp)

theorem Inv.capture (h : s.Inv) (manager : Manager) (frame : Frame)
    (info? : Option ScreencopyFrameInfo) : Returns (s.capture manager frame info?) Inv := by
  unfold State.capture
  split
  · rename_i client hmanager hframe
    have hnone : ∀ p ∈ s.queues, ∀ screencopy ∈ p.2.screencopies, screencopy.frame ≠ frame := by
      intro p hp screencopy hsc heq
      obtain ⟨object, hobject, -⟩ := (h.ok p hp).queued screencopy hsc
      rw [heq, hframe] at hobject
      cases hobject
    have hcopied := copied_of_eq_none hframe
    cases info? with
    | none =>
      refine returns_ok.mpr (h.update (fun m => ⟨fun hp => ?_, fun hp => ?_⟩) hnone fun f => ?_)
      · exact absurd hp (not_pending_update (.inr rfl))
      · exact absurd hp (not_pending_of_eq_none hframe)
      · rw [copied_update]
        have hcount := h.count f
        show queuedCount _ _ + _ + List.count f (frame :: _) = _
        rw [List.count_cons, ← add_assoc]
        show s.count f + _ = _
        by_cases hf : f = frame
        · subst hf
          rw [hcount, hcopied]
          simp [ScreencopyFrameState.copied]
        · have hne : ¬(frame == f) = true := by simpa using Ne.symm hf
          rw [hcount, if_neg hne, if_neg hf, add_zero]
    | some info =>
      have hkey := h.alive manager (isAlive_iff.mpr ⟨client, hmanager⟩)
      obtain ⟨queue, hget⟩ := Assoc.exists_get_of_mem_keys hkey
      have hok := h.ok_get hget
      show Returns (unwrap (Assoc.get s.queues manager) >>= _) Inv
      rw [hget]
      have hbooks : (({ s with
          frames := Function.update s.frames frame
            (some ⟨client, .alive, .pending manager info false⟩) } : State).setQueue manager
              { queue with pendingFrames := insert frame queue.pendingFrames }).Books := by
        refine h.toBooks.setQueue hget (captured_of_eq_none hframe) ⟨info, false, rfl⟩
          ⟨hok.cast, fun f => ?_, fun screencopy hsc => ?_⟩ fun f => ?_
        · rw [Finset.mem_insert]
          by_cases hf : f = frame
          · subst hf
            exact ⟨fun _ => ⟨_, info, Function.update_self _ _ _, nofun, rfl⟩, fun _ => .inl rfl⟩
          · rw [pending_update_of_ne hf, ← hok.pending f]
            exact or_iff_right hf
        · rw [queued_update_of_ne (hnone _ (Assoc.mem_of_get_eq_some hget) screencopy hsc)]
          exact hok.queued screencopy hsc
        · rw [h.count f, copied_update]
          by_cases hf : f = frame
          · subst hf
            rw [hcopied, if_pos rfl]
            rfl
          · rw [if_neg hf]
            rfl
      refine returns_ok.mpr ⟨hbooks, fun p' hp' client' hclient => ?_⟩
      obtain ⟨p, hp, rfl⟩ := List.mem_map.mp hp'
      split_ifs at hclient ⊢ with hne
      · have hclient : s.managers p.1 = _ := hclient
        rw [hne, hmanager] at hclient
        cases hclient
      · exact h.useful p hp client' hclient
  · exact returns_ok.mpr h

theorem frame_cases (manager : Manager) (screencopy : Screencopy) (outcome : RenderOutcome)
    {queue : ScreencopyQueue} (hget : Assoc.get s.queues manager = some queue) :
    (∃ effect : Effect, effect.frame = screencopy.frame ∧
      s.frame manager screencopy outcome = s.perform effect) ∨
    s.frame manager screencopy outcome = s.setQueue manager (queue.push screencopy s.now) := by
  unfold State.frame
  split_ifs
  · unfold State.push
    rw [hget]
    exact .inr rfl
  · refine .inl ?_
    unfold renderWithoutDamage
    split
    · exact ⟨_, frame_submitAfterSync _ _, rfl⟩
    · exact ⟨.failed screencopy, rfl, rfl⟩
  · exact .inl ⟨.failed screencopy, rfl, rfl⟩

/-- A frame without a copy that belongs into a queue is in none. -/
theorem Books.frame_ne (h : s.Books) {object : FrameObject} (hf : s.frames f = some object)
    (hstate : ∀ m ∈ Assoc.keys s.queues, ∀ info, object.state ≠ .pending m info true) :
    ∀ p ∈ s.queues, ∀ screencopy ∈ p.2.screencopies, screencopy.frame ≠ f := by
  intro p hp screencopy hsc heq
  obtain ⟨object', hobject, -, hqueued⟩ := (h.ok p hp).queued screencopy hsc
  rw [heq, hf] at hobject
  cases hobject
  exact hstate p.1 (List.mem_map_of_mem hp) _ hqueued

/-- The copy of a pending frame was asked for, and the frame is in the queue or not. -/
theorem ok_copied {frames : Frame → Option FrameObject} {queue : ScreencopyQueue}
    {client : Client} {info : ScreencopyFrameInfo} (hok : queue.Ok frames manager)
    (hf : frames f = some ⟨client, .alive, .pending manager info false⟩)
    (hne : ∀ screencopy ∈ queue.screencopies, screencopy.frame ≠ f) :
    { queue with pendingFrames := queue.pendingFrames.erase f }.Ok
      (Function.update frames f (some ⟨client, .alive, .pending manager info true⟩)) manager where
  cast := hok.cast
  pending := by
    intro frame
    rw [Finset.mem_erase]
    by_cases hframe : frame = f
    · subst hframe
      refine ⟨fun hmem => absurd rfl hmem.1, fun hp => ?_⟩
      exact absurd hp (not_pending_update (.inr rfl))
    · rw [pending_update_of_ne hframe, ← hok.pending frame]
      exact and_iff_right hframe
  queued := fun screencopy hsc =>
    (queued_update_of_ne (hne screencopy hsc)).mpr (hok.queued screencopy hsc)

theorem Inv.copy (h : s.Inv) (frame : Frame) (buffer : Buffer) (withDamage : Bool)
    (outcome : RenderOutcome) : Returns (s.copy frame buffer withDamage outcome) Inv := by
  unfold State.copy
  split
  · rename_i client manager info copied hframe
    split_ifs with hcopied hfits
    · exact returns_ok.mpr (h.disconnect client)
    · obtain rfl : copied = false := eq_false_of_ne_true hcopied
      have hkey := h.pending manager frame ⟨_, info, hframe, Life.noConfusion, rfl⟩
      obtain ⟨queue, hget⟩ := Assoc.exists_get_of_mem_keys hkey
      have hne := h.frame_ne hframe fun _ _ _ => by simp
      have hok := ok_copied (h.ok_get hget) hframe (hne _ (Assoc.mem_of_get_eq_some hget))
      have hcopied' : ∀ f, (if ScreencopyManager.copied (Function.update s.frames frame
          (some ⟨client, .alive, .pending manager info true⟩)) f then 1 else 0) =
            s.count f + if frame = f then 1 else 0 := by
        intro f
        rw [copied_update, h.count f]
        by_cases hf : f = frame
        · subst hf
          rw [copied_of_eq_some hframe, if_pos rfl, if_pos rfl]
          rfl
        · rw [if_neg hf, if_neg (Ne.symm hf), add_zero]
      generalize hs' : ({ s with
        frames := Function.update s.frames frame
          (some ⟨client, .alive, .pending manager info true⟩) } : State) = s'
      have hget' : Assoc.get s'.queues manager = some queue := hs' ▸ hget
      dsimp only
      rcases frame_cases manager ⟨frame, info, withDamage⟩ outcome hget' with
        ⟨effect, heffect, heq⟩ | heq
      · have heffect : effect.frame = frame := heffect
        obtain ⟨waiting, answers, hperform⟩ := s'.perform_eq effect
        have hcount : ∀ f, (s'.perform effect).count f = s'.count f + if effect.frame = f then 1
          else 0 := fun f => count_perform effect
        rw [heq]
        rw [hperform] at hcount ⊢
        subst hs'
        show Returns (unwrap (Assoc.get s.queues manager) >>= _) Inv
        rw [hget]
        refine returns_ok.mpr (Books.inv_cleanUpQueue ?_ fun p hp _ => h.useful p hp)
        refine h.toBooks.setQueue hget (captured_of_eq_some hframe rfl) ⟨info, true, rfl⟩ hok
          fun f => ?_
        have hcount := hcount f
        rw [hcopied', ← heffect]
        unfold State.count at hcount
        dsimp only at hcount ⊢
        show queue.count f + _ + _ + _ = _
        omega
      · generalize hqueue : queue.push ⟨frame, info, withDamage⟩ s'.now = queue' at heq
        have hscreencopies : queue'.screencopies =
            queue.screencopies ++ [⟨frame, info, withDamage⟩] := hqueue ▸ rfl
        have hpending : queue'.pendingFrames = queue.pendingFrames := hqueue ▸ rfl
        have hcast : ∃ cast, queue'.cast = some cast := by
          subst hqueue
          unfold ScreencopyQueue.push
          cases queue.cast <;> exact ⟨_, rfl⟩
        rw [heq]
        subst hs'
        show Returns
          (unwrap (Assoc.get (Assoc.modify manager (fun _ => queue') s.queues) manager) >>= _)
          Inv
        rw [Assoc.get_modify, if_pos rfl, hget]
        refine returns_ok.mpr (Books.inv_cleanUpQueue ?_ fun p' hp' hne => ?_)
        · unfold State.setQueue
          rw [Assoc.modify_modify]
          refine h.toBooks.setQueue hget (captured_of_eq_some hframe rfl) ⟨info, true, rfl⟩
            ⟨fun _ => hcast, fun f => ?_, ?_⟩ fun f => ?_
          · rw [hpending]
            exact hok.pending f
          · show ∀ screencopy ∈ queue'.screencopies, _
            rw [hscreencopies]
            intro screencopy hsc
            rcases List.mem_append.mp hsc with hsc | hsc
            · exact hok.queued screencopy hsc
            · obtain rfl := List.mem_singleton.mp hsc
              exact ⟨_, Function.update_self _ _ _, Life.noConfusion, rfl⟩
          · have hqueued : queue'.count f = queue.count f + if frame = f then 1 else 0 := by
              unfold ScreencopyQueue.count
              rw [hscreencopies, List.map_append, List.count_append]
              simp [List.count_singleton]
            rw [hcopied']
            show queue'.count f + _ + _ + _ = _
            rw [hqueued]
            dsimp only
            omega
        · obtain ⟨p, hp, rfl⟩ := List.mem_map.mp hp'
          split_ifs at hne ⊢ with hmanager
          · exact absurd hmanager hne
          · exact h.useful p hp
    · exact returns_ok.mpr (h.disconnect client)
  · exact returns_ok.mpr h

/-- The copies of a frame whose handler runs are dropped. -/
theorem ok_removeFrame {frames : Frame → Option FrameObject} {queue : ScreencopyQueue}
    (hok : queue.Ok frames manager) (f : Frame) (object : FrameObject)
    (hlife : object.life = .destroyed) (now : ℕ) :
    (queue.removeFrame f now).1.Ok (Function.update frames f (some object)) manager := by
  have hmoves : ScreencopyQueue.Moves
      { queue with pendingFrames := queue.pendingFrames.erase f }
    (queue.removeFrame f now).1 (queue.removeFrame f now).2 := ScreencopyQueue.moves_retain _
  refine ⟨hmoves.cast hok.cast, fun frame => ?_, fun screencopy hsc => ?_⟩
  · have hpending : (queue.removeFrame f now).1.pendingFrames = queue.pendingFrames.erase f :=
      ScreencopyQueue.retain_pendingFrames _
    rw [hpending, Finset.mem_erase]
    by_cases hframe : frame = f
    · subst hframe
      refine ⟨fun hmem => absurd rfl hmem.1, fun hp => ?_⟩
      exact absurd hp (not_pending_update (.inl hlife))
    · rw [pending_update_of_ne hframe, ← hok.pending frame]
      exact and_iff_right hframe
  · have hne : screencopy.frame ≠ f := of_decide_eq_true (ScreencopyQueue.mem_retain hsc)
    exact (queued_update_of_ne hne).mpr (hok.queued screencopy (hmoves.subset hsc))

theorem Inv.frameDestroyed (h : s.Inv) (frame : Frame) : (s.frameDestroyed frame).Inv := by
  unfold State.frameDestroyed
  split
  · rename_i client state hframe
    have hcopied : ∀ f, copied (Function.update s.frames frame (some ⟨client, .destroyed, state⟩)) f =
        copied s.frames f := by
      intro f
      rw [copied_update]
      split_ifs with hf
      · rw [hf, copied_of_eq_some hframe]
      · rfl
    have hgone : ∀ m, ¬Pending (Function.update s.frames frame
        (some ⟨client, .destroyed, state⟩)) m frame := fun m => not_pending_update (.inl rfl)
    have hcount : ∀ f, s.count f = if copied (Function.update s.frames frame
        (some ⟨client, .destroyed, state⟩)) f then 1 else 0 := fun f => (hcopied f).symm ▸ h.count f
    cases state with
    | failed =>
      refine h.update (fun m => iff_of_false (hgone m) ?_)
        (h.frame_ne hframe fun _ _ _ => nofun) hcount
      rintro ⟨object, info, hobject, -, hstate⟩
      cases hframe.symm.trans hobject
      cases hstate
    | pending manager info asked =>
      dsimp only
      cases hget : Assoc.get s.queues manager with
      | none =>
        have hkey := Assoc.get_eq_none_iff.mp hget
        refine h.update (fun m => iff_of_false (hgone m) ?_) (h.frame_ne hframe ?_) hcount
        · intro hpending
          obtain rfl := (captured_of_eq_some hframe rfl).of_pending hpending
          exact hkey (h.pending m frame hpending)
        · rintro m hm info' hstate
          cases hstate
          exact hkey hm
      | some queue =>
        have hok := ok_removeFrame (h.ok_get hget) frame
          ⟨client, .destroyed, .pending manager info asked⟩ rfl s.now
        have hmoves : ({ queue with pendingFrames := queue.pendingFrames.erase frame } :
            ScreencopyQueue).Moves (queue.removeFrame frame s.now).1
              (queue.removeFrame frame s.now).2 := ScreencopyQueue.moves_retain _
        dsimp only
        generalize queue.removeFrame frame s.now = removed at hok hmoves
        generalize hs' : ({ s with
          frames := Function.update s.frames frame
            (some ⟨client, .destroyed, .pending manager info asked⟩) } : State) = s'
        have hperformed : ∀ f, (s'.performAll removed.2).count f =
          s'.count f + (removed.2.map Effect.frame).count f := fun f => count_performAll removed.2
        obtain ⟨waiting, answers, hperform⟩ := s'.performAll_eq removed.2
        rw [hperform] at hperformed ⊢
        subst hs'
        refine Books.inv_cleanUpQueue ?_ fun p hp _ => h.useful p hp
        refine h.toBooks.setQueue hget (captured_of_eq_some hframe rfl) ⟨info, asked, rfl⟩ hok
          fun f => ?_
        have hperformed := hperformed f
        have hmoved := hmoves.count f
        have hqueue : ({ queue with pendingFrames := queue.pendingFrames.erase frame } :
          ScreencopyQueue).count f = queue.count f := rfl
        rw [← hcount f]
        unfold State.count at hperformed ⊢
        dsimp only at hperformed ⊢
        omega
  · exact h

theorem Inv.syncDone (h : s.Inv) (screencopy : Screencopy) : (s.syncDone screencopy).Inv := by
  unfold State.syncDone
  split_ifs with hmem
  · refine ⟨⟨h.nodup, fun f => ?_, h.ok, h.pending, h.alive, h.known⟩, h.useful⟩
    refine Eq.trans ?_ (h.count f)
    rw [count_perform]
    have hperm := ((List.perm_cons_erase hmem).map Screencopy.frame).count_eq f
    rw [List.map_cons, List.count_cons] at hperm
    unfold State.count
    rw [hperm]
    have hbeq : (if (screencopy.frame == f) = true then 1 else 0) =
      if screencopy.frame = f then 1 else 0 := by simp
    rw [hbeq]
    show _ + _ + _ + (if screencopy.frame = f then 1 else 0) = _
    dsimp only
    omega
  · exact h

/-! ### Outputs -/

theorem Inv.withQueues (h : s.Inv) {results : List (Manager × ScreencopyQueue × List Effect)}
    (hresults : Stepped s.queues results) : (s.withQueues results).Inv :=
  (h.toBooks.queues hresults).inv_cleanupQueues

theorem Inv.redraw (h : s.Inv) (output : Output) (outcomes : Manager → RedrawOutcome) :
    Returns (s.redraw output outcomes) Inv := by
  unfold State.redraw
  rw [returns_bind]
  refine (returns_mapM (R := fun p r => r.1 = p.1 ∧ p.2.Moves r.2.1 r.2.2 ∧
    r.2.1.pendingFrames = p.2.pendingFrames) fun p hp => ?_).mono fun results hresults => ?_
  · unfold redrawEntry
    rw [returns_bind]
    refine (redrawQueue_spec (h.ok p hp) output s.now (outcomes p.1)).mono fun r hr => ?_
    exact returns_ok.mpr ⟨rfl, hr⟩
  · exact returns_ok.mpr (h.withQueues hresults)

theorem Inv.outputs (h : s.Inv) (outputs : Finset Output) : ({ s with outputs } : State).Inv :=
  ⟨⟨h.nodup, h.count, h.ok, h.pending, h.alive, h.known⟩, h.useful⟩

theorem Inv.removeOutput (h : s.Inv) (output : Output) : (s.removeOutput output).Inv := by
  refine (h.outputs (s.outputs.erase output)).withQueues ?_
  refine List.forall₂_map_right_iff.mpr (List.forall₂_same.mpr fun p _ => ⟨rfl, ?_, ?_⟩)
  · exact ScreencopyQueue.moves_retain _
  · exact ScreencopyQueue.retain_pendingFrames _

theorem Inv.clearExpiredCasts (h : s.Inv) (now : ℕ) : (s.clearExpiredCasts now).Inv := by
  have hsame : ∀ queue : ScreencopyQueue,
      (queue.clearExpiredCast now).pendingFrames = queue.pendingFrames ∧
        (queue.clearExpiredCast now).screencopies = queue.screencopies := by
    intro queue
    unfold ScreencopyQueue.clearExpiredCast
    split_ifs <;> exact ⟨rfl, rfl⟩
  have hkeys : Assoc.keys (s.queues.map fun p => (p.1, p.2.clearExpiredCast now)) =
      Assoc.keys s.queues := by
    unfold Assoc.keys
    rw [List.map_map]
    rfl
  refine ⟨⟨hkeys ▸ h.nodup, fun f => ?_, fun p' hp' => ?_, ?_, ?_, ?_⟩, fun p' hp' => ?_⟩
  · refine Eq.trans ?_ (h.count f)
    show queuedCount (s.queues.map _) f + _ + _ = queuedCount s.queues f + _ + _
    unfold queuedCount ScreencopyQueue.count
    rw [List.map_map]
    simp only [Function.comp_def, (hsame _).2]
    rfl
  · obtain ⟨p, hp, rfl⟩ := List.mem_map.mp hp'
    exact ScreencopyQueue.moves_clearExpiredCast.ok (h.ok p hp) (hsame p.2).1
  · exact fun m frame hp => hkeys ▸ h.pending m frame hp
  · exact fun m halive => hkeys ▸ h.alive m halive
  · exact fun m hm => h.known m (hkeys ▸ hm)
  · obtain ⟨p, hp, rfl⟩ := List.mem_map.mp hp'
    intro client hclient
    have huseful := h.useful p hp client hclient
    unfold ScreencopyQueue.isEmpty at huseful ⊢
    dsimp only
    rwa [(hsame p.2).1, (hsame p.2).2]

/-! ### Runs -/

theorem step_spec (h : s.Inv) (step : Step) : Returns (s.step step) Inv := by
  cases step with
  | bind client manager => exact returns_ok.mpr (h.bind client manager)
  | capture manager frame info? => exact h.capture manager frame info?
  | destroyManager manager => exact returns_ok.mpr (h.destroyManager manager)
  | managerDestroyed manager => exact returns_ok.mpr (h.managerDestroyed manager)
  | copy frame buffer withDamage outcome => exact h.copy frame buffer withDamage outcome
  | destroyFrame frame => exact returns_ok.mpr (h.destroyFrame frame)
  | frameDestroyed frame => exact returns_ok.mpr (h.frameDestroyed frame)
  | disconnect client => exact returns_ok.mpr (h.disconnect client)
  | syncDone screencopy => exact returns_ok.mpr (h.syncDone screencopy)
  | redraw output outcomes => exact h.redraw output outcomes
  | addOutput output => exact returns_ok.mpr (h.outputs _)
  | removeOutput output => exact returns_ok.mpr (h.removeOutput output)
  | clearExpiredCasts now => exact returns_ok.mpr (h.clearExpiredCasts now)

theorem inv_of_initial (h : machine.initial s) : s.Inv := by
  obtain ⟨hmanagers, hframes, hqueues, hwaiting, hanswers⟩ := h
  have hkeys : Assoc.keys s.queues = [] := by rw [hqueues]; rfl
  refine ⟨⟨hkeys ▸ List.nodup_nil, fun f => ?_, ?_, fun m f hp => ?_, fun m halive => ?_, ?_⟩, ?_⟩
  · rw [copied_of_eq_none (hframes f)]
    unfold State.count
    rw [hqueues, hwaiting, hanswers]
    rfl
  · rw [hqueues]
    exact nofun
  · exact absurd hp (not_pending_of_eq_none (hframes f))
  · obtain ⟨client, hclient⟩ := isAlive_iff.mp halive
    cases (hmanagers m).symm.trans hclient
  · rw [hkeys]
    exact nofun
  · rw [hqueues]
    exact nofun

theorem reachable_inv (h : machine.ReachableBy (fun _ _ => True) s) : s.Inv :=
  h.invariant (fun _ hs => inv_of_initial hs) fun _ step hs _ => (step_spec hs step).ensures

/-- How often the frame is in the queue of the manager. -/
def inQueue (self : State) (manager : Manager) (frame : Frame) : ℕ :=
  ((Assoc.get self.queues manager).map fun queue => queue.count frame).getD 0

theorem Inv.queuedCount_eq (h : s.Inv) {object : FrameObject} (hf : s.frames f = some object)
    {info : ScreencopyFrameInfo} {asked : Bool}
    (hstate : object.state = .pending manager info asked) :
    queuedCount s.queues f = s.inQueue manager f := by
  refine queuedCount_eq_get h.nodup fun p hp hpos => ?_
  obtain ⟨screencopy, hsc, rfl⟩ := ScreencopyQueue.exists_of_count_pos hpos
  exact (captured_of_eq_some hf hstate).of_queued ((h.ok p hp).queued screencopy hsc)

/-- What is promised to the clients in a state. -/
structure FramesSpec (s : State) : Prop where
  answers : (s.answers.map Prod.fst).Nodup
  /-- A frame whose copy was accepted is in one place, once. -/
  copied : ∀ frame client manager info, s.frames frame = some ⟨client, .alive,
      .pending manager info true⟩ →
    (s.answers.map Prod.fst).count frame + s.inQueue manager frame +
      (s.waiting.map Screencopy.frame).count frame = 1
  /-- A frame that was not copied is in the queue of its manager. -/
  pending : ∀ frame client manager info, s.frames frame = some ⟨client, .alive,
      .pending manager info false⟩ →
    ∃ queue, Assoc.get s.queues manager = some queue ∧ frame ∈ queue.pendingFrames
  /-- A frame in a queue is in the one of its manager. -/
  queued : ∀ frame object, s.frames frame = some object →
    ∀ p ∈ s.queues, (frame ∈ p.2.pendingFrames ∨ 0 < p.2.count frame) →
      ∃ info copied, object.state = .pending p.1 info copied ∧ object.life ≠ .destroyed
  /-- A queue that outlives its manager holds a frame. -/
  outlives : ∀ p ∈ s.queues, ∀ client, s.managers p.1 = some ⟨client, .destroyed⟩ →
    ∃ frame object, s.frames frame = some object ∧ object.life ≠ .destroyed ∧
      (frame ∈ p.2.pendingFrames ∨ 0 < p.2.count frame)
  /-- The unwraps do not panic. -/
  returns : ∀ step, ∃ t, s.step step = .ok t

theorem frames_spec (h : machine.ReachableBy (fun _ _ => True) s) : FramesSpec s := by
  have hinv := reachable_inv h
  have hframe : ∀ p ∈ s.queues, ∀ frame, (frame ∈ p.2.pendingFrames ∨ 0 < p.2.count frame) →
      ∃ object, s.frames frame = some object ∧ object.life ≠ .destroyed ∧
        ∃ info copied, object.state = .pending p.1 info copied := by
    intro p hp frame hmem
    rcases hmem with hmem | hpos
    · obtain ⟨object, info, hobject, hlife, hstate⟩ := ((hinv.ok p hp).pending frame).mp hmem
      exact ⟨object, hobject, hlife, info, false, hstate⟩
    · obtain ⟨screencopy, hsc, rfl⟩ := ScreencopyQueue.exists_of_count_pos hpos
      obtain ⟨object, hobject, hlife, hstate⟩ := (hinv.ok p hp).queued screencopy hsc
      exact ⟨object, hobject, hlife, _, true, hstate⟩
  refine ⟨?_, ?_, ?_, ?_, ?_, fun step => ?_⟩
  · refine List.nodup_iff_count_le_one.mpr fun frame => ?_
    have hcount := hinv.count frame
    unfold State.count at hcount
    split_ifs at hcount <;> omega
  · intro frame client manager info hobject
    have hcount := hinv.count frame
    have hcopied : ScreencopyManager.copied s.frames frame = true := copied_of_eq_some hobject
    rw [hcopied, if_pos rfl] at hcount
    unfold State.count at hcount
    rw [hinv.queuedCount_eq hobject rfl] at hcount
    omega
  · intro frame client manager info hobject
    have hpending : Pending s.frames manager frame := ⟨_, info, hobject, nofun, rfl⟩
    obtain ⟨queue, hget⟩ := Assoc.exists_get_of_mem_keys (hinv.pending manager frame hpending)
    exact ⟨queue, hget, ((hinv.ok_get hget).pending frame).mpr hpending⟩
  · intro frame object hobject p hp hmem
    obtain ⟨object', hobject', hlife, info, copied, hstate⟩ := hframe p hp frame hmem
    cases hobject.symm.trans hobject'
    exact ⟨info, copied, hstate, hlife⟩
  · intro p hp client hclient
    have hempty := hinv.useful p hp client hclient
    have hsome : ∃ frame, frame ∈ p.2.pendingFrames ∨ 0 < p.2.count frame := by
      by_contra hnone
      push Not at hnone
      have hpending : p.2.pendingFrames = ∅ :=
        Finset.eq_empty_of_forall_notMem fun frame => (hnone frame).1
      have hcopies : p.2.screencopies = [] := by
        refine List.eq_nil_iff_forall_not_mem.mpr fun screencopy hsc => ?_
        have hpos : 0 < p.2.count screencopy.frame :=
          List.count_pos_iff.mpr (List.mem_map_of_mem hsc)
        exact absurd (hnone screencopy.frame).2 (not_le.mpr hpos)
      rw [ScreencopyQueue.isEmpty_iff.mpr ⟨hpending, hcopies⟩] at hempty
      cases hempty
    obtain ⟨frame, hmem⟩ := hsome
    obtain ⟨object, hobject, hlife, -⟩ := hframe p hp frame hmem
    exact ⟨frame, object, hobject, hlife, hmem⟩
  · obtain ⟨t, ht, -⟩ := step_spec hinv step
    exact ⟨t, ht⟩

end State

/-! ### A manager with two frames -/

namespace Sample

def info : ScreencopyFrameInfo := ⟨0, 4, 2⟩

def screens : State := ⟨fun _ => none, fun _ => none, [], {0}, [], [], 0⟩

/-- One of the frames waits for damage when its manager is destroyed, and then for its sync point. -/
def twoFrames : List State.Step :=
  [.bind 7 0, .capture 0 0 (some info), .capture 0 1 (some info),
    .copy 0 (.shm true 4 2 16 32) true .noRenderer, .destroyManager 0, .managerDestroyed 0,
    .redraw 0 fun _ => .noDamage, .redraw 0 fun _ => .rendered true, .syncDone ⟨0, info, true⟩]

theorem initial_screens : machine.initial screens :=
  ⟨fun _ => rfl, fun _ => rfl, rfl, rfl, rfl⟩

end Sample

theorem frames_spec_twoFrames : ∃ s : State, s.answers = [(0, .ready)] ∧
    s.managers 0 = some ⟨7, .destroyed⟩ ∧
    s.frames 1 = some ⟨7, .alive, .pending 0 Sample.info false⟩ ∧
      s.FramesSpec := by
  obtain ⟨s, hs, hp⟩ := Machine.exists_reachableBy (M := machine)
    (p := fun s => decide (s.answers = [(0, .ready)] ∧ s.managers 0 = some ⟨7, .destroyed⟩ ∧
      s.frames 1 = some ⟨7, .alive, .pending 0 Sample.info false⟩))
    Sample.twoFrames Sample.initial_screens
    (show (machine.run (fun _ _ => True) _ _).any _ = true by decide +kernel)
  obtain ⟨hanswers, hmanager, hframe⟩ := of_decide_eq_true hp
  exact ⟨s, hanswers, hmanager, hframe, State.frames_spec hs⟩

end Sol.ScreencopyManager
