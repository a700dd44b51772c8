import Sol.EventLoop
import Sol.Animation

/-!
# The pace of a screencast

A frame that comes too soon after the last one is skipped, and a redraw is scheduled for when it
is due.  The cast remembers the timer of the redraw by a token; the timer itself does not know of
that, so that the token is still there once the timer has fired.

* `Inv`: the cast remembers the only timer there can be;
* `lawful_iff_kept`: in a run every skipped frame has a redraw to come exactly if the token that is
  remembered then is that of a timer for the output;
* `along_lawful_of_steady`: it is where nothing but the output of the cast is rendered, ahead of
  time, while the frame rate does not drop.
-/

namespace Sol.CastPacing

abbrev Output := ℕ

/-- `CAST_DELAY_ALLOWANCE`. -/
def castDelayAllowance : Duration := 100000

structure Cast where
  lastFrameTime : Duration
  minTimeBetweenFrames : Duration
  scheduledRedraw : Option ℕ
  deriving DecidableEq, Repr

/-- A timer for the redraw of an output. -/
structure Timer where
  output : Output
  deadline : Duration
  deriving DecidableEq, Repr

def Cast.computeExtraDelay (self : Cast) (targetFrameTime : Duration) : Duration :=
  let last := self.lastFrameTime
  let min := self.minTimeBetweenFrames
  if last = 0 then 0
  -- in case it was an overflow, this will fix it
  else if targetFrameTime < last then 0
  else
    let diff := targetFrameTime - last
    if diff < min then min - diff else 0

/-- The cast, its timers and the outputs. -/
structure State where
  cast : Cast
  eventLoop : EventLoop Timer
  outputs : Finset Output
  /-- Those that are to be redrawn. -/
  queued : Finset Output

namespace State

/-- A new cast. -/
def new (outputs : Finset Output) : State := ⟨⟨0, 0, none⟩, .empty, outputs, ∅⟩

def scheduleRedraw (self : State) (output : Output) (targetTime now : Duration) : State :=
  match self.cast.scheduledRedraw with
  | some _ => self
  | none =>
    let duration := targetTime - now
    let (token, eventLoop) := self.eventLoop.insertSource ⟨output, now + duration⟩
    { self with cast := { self.cast with scheduledRedraw := some token }, eventLoop }

def removeScheduledRedraw (self : State) : State :=
  match self.cast.scheduledRedraw with
  | none => self
  | some token =>
    { self with
      cast := { self.cast with scheduledRedraw := none }
      eventLoop := self.eventLoop.remove token }

/-- Whether a frame is to be skipped. -/
def tooSoon (self : State) (targetFrameTime : Duration) : Bool :=
  castDelayAllowance ≤ self.cast.computeExtraDelay targetFrameTime

/-- Whether the frame is skipped, and the redraw that is scheduled for it then. -/
def checkTimeAndSchedule (self : State) (output : Output) (targetFrameTime now : Duration) :
    Bool × State :=
  let delay := self.cast.computeExtraDelay targetFrameTime
  if castDelayAllowance ≤ delay then
    (true, self.scheduleRedraw output (targetFrameTime + delay) now)
  else (false, self.removeScheduledRedraw)

/-- The output is rendered, and the frame is recorded if that succeeds. -/
def renderForScreenCast (self : State) (output : Output) (targetPresentationTime : Duration)
    (recorded : Bool) (now : Duration) : State :=
  let (skipped, self) := self.checkTimeAndSchedule output targetPresentationTime now
  if skipped then self
  else if recorded then
    { self with cast := { self.cast with lastFrameTime := targetPresentationTime } }
  else self

/-- A timer fires, if it is due, and is dropped. -/
def fire (self : State) (token : ℕ) (now : Duration) : State :=
  match self.eventLoop.source token with
  | none => self
  | some timer =>
    if timer.deadline ≤ now then
      -- the output may be disconnected
      let queued :=
        if timer.output ∈ self.outputs then insert timer.output self.queued else self.queued
      { self with queued, eventLoop := self.eventLoop.remove token }
    else self

inductive Event
  | render (output : Output) (targetPresentationTime : Duration) (recorded : Bool)
  /-- PipeWire asks for a frame, which is recorded. -/
  | redrawCast
  /-- Another format is negotiated. -/
  | paramChanged (minFrameTime : Duration)
  | timer (token : ℕ)
  | addOutput (output : Output)
  | removeOutput (output : Output)
  deriving DecidableEq, Repr

def step (self : State) (action : Duration × Event) : State :=
  match action.2 with
  | .render output target recorded =>
    { self with queued := self.queued.erase output }.renderForScreenCast output target recorded
      action.1
  | .redrawCast => { self with cast := { self.cast with lastFrameTime := action.1 } }
  | .paramChanged minFrameTime =>
    { self with cast := { self.cast with minTimeBetweenFrames := minFrameTime } }
  | .timer token => self.fire token action.1
  | .addOutput output => { self with outputs := insert output self.outputs }
  | .removeOutput output =>
    { self with outputs := self.outputs.erase output, queued := self.queued.erase output }

/-- A property of the steps of a run. -/
def Along (P : State → Duration × Event → Prop) (s : State) : List (Duration × Event) → Prop
  | [] => True
  | action :: actions => P s action ∧ (s.step action).Along P actions

/-- A timer for the output is yet to fire. -/
def Scheduled (s : State) (output : Output) : Prop :=
  ∃ token timer, s.eventLoop.source token = some timer ∧ timer.output = output

/-- A skipped frame has a redraw of the output to come, and one that is not skipped has none. -/
def Lawful (s : State) (action : Duration × Event) : Prop :=
  ∀ output target recorded, action.2 = .render output target recorded →
    if (s.checkTimeAndSchedule output target action.1).1 = true then
      (s.checkTimeAndSchedule output target action.1).2.Scheduled output
    else (s.checkTimeAndSchedule output target action.1).2.eventLoop.sources = []

/-- A redraw that is remembered when a frame is to be skipped is one to come for the output. -/
def Kept (s : State) (action : Duration × Event) : Prop :=
  ∀ output target recorded, action.2 = .render output target recorded → s.tooSoon target = true →
    ∀ token, s.cast.scheduledRedraw = some token →
      ∃ timer, s.eventLoop.source token = some timer ∧ timer.output = output

/-! ### The timers of the cast -/

variable {s t : State} {output : Output} {target now : Duration}

/-- The cast remembers every timer that there is, and so the only one. -/
def Inv (s : State) : Prop :=
  ∀ token timer, s.eventLoop.source token = some timer → s.cast.scheduledRedraw = some token

theorem inv_new (outputs : Finset Output) : (new outputs).Inv := by
  intro token timer h
  cases h

/-- A redraw that is scheduled is one to come, unless one is remembered. -/
theorem scheduleRedraw_of_none (h : s.cast.scheduledRedraw = none) (output : Output)
    (targetTime now : Duration) : ∃ deadline, targetTime ≤ deadline ∧
      s.scheduleRedraw output targetTime now =
        { s with
          cast := { s.cast with scheduledRedraw := some s.eventLoop.next }
          eventLoop := (s.eventLoop.insertSource ⟨output, deadline⟩).2 } := by
  refine ⟨now + (targetTime - now), ?_, ?_⟩
  · exact le_add_tsub
  · unfold scheduleRedraw
    rw [h]
    rfl

theorem inv_scheduleRedraw (h : s.Inv) (output : Output) (targetTime now : Duration) :
    (s.scheduleRedraw output targetTime now).Inv := by
  cases hscheduled : s.cast.scheduledRedraw with
  | some token =>
    unfold scheduleRedraw
    rw [hscheduled]
    exact h
  | none =>
    obtain ⟨deadline, -, heq⟩ := scheduleRedraw_of_none hscheduled output targetTime now
    rw [heq]
    intro token timer htimer
    change (s.eventLoop.insertSource ⟨output, deadline⟩).2.source token = some timer at htimer
    rw [EventLoop.source_insertSource] at htimer
    split_ifs at htimer with htoken
    · rw [htoken]
    · have hold := h token timer htimer
      rw [hscheduled] at hold
      cases hold

/-- Once the scheduled redraw is removed, no timer is left. -/
theorem source_removeScheduledRedraw (h : s.Inv) (token : ℕ) :
    s.removeScheduledRedraw.eventLoop.source token = none := by
  have hold : s.eventLoop.source token ≠ none → s.cast.scheduledRedraw = some token := by
    intro hne
    obtain ⟨timer, htimer⟩ := Option.ne_none_iff_exists'.mp hne
    exact h token timer htimer
  unfold removeScheduledRedraw
  cases hscheduled : s.cast.scheduledRedraw with
  | none =>
    by_contra hne
    rw [hold hne] at hscheduled
    cases hscheduled
  | some remembered =>
    change (s.eventLoop.remove remembered).source token = none
    rw [EventLoop.source_remove]
    split_ifs with htoken
    · rfl
    · by_contra hne
      rw [hold hne] at hscheduled
      exact htoken (Option.some.inj hscheduled)

theorem inv_checkTimeAndSchedule (h : s.Inv) (output : Output) (target now : Duration) :
    (s.checkTimeAndSchedule output target now).2.Inv := by
  unfold checkTimeAndSchedule
  dsimp only
  split_ifs
  · exact inv_scheduleRedraw h _ _ _
  · intro token timer htimer
    rw [source_removeScheduledRedraw h] at htimer
    cases htimer

theorem inv_fire (h : s.Inv) (token : ℕ) (now : Duration) : (s.fire token now).Inv := by
  unfold fire
  cases s.eventLoop.source token with
  | none => exact h
  | some timer =>
    dsimp only
    by_cases hdue : timer.deadline ≤ now
    · rw [if_pos hdue]
      intro token' timer' htimer
      change (s.eventLoop.remove token).source token' = some timer' at htimer
      rw [EventLoop.source_remove] at htimer
      split_ifs at htimer
      exact h token' timer' htimer
    · rw [if_neg hdue]
      exact h

theorem step_inv (h : s.Inv) (action : Duration × Event) : (s.step action).Inv := by
  obtain ⟨now, event⟩ := action
  cases event with
  | render output target recorded =>
    have herased : Inv { s with queued := s.queued.erase output } := h
    have hchecked := inv_checkTimeAndSchedule herased output target now
    unfold step renderForScreenCast
    dsimp only
    split_ifs
    · exact hchecked
    · exact hchecked
    · exact hchecked
  | redrawCast => exact h
  | paramChanged minFrameTime => exact h
  | timer token => exact inv_fire h token now
  | addOutput output => exact h
  | removeOutput output => exact h

/-! ### Redraws to come -/

theorem check_of_tooSoon (h : s.tooSoon target = true) :
    s.checkTimeAndSchedule output target now =
      (true, s.scheduleRedraw output (target + s.cast.computeExtraDelay target) now) :=
  if_pos (of_decide_eq_true h)

theorem check_of_not_tooSoon (h : s.tooSoon target = false) :
    s.checkTimeAndSchedule output target now = (false, s.removeScheduledRedraw) :=
  if_neg (of_decide_eq_false h)

/-- After a frame has been skipped, a redraw of the output is to come if none was remembered, or
one to come. -/
theorem scheduled_iff (h : s.Inv) (time : Duration) :
    (s.scheduleRedraw output time now).Scheduled output ↔
      ∀ token, s.cast.scheduledRedraw = some token →
        ∃ timer, s.eventLoop.source token = some timer ∧ timer.output = output := by
  cases hscheduled : s.cast.scheduledRedraw with
  | none =>
    obtain ⟨deadline, -, heq⟩ := scheduleRedraw_of_none hscheduled output time now
    rw [heq]
    refine iff_of_true ⟨s.eventLoop.next, ⟨output, deadline⟩, ?_, rfl⟩ nofun
    exact (EventLoop.source_insertSource _).trans (if_pos rfl)
  | some token =>
    have hsame : s.scheduleRedraw output time now = s := by
      unfold scheduleRedraw
      rw [hscheduled]
    rw [hsame]
    constructor
    · rintro ⟨other, timer, htimer, houtput⟩ remembered heq
      have hother := h other timer htimer
      rw [hscheduled] at hother
      obtain rfl := Option.some.inj (hother.symm.trans heq)
      exact ⟨timer, htimer, houtput⟩
    · intro hkept
      obtain ⟨timer, htimer, houtput⟩ := hkept token rfl
      exact ⟨token, timer, htimer, houtput⟩

/-- A step is lawful exactly if the redraw that is remembered is one to come for the output. -/
theorem lawful_iff (h : s.Inv) (action : Duration × Event) : s.Lawful action ↔ s.Kept action := by
  unfold Lawful Kept
  refine forall₃_congr fun output target recorded => forall_congr' fun _ => ?_
  cases hsoon : s.tooSoon target with
  | true =>
    rw [check_of_tooSoon hsoon, if_pos rfl, scheduled_iff h]
    exact ⟨fun h _ => h, fun h => h rfl⟩
  | false =>
    rw [check_of_not_tooSoon hsoon, if_neg Bool.false_ne_true]
    refine iff_of_true ?_ nofun
    exact EventLoop.sources_eq_nil (source_removeScheduledRedraw h)

theorem along_lawful_iff {actions : List (Duration × Event)} (h : s.Inv) :
    s.Along Lawful actions ↔ s.Along Kept actions := by
  induction actions generalizing s with
  | nil => exact Iff.rfl
  | cons action actions ih => exact and_congr (lawful_iff h action) (ih (step_inv h action))

/-- In a run of a cast, a skipped frame always has a redraw of its output to come, and one that is
not skipped has none left, exactly if the redraw that is remembered whenever a frame is to be
skipped is one to come for the output. -/
theorem lawful_iff_kept (outputs : Finset Output) (actions : List (Duration × Event)) :
    (new outputs).Along Lawful actions ↔ (new outputs).Along Kept actions :=
  along_lawful_iff (inv_new outputs)

/-- A cast whose frames come 50 ms apart from when a redraw has been scheduled for 10 ms: the redraw
is too soon, and none is scheduled again. -/
def slowed : List (Duration × Event) :=
  [(0, .paramChanged 10000000), (1000000000, .render 0 1000000000 true),
    (1001000000, .render 0 1001000000 true), (1002000000, .paramChanged 50000000),
    (1010000000, .timer 0), (1011000000, .render 0 1011000000 true)]

/-- The skipped frame of a cast that is slowed down has no redraw to come. -/
theorem not_lawful_slowed : ¬(new {0}).Along Lawful slowed := by
  rw [along_lawful_iff (inv_new _)]
  rintro ⟨-, -, -, -, -, h, -⟩
  obtain ⟨timer, htimer, -⟩ := h 0 1011000000 true rfl (by decide +kernel) 0 (by decide +kernel)
  have hfired : ((slowed.take 5).foldl step (new {0})).eventLoop.source 0 = none := by
    decide +kernel
  cases hfired.symm.trans htimer

/-- A timer that is due has its output redrawn while there is the output. -/
theorem fire_queues {token : ℕ} {timer : Timer} (htimer : s.eventLoop.source token = some timer)
    (hdue : timer.deadline ≤ now) (houtput : timer.output ∈ s.outputs) :
    timer.output ∈ (s.fire token now).queued := by
  unfold fire
  rw [htimer]
  dsimp only
  rw [if_pos hdue, if_pos houtput]
  exact Finset.mem_insert_self _ _

/-! ### Steady casts -/

/-- Only one output is rendered, and not for the past; frames are only requested, and the frame rate
only drops, while no redraw is scheduled. -/
def Steady (output : Output) (time : Duration) (s : State) : List (Duration × Event) → Prop
  | [] => True
  | (now, event) :: actions => time ≤ now ∧
    (match event with
      | .render rendered target _ => rendered = output ∧ now ≤ target
      | .redrawCast => s.cast.scheduledRedraw = none
      | .paramChanged minFrameTime =>
        s.cast.scheduledRedraw = none ∨ minFrameTime ≤ s.cast.minTimeBetweenFrames
      | _ => True) ∧
    Steady output now (s.step (now, event)) actions

/-- The redraw that is remembered is one to come when the next frame is due, or that is past. -/
def Paced (output : Output) (time : Duration) (s : State) : Prop :=
  ∀ token, s.cast.scheduledRedraw = some token →
    (∃ timer, s.eventLoop.source token = some timer ∧ timer.output = output ∧
      s.cast.lastFrameTime + s.cast.minTimeBetweenFrames ≤ timer.deadline) ∨
    s.cast.lastFrameTime + s.cast.minTimeBetweenFrames ≤ time

variable {time : Duration}

theorem Paced.later (h : s.Paced output time) (hnow : time ≤ now) : s.Paced output now :=
  fun token htoken => (h token htoken).imp_right fun hdue => hdue.trans hnow

/-- The time left to that at which the next frame is due. -/
private theorem add_tsub_tsub (target last min : ℕ) (hbelow : last ≤ target)
    (hdiff : target - last < min) :
    target + (min - (target - last)) = last + min ∧ target < last + min := by
  constructor <;> omega

/-- A frame is skipped only before the next one is due. -/
theorem due_of_tooSoon (h : s.tooSoon target = true) :
    target + s.cast.computeExtraDelay target =
      s.cast.lastFrameTime + s.cast.minTimeBetweenFrames ∧
    target < s.cast.lastFrameTime + s.cast.minTimeBetweenFrames := by
  have hdelay : 0 < s.cast.computeExtraDelay target :=
    lt_of_lt_of_le (by decide : 0 < castDelayAllowance) (of_decide_eq_true h)
  unfold Cast.computeExtraDelay at hdelay ⊢
  dsimp only at hdelay ⊢
  split_ifs at hdelay ⊢ with hzero hbelow hdiff
  · exact absurd hdelay (lt_irrefl _)
  · exact absurd hdelay (lt_irrefl _)
  · exact add_tsub_tsub _ _ _ (not_lt.mp hbelow) hdiff
  · exact absurd hdelay (lt_irrefl _)

/-- The frame of a steady cast is only skipped with a redraw to come. -/
theorem kept_render (h : s.Paced output now) (htarget : now ≤ target)
    (hsoon : s.tooSoon target = true) (token : ℕ)
    (htoken : s.cast.scheduledRedraw = some token) :
    ∃ timer, s.eventLoop.source token = some timer ∧ timer.output = output := by
  obtain ⟨timer, htimer, houtput, -⟩ | hpast := h token htoken
  · exact ⟨timer, htimer, houtput⟩
  · exact absurd (hpast.trans htarget) (not_le.mpr (due_of_tooSoon hsoon).2)

theorem paced_render (h : s.Paced output now) (recorded : Bool) :
    (s.renderForScreenCast output target recorded now).Paced output now := by
  unfold renderForScreenCast
  cases hsoon : s.tooSoon target with
  | true =>
    rw [check_of_tooSoon hsoon]
    dsimp only
    rw [if_pos rfl]
    cases hscheduled : s.cast.scheduledRedraw with
    | some token =>
      unfold scheduleRedraw
      rw [hscheduled]
      exact h
    | none =>
      obtain ⟨deadline, hdeadline, heq⟩ := scheduleRedraw_of_none hscheduled output
        (target + s.cast.computeExtraDelay target) now
      rw [heq]
      rintro token ⟨⟩
      refine .inl ⟨⟨output, deadline⟩, ?_, rfl, ?_⟩
      · exact (EventLoop.source_insertSource _).trans (if_pos rfl)
      · exact (due_of_tooSoon hsoon).1.symm.le.trans hdeadline
  | false =>
    rw [check_of_not_tooSoon hsoon]
    have hnone : s.removeScheduledRedraw.cast.scheduledRedraw = none := by
      unfold removeScheduledRedraw
      cases hscheduled : s.cast.scheduledRedraw with
      | none => exact hscheduled
      | some token => rfl
    dsimp only
    rw [if_neg Bool.false_ne_true]
    intro token htoken
    split_ifs at htoken
    · exact absurd (hnone.symm.trans htoken) nofun
    · exact absurd (hnone.symm.trans htoken) nofun

theorem paced_fire (h : s.Paced output now) (token : ℕ) : (s.fire token now).Paced output now := by
  unfold fire
  cases hsource : s.eventLoop.source token with
  | none => exact h
  | some fired =>
    dsimp only
    by_cases hdue : fired.deadline ≤ now
    · rw [if_pos hdue]
      intro remembered hremembered
      obtain ⟨timer, htimer, houtput, hlater⟩ | hpast := h remembered hremembered
      · by_cases hsame : remembered = token
        · rw [hsame, hsource] at htimer
          obtain rfl := Option.some.inj htimer
          exact .inr (hlater.trans hdue)
        · refine .inl ⟨timer, ?_, houtput, hlater⟩
          exact (EventLoop.source_remove _).trans ((if_neg hsame).trans htimer)
      · exact .inr hpast
    · rw [if_neg hdue]
      exact h

theorem kept_of_steady {actions : List (Duration × Event)} (h : s.Paced output time)
    (hsteady : Steady output time s actions) : s.Along Kept actions := by
  induction actions generalizing s time with
  | nil => trivial
  | cons action actions ih =>
    obtain ⟨now, event⟩ := action
    obtain ⟨hnow, hevent, hrest⟩ := hsteady
    have hlater := h.later hnow
    cases event with
    | render rendered target recorded =>
      obtain ⟨rfl, htarget⟩ := hevent
      have herased : Paced rendered now { s with queued := s.queued.erase rendered } := hlater
      refine ⟨?_, ih (paced_render herased recorded) hrest⟩
      rintro _ _ _ ⟨⟩ hsoon
      exact kept_render hlater htarget hsoon
    | redrawCast =>
      refine ⟨nofun, ih (fun token htoken => ?_) hrest⟩
      exact absurd (hevent.symm.trans htoken) nofun
    | paramChanged minFrameTime =>
      refine ⟨nofun, ih (fun token htoken => ?_) hrest⟩
      obtain hnone | hless := hevent
      · exact absurd (hnone.symm.trans htoken) nofun
      · have hdue := Nat.add_le_add_left hless s.cast.lastFrameTime
        refine (hlater token htoken).imp ?_ hdue.trans
        rintro ⟨timer, htimer, houtput, hdeadline⟩
        exact ⟨timer, htimer, houtput, hdue.trans hdeadline⟩
    | timer token => exact ⟨nofun, ih (paced_fire hlater token) hrest⟩
    | addOutput output => exact ⟨nofun, ih hlater hrest⟩
    | removeOutput output => exact ⟨nofun, ih hlater hrest⟩

/-- A steady cast never leaves out the last change. -/
theorem along_lawful_of_steady (outputs : Finset Output) {actions : List (Duration × Event)}
    (h : Steady output 0 (new outputs) actions) : (new outputs).Along Lawful actions :=
  (lawful_iff_kept outputs actions).mpr (kept_of_steady nofun h)

end State

end Sol.CastPacing
