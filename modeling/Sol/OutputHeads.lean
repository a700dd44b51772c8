import Sol.Machine
import Sol.OutputManagement

/-!
# What the heads of a client show

* `Tracks`: a head shows the state of its output;
* `newHead_tracks`: a new head does;
* `Followed`: the changes of an output that the differences account for;
* `difference_tracks`: a head still shows its output after them.
-/

namespace Sol.OutputManagement


/-! ### Modes -/

namespace ModeView

/-- The size is set, and the refresh rate if it is one of `i32`. -/
def set (self : ModeView) (mode : Mode) : ModeView :=
  { self with
    size := some (mode.width, mode.height)
    refresh := (refreshI32 mode.refreshRate).or self.refresh }

@[simp] theorem set_number (self : ModeView) (mode : Mode) : (self.set mode).number = self.number :=
  rfl

/-- What a mode object tells. -/
def shown (self : ModeView) : Option (ℕ × ℕ) × Option ℕ := (self.size, self.refresh)

end ModeView

/-- What a mode object tells of a mode when it is new. -/
def Mode.shown (self : Mode) : Option (ℕ × ℕ) × Option ℕ :=
  (some (self.width, self.height), refreshI32 self.refreshRate)

namespace HeadView

theorem receiveAll_append (self : HeadView) (events events' : List HeadEvent) :
    self.receiveAll (events ++ events') = (self.receiveAll events).receiveAll events' :=
  List.foldl_append

theorem receiveAll_modeEvents (self : HeadView) (number : ℕ) (mode : Mode) :
    self.receiveAll (modeEvents number mode) = self.withMode number fun view => view.set mode := by
  unfold modeEvents receiveAll ModeView.set
  cases refreshI32 mode.refreshRate with
  | none => rfl
  | some refresh =>
    simp only [Option.toList_some, List.map_cons, List.map_nil, List.foldl_cons, List.foldl_nil,
      receive, withMode, List.map_map, Option.some_or]
    congr 1
    refine List.map_congr_left fun view _ => ?_
    simp only [Function.comp_apply]
    split_ifs with hnumber
    · rfl
    · rfl

end HeadView

/-- The first modes set to others, the rest as it is. -/
def setAll : List ModeView → List Mode → List ModeView
  | view :: views, mode :: modes => view.set mode :: setAll views modes
  | views, [] => views
  | [], _ => []

theorem setAll_number (views : List ModeView) (modes : List Mode) :
    (setAll views modes).map (·.number) = views.map (·.number) := by
  induction views, modes using setAll.induct with
  | case1 view views mode modes ih => simp [setAll, ih]
  | case2 views => cases views <;> rfl
  | case3 modes => cases modes <;> rfl

/-- An update of the mode of one number among others. -/
theorem withMode_append (self : HeadView) {pre views : List ModeView} (view : ModeView)
    (hself : self.modes = pre ++ view :: views) (hnodup : (self.modes.map (·.number)).Nodup)
    (f : ModeView → ModeView) :
    self.withMode view.number f = { self with modes := pre ++ f view :: views } := by
  unfold HeadView.withMode
  rw [hself] at hnodup ⊢
  rw [List.map_append, List.map_cons, List.nodup_append, List.nodup_cons] at hnodup
  obtain ⟨-, ⟨hviews, -⟩, hpre⟩ := hnodup
  rw [List.map_append, List.map_cons, if_pos rfl]
  have hleft : (pre.map fun v => if v.number = view.number then f v else v) = pre := by
    refine (List.map_congr_left fun v hv => if_neg ?_).trans (List.map_id' pre)
    exact hpre _ (List.mem_map_of_mem hv) _ List.mem_cons_self
  have hright : (views.map fun v => if v.number = view.number then f v else v) = views := by
    refine (List.map_congr_left fun v hv => if_neg fun heq => hviews ?_).trans (List.map_id' views)
    exact heq ▸ List.mem_map_of_mem hv
  rw [hleft, hright]

/-- Setting the modes one after the other. -/
theorem receiveAll_setAll (self : HeadView) (pre : List ModeView) {views : List ModeView}
    (modes : List Mode)
    (hself : self.modes = pre ++ views)
    (hnodup : (self.modes.map (·.number)).Nodup) :
    self.receiveAll (((views.map (·.number)).zip modes).flatMap fun p => modeEvents p.1 p.2) =
      { self with modes := pre ++ setAll views modes } := by
  induction views, modes using setAll.induct generalizing self pre with
  | case1 view views mode modes ih =>
    rw [List.map_cons, List.zip_cons_cons, List.flatMap_cons, HeadView.receiveAll_append,
      HeadView.receiveAll_modeEvents, withMode_append self view hself hnodup]
    have hnodup' : ((pre ++ view.set mode :: views).map (·.number)).Nodup := by
      rw [hself] at hnodup
      simpa using hnodup
    rw [ih _ (pre ++ [view.set mode]) (by simp) hnodup', setAll, List.append_assoc]
    rfl
  | case2 views =>
    rw [List.zip_nil_right, List.flatMap_nil]
    obtain ⟨⟩ := self
    subst hself
    cases views <;> rfl
  | case3 modes =>
    rw [List.map_nil, List.zip_nil_left, List.flatMap_nil]
    obtain ⟨⟩ := self
    subst hself
    cases modes <;> rfl

/-- What the mode objects tell after they were set. -/
theorem setAll_shown {views : List ModeView} {modes : List Mode} {old : List Mode}
    (hold : views.map ModeView.shown = old.map Mode.shown)
    (hrefresh : ∀ (i : ℕ) (a b : Mode), old[i]? = some a → modes[i]? = some b →
      (refreshI32 b.refreshRate).isSome = true ∨ refreshI32 a.refreshRate = none) :
    (setAll views modes).map ModeView.shown =
      ((modes.take views.length).map Mode.shown) ++ ((old.drop modes.length).map Mode.shown) := by
  induction views, modes using setAll.induct generalizing old with
  | case1 view views mode modes ih =>
    cases old with
    | nil => simp at hold
    | cons a old =>
      rw [List.map_cons, List.map_cons, List.cons.injEq] at hold
      have ih := ih hold.2 fun i => hrefresh (i + 1)
      have hfirst : (view.set mode).shown = mode.shown := by
        have hshown := hold.1
        unfold ModeView.shown Mode.shown at hshown
        rw [Prod.mk.injEq] at hshown
        unfold ModeView.set ModeView.shown Mode.shown
        rw [hshown.2]
        rcases hrefresh 0 a mode rfl rfl with hsome | hnone
        · obtain ⟨refresh, hrefresh⟩ := Option.isSome_iff_exists.mp hsome
          rw [hrefresh]
          rfl
        · rw [hnone, Option.or_none]
      simp only [setAll, List.map_cons, List.length_cons, List.take_succ_cons, List.drop_succ_cons,
        List.cons_append, hfirst, ih]
  | case2 views => simpa [setAll] using hold
  | case3 modes =>
    have hnil : old = [] := by simpa using hold.symm
    simp [setAll, hnil]

/-- Modes that are added one after the other. -/
theorem receiveAll_added (self : HeadView) (added : List (Mode × ℕ))
    (hnodup : (self.modes.map (·.number) ++ added.map (·.2)).Nodup) :
    self.receiveAll (added.flatMap fun p => .mode p.2 :: modeEvents p.2 p.1) =
      { self with modes := self.modes ++ added.map fun p =>
          ModeView.set ⟨p.2, none, none, false⟩ p.1 } := by
  induction added generalizing self with
  | nil =>
    obtain ⟨⟩ := self
    simp [HeadView.receiveAll]
  | cons p added ih =>
    obtain ⟨mode, number⟩ := p
    have hfirst : self.receiveAll (.mode number :: modeEvents number mode) =
        { self with modes := self.modes ++ [ModeView.set ⟨number, none, none, false⟩ mode] } := by
      have hnodup' : ((self.receive (.mode number)).modes.map (·.number)).Nodup := by
        rw [List.map_cons, List.append_cons] at hnodup
        simpa [HeadView.receive] using (List.nodup_append.mp hnodup).1
      change (self.receive (.mode number)).receiveAll (modeEvents number mode) = _
      rw [HeadView.receiveAll_modeEvents]
      exact withMode_append (self.receive (.mode number)) ⟨number, none, none, false⟩ rfl hnodup' _
    rw [List.flatMap_cons, HeadView.receiveAll_append, hfirst, ih]
    · simp
    · rw [List.map_cons, List.append_cons] at hnodup
      simpa using hnodup

/-- Modes that are finished. -/
theorem receiveAll_finished (self : HeadView) (numbers : List ℕ) :
    self.receiveAll (numbers.map .modeFinished) =
      { self with modes := self.modes.filter fun view => view.number ∉ numbers } := by
  induction numbers generalizing self with
  | nil =>
    obtain ⟨⟩ := self
    simp [HeadView.receiveAll]
  | cons number numbers ih =>
    change (self.receive (.modeFinished number)).receiveAll (numbers.map .modeFinished) = _
    rw [ih]
    simp [HeadView.receive, List.filter_filter, not_or, Bool.and_comm]

/-- Without the elements that the tail numbers, the head of a list is left. -/
theorem filter_not_mem_drop {α : Type} (l : List α) (f : α → ℕ) (k : ℕ)
    (hnodup : (l.map f).Nodup) : l.filter (fun a => f a ∉ (l.map f).drop k) = l.take k := by
  have hsplit := List.take_append_drop k l
  rw [← hsplit, List.map_append, List.nodup_append] at hnodup
  obtain ⟨-, -, hdisjoint⟩ := hnodup
  rw [List.map_drop.symm]
  conv_lhs => rw [← hsplit]
  rw [List.filter_append]
  have hleft : (l.take k).filter (fun a => f a ∉ (l.drop k).map f) = l.take k := by
    refine List.filter_eq_self.mpr fun a ha => decide_eq_true fun hmem => ?_
    exact hdisjoint _ (List.mem_map_of_mem ha) _ hmem rfl
  have hright : (l.drop k).filter (fun a => f a ∉ (l.drop k).map f) = [] := by
    refine List.filter_eq_nil_iff.mpr fun a ha => ?_
    rw [decide_eq_true_eq, not_not]
    exact List.mem_map_of_mem ha
  rw [hsplit, hleft, hright, List.append_nil]

/-- The mode objects of a head show the modes. -/
structure ModesTrack (head : Head) (views : List ModeView) (modes : List Mode) : Prop where
  numbers : views.map (·.number) = head.modes
  nodup : head.modes.Nodup
  bound : ∀ m ∈ head.modes, m < head.nextMode
  shown : views.map ModeView.shown = modes.map Mode.shown

namespace ModesTrack

variable {head : Head} {views : List ModeView} {modes : List Mode}

theorem length_views (h : ModesTrack head views modes) : views.length = modes.length := by
  simpa using congrArg List.length h.shown

theorem length_head (h : ModesTrack head views modes) : head.modes.length = modes.length := by
  rw [← h.numbers, List.length_map, h.length_views]

end ModesTrack

/-- The modes are followed, as long as their refresh rates are. -/
theorem modesEvents_spec {head : Head} {v : HeadView} {old : List Mode} {conf : Output}
    (h : ModesTrack head v.modes old)
    (hrefresh : ∀ (i : ℕ) (a b : Mode), old[i]? = some a → conf.modes[i]? = some b →
      (refreshI32 b.refreshRate).isSome = true ∨ refreshI32 a.refreshRate = none) :
    ∃ views, v.receiveAll (modesEvents conf head).1 = { v with modes := views } ∧
      ModesTrack (modesEvents conf head).2 views conf.modes ∧
      (modesEvents conf head).2.id = head.id ∧ (modesEvents conf head).2.version = head.version ∧
      ∀ n, n < old.length → n < conf.modes.length →
        (modesEvents conf head).2.modes[n]? = head.modes[n]? := by
  have hset := receiveAll_setAll v [] conf.modes rfl (h.numbers ▸ h.nodup)
  rw [h.numbers, List.nil_append] at hset
  have hnumbers := setAll_number v.modes conf.modes
  rw [h.numbers] at hnumbers
  have hshown := setAll_shown h.shown hrefresh
  rw [h.length_views] at hshown
  have hlen := h.length_head
  have hleast : (head.modes.zip conf.modes).length = min old.length conf.modes.length := by
    rw [List.length_zip, hlen]
  unfold modesEvents
  dsimp only
  rw [hleast]
  by_cases hmore : old.length < conf.modes.length
  · -- modes are added
    have hmin : min old.length conf.modes.length = old.length := min_eq_left hmore.le
    rw [hmin, if_pos hmore]
    set added := (conf.modes.drop old.length).zipIdx head.nextMode with hadded
    have hsnd : added.map (·.2) = List.range' head.nextMode (conf.modes.drop old.length).length := by
      rw [hadded, List.zipIdx_map_snd]
    have hfst : added.map (·.1) = conf.modes.drop old.length := by
      rw [hadded, List.zipIdx_map_fst]
    have hnodup : (head.modes ++ added.map (·.2)).Nodup := by
      rw [hsnd]
      refine List.nodup_append.mpr ⟨h.nodup, List.nodup_range', fun m hm m' hm' => ?_⟩
      have hlt := h.bound m hm
      have hge := List.mem_range'_1.mp hm'
      omega
    refine ⟨setAll v.modes conf.modes ++ added.map fun p =>
      ModeView.set ⟨p.2, none, none, false⟩ p.1, ?_, ?_, rfl, rfl, fun n hn _ => ?_⟩
    · rw [HeadView.receiveAll_append, hset]
      exact receiveAll_added _ added (by simpa [hnumbers] using hnodup)
    · refine ⟨?_, hnodup, fun m hm => ?_, ?_⟩
      · simp [hnumbers, Function.comp_def]
      · rcases List.mem_append.mp hm with hm | hm
        · exact (h.bound m hm).trans_le (Nat.le_add_right _ _)
        · have hlen' : added.length = (conf.modes.drop old.length).length := by
            rw [hadded, List.length_zipIdx]
          rw [hsnd] at hm
          have hge := List.mem_range'_1.mp hm
          dsimp only
          omega
      · rw [List.map_append, hshown, List.drop_eq_nil_of_le hmore.le, List.map_nil, List.append_nil]
        have hnew : (added.map fun p => ModeView.set ⟨p.2, none, none, false⟩ p.1).map
            ModeView.shown = (conf.modes.drop old.length).map Mode.shown := by
          rw [← hfst, List.map_map, List.map_map]
          refine List.map_congr_left fun p _ => ?_
          simp [ModeView.set, ModeView.shown, Mode.shown]
        rw [hnew, ← List.map_append, List.take_append_drop]
    · rw [List.getElem?_append_left (by omega)]
  · -- modes are removed
    rw [not_lt] at hmore
    have hmin : min old.length conf.modes.length = conf.modes.length := min_eq_right hmore
    rw [hmin, if_neg (lt_irrefl _)]
    have htake : (setAll v.modes conf.modes).filter
        (fun view => view.number ∉ head.modes.drop conf.modes.length) =
          (setAll v.modes conf.modes).take conf.modes.length := by
      have hnodup : ((setAll v.modes conf.modes).map (·.number)).Nodup := by
        rw [hnumbers]
        exact h.nodup
      rw [← hnumbers]
      exact filter_not_mem_drop _ _ _ hnodup
    refine ⟨(setAll v.modes conf.modes).take conf.modes.length, ?_, ?_, rfl, rfl, fun n _ hn => ?_⟩
    · rw [HeadView.receiveAll_append, hset, receiveAll_finished]
      dsimp only
      rw [htake]
    · refine ⟨?_, h.nodup.sublist (List.take_sublist _ _), fun m hm => ?_, ?_⟩
      · rw [List.map_take, hnumbers]
      · exact h.bound m (List.mem_of_mem_take hm)
      · rw [List.map_take, hshown, List.take_of_length_le hmore]
        exact List.take_left' (List.length_map _)
    · rw [List.getElem?_take_of_lt hn]

/-! ### Heads -/

/-- What a head of some version tells of its output. -/
def Output.shown (self : Output) (version : ℕ) : Shown where
  name := some self.name
  description := some s!"{self.make} - {self.model} - {self.name}"
  make := if evtMakeSince ≤ version then some self.make else none
  model := if evtModelSince ≤ version then some self.model else none
  serialNumber := if evtSerialNumberSince ≤ version then self.serial else none
  modes := self.modes.map Mode.shown
  enabled := some self.currentMode.isSome
  adaptiveSync := if evtAdaptiveSyncSince ≤ version then some self.vrrEnabled else none
  on := self.currentMode.map fun index =>
    (if index < self.modes.length then some index else none,
      self.logical.map fun logical => (logical.x, logical.y),
      self.logical.map fun logical => logical.transform,
      self.logical.map fun logical => logical.scale)

/-- A head, as the client knows it, shows the state of the output. -/
structure Tracks (head : Head) (v : HeadView) (conf : Output) : Prop where
  id : v.id = head.id
  modes : ModesTrack head v.modes conf.modes
  name : v.name = (conf.shown head.version).name
  description : v.description = (conf.shown head.version).description
  make : v.make = (conf.shown head.version).make
  model : v.model = (conf.shown head.version).model
  serialNumber : v.serialNumber = (conf.shown head.version).serialNumber
  enabled : v.enabled = some conf.currentMode.isSome
  adaptiveSync : v.adaptiveSync = (conf.shown head.version).adaptiveSync
  currentMode : ∀ index, conf.currentMode = some index → v.currentMode = head.modes[index]?
  /-- The place is known while the output is off, too. -/
  logical : ∀ logical, conf.logical = some logical → v.position = some (logical.x, logical.y) ∧
    v.transform = some logical.transform ∧ v.scale = some logical.scale
  noLogical : conf.currentMode.isSome = true → conf.logical = none →
    v.position = none ∧ v.transform = none ∧ v.scale = none

namespace Tracks

variable {head head' : Head} {v v' : HeadView} {old conf : Output}

theorem currentIndex (h : Tracks head v conf) {index : ℕ} (hindex : conf.currentMode = some index) :
    v.currentIndex = if index < conf.modes.length then some index else none := by
  unfold HeadView.currentIndex
  rw [h.currentMode index hindex, ← h.modes.length_head]
  split_ifs with hlt
  · rw [List.getElem?_eq_getElem hlt, Option.bind_some]
    have hlt' : index < v.modes.length := by
      rwa [h.modes.length_head, ← h.modes.length_views] at hlt
    have hnumber : v.modes[index].number = head.modes[index] := by
      simp only [← h.modes.numbers, List.getElem_map]
    refine List.findIdx?_eq_some_iff_getElem.mpr ⟨hlt', by simpa using hnumber, fun j hj => ?_⟩
    have hj' : j < head.modes.length := hj.trans hlt
    have hjnumber : v.modes[j].number = head.modes[j] := by
      simp only [← h.modes.numbers, List.getElem_map]
    rw [decide_eq_true_eq, hjnumber, h.modes.nodup.getElem_inj_iff]
    exact hj.ne
  · rw [List.getElem?_eq_none (not_lt.mp hlt)]
    rfl

/-- What a head that tracks an output tells. -/
theorem shown (h : Tracks head v conf) : v.shown = conf.shown head.version := by
  have hmodes : v.modes.map (fun mode => (mode.size, mode.refresh)) = conf.modes.map Mode.shown :=
    h.modes.shown
  have hon : v.shown.on = (conf.shown head.version).on := by
    unfold HeadView.shown Output.shown
    dsimp only
    rw [h.enabled]
    cases hcurrent : conf.currentMode with
    | none => rfl
    | some index =>
      rw [if_pos (show some (some index).isSome = some true from rfl), h.currentIndex hcurrent]
      cases hlogical : conf.logical with
      | none =>
        obtain ⟨hposition, htransform, hscale⟩ := h.noLogical (by rw [hcurrent]; rfl) hlogical
        rw [hposition, htransform, hscale]
        rfl
      | some logical =>
        obtain ⟨hposition, htransform, hscale⟩ := h.logical logical hlogical
        rw [hposition, htransform, hscale]
        rfl
  unfold HeadView.shown Output.shown at hon ⊢
  rw [Shown.mk.injEq]
  exact ⟨h.name, h.description, h.make, h.model, h.serialNumber, hmodes, h.enabled,
    h.adaptiveSync, hon⟩

end Tracks

/-! ### New heads -/

/-- A mode object that is new. -/
def newModeView (index : ℕ) (mode : Mode) : ModeView :=
  ⟨index, some (mode.width, mode.height), refreshI32 mode.refreshRate, mode.isPreferred⟩

theorem receiveAll_newModeEvents (self : HeadView) (conf : Output) {index : ℕ} (mode : Mode)
    (hindex : index ∉ self.modes.map (·.number)) :
    self.receiveAll (newModeEvents conf index mode) =
      { self with
        modes := self.modes ++ [newModeView index mode]
        currentMode := if some index = conf.currentMode then some index else self.currentMode } := by
  have hleft : ∀ f : ModeView → ModeView,
      (self.modes.map fun view => if view.number = index then f view else view) = self.modes := by
    intro f
    refine (List.map_congr_left fun view hview => if_neg ?_).trans (List.map_id' _)
    rintro rfl
    exact hindex (List.mem_map_of_mem hview)
  unfold newModeEvents newModeView HeadView.receiveAll
  cases hrefresh : refreshI32 mode.refreshRate <;> cases hpreferred : mode.isPreferred <;>
    by_cases hcurrent : some index = conf.currentMode <;>
    simp [HeadView.receive, HeadView.withMode, hleft, hcurrent]

theorem receiveAll_newModes (self : HeadView) (conf : Output) (modes : List Mode) (k : ℕ)
    (hself : self.modes.map (·.number) = List.range k) :
    self.receiveAll ((modes.zipIdx k).flatMap fun p => newModeEvents conf p.2 p.1) =
      { self with
        modes := self.modes ++ (modes.zipIdx k).map fun p => newModeView p.2 p.1
        currentMode := if (∃ index, conf.currentMode = some index ∧ k ≤ index ∧
          index < k + modes.length) then conf.currentMode else self.currentMode } := by
  induction modes generalizing self k with
  | nil =>
    obtain ⟨⟩ := self
    have hnot : ¬∃ index, conf.currentMode = some index ∧ k ≤ index ∧ index < k + 0 := by
      rintro ⟨index, -, hge, hlt⟩
      omega
    simp only [List.zipIdx_nil, List.flatMap_nil, List.map_nil, List.append_nil, List.length_nil]
    rw [if_neg hnot]
    rfl
  | cons mode modes ih =>
    have hindex : k ∉ self.modes.map (·.number) := by
      rw [hself]
      exact List.not_mem_range_self
    have hnumbers : ((self.modes ++ [newModeView k mode]).map (·.number)) = List.range (k + 1) := by
      rw [List.map_append, hself, List.range_succ]
      rfl
    rw [List.zipIdx_cons, List.flatMap_cons, HeadView.receiveAll_append,
      receiveAll_newModeEvents self conf mode hindex, ih _ (k + 1) hnumbers]
    simp only [List.map_cons, List.append_assoc, List.singleton_append, List.length_cons,
      HeadView.mk.injEq, true_and, and_true]
    cases conf.currentMode with
    | none => simp
    | some current =>
      simp only [Option.some.injEq, exists_eq_left']
      split_ifs <;> first | rfl | omega | simp_all

theorem receiveAll_logical (self : HeadView) (logical : Option LogicalOutput) :
    self.receiveAll (logical.toList.flatMap logicalEvents) =
      { self with
        position := (logical.map fun logical => (logical.x, logical.y)).or self.position
        transform := (logical.map fun logical => logical.transform).or self.transform
        scale := (logical.map fun logical => logical.scale).or self.scale } := by
  cases logical <;> rfl

theorem receiveAll_physicalSize (self : HeadView) (physicalSize : Option (ℕ × ℕ)) :
    ∃ size, self.receiveAll (physicalSizeEvents physicalSize) =
      { self with physicalSize := size } := by
  cases physicalSize with
  | none => exact ⟨self.physicalSize, rfl⟩
  | some size =>
    obtain ⟨width, height⟩ := size
    unfold physicalSizeEvents
    dsimp only
    split_ifs
    · exact ⟨_, rfl⟩
    · exact ⟨self.physicalSize, rfl⟩

theorem receiveAll_make (self : HeadView) (p : Prop) [Decidable p] (make : String) :
    self.receiveAll (if p then [.make make] else []) =
      { self with make := if p then some make else self.make } := by
  split_ifs <;> rfl

theorem receiveAll_model (self : HeadView) (p : Prop) [Decidable p] (model : String) :
    self.receiveAll (if p then [.model model] else []) =
      { self with model := if p then some model else self.model } := by
  split_ifs <;> rfl

theorem receiveAll_serialNumber (self : HeadView) (p : Prop) [Decidable p]
    (serial : Option String) :
    self.receiveAll (if p then serial.toList.map .serialNumber else []) =
      { self with serialNumber := if p then serial.or self.serialNumber else self.serialNumber } := by
  cases serial <;> split_ifs <;> rfl

theorem receiveAll_adaptiveSync (self : HeadView) (p : Prop) [Decidable p] (enabled : Bool) :
    self.receiveAll (if p then [.adaptiveSync enabled] else []) =
      { self with adaptiveSync := if p then some enabled else self.adaptiveSync } := by
  split_ifs <;> rfl

/-- A new head shows its output. -/
theorem newHead_tracks (id version : ℕ) (conf : Output) :
    Tracks ⟨id, version, List.range conf.modes.length, conf.modes.length⟩
      ((HeadView.new id).receiveAll (newHeadEvents version conf)) conf := by
  have hnew : ∀ v : HeadView, v.modes = [] → v.modes.map (·.number) = List.range 0 := by
    intro v hv
    rw [hv]
    rfl
  unfold newHeadEvents
  simp only [HeadView.receiveAll_append]
  obtain ⟨size, hsize⟩ := receiveAll_physicalSize ((HeadView.new id).receiveAll
    [.name conf.name, .description s!"{conf.make} - {conf.model} - {conf.name}"]) conf.physicalSize
  rw [hsize, receiveAll_newModes _ conf conf.modes 0 (hnew _ rfl), receiveAll_logical]
  rw [receiveAll_adaptiveSync, receiveAll_serialNumber, receiveAll_model, receiveAll_make]
  have hnumbers : ((conf.modes.zipIdx 0).map fun p => newModeView p.2 p.1).map (·.number) =
      List.range conf.modes.length := by
    rw [List.map_map, List.range_eq_range', ← List.zipIdx_map_snd 0 conf.modes]
    rfl
  have hshown : ((conf.modes.zipIdx 0).map fun p => newModeView p.2 p.1).map ModeView.shown =
      conf.modes.map Mode.shown := by
    conv_rhs => rw [← List.zipIdx_map_fst 0 conf.modes]
    rw [List.map_map, List.map_map]
    rfl
  constructor
  · rfl
  · exact ⟨hnumbers, List.nodup_range, fun m hm => List.mem_range.mp hm, hshown⟩
  · rfl
  · rfl
  · rfl
  · rfl
  · change (if evtSerialNumberSince ≤ version then conf.serial.or none else none) =
      if evtSerialNumberSince ≤ version then conf.serial else none
    rw [Option.or_none]
  · rfl
  · rfl
  · intro index hindex
    change (if ∃ i, conf.currentMode = some i ∧ 0 ≤ i ∧ i < 0 + conf.modes.length
      then conf.currentMode else none) = (List.range conf.modes.length)[index]?
    rw [hindex]
    by_cases hlt : index < conf.modes.length
    · rw [List.getElem?_range hlt, if_pos ⟨index, rfl, Nat.zero_le _, by omega⟩]
    · rw [List.getElem?_eq_none (by simpa using hlt), if_neg]
      rintro ⟨i, hi, -, hi'⟩
      cases hi
      omega
  · intro logical hlogical
    change (conf.logical.map _).or none = _ ∧ (conf.logical.map _).or none = _ ∧
      (conf.logical.map _).or none = _
    rw [hlogical]
    exact ⟨rfl, rfl, rfl⟩
  · intro _ hlogical
    change (conf.logical.map _).or none = _ ∧ (conf.logical.map _).or none = _ ∧
      (conf.logical.map _).or none = _
    rw [hlogical]
    exact ⟨rfl, rfl, rfl⟩

/-! ### Differences -/

/-- The changes of an output that the differences account for: where the number of its modes
changes, the index of its current mode does not, and it is not turned on; the current mode
is one of the modes; a refresh rate that is not one of `i32` does not replace one that is;
and an output that is on has a place, unless it was on without one. -/
structure Followed (old conf : Output) : Prop where
  name : conf.name = old.name
  make : conf.make = old.make
  model : conf.model = old.model
  serial : conf.serial = old.serial
  refresh : ∀ (i : ℕ) (a b : Mode), old.modes[i]? = some a → conf.modes[i]? = some b →
    (refreshI32 b.refreshRate).isSome = true ∨ refreshI32 a.refreshRate = none
  currentMode : ∀ index, conf.currentMode = some index → index < conf.modes.length ∧
    (old.modes.length = conf.modes.length ∨
      old.currentMode = some index ∧ index < old.modes.length)
  logical : conf.currentMode.isSome = true → conf.logical = none →
    old.currentMode.isSome = true ∧ old.logical = none

/-- What is sent on a head, and the head after it. -/
abbrev Sends := Head → List HeadEvent × Head

namespace Sends

/-- Nothing is sent. -/
def nothing : Sends := fun head => ([], head)

/-- One after the other. -/
def andThen (f g : Sends) : Sends := fun head =>
  ((f head).1 ++ (g (f head).2).1, (g (f head).2).2)

/-- The head stays the same object. -/
def Keeps (f : Sends) : Prop := ∀ head, (f head).2.id = head.id ∧ (f head).2.version = head.version

theorem keeps_nothing : Keeps nothing := fun _ => ⟨rfl, rfl⟩

theorem Keeps.andThen {f g : Sends} (hf : f.Keeps) (hg : g.Keeps) : (f.andThen g).Keeps :=
  fun head => ⟨(hg _).1.trans (hf head).1, (hg _).2.trans (hf head).2⟩

theorem Keeps.ite {f : Sends} (hf : f.Keeps) (p : Prop) [Decidable p] :
    (if p then f else nothing).Keeps := by
  split_ifs
  · exact hf
  · exact keeps_nothing

end Sends

open Sends

theorem keeps_modesEvents (conf : Output) : Keeps (modesEvents conf) := by
  intro head
  unfold modesEvents
  dsimp only
  split_ifs <;> exact ⟨rfl, rfl⟩

def vrrDifference (old conf : Output) : Sends :=
  if old.vrrEnabled ≠ conf.vrrEnabled then vrrEvents conf else nothing

def modesDifference (old conf : Output) : Sends :=
  if old.modes ≠ conf.modes then modesEvents conf else nothing

def currentDifference (old conf : Output) : Sends :=
  match old.currentMode, conf.currentMode with
  | some oldIndex, some newIndex =>
    if old.modes.length = conf.modes.length ∧ (old.modes ≠ conf.modes ∨ oldIndex ≠ newIndex) then
      currentModeEvents newIndex
    else nothing
  | some _, none => disabledEvents
  | none, some newIndex =>
    if old.modes.length = conf.modes.length then enabledEvents newIndex else nothing
  | none, none => nothing

def placeDifference (old conf : Output) : Sends :=
  match old.logical, conf.logical with
  | some oldLogical, some newLogical =>
    if oldLogical ≠ newLogical then logicalChangeEvents oldLogical newLogical else nothing
  | none, some newLogical => logicalNewEvents newLogical
  | some _, none => nothing
  | none, none => nothing

/-- All that is sent on a head of an output for its changes. -/
def difference (old conf : Output) : Sends :=
  ((vrrDifference old conf).andThen (modesDifference old conf)).andThen
    (currentDifference old conf) |>.andThen (placeDifference old conf)

section Keeping

variable (old conf : Output)

theorem keeps_vrrDifference : (vrrDifference old conf).Keeps :=
  Keeps.ite (f := vrrEvents conf) (fun _ => ⟨rfl, rfl⟩) _

theorem keeps_modesDifference : (modesDifference old conf).Keeps := (keeps_modesEvents conf).ite _

theorem keeps_currentDifference : (currentDifference old conf).Keeps := by
  unfold currentDifference
  split
  · exact Keeps.ite (f := currentModeEvents _) (fun _ => ⟨rfl, rfl⟩) _
  · exact fun _ => ⟨rfl, rfl⟩
  · exact Keeps.ite (f := enabledEvents _) (fun _ => ⟨rfl, rfl⟩) _
  · exact keeps_nothing

theorem keeps_placeDifference : (placeDifference old conf).Keeps := by
  unfold placeDifference
  split
  · exact Keeps.ite (f := logicalChangeEvents _ _) (fun _ => ⟨rfl, rfl⟩) _
  · exact fun _ => ⟨rfl, rfl⟩
  · exact keeps_nothing
  · exact keeps_nothing

theorem keeps_difference : (difference old conf).Keeps :=
  (((keeps_vrrDifference old conf).andThen (keeps_modesDifference old conf)).andThen
    (keeps_currentDifference old conf)).andThen (keeps_placeDifference old conf)

end Keeping

section Following

variable {head : Head} {v : HeadView} {old conf : Output}

theorem receiveAll_vrrDifference (conf : Output)
    (h : v.adaptiveSync = (old.shown head.version).adaptiveSync) :
    v.receiveAll (vrrDifference old conf head).1 =
      { v with adaptiveSync := (conf.shown head.version).adaptiveSync } ∧
        (vrrDifference old conf head).2 = head := by
  unfold vrrDifference
  by_cases hvrr : old.vrrEnabled = conf.vrrEnabled
  · rw [if_neg (not_not.mpr hvrr)]
    have hsame : (conf.shown head.version).adaptiveSync = v.adaptiveSync := by
      rw [h]
      change (if _ then some conf.vrrEnabled else none) = if _ then some old.vrrEnabled else none
      rw [hvrr]
    rw [hsame]
    exact ⟨rfl, rfl⟩
  · rw [if_pos hvrr]
    refine ⟨?_, rfl⟩
    change v.receiveAll (if evtAdaptiveSyncSince ≤ head.version then _ else _) =
      { v with adaptiveSync := if evtAdaptiveSyncSince ≤ head.version then _ else _ }
    by_cases hversion : evtAdaptiveSyncSince ≤ head.version
    · rw [if_pos hversion, if_pos hversion]
      rfl
    · have hnone : v.adaptiveSync = none := h.trans (if_neg hversion)
      rw [if_neg hversion, if_neg hversion, ← hnone]
      rfl

theorem receiveAll_modesDifference (h : ModesTrack head v.modes old.modes)
    (hfollowed : Followed old conf) : ∃ views,
      v.receiveAll (modesDifference old conf head).1 = { v with modes := views } ∧
        ModesTrack (modesDifference old conf head).2 views conf.modes ∧
          ∀ n, n < old.modes.length → n < conf.modes.length →
            (modesDifference old conf head).2.modes[n]? = head.modes[n]? := by
  unfold modesDifference
  split_ifs with hmodes
  · obtain ⟨views, hviews, htrack, -, -, hget⟩ := modesEvents_spec h hfollowed.refresh
    exact ⟨views, hviews, htrack, hget⟩
  · rw [not_not] at hmodes
    exact ⟨v.modes, rfl, hmodes ▸ h, fun _ _ _ => rfl⟩

/-- The current mode after its difference, on the head with the new modes. -/
theorem receiveAll_currentDifference (hmodes : ModesTrack head v.modes conf.modes)
    (henabled : v.enabled = some old.currentMode.isSome)
    (hcurrent : ∀ index, old.currentMode = some index → index < old.modes.length →
      index < conf.modes.length → v.currentMode = head.modes[index]?)
    (hfollowed : Followed old conf) : ∃ current,
      v.receiveAll (currentDifference old conf head).1 =
        { v with enabled := some conf.currentMode.isSome, currentMode := current } ∧
      (currentDifference old conf head).2 = head ∧
      ∀ index, conf.currentMode = some index → current = head.modes[index]? := by
  have hlen := hmodes.length_head
  unfold currentDifference
  cases hnew : conf.currentMode with
  | none =>
    cases hold : old.currentMode with
    | none =>
      refine ⟨v.currentMode, ?_, rfl, fun index hindex => by cases hindex⟩
      rw [hold] at henabled
      change v = { v with enabled := some false }
      rw [← show v.enabled = some false from henabled]
    | some index => exact ⟨v.currentMode, rfl, rfl, fun index hindex => by cases hindex⟩
  | some newIndex =>
    obtain ⟨hvalid, hfollow⟩ := hfollowed.currentMode newIndex hnew
    obtain ⟨number, hnumber⟩ : ∃ number, head.modes[newIndex]? = some number :=
      ⟨_, List.getElem?_eq_getElem (hlen ▸ hvalid)⟩
    have hsent : (currentModeEvents newIndex head).1 = [.currentMode number] := by
      unfold currentModeEvents
      rw [hnumber]
      rfl
    have hthen : ∀ index, some newIndex = some index → some number = head.modes[index]? := by
      rintro index ⟨⟩
      exact hnumber.symm
    cases hold : old.currentMode with
    | none =>
      -- it is turned on, with a current mode
      have hlength : old.modes.length = conf.modes.length := by
        refine hfollow.resolve_right fun h => ?_
        rw [hold] at h
        cases h.1
      dsimp only
      rw [if_pos hlength]
      refine ⟨some number, ?_, rfl, hthen⟩
      unfold enabledEvents
      rw [hsent]
      rfl
    | some oldIndex =>
      have hon : v.enabled = some true := by
        rw [henabled, hold]
        rfl
      dsimp only
      by_cases hchanged : old.modes.length = conf.modes.length ∧
          (old.modes ≠ conf.modes ∨ oldIndex ≠ newIndex)
      · rw [if_pos hchanged]
        refine ⟨some number, ?_, rfl, hthen⟩
        rw [hsent]
        change { v with currentMode := some number } =
          { v with enabled := some true, currentMode := some number }
        rw [← hon]
      · -- the current mode is the same object
        rw [if_neg hchanged]
        have hindex : oldIndex = newIndex ∧ newIndex < old.modes.length := by
          rcases hfollow with hlength | ⟨hsame, hlt⟩
          · have hsame : oldIndex = newIndex := by
              by_contra hne
              exact hchanged ⟨hlength, Or.inr hne⟩
            exact ⟨hsame, hlength ▸ hvalid⟩
          · rw [hold] at hsame
            cases hsame
            exact ⟨rfl, hlt⟩
        obtain ⟨rfl, hlt⟩ := hindex
        refine ⟨v.currentMode, ?_, rfl, ?_⟩
        · change v = { v with enabled := some true }
          rw [← hon]
        · rintro index ⟨⟩
          exact hcurrent _ hold hlt hvalid

/-- A part of the place that is sent where it changed. -/
theorem receiveAll_logicalChange {oldLogical newLogical : LogicalOutput}
    (hposition : v.position = some (oldLogical.x, oldLogical.y))
    (htransform : v.transform = some oldLogical.transform)
    (hscale : v.scale = some oldLogical.scale) :
    v.receiveAll (logicalChangeEvents oldLogical newLogical head).1 =
      { v with
        position := some (newLogical.x, newLogical.y)
        transform := some newLogical.transform
        scale := some newLogical.scale } := by
  obtain ⟨⟩ := v
  simp only at hposition htransform hscale
  subst hposition htransform hscale
  unfold logicalChangeEvents
  dsimp only
  rw [HeadView.receiveAll_append, HeadView.receiveAll_append]
  by_cases hxy : oldLogical.x ≠ newLogical.x ∨ oldLogical.y ≠ newLogical.y
  · rw [if_pos hxy]
    by_cases hs : oldLogical.scale = newLogical.scale <;>
      by_cases ht : oldLogical.transform = newLogical.transform <;>
        simp [HeadView.receiveAll, HeadView.receive, hs, ht]
  · rw [if_neg hxy]
    rw [not_or, not_not, not_not] at hxy
    by_cases hs : oldLogical.scale = newLogical.scale <;>
      by_cases ht : oldLogical.transform = newLogical.transform <;>
        simp [HeadView.receiveAll, HeadView.receive, hs, ht, hxy.1, hxy.2]

/-- The place after its difference. -/
theorem receiveAll_placeDifference (head : Head) (hlogical : ∀ logical, old.logical = some logical →
      v.position = some (logical.x, logical.y) ∧ v.transform = some logical.transform ∧
        v.scale = some logical.scale)
    (hnone : old.currentMode.isSome = true → old.logical = none →
      v.position = none ∧ v.transform = none ∧ v.scale = none)
    (hfollowed : Followed old conf) : ∃ position transform scale,
      v.receiveAll (placeDifference old conf head).1 =
        { v with position := position, transform := transform, scale := scale } ∧
      (placeDifference old conf head).2 = head ∧
      (∀ logical, conf.logical = some logical → position = some (logical.x, logical.y) ∧
        transform = some logical.transform ∧ scale = some logical.scale) ∧
      (conf.currentMode.isSome = true → conf.logical = none →
        position = none ∧ transform = none ∧ scale = none) := by
  unfold placeDifference
  cases hnew : conf.logical with
  | none =>
    refine ⟨v.position, v.transform, v.scale, ?_⟩
    have hplace : conf.currentMode.isSome = true → (none : Option LogicalOutput) = none →
        v.position = none ∧ v.transform = none ∧ v.scale = none := by
      intro hon _
      obtain ⟨holdOn, holdNone⟩ := hfollowed.logical hon hnew
      exact hnone holdOn holdNone
    cases old.logical with
    | none => exact ⟨rfl, rfl, nofun, hplace⟩
    | some oldLogical => exact ⟨rfl, rfl, nofun, hplace⟩
  | some newLogical =>
    refine ⟨some (newLogical.x, newLogical.y), some newLogical.transform, some newLogical.scale, ?_⟩
    have hplace : ∀ logical, some newLogical = some logical →
        some (newLogical.x, newLogical.y) = some (logical.x, logical.y) ∧
          some newLogical.transform = some logical.transform ∧
          some newLogical.scale = some logical.scale := by
      rintro logical ⟨⟩
      exact ⟨rfl, rfl, rfl⟩
    cases hold : old.logical with
    | none => exact ⟨rfl, rfl, hplace, nofun⟩
    | some oldLogical =>
      obtain ⟨hposition, htransform, hscale⟩ := hlogical oldLogical hold
      dsimp only
      by_cases hchanged : oldLogical ≠ newLogical
      · rw [if_pos hchanged]
        exact ⟨receiveAll_logicalChange hposition htransform hscale, rfl, hplace, nofun⟩
      · rw [not_not] at hchanged
        subst hchanged
        rw [if_neg (not_not.mpr rfl)]
        refine ⟨?_, rfl, hplace, nofun⟩
        rw [← hposition, ← htransform, ← hscale]
        rfl

/-- A head that shows the old state of its output shows the new one after the differences. -/
theorem difference_tracks (h : Tracks head v old) (hfollowed : Followed old conf) :
    Tracks (difference old conf head).2 (v.receiveAll (difference old conf head).1) conf := by
  obtain ⟨hid, hversion⟩ := keeps_difference old conf head
  obtain ⟨hvrr, hvrrHead⟩ := receiveAll_vrrDifference conf h.adaptiveSync
  obtain ⟨views, hmodes, htrack, hget⟩ := receiveAll_modesDifference (v := { v with
    adaptiveSync := (conf.shown head.version).adaptiveSync }) h.modes hfollowed
  have hpoint : ∀ index, old.currentMode = some index → index < old.modes.length →
      index < conf.modes.length →
        v.currentMode = (modesDifference old conf head).2.modes[index]? := by
    intro index hindex hlt hlt'
    rw [hget index hlt hlt']
    exact h.currentMode index hindex
  obtain ⟨current, hcurrent, hcurrentHead, hcurrentMode⟩ :=
    receiveAll_currentDifference (v := { v with
      adaptiveSync := (conf.shown head.version).adaptiveSync, modes := views }) htrack h.enabled
      hpoint hfollowed
  obtain ⟨position, transform, scale, hplace, hplaceHead, hlogical, hnone⟩ :=
    receiveAll_placeDifference (modesDifference old conf head).2 (v := { v with
      adaptiveSync := (conf.shown head.version).adaptiveSync
      modes := views
      enabled := some conf.currentMode.isSome
      currentMode := current }) h.logical h.noLogical hfollowed
  have hhead : (difference old conf head).2 = (modesDifference old conf head).2 := by
    unfold difference andThen
    dsimp only
    rw [hvrrHead, hcurrentHead, hplaceHead]
  have hview : v.receiveAll (difference old conf head).1 =
      { v with
        adaptiveSync := (conf.shown head.version).adaptiveSync
        modes := views
        enabled := some conf.currentMode.isSome
        currentMode := current
        position := position
        transform := transform
        scale := scale } := by
    unfold difference andThen
    dsimp only
    rw [HeadView.receiveAll_append, HeadView.receiveAll_append, HeadView.receiveAll_append, hvrr,
      hvrrHead, hmodes, hcurrent, hcurrentHead, hplace]
  have hversion' : (modesDifference old conf head).2.version = head.version := hhead ▸ hversion
  have hshown : conf.shown (modesDifference old conf head).2.version = conf.shown head.version := by
    rw [hversion']
  have hname : (conf.shown head.version).name = (old.shown head.version).name :=
    congrArg some hfollowed.name
  have hdescription : (conf.shown head.version).description =
      (old.shown head.version).description := by
    unfold Output.shown
    dsimp only
    rw [hfollowed.make, hfollowed.model, hfollowed.name]
  have hmake : (conf.shown head.version).make = (old.shown head.version).make := by
    unfold Output.shown
    dsimp only
    rw [hfollowed.make]
  have hmodel : (conf.shown head.version).model = (old.shown head.version).model := by
    unfold Output.shown
    dsimp only
    rw [hfollowed.model]
  have hserial : (conf.shown head.version).serialNumber =
      (old.shown head.version).serialNumber := by
    unfold Output.shown
    dsimp only
    rw [hfollowed.serial]
  rw [hview]
  rw [hhead] at hid ⊢
  constructor
  · exact h.id.trans hid.symm
  · exact htrack
  · rw [hshown]
    exact h.name.trans hname.symm
  · rw [hshown]
    exact h.description.trans hdescription.symm
  · rw [hshown]
    exact h.make.trans hmake.symm
  · rw [hshown]
    exact h.model.trans hmodel.symm
  · rw [hshown]
    exact h.serialNumber.trans hserial.symm
  · rfl
  · rw [hshown]
  · exact hcurrentMode
  · exact hlogical
  · exact hnone

end Following

end Sol.OutputManagement
