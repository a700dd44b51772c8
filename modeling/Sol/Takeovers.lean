import Sol.Columns
import Sol.SampleSpace

/-!
# Takeovers

A column that is pending fullscreen or maximized takes over the space: it alone
is rendered and hit-tested.  An added column ends every takeover, but a request
for one does not end the others, and neither does a focus move.

* `singleTakeover_iff`: there is one takeover at most, and the bars are below the
  column that is fullscreen, as long as nothing takes over beside another column;
* `focusedTakeover_iff`: the column that takes over is the focused one as long as
  the focus does not move away from it.
-/

namespace Sol

open Panicking

variable {W Id : Type} [LayoutElement W Id]

/-! ### The flags of a column -/

namespace Column

/-- Whether a column takes over the space. -/
def takesOver (c : Column W) : Bool := c.isPendingFullscreen || c.isPendingMaximized

/-- Two columns of one window with the same flags. -/
structure SameFlags (c d : Column W) : Prop where
  windowId_eq : d.windowId = c.windowId
  fullscreen_eq : d.isPendingFullscreen = c.isPendingFullscreen
  maximized_eq : d.isPendingMaximized = c.isPendingMaximized

theorem SameFlags.refl (c : Column W) : SameFlags c c := ⟨rfl, rfl, rfl⟩

theorem SameFlags.trans {c d e : Column W} (h : SameFlags c d) (h' : SameFlags d e) :
    SameFlags c e :=
  ⟨h'.windowId_eq.trans h.windowId_eq, h'.fullscreen_eq.trans h.fullscreen_eq,
    h'.maximized_eq.trans h.maximized_eq⟩

theorem SameFlags.takesOver_eq {c d : Column W} (h : SameFlags c d) :
    d.takesOver = c.takesOver := by
  rw [takesOver, takesOver, h.fullscreen_eq, h.maximized_eq]

theorem sameFlags_fillSlot (c : Column W) (size : Size) : SameFlags c (c.fillSlot size) := by
  refine ⟨windowId_fillSlot c size, ?_, ?_⟩ <;>
  · unfold fillSlot
    split_ifs <;> rfl

theorem Settled.sameFlags {c d : Column W} (h : Settled c d) : SameFlags c d := by
  induction h with
  | refl => exact .refl c
  | fill _ size ih => exact ih.trans (sameFlags_fillSlot _ size)
  | slide _ clock config delta ih =>
    exact ih.trans ⟨ScrollingSpace.windowId_slide clock config delta _, rfl, rfl⟩

theorem sameFlags_updateConfig (c : Column W) (viewSize : Size) (workingArea parentArea : Rect)
    (scale : ℚ) (options : Options) :
    SameFlags c (c.updateConfig viewSize workingArea parentArea scale options) :=
  ⟨windowId_updateConfig c _ _ _ _ _, rfl, rfl⟩

theorem takesOver_endTakeover (c : Column W) (size : Size) :
    (c.endTakeover size).takesOver = false := by
  unfold endTakeover setMaximized setFullscreen takesOver
  split_ifs <;> simp_all

theorem takesOver_setFullscreen (c : Column W) : (c.setFullscreen true).1.takesOver = true := by
  unfold setFullscreen takesOver
  split_ifs <;> simp_all

theorem takesOver_setMaximized (c : Column W) (size : Size) :
    (c.setMaximized true size).1.takesOver = true := by
  unfold setMaximized takesOver
  split_ifs <;> simp_all

/-- What is told to end a takeover does not begin one. -/
theorem takesOver_of_setFullscreen_false {c : Column W}
    (h : (c.setFullscreen false).1.takesOver = true) : c.takesOver = true := by
  unfold setFullscreen takesOver at *
  split_ifs at h <;> simp_all

theorem takesOver_of_setMaximized_false {c : Column W} {size : Size}
    (h : (c.setMaximized false size).1.takesOver = true) : c.takesOver = true := by
  unfold setMaximized takesOver at *
  split_ifs at h <;> simp_all

end Column

namespace ScrollingSpace

variable {s t : ScrollingSpace W}

open Column

/-! ### One takeover at most -/

/-- At most one window of the columns takes over. -/
def Alone (l : List (Column W)) : Prop :=
  ∀ c ∈ l, ∀ d ∈ l, c.takesOver = true → d.takesOver = true → c.windowId = d.windowId

/-- One column at most takes over, and where the space is above the bars it is
the fullscreen column that is rendered and hit-tested. -/
structure SingleTakeover (s : ScrollingSpace W) : Prop where
  unique : (s.columns.filter (·.takesOver)).length ≤ 1
  above : s.renderAboveTopLayer = true → ∃ i area c, s.takeover = some (i, area) ∧
    s.columns[i]? = some c ∧ c.isPendingFullscreen = true

/-- The column that takes over is one that is pending to. -/
theorem takesOver_of_takeover {i : ℕ} {area : Rect} (h : s.takeover = some (i, area)) :
    ∃ c, s.columns[i]? = some c ∧ c.takesOver = true := by
  obtain ⟨⟨c, j⟩, hmem, heq⟩ := List.exists_of_findSome?_eq_some h
  have hc := List.mem_zipIdx_iff_getElem?.mp hmem
  simp only at heq
  split_ifs at heq with hfull hmax
  · obtain ⟨rfl, -⟩ := Prod.mk.inj (Option.some.inj heq)
    exact ⟨c, hc, by simp [takesOver, hfull]⟩
  · obtain ⟨rfl, -⟩ := Prod.mk.inj (Option.some.inj heq)
    exact ⟨c, hc, by simp [takesOver, hmax]⟩

theorem takeover_isSome {c : Column W} (hc : c ∈ s.columns) (htakes : c.takesOver = true) :
    s.takeover.isSome = true := by
  obtain ⟨i, hi, rfl⟩ := List.getElem_of_mem hc
  rw [takeover, List.findSome?_isSome_iff]
  refine ⟨(s.columns[i], i), List.mem_zipIdx_iff_getElem?.mpr (List.getElem?_eq_getElem hi), ?_⟩
  unfold takesOver at htakes
  simp only
  split_ifs <;> simp_all

theorem renderAboveTopLayer_iff :
    s.renderAboveTopLayer = true ↔ ∃ c ∈ s.columns, c.isPendingFullscreen = true := by
  unfold renderAboveTopLayer columns
  cases s.master <;> simp

/-- Columns of different windows are told apart by them. -/
theorem column_eq (hnodup : s.windowIds.Nodup) {c d : Column W} (hc : c ∈ s.columns)
    (hd : d ∈ s.columns) (hid : c.windowId = d.windowId) : c = d :=
  List.inj_on_of_nodup_map hnodup hc hd hid

theorem singleTakeover_iff_alone (hnodup : s.windowIds.Nodup) :
    SingleTakeover s ↔ Alone s.columns := by
  constructor
  · intro h c hc d hd htc htd
    have hcf : c ∈ s.columns.filter (·.takesOver) := List.mem_filter.mpr ⟨hc, htc⟩
    have hdf : d ∈ s.columns.filter (·.takesOver) := List.mem_filter.mpr ⟨hd, htd⟩
    obtain ⟨a, ha⟩ := List.length_eq_one_iff.mp
      (Nat.le_antisymm h.unique (List.length_pos_of_mem hcf))
    rw [ha, List.mem_singleton] at hcf hdf
    rw [hcf, hdf]
  · intro h
    constructor
    · have hcols : (s.columns.filter (·.takesOver)).Nodup := (List.Nodup.of_map _ hnodup).filter _
      cases hl : s.columns.filter (·.takesOver) with
      | nil => simp
      | cons c l =>
        cases l with
        | nil => simp
        | cons d l =>
          have hc : c ∈ s.columns.filter (·.takesOver) := by simp [hl]
          have hd : d ∈ s.columns.filter (·.takesOver) := by simp [hl]
          rw [List.mem_filter] at hc hd
          have := column_eq hnodup hc.1 hd.1 (h c hc.1 d hd.1 hc.2 hd.2)
          simp [hl, this] at hcols
    · intro habove
      obtain ⟨d, hd, hfull⟩ := renderAboveTopLayer_iff.mp habove
      have htd : d.takesOver = true := by simp [takesOver, hfull]
      obtain ⟨⟨i, area⟩, htake⟩ := Option.isSome_iff_exists.mp (takeover_isSome hd htd)
      obtain ⟨c, hc, htc⟩ := takesOver_of_takeover htake
      have hmem := List.mem_of_getElem? hc
      have hcd := column_eq hnodup hmem hd (h c hmem d hd htc htd)
      exact ⟨i, area, c, htake, hc, hcd ▸ hfull⟩

theorem Alone.of_traced {l l' : List (Column W)} (h : Alone l) (ht : Traced SameFlags l l') :
    Alone l' := by
  intro c' hc' d' hd' htc htd
  obtain ⟨c, hc, hcc⟩ := ht c' hc'
  obtain ⟨d, hd, hdd⟩ := ht d' hd'
  rw [hcc.windowId_eq, hdd.windowId_eq]
  exact h c hc d hd (hcc.takesOver_eq ▸ htc) (hdd.takesOver_eq ▸ htd)

theorem mem_modify {l : List (Column W)} {i : ℕ} {f : Column W → Column W} {d : Column W} :
    d ∈ l.modify i f ↔ (∃ c, l[i]? = some c ∧ d = f c) ∨ ∃ j, j ≠ i ∧ l[j]? = some d := by
  rw [List.mem_iff_getElem?]
  constructor
  · rintro ⟨j, hj⟩
    rw [List.getElem?_modify] at hj
    by_cases hij : i = j
    · subst hij
      obtain ⟨c, hc, rfl⟩ := Option.map_eq_some_iff.mp hj
      exact .inl ⟨c, hc, by simp⟩
    · exact .inr ⟨j, Ne.symm hij, by simpa [hij] using hj⟩
  · rintro (⟨c, hc, rfl⟩ | ⟨j, hji, hj⟩)
    · exact ⟨i, by simp [hc]⟩
    · exact ⟨j, by simp [Ne.symm hji, hj]⟩

/-- A takeover that begins is the only one if there was none beside it. -/
theorem alone_modify_iff {l : List (Column W)} {i : ℕ} {c : Column W} (hc : l[i]? = some c)
    {f : Column W → Column W} (hid : (f c).windowId = c.windowId)
    (htakes : (f c).takesOver = true) :
    Alone (l.modify i f) ↔ ∀ d ∈ l, d.takesOver = true → d.windowId = c.windowId := by
  constructor
  · intro h d hd htd
    obtain ⟨j, hj⟩ := List.mem_iff_getElem?.mp hd
    by_cases hji : j = i
    · subst hji
      rw [Option.some.inj (hj.symm.trans hc)]
    · have := h d (mem_modify.mpr (.inr ⟨j, hji, hj⟩)) (f c) (mem_modify.mpr (.inl ⟨c, hc, rfl⟩))
        htd htakes
      rwa [hid] at this
  · intro h
    have hwindow : ∀ d ∈ l.modify i f, d.takesOver = true → d.windowId = c.windowId := by
      intro d hd htd
      rcases mem_modify.mp hd with ⟨c', hc', rfl⟩ | ⟨j, -, hj⟩
      · rw [← Option.some.inj (hc.symm.trans hc'), hid]
      · exact h d (List.mem_of_getElem? hj) htd
    intro d hd e he htd hte
    rw [hwindow d hd htd, hwindow e he hte]

/-! ### Steps -/

variable [DecidableEq Id]

/-- The request that an operation makes about a takeover. -/
def Op.takeoverRequest : Op W Id → Option (Id × Bool)
  | .setFullscreen window isFullscreen => some (window, isFullscreen)
  | .setMaximized window maximize => some (window, maximize)
  | _ => none

/-- What the callers see to: a window that is removed is there, and one that is
added is not. -/
def Op.Callable (s : ScrollingSpace W) (op : Op W Id) : Prop :=
  op.Admissible s ∧ ∀ added ∈ op.addedWindow, added.1 ∉ s.windowIds

/-- What does not add a window or request a takeover changes no flag. -/
theorem step_traced (h : s.WellFormed) (clock : Clock) {op : Op W Id}
    (hadded : op.addedWindow = none) (hrequest : op.takeoverRequest = none)
    (hop : op.Admissible s) :
    Ensures (s.step clock op) fun t => Traced SameFlags s.columns t.columns := by
  have hsettled : ∀ {t : ScrollingSpace W}, Kept s.columns s t →
      Traced SameFlags s.columns t.columns :=
    fun ht => ht.columns.mono fun _ _ => Settled.sameFlags
  have hrefl : Traced SameFlags s.columns s.columns := hsettled kept_refl
  cases hremoved : op.removedIdx s with
  | some i =>
    refine (step_removed_kept h clock hremoved).mono fun t ht d hd => ?_
    obtain ⟨c, hc, hcd⟩ := ht.columns d hd
    exact ⟨c, List.mem_of_mem_eraseIdx hc, hcd.sameFlags⟩
  | none =>
    by_cases hmove : op.IsMove
    · exact (step_moved_kept h clock hmove).mono fun t ht => hsettled ht
    by_cases hfocus : op.IsFocus
    · exact (step_refocused clock hfocus).mono fun t ht => hsettled ht.kept
    cases op <;> simp only [Op.IsMove, Op.IsFocus, not_true_eq_false] at hmove hfocus <;>
      simp only [Op.addedWindow, Op.takeoverRequest, reduceCtorEq] at hadded hrequest <;>
      simp only [step, ensures_pure]
    case removeActiveTile =>
      have hc : s.focusedColumn = none := by
        by_contra hne
        obtain ⟨col, hc⟩ := Option.ne_none_iff_exists'.mp hne
        obtain ⟨i, -, hp, -⟩ := position_of_mem (List.mem_map_of_mem (focusedColumn_mem hc))
        simp [Op.removedIdx, hc, hp] at hremoved
      simpa [removeActiveTile, hc] using hrefl
    case removeTile window =>
      obtain ⟨i, -, hp, -⟩ := position_of_mem hop
      simp [Op.removedIdx, hp] at hremoved
    case removeTileByIdx columnIdx => simp [Op.removedIdx] at hremoved
    case removeActiveColumn =>
      have hnone : s.activeColumnIdxInternal = none := hremoved
      simpa [removeActiveColumn, hnone] using hrefl
    case removeColumnByIdx columnIdx => simp [Op.removedIdx] at hremoved
    case updateConfig viewSize parentArea scale options =>
      refine (updateConfig_traced h viewSize parentArea scale options).1.mono fun c d hcd => ?_
      obtain ⟨size, hd⟩ := hcd
      exact hd ▸ (sameFlags_updateConfig c _ _ _ _ _).trans (sameFlags_fillSlot _ size)
    case nudgeMasterRatio delta => exact hsettled (nudgeMasterRatio_kept h clock delta)
    case updateWindow window serial =>
      refine (updateWindow_traced window serial).1.mono fun c d hd => ?_
      rcases hd with rfl | rfl
      · exact .refl d
      · refine ⟨?_, rfl, rfl⟩
        cases serial <;> simp [committedColumn, Column.windowId, Tile.windowId, Tile.updateWindow]
    case advanceAnimations =>
      refine (advanceAnimations_traced clock).1.mono fun c d hd => ?_
      exact hd ▸ ⟨Tile.windowId_advanceAnimations c.tile clock, rfl, rfl⟩
    case refresh isActive isFocused =>
      refine (refresh_traced isActive isFocused).1.mono fun c d hcd => ?_
      obtain ⟨activated, hd⟩ := hcd
      exact hd ▸ ⟨windowId_refreshColumn activated c, rfl, rfl⟩

/-- An added column is the only one that may take over. -/
theorem step_added_alone (h : s.WellFormed) (clock : Clock) {op : Op W Id} {window : Id}
    {activate : Bool} (hadded : op.addedWindow = some (window, activate)) :
    Ensures (s.step clock op) fun t => ∀ d ∈ t.columns, d.takesOver = true → d.windowId = window := by
  have hadd : ∀ column : Column W, column.windowId = window →
      ∀ d ∈ (s.addColumn column activate).columns, d.takesOver = true → d.windowId = window := by
    rintro column rfl d hd htakes
    rcases (addColumn_traced h column activate).1 d hd with ⟨size, rfl⟩ | ⟨c, -, size, rfl⟩
    · exact ((sameFlags_updateConfig column _ _ _ _ _).trans (sameFlags_fillSlot _ size)).windowId_eq
    · rw [(sameFlags_fillSlot _ size).takesOver_eq, takesOver_endTakeover] at htakes
      exact absurd htakes (by simp)
  cases op <;> simp only [Op.addedWindow, reduceCtorEq, Option.some.injEq, Prod.mk.injEq] at hadded
  all_goals
    obtain ⟨hid, rfl⟩ := hadded
    exact ensures_pure.mpr (hadd _ (by simpa using hid))

/-- A column before and after a request about the takeover of a window. -/
structure Asked (window : Id) (value : Bool) (c d : Column W) : Prop where
  windowId_eq : d.windowId = c.windowId
  takesOver : d.takesOver = true → c.takesOver = true ∨ value = true ∧ c.windowId = window

omit [DecidableEq Id] in
theorem Asked.sameFlags {window : Id} {value : Bool} {c d e : Column W} (h : Asked window value c d)
    (h' : SameFlags d e) : Asked window value c e :=
  ⟨h'.windowId_eq.trans h.windowId_eq, fun he => h.takesOver (h'.takesOver_eq ▸ he)⟩

theorem modify_asked {window : Id} {value : Bool} {i : ℕ} {f : Column W → Column W}
    (hi : s.position window = some i) (hid : ∀ c, (f c).windowId = c.windowId)
    (htakes : ∀ c, (f c).takesOver = true → c.takesOver = true ∨ value = true) :
    Traced (Asked window value) s.columns (s.columns.modify i f) := by
  obtain ⟨hlt, hw, -⟩ := List.findIdx?_eq_some_iff_getElem.mp hi
  have hcol : s.columns[i].windowId = window := by simpa using hw
  intro d hd
  rcases mem_modify.mp hd with ⟨c, hc, rfl⟩ | ⟨j, -, hj⟩
  · obtain rfl : s.columns[i] = c := Option.some.inj ((List.getElem?_eq_getElem hlt).symm.trans hc)
    exact ⟨_, List.getElem_mem hlt, hid _, fun ht => (htakes _ ht).imp_right (⟨·, hcol⟩)⟩
  · exact ⟨d, List.mem_of_getElem? hj, rfl, .inl⟩

/-- After a request only the column of its window may take over that did not
before, and only if that was requested. -/
theorem step_requested (h : s.WellFormed) (clock : Clock) {op : Op W Id} {window : Id}
    {value : Bool} (hrequest : op.takeoverRequest = some (window, value)) :
    Ensures (s.step clock op) fun t => Traced (Asked window value) s.columns t.columns := by
  have hrefl : Traced (Asked window value) s.columns s.columns := fun d hd => ⟨d, hd, rfl, .inl⟩
  have hfilled : ∀ {l : List (Column W)} {t : ScrollingSpace W},
      Traced (Asked window value) s.columns l →
        Traced (fun c d => ∃ size, d = c.fillSlot size) l t.columns →
          Traced (Asked window value) s.columns t.columns :=
    fun hl ht => hl.trans ht fun c d e hcd ⟨size, he⟩ => he ▸ hcd.sameFlags (sameFlags_fillSlot d size)
  cases op <;> simp only [Op.takeoverRequest, reduceCtorEq, Option.some.injEq, Prod.mk.injEq] at hrequest
  case setFullscreen w v =>
    obtain ⟨rfl, rfl⟩ := hrequest
    simp only [step, ensures_bind, ensures_pure]
    refine (setFullscreen_traced h w v).mono fun r hr => ?_
    rcases hr with ⟨-, heq⟩ | ⟨i, hi, -, hr⟩
    · exact heq ▸ hrefl
    · cases v with
      | true =>
        rw [show r.1.columns = _ from hr]
        exact modify_asked hi (fun c => windowId_setFullscreen c true) fun c _ => .inr rfl
      | false =>
        exact hfilled (modify_asked hi (fun c => windowId_setFullscreen c false)
          fun c hc => .inl (takesOver_of_setFullscreen_false hc)) hr
  case setMaximized w v =>
    obtain ⟨rfl, rfl⟩ := hrequest
    simp only [step, ensures_bind, ensures_pure]
    refine (setMaximized_traced h w v).mono fun r hr => ?_
    rcases hr with ⟨-, heq⟩ | ⟨i, hi, -, hr⟩
    · exact heq ▸ hrefl
    · cases v with
      | true =>
        rw [show r.1.columns = _ from hr]
        exact modify_asked hi (fun c => windowId_setMaximized c true _) fun c _ => .inr rfl
      | false =>
        exact hfilled (modify_asked hi (fun c => windowId_setMaximized c false _)
          fun c hc => .inl (takesOver_of_setMaximized_false hc)) hr

/-- A request to end a takeover begins none. -/
theorem step_ended_alone (h : s.WellFormed) (halone : Alone s.columns) (clock : Clock)
    {op : Op W Id} {window : Id} (hrequest : op.takeoverRequest = some (window, false)) :
    Ensures (s.step clock op) fun t => Alone t.columns := by
  refine (step_requested h clock hrequest).mono fun t ht c' hc' d' hd' htc htd => ?_
  obtain ⟨c, hc, hcc⟩ := ht c' hc'
  obtain ⟨d, hd, hdd⟩ := ht d' hd'
  have hended : ∀ {e : Column W}, (e.takesOver = true ∨ false = true ∧ e.windowId = window) →
      e.takesOver = true := fun h => h.resolve_right (by simp)
  rw [hcc.windowId_eq, hdd.windowId_eq]
  exact halone c hc d hd (hended (hcc.takesOver htc)) (hended (hdd.takesOver htd))

/-- Whether a request for a takeover finds no other column that takes over. -/
def Op.TakesOverAlone (s : ScrollingSpace W) (op : Op W Id) : Prop :=
  ∀ window, op.takeoverRequest = some (window, true) → window ∈ s.windowIds →
    ∀ c ∈ s.columns, c.takesOver = true → c.windowId = window

/-- A request for a takeover leaves it alone if there is none beside it. -/
theorem step_begun_alone (h : s.WellFormed) (halone : Alone s.columns) (clock : Clock)
    {op : Op W Id} {window : Id}
    (hrequest : op.takeoverRequest = some (window, true)) :
    Ensures (s.step clock op) fun t => Alone t.columns ↔ op.TakesOverAlone s := by
  have habsent : s.position window = none → (Alone s.columns ↔ op.TakesOverAlone s) := by
    intro hnone
    refine iff_of_true halone fun w hw hmem => ?_
    obtain ⟨rfl, -⟩ := Prod.mk.inj (Option.some.inj (hrequest.symm.trans hw))
    obtain ⟨i, -, hp, -⟩ := position_of_mem hmem
    simp [hp] at hnone
  have hbegun : ∀ i, s.position window = some i → ∀ f : Column W → Column W,
      (∀ c, (f c).windowId = c.windowId) → (∀ c, (f c).takesOver = true) →
        (Alone (s.columns.modify i f) ↔ op.TakesOverAlone s) := by
    intro i hi f hid htakes
    obtain ⟨hlt, hw, -⟩ := List.findIdx?_eq_some_iff_getElem.mp hi
    have hcol : s.columns[i].windowId = window := by simpa using hw
    rw [alone_modify_iff (List.getElem?_eq_getElem hlt) (hid _) (htakes _), hcol]
    constructor
    · intro hall w hw' _
      obtain ⟨rfl, -⟩ := Prod.mk.inj (Option.some.inj (hrequest.symm.trans hw'))
      exact hall
    · exact fun hall => hall window hrequest (hcol ▸ List.mem_map_of_mem (List.getElem_mem hlt))
  cases op <;> simp only [Op.takeoverRequest, reduceCtorEq, Option.some.injEq, Prod.mk.injEq] at hrequest
  case setFullscreen =>
    obtain ⟨rfl, rfl⟩ := hrequest
    simp only [step, ensures_bind, ensures_pure]
    refine (setFullscreen_traced h _ true).mono fun r hr => ?_
    rcases hr with ⟨hnone, heq⟩ | ⟨i, hi, -, hr⟩
    · exact heq ▸ habsent hnone
    · rw [show r.1.columns = _ from hr]
      exact hbegun i hi _ (fun c => windowId_setFullscreen c true) takesOver_setFullscreen
  case setMaximized =>
    obtain ⟨rfl, rfl⟩ := hrequest
    simp only [step, ensures_bind, ensures_pure]
    refine (setMaximized_traced h _ true).mono fun r hr => ?_
    rcases hr with ⟨hnone, heq⟩ | ⟨i, hi, -, hr⟩
    · exact heq ▸ habsent hnone
    · rw [show r.1.columns = _ from hr]
      exact hbegun i hi _ (fun c => windowId_setMaximized c true _)
        fun c => takesOver_setMaximized c _

/-- A step keeps the windows apart. -/
theorem step_nodup (h : s.WellFormed) (hnodup : s.windowIds.Nodup) (clock : Clock) {op : Op W Id}
    (hop : op.Callable s) :
    Returns (s.step clock op) fun t => t.WellFormed ∧ t.windowIds.Nodup := by
  cases hremoved : op.removedIdx s with
  | some i =>
    refine (step_removed h clock hop.1 hremoved).mono fun t ⟨c, hd⟩ => ⟨hd.wellFormed, ?_⟩
    exact hd.windowIds_eq ▸ hnodup.eraseIdx i
  | none =>
    cases hadded : op.addedWindow with
    | some added =>
      obtain ⟨t, ht, hwf, hrow, -, -⟩ := step_added h clock hadded
      have hids : t.windowIds = s.windowIds ++ [added.1] := congrArg FocusList.items hrow
      refine ⟨t, ht, hwf, ?_⟩
      rw [hids, List.nodup_append_comm]
      exact List.nodup_cons.mpr ⟨hop.2 added hadded, hnodup⟩
    | none =>
      exact (step_rearranged h clock hremoved hadded hop.1).mono
        fun t ht => ⟨ht.wellFormed, ht.perm.nodup_iff.mpr hnodup⟩

/-- A step leaves at most one takeover exactly if it begins none beside another. -/
theorem step_singleTakeover (h : s.WellFormed) (hnodup : s.windowIds.Nodup)
    (hsingle : SingleTakeover s) (clock : Clock) {op : Op W Id} (hop : op.Callable s) :
    Returns (s.step clock op) fun t => SingleTakeover t ↔ op.TakesOverAlone s := by
  have halone := (singleTakeover_iff_alone hnodup).mp hsingle
  have hspec : Ensures (s.step clock op) fun t => Alone t.columns ↔ op.TakesOverAlone s := by
    cases hrequest : op.takeoverRequest with
    | some request =>
      obtain ⟨window, value⟩ := request
      cases value with
      | true => exact step_begun_alone h halone clock hrequest
      | false =>
        refine (step_ended_alone h halone clock hrequest).mono fun t ht => iff_of_true ht ?_
        intro w hw
        simp [hrequest] at hw
    | none =>
      have hcond : op.TakesOverAlone s := fun w hw => by simp [hrequest] at hw
      cases hadded : op.addedWindow with
      | some added =>
        refine (step_added_alone h clock hadded).mono fun t ht => iff_of_true ?_ hcond
        intro c hc d hd htc htd
        rw [ht c hc htc, ht d hd htd]
      | none =>
        exact (step_traced h clock hadded hrequest hop.1).mono
          fun t ht => iff_of_true (halone.of_traced ht) hcond
  refine ((step_nodup h hnodup clock hop).and_ensures hspec).mono fun t ⟨ht, halone'⟩ => ?_
  rw [singleTakeover_iff_alone ht.2, halone']

/-- In every run in which nothing takes over beside another column, there is at
most one takeover, and it is the one that is above the bars; and a step leaves it
so exactly if it keeps to that. -/
theorem singleTakeover_iff :
    (∀ s : ScrollingSpace W, (machine W Id).ReachableBy
        (fun s a => a.2.Callable s ∧ a.2.TakesOverAlone s) s → SingleTakeover s) ∧
      ∀ (s : ScrollingSpace W) (a : Clock × Op W Id), (machine W Id).ReachableBy
          (fun s a => a.2.Callable s ∧ a.2.TakesOverAlone s) s → a.2.Callable s →
        Returns ((machine W Id).step s a) fun t => SingleTakeover t ↔ a.2.TakesOverAlone s := by
  have hrun : ∀ s : ScrollingSpace W, (machine W Id).ReachableBy
      (fun s a => a.2.Callable s ∧ a.2.TakesOverAlone s) s →
        (s.WellFormed ∧ s.windowIds.Nodup) ∧ SingleTakeover s := by
    intro s hs
    refine Machine.ReachableBy.invariant
      (P := fun s => (s.WellFormed ∧ s.windowIds.Nodup) ∧ SingleTakeover s) hs ?_ ?_
    · rintro s ⟨viewSize, parentArea, scale, options, rfl⟩
      have hnodup : (new (W := W) viewSize parentArea scale options).windowIds.Nodup :=
        List.nodup_nil
      refine ⟨⟨wellFormed_new viewSize parentArea scale options, hnodup⟩, ?_⟩
      exact (singleTakeover_iff_alone hnodup).mpr fun c hc => absurd hc List.not_mem_nil
    · rintro s a ⟨⟨hwf, hnodup⟩, hsingle⟩ ⟨hcallable, halone⟩
      have hstep := step_singleTakeover hwf hnodup hsingle a.1 hcallable
      exact ((step_nodup hwf hnodup a.1 hcallable).ensures.and hstep.ensures).mono
        fun t ht => ⟨ht.1, ht.2.mpr halone⟩
  refine ⟨fun s hs => (hrun s hs).2, fun s a hs ha => ?_⟩
  obtain ⟨⟨hwf, hnodup⟩, hsingle⟩ := hrun s hs
  exact step_singleTakeover hwf hnodup hsingle a.1 ha

instance (s : ScrollingSpace W) (op : Op W Id) : Decidable (op.Callable s) := by
  unfold Op.Callable
  infer_instance

instance (s : ScrollingSpace W) (op : Op W Id) : Decidable (op.TakesOverAlone s) :=
  decidable_of_iff (∀ request ∈ op.takeoverRequest, request.2 = true → request.1 ∈ s.windowIds →
    ∀ c ∈ s.columns, c.takesOver = true → c.windowId = request.1) (by
      constructor
      · exact fun h w hw => h (w, true) hw rfl
      · rintro h ⟨w, _⟩ hw rfl
        exact h w hw)

end ScrollingSpace

/-- Opens the windows from 1 to 2, then requests takeovers of them. -/
def Sample.takeovers (requests : List (ScrollingSpace.Op Toplevel ℕ)) :
    List (Clock × ScrollingSpace.Op Toplevel ℕ) :=
  (clock, .addTile (tile 1) true (.proportion (1 / 2)) false) ::
    (clock, .addTile (tile 2) true (.proportion (1 / 2)) false) :: requests.map (clock, ·)

namespace ScrollingSpace

/-- A maximized master and a fullscreen stack window: the space is above the bars,
but the master is the one rendered and hit-tested. -/
theorem not_singleTakeover : ∃ s : ScrollingSpace Sample.Toplevel,
    (machine Sample.Toplevel ℕ).ReachableBy (fun s a => a.2.Callable s) s ∧ ¬SingleTakeover s := by
  obtain ⟨s, hs, hp⟩ := Machine.exists_reachableBy (M := machine Sample.Toplevel ℕ)
    (p := fun s => decide (1 < (s.columns.filter (·.takesOver)).length))
    (Sample.takeovers [.setMaximized 1 true, .setFullscreen 2 true]) ⟨_, _, _, _, rfl⟩
    (show ((machine Sample.Toplevel ℕ).run (fun s a => a.2.Callable s)
      (.new ⟨1920, 1080⟩ ⟨⟨0, 0⟩, ⟨1920, 1080⟩⟩ 1 Sample.options) _).any _ = true by decide +kernel)
  refine ⟨s, hs, fun h => ?_⟩
  have := h.unique
  have := of_decide_eq_true hp
  omega

/-- The stack window ends its takeover before the master takes over. -/
theorem singleTakeover_iff_two : ∃ s : ScrollingSpace Sample.Toplevel, SingleTakeover s ∧
    s.takeover.map (·.1) = some 0 := by
  obtain ⟨s, hs, hp⟩ := Machine.exists_reachableBy (M := machine Sample.Toplevel ℕ)
    (p := fun s => decide (s.takeover.map (·.1) = some 0))
    (Sample.takeovers [.setFullscreen 2 true, .setFullscreen 2 false, .setMaximized 1 true])
    ⟨_, _, _, _, rfl⟩
    (show ((machine Sample.Toplevel ℕ).run (fun s a => a.2.Callable s ∧ a.2.TakesOverAlone s)
      (.new ⟨1920, 1080⟩ ⟨⟨0, 0⟩, ⟨1920, 1080⟩⟩ 1 Sample.options) _).any _ = true by decide +kernel)
  exact ⟨s, singleTakeover_iff.1 s hs, of_decide_eq_true hp⟩

end ScrollingSpace

end Sol
