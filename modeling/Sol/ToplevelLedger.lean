import Sol.ToplevelSpecs

/-!
# Where toplevels are

Each step of the shell is described by the windows that it brings in and takes out.  A window that
was dropped from the layout along with its workspace is missing, though its toplevel is there.

* `step_changed`: what one step does;
* `ledger_missing`: every toplevel is unmapped or in the layout, and not both, but for those that a
  reloaded configuration drops;
* `reachable_steps_return`: no step panics that its callers may take.
-/

namespace Assoc

variable {κ α : Type*} [DecidableEq κ] {l : List (κ × α)} {k : κ}

theorem keys_remove : keys (remove k l) = (keys l).filter fun k' => k' ≠ k := by
  unfold keys remove
  rw [List.filter_map]
  rfl

/-- The entry of a key, and the others. -/
theorem perm_keys_remove (h : (keys l).Nodup) (hk : k ∈ keys l) :
    (k :: keys (remove k l)).Perm (keys l) := by
  refine (List.perm_ext_iff_of_nodup (List.nodup_cons.mpr ⟨?_, ?_⟩) h).mpr fun k' => ?_
  · rw [keys_remove]
    simp
  · rw [keys_remove]
    exact h.filter _
  · rw [keys_remove, List.mem_cons, List.mem_filter, decide_eq_true_eq]
    by_cases hkk : k' = k
    · subst hkk
      exact iff_of_true (.inl rfl) hk
    · rw [or_iff_right hkk, and_iff_left hkk]

end Assoc

namespace Sol

open Panicking

namespace Shell

variable {W Id : Type} [LayoutElement W Id] [DecidableEq Id] {s t : State W Id} {c : Prop}

/-! ### Steps -/

/-- The windows that a step brings in. -/
def Step.brings : Step W Id → List Id
  | .newToplevel id => [id]
  | _ => []

/-- The windows that a step takes out. -/
def Step.takes (s : State W Id) : Step W Id → List Id
  | .toplevelDestroyed id => if id ∈ s.held then [id] else []
  | .layout op => op.closes s.layout
  | _ => []

/-- The toplevels after a step. -/
def Step.living (ids : List Id) : Step W Id → List Id
  | .newToplevel id => ids ++ [id]
  | .toplevelDestroyed id => ids.filter fun id' => id' ≠ id
  | _ => ids

/-- The operations of a layout that open and close no windows. -/
def IsOther : Layout.Op W Id → Prop
  | .addWindow .. | .removeWindow _ => False
  | _ => True

/-- A surface has one toplevel at a time, and windows open and close as their toplevels do. -/
def Step.Lawful (s : State W Id) : Step W Id → Prop
  | .newToplevel id => id ∉ Assoc.keys s.toplevels
  | .toplevelDestroyed id => id ∈ Assoc.keys s.toplevels
  | .layout op => op.Lawful ∧ IsOther op
  | _ => True

/-- The window of a toplevel may be closed if it is in the layout. -/
def State.CanClose (s : State W Id) (id : Id) : Prop :=
  id ∈ s.layout.windowIds → ¬s.layout.IsHeld id ∧ s.layout.CanClose id

/-- What the callers of a step see to. -/
def Step.Callable (s : State W Id) : Step W Id → Prop
  | .commit _ id found => found.isMapped = false → s.CanClose id
  | .request _ (.fullscreen (some output)) => s.layout.HasOutput output
  | .toplevelDestroyed id => s.CanClose id
  | .layout op => op.Callable s.layout
  | _ => True

/-- The steps that leave the indices in range. -/
def Step.KeepsIndices (s : State W Id) : Step W Id → Prop
  | .commit _ _ found => found.isMapped = true → s.layout.HasRoom
  | .request _ (.fullscreen (some _)) => s.layout.HasRoom
  | .layout op => op.KeepsIndices s.layout
  | _ => True

/-- What a step does. -/
structure Changed (s : State W Id) (a : Step W Id) (t : State W Id) : Prop where
  moves : Moves (a.KeepsIndices s) a.brings (a.takes s) s t
  living : Assoc.keys t.toplevels = a.living (Assoc.keys s.toplevels)

theorem Steady.changed {a : Step W Id} (h : Steady (a.KeepsIndices s) s t) (hbrings : a.brings = [])
    (htakes : a.takes s = [])
    (hliving : a.living (Assoc.keys s.toplevels) = Assoc.keys s.toplevels) :
    Changed s a t where
  moves := by
    rw [hbrings, htakes]
    exact h.moves
  living := h.toplevels.trans hliving.symm

omit [DecidableEq Id] in
theorem Steady.sound {c : Prop} (h : Steady c s t) (hs : s.Sound) : t.Sound := by
  have hperm : t.held.Perm s.held := h.moves.perm
  refine ⟨h.layout.sound, hperm.nodup_iff.mpr hs.nodup, fun id hid => ?_, ?_⟩
  · rw [h.toplevels]
    exact hs.living id (hperm.mem_iff.mp hid)
  · rw [h.toplevels]
    exact hs.toplevels

/-- The invariant is kept. -/
theorem Changed.sound {a : Step W Id} (h : s.Sound) (ha : a.Lawful s) (ht : Changed s a t) :
    t.Sound := by
  have hperm := ht.moves.perm
  have hliving := ht.living
  have hsteady : a.brings = [] → a.living (Assoc.keys s.toplevels) = Assoc.keys s.toplevels →
      t.Sound := by
    intro hbrings hsame
    rw [hbrings, List.nil_append] at hperm
    rw [hsame] at hliving
    have hnodup := hperm.nodup_iff.mpr h.nodup
    refine ⟨ht.moves.layout, (List.nodup_append.mp hnodup).2.1, fun id hid => ?_, ?_⟩
    · rw [hliving]
      exact h.living id (hperm.mem_iff.mp (List.mem_append_right _ hid))
    · rw [hliving]
      exact h.toplevels
  cases a with
  | newToplevel id =>
    have hnew : id ∉ s.held := fun hid => ha (h.living id hid)
    change ([] ++ t.held).Perm (id :: s.held) at hperm
    change Assoc.keys t.toplevels = Assoc.keys s.toplevels ++ [id] at hliving
    refine ⟨ht.moves.layout, hperm.nodup_iff.mpr (List.nodup_cons.mpr ⟨hnew, h.nodup⟩),
      fun id' hid => ?_, ?_⟩
    · rw [hliving]
      rcases List.mem_cons.mp (hperm.mem_iff.mp hid) with rfl | hid
      · exact List.mem_append_right _ (List.mem_singleton_self _)
      · exact List.mem_append_left _ (h.living _ hid)
    · rw [hliving]
      refine List.nodup_append.mpr ⟨h.toplevels, List.nodup_singleton id, fun x hx y hy => ?_⟩
      rw [List.mem_singleton.mp hy]
      exact ne_of_mem_of_not_mem hx ha
  | toplevelDestroyed id =>
    change ((if id ∈ s.held then [id] else []) ++ t.held).Perm s.held at hperm
    change Assoc.keys t.toplevels = (Assoc.keys s.toplevels).filter _ at hliving
    have hnodup := hperm.nodup_iff.mpr h.nodup
    have hgone : id ∉ t.held := by
      intro hid
      have hin : id ∈ s.held := hperm.mem_iff.mp (List.mem_append_right _ hid)
      rw [if_pos hin] at hnodup
      exact (List.nodup_cons.mp hnodup).1 hid
    refine ⟨ht.moves.layout, (List.nodup_append.mp hnodup).2.1, fun id' hid => ?_, ?_⟩
    · rw [hliving, List.mem_filter, decide_eq_true_eq]
      refine ⟨h.living id' (hperm.mem_iff.mp (List.mem_append_right _ hid)), ?_⟩
      rintro rfl
      exact hgone hid
    · rw [hliving]
      exact h.toplevels.filter _
  | parentChanged | setMinMaxSize | commit | dispatchIdles | request | requestMode
  | requestActivation | updateRules | layout => exact hsteady rfl rfl

/-! ### Configures and requests -/

theorem steady_sendConfigureTo (h : s.layout.Sound) (id : Id) :
    Steady c s (s.sendConfigureTo id) := by
  unfold State.sendConfigureTo
  split
  · exact .of_layout h rfl rfl (Assoc.keys_modify id (fun _ => _) s.toplevels)
  · exact .refl h

theorem steady_requestMode (h : s.layout.Sound) (id : Id) : Steady c s (s.requestMode id) := by
  unfold State.requestMode
  split
  · exact .refl h
  · split_ifs
    · split
      · exact .of_layout h rfl rfl rfl
      · exact .of_layout h rfl rfl (Assoc.keys_modify id (fun _ => _) s.toplevels)
    · exact .refl h

theorem steady_sendInitialConfigure (h : s.layout.Sound) (rules : ResolvedWindowRules)
    (outputs : List Output) (id : Id) (unmapped : Unmapped) (toplevel : Toplevel Id) :
    Guarded s.layout.InRange (s.sendInitialConfigure rules outputs id unmapped toplevel)
      (Steady True s) := by
  cases hstate : unmapped.state with
  | notConfigured wantsFullscreen wantsMaximized =>
    refine (guarded_sendInitialConfigure hstate).mono ?_
    rintro _ ⟨data, pending, rfl, -⟩
    exact steady_tell h ..
  | configured data =>
    unfold State.sendInitialConfigure
    rw [hstate]
    exact guarded_pure.mpr (.refl h)

theorem steady_sendQueued (h : s.layout.Sound) (rules : ResolvedWindowRules)
    (outputs : List Output) (id : Id) (serial : ℕ) :
    Guarded s.layout.InRange (s.sendQueued rules outputs id serial) (Steady True s) := by
  unfold State.sendQueued
  split
  · exact guarded_ite.mpr
      ⟨fun _ => steady_sendInitialConfigure h .., fun _ => guarded_pure.mpr (.refl h)⟩
  · exact guarded_pure.mpr (.refl h)

/-- Configures move no windows, so that each of them finds the layout as it was. -/
theorem steady_dispatchIdles (h : s.layout.Sound) (rules : Id → ResolvedWindowRules)
    (outputs : List Output) :
    Guarded s.layout.InRange (s.dispatchIdles rules outputs) (Steady True s) := by
  have hall : ∀ (idles : List (Id × ℕ)) (u : State W Id), Steady True s u →
      Guarded s.layout.InRange (idles.foldlM
        (fun v idle => v.sendQueued (rules idle.1) outputs idle.1 idle.2) u) (Steady True s) := by
    intro idles
    induction idles with
    | nil => exact fun u hu => guarded_pure.mpr hu
    | cons idle idles ih =>
      intro u hu
      rw [List.foldlM_cons, guarded_bind]
      exact ((steady_sendQueued hu.layout.sound (rules idle.1) outputs idle.1 idle.2).weaken
        (hu.layout.inRange trivial)).mono fun v hv => ih v (hu.then hv)
  exact hall s.idles _ (.of_layout h rfl rfl rfl)

theorem steady_reconfigure (h : s.layout.Sound) (id : Id) (unmapped : Unmapped) (data : Configured)
    (toplevel : Toplevel Id) (request : State.Request) :
    Guarded s.layout.InRange (s.reconfigure id unmapped data toplevel request) (Steady c s) := by
  refine (guarded_reconfigure request).mono ?_
  rintro _ ⟨data, pending, rfl, -⟩
  exact steady_tell h ..

/-- A window of the layout may be moved to the output that it is to fill. -/
theorem steady_requestMapped (h : s.layout.Sound) (clock : Clock) {id : Id}
    (hid : id ∈ s.layout.windowIds) (current : Option Output) (request : State.Request) :
    Guarded (s.layout.InRange ∧ (Step.request (W := W) id request).Callable s)
      (s.requestMapped clock id current request)
      (Steady ((Step.request (W := W) id request).KeepsIndices s) s) := by
  have hlayout : ∀ {d : Prop} {l : Layout W Id}, Layout.Kept d False [] s.layout l →
      Steady d s { s with layout := l, log := s.log ++ [.needsConfigure id] } :=
    fun hl => ⟨hl, rfl, rfl⟩
  unfold State.requestMapped
  cases request with
  | maximize =>
    simp only [guarded_bind, guarded_pure]
    exact (Layout.setMaximized_kept h clock id true).guarded.mono fun l hl => hlayout hl
  | unmaximize =>
    simp only [guarded_bind, guarded_pure]
    exact (Layout.setMaximized_kept h clock id false).guarded.mono fun l hl => hlayout hl
  | unfullscreen =>
    simp only [guarded_bind, guarded_pure]
    exact (Layout.setFullscreen_kept h clock id false).guarded.mono fun l hl => hlayout hl
  | fullscreen output =>
    have hfull : ∀ {d g : Prop} {l : Layout W Id}, Layout.Kept d False [] s.layout l →
        Guarded g (l.setFullscreen clock id true) fun l' =>
          Steady d s { s with layout := l', log := s.log ++ [.needsConfigure id] } :=
      fun hl => (Layout.setFullscreen_kept hl.sound clock id true).guarded.mono fun l' hl' =>
        hlayout (hl.then hl')
    cases output with
    | none =>
      simp only [guarded_bind, guarded_pure]
      exact hfull (.refl h)
    | some output =>
      simp only [guarded_ite, guarded_bind, guarded_pure]
      refine ⟨fun _ => ?_, fun _ => hfull (.refl h)⟩
      refine ((Layout.moveToOutput_kept h clock (some id) output none .smart).weaken
        fun hg => ⟨hg.1, hg.2, fun w hw => ?_⟩).mono fun l hl => hfull hl
      obtain rfl : id = w := Option.some.inj hw
      exact hid

theorem steady_request (h : s.layout.Sound) (clock : Clock) (id : Id) (request : State.Request) :
    Guarded (s.layout.InRange ∧ (Step.request (W := W) id request).Callable s)
      (s.request clock id request)
      (Steady ((Step.request (W := W) id request).KeepsIndices s) s) := by
  unfold State.request
  split
  next found hfound =>
    exact steady_requestMapped h clock (Layout.findWindowAndOutput_isSome.mp (hfound ▸ rfl)) ..
  next =>
    split
    · split
      · exact guarded_pure.mpr (.of_layout h rfl (Assoc.keys_modify id (fun _ => _) _) rfl)
      · exact (steady_reconfigure h ..).weaken And.left
    · exact guarded_pure.mpr (steady_sendConfigureTo h id)

/-! ### Commits -/

/-- A window moves from the unmapped ones to the layout. -/
theorem perm_held_map {id : Id} (hnodup : s.held.Nodup)
    (hid : id ∈ Assoc.keys s.unmappedWindows) {ids : List Id}
    (hids : ids.Perm (id :: s.layout.windowIds)) :
    (Assoc.keys (Assoc.remove id s.unmappedWindows) ++ ids).Perm s.held := by
  refine (hids.append_left _).trans (List.perm_middle.trans ?_)
  exact (Assoc.perm_keys_remove (List.nodup_append.mp hnodup).1 hid).append_right _

omit [DecidableEq Id] in
/-- And back. -/
theorem perm_held_unmap {id : Id} {unmapped : Unmapped} {ids : List Id}
    (hids : s.layout.windowIds.Perm (id :: ids)) :
    (Assoc.keys (s.unmappedWindows ++ [(id, unmapped)]) ++ ids).Perm s.held := by
  rw [Assoc.keys_append, List.append_assoc]
  exact hids.symm.append_left _

variable [Maps W Id]

omit [Maps W Id] in
/-- Wherever a window is to open, there is such a place. -/
theorem targets_mapTarget (data : Configured) (parent : Option Id)
    (houtput : ∀ output ∈ data.output, (s.layout.monitorForOutput output).isSome = true) :
    s.layout.Targets (s.mapTarget data parent) := by
  unfold State.mapTarget
  dsimp only
  split
  next found hfound =>
    obtain ⟨hfound, -⟩ := Option.filter_eq_some_iff.mp hfound
    obtain ⟨p, -, hp⟩ := Option.bind_eq_some_iff.mp hfound
    rw [Layout.id_findWindowAndOutput hp]
    exact Layout.findWindowAndOutput_isSome.mp (hp ▸ rfl)
  next =>
    split
    next ws hws =>
      obtain ⟨name, -, hws⟩ := Option.bind_eq_some_iff.mp hws
      exact ⟨ws, List.mem_of_find?_eq_some hws, rfl⟩
    next output _ hdata => exact Layout.monitorForOutput_isSome.mp (houtput output hdata)
    next => trivial

omit [LayoutElement W Id] [DecidableEq Id] [Maps W Id] in
theorem monitorForOutput_mapData (unmapped : Unmapped) :
    ∀ output ∈ (s.mapData unmapped).output,
      (s.layout.monitorForOutput output).isSome = true := by
  intro output houtput
  unfold State.mapData at houtput
  cases hstate : unmapped.state with
  | configured data =>
    rw [hstate] at houtput
    exact (Option.filter_eq_some_iff.mp houtput).2
  | notConfigured wantsFullscreen wantsMaximized =>
    rw [hstate] at houtput
    exact absurd houtput (Option.not_mem_none output)

theorem moves_map (h : s.Sound) (clock : Clock) (now : Duration) (strict : Bool) {id : Id}
    {unmapped : Unmapped} (hid : Assoc.get s.unmappedWindows id = some unmapped)
    (toplevel : Toplevel Id) :
    Guarded s.layout.InRange (s.map clock now strict id unmapped toplevel) fun t =>
      Moves s.layout.HasRoom [] [] s t ∧ t.toplevels = s.toplevels := by
  have hadded : ∀ {l : Layout W Id}, Layout.Kept s.layout.HasRoom True [id] s.layout l →
      Moves s.layout.HasRoom [] [] s { s with
        layout := l
        unmappedWindows := Assoc.remove id s.unmappedWindows
        log := s.log ++ [.mapped id] } := fun hl =>
    ⟨hl.sound, perm_held_map h.nodup (Assoc.mem_keys_of_get hid) hl.perm, hl.inRange⟩
  unfold State.map
  simp only [guarded_bind, guarded_ite, guarded_pure]
  refine ((Layout.addWindow_kept (r := True) h.layout clock _ _ _ _ _ _ _).weaken fun hin =>
    ⟨hin, targets_mapTarget _ _ (monitorForOutput_mapData unmapped)⟩).mono fun l hl => ?_
  rw [Maps.id_mapped] at hl
  refine ⟨fun _ => ?_, fun _ => ⟨hadded hl, trivial⟩⟩
  refine (Layout.setMaximized_kept (c := True) (r := True) hl.sound clock id true).guarded.mono
    fun l' hl' => ⟨?_, trivial⟩
  exact hadded ⟨hl'.sound, hl'.perm.trans hl.perm,
    fun hr => (hl'.rows_eq hr).trans (hl.rows_eq hr),
    fun hc hin => hl'.inRange trivial (hl.inRange hc hin)⟩

omit [Maps W Id] in
theorem moves_unmap (h : s.Sound) (clock : Clock) {id : Id} (hid : id ∈ s.layout.windowIds) :
    Guarded (s.layout.InRange ∧ s.CanClose id) (s.unmap clock id) fun t =>
      Moves c [] [] s t ∧ Assoc.keys t.toplevels = Assoc.keys s.toplevels := by
  unfold State.unmap
  simp only [guarded_bind, guarded_pure]
  refine ((Layout.removeWindow_lost h.layout clock id).weaken fun hg =>
    ⟨hg.1, hg.2 hid⟩).mono fun found hl => ?_
  have hperm := hl.perm
  rw [Layout.closedIds, if_pos hid] at hperm
  exact ⟨⟨hl.sound, perm_held_unmap hperm, fun _ => hl.inRange trivial⟩, Assoc.keys_modify id _ _⟩

omit [Maps W Id] in
theorem steady_commitMapped (h : s.layout.Sound) (clock : Clock) {id : Id}
    (hid : id ∈ s.layout.windowIds) (serial : Option ℕ) (delta : Point) :
    Guarded s.layout.InRange (s.commitMapped clock id serial delta) (Steady True s) := by
  unfold State.commitMapped
  simp only [guarded_bind, guarded_ite, guarded_pure]
  refine (Layout.updateWindow_kept (c := True) (r := False) h id serial).guarded.mono fun l hl =>
    ⟨fun _ => ?_, fun _ => ⟨hl, rfl, rfl⟩⟩
  refine ((Layout.runWindowCommand_kept (c := True) (r := False) hl.sound clock (some id)
    (.moveFloatingWindow (.adjustFixed delta.x) (.adjustFixed delta.y) false)).weaken
      fun hin => ⟨hl.inRange trivial hin, fun w hw => ?_, fun ws _ => Bool.false_ne_true⟩).mono
        fun l' hl' => ⟨hl.then hl', rfl, rfl⟩
  obtain rfl : id = w := Option.some.inj hw
  exact hl.perm.mem_iff.mpr hid

theorem moves_commit (h : s.Sound) (clock : Clock) (strict : Bool) (id : Id)
    (commit : State.Commit) :
    Guarded (s.layout.InRange ∧ (Step.commit (W := W) strict id commit).Callable s)
      (s.commit clock strict id commit) fun t =>
        Moves ((Step.commit (W := W) strict id commit).KeepsIndices s) [] [] s t ∧
          Assoc.keys t.toplevels = Assoc.keys s.toplevels := by
  have hsteady : ∀ {d : Prop} {t : State W Id}, Steady d s t →
      Moves d [] [] s t ∧ Assoc.keys t.toplevels = Assoc.keys s.toplevels :=
    fun ht => ⟨ht.moves, ht.toplevels⟩
  unfold State.commit
  split
  next unmapped toplevel hunmapped _ =>
    refine guarded_ite.mpr ⟨fun hmapped => ?_, fun _ => guarded_ite.mpr ⟨fun _ => ?_, fun _ => ?_⟩⟩
    · refine ((moves_map h clock commit.now strict hunmapped toplevel).weaken And.left).mono
        fun t ht => ⟨⟨ht.1.layout, ht.1.perm, fun hc => ht.1.inRange (hc hmapped)⟩, ?_⟩
      rw [ht.2]
    · exact guarded_pure.mpr (hsteady (.of_layout h.layout rfl rfl rfl))
    · exact guarded_pure.mpr (hsteady (.refl h.layout))
  next =>
    split
    next found hfound =>
      have hid := Layout.findWindowAndOutput_isSome.mp (Option.isSome_of_eq_some hfound)
      refine guarded_ite.mpr ⟨fun _ => ?_, fun hmapped => ?_⟩
      · exact ((steady_commitMapped h.layout clock hid commit.serial commit.delta).weaken
          And.left).mono fun t ht => hsteady ⟨ht.layout.weaken (fun _ => trivial) fun h => h,
            ht.unmapped, ht.toplevels⟩
      · exact (moves_unmap h clock hid).weaken fun hg => ⟨hg.1, hg.2 (by simpa using hmapped)⟩
    next => exact guarded_pure.mpr (hsteady (.refl h.layout))

/-! ### Toplevels that come and go -/

omit [Maps W Id] in
theorem changed_newToplevel (h : s.Sound) {id : Id}
    (ha : (Step.newToplevel (W := W) id).Lawful s) :
    Guarded (s.layout.InRange ∧ (Step.newToplevel (W := W) id).Callable s) (s.newToplevel id)
      (Changed s (.newToplevel id)) := by
  have hnone : Assoc.get s.unmappedWindows id = none :=
    Assoc.get_eq_none_iff.mpr fun hid => ha (h.living id (List.mem_append_left _ hid))
  unfold State.newToplevel
  simp only [guarded_bind, guarded_pure, guarded_assert]
  refine ⟨fun _ => ⟨⟨h.layout, ?_, fun _ hin => hin⟩, Assoc.keys_append⟩, fun _ => ?_⟩
  · change (Assoc.keys (s.unmappedWindows ++ [(id, Unmapped.new)]) ++ s.layout.windowIds).Perm
      (id :: s.held)
    rw [Assoc.keys_append, List.append_assoc]
    exact List.perm_middle
  · rw [hnone]
    rfl

omit [Maps W Id] in
theorem changed_toplevelDestroyed (h : s.Sound) (clock : Clock) (id : Id) :
    Guarded (s.layout.InRange ∧ (Step.toplevelDestroyed (W := W) id).Callable s)
      (s.toplevelDestroyed clock id) (Changed s (.toplevelDestroyed id)) := by
  have hliving : Assoc.keys (Assoc.remove id s.toplevels) =
      (Step.toplevelDestroyed (W := W) id).living (Assoc.keys s.toplevels) := Assoc.keys_remove
  unfold State.toplevelDestroyed
  dsimp only
  split
  next unmapped hunmapped =>
    refine guarded_pure.mpr ⟨⟨h.layout, ?_, fun _ hin => hin⟩, hliving⟩
    rw [Step.takes, if_pos (State.mem_held_of_unmapped hunmapped)]
    exact (Assoc.perm_keys_remove (List.nodup_append.mp h.nodup).1
      (Assoc.mem_keys_of_get hunmapped)).append_right _
  next hunmapped =>
    have hnot := Assoc.get_eq_none_iff.mp hunmapped
    split
    next found hfound =>
      have hid := Layout.findWindowAndOutput_isSome.mp (Option.isSome_of_eq_some hfound)
      simp only [guarded_bind, guarded_pure]
      refine ((Layout.removeWindow_lost h.layout clock id).weaken fun hg =>
        ⟨hg.1, hg.2 hid⟩).mono fun removed hl => ⟨⟨hl.sound, ?_, fun _ => hl.inRange trivial⟩,
          hliving⟩
      have hperm := hl.perm
      rw [Layout.closedIds, if_pos hid] at hperm
      rw [Step.takes, if_pos (State.mem_held.mpr (.inr hid))]
      exact (List.perm_append_comm_assoc ..).trans (hperm.symm.append_left _)
    next hfound =>
      have hid := Layout.findWindowAndOutput_eq_none.mp hfound
      refine guarded_pure.mpr ⟨⟨h.layout, ?_, fun _ hin => hin⟩, hliving⟩
      rw [Step.takes, if_neg fun hheld => (State.mem_held.mp hheld).elim hnot hid]
      exact .refl _

omit [Maps W Id] in
theorem steady_parentChanged (h : s.layout.Sound) (id : Id) (parent : Option Id) :
    Returns (s.parentChanged id parent) (Steady c s) := by
  have hkeys : Assoc.keys (Assoc.modify id (fun toplevel : Toplevel Id =>
      { toplevel with parent }) s.toplevels) = Assoc.keys s.toplevels := Assoc.keys_modify ..
  unfold State.parentChanged
  dsimp only
  split
  · simp only [returns_bind, returns_pure]
    exact (Layout.descendantsAdded_kept h _).mono fun l hl => ⟨hl, rfl, hkeys⟩
  · exact returns_pure.mpr (.of_layout h rfl rfl hkeys)

omit [DecidableEq Id] [Maps W Id] in
theorem IsOther.opens {op : Layout.Op W Id} (h : IsOther op) : op.opens = [] := by
  cases op
  case addWindow => exact absurd h id
  all_goals rfl

/-- What one step does. -/
theorem step_changed (h : s.Sound) (clock : Clock) {a : Step W Id} (ha : a.Lawful s) :
    Guarded (s.layout.InRange ∧ a.Callable s) (step clock s a) (Changed s a) := by
  cases a with
  | newToplevel id => exact changed_newToplevel h ha
  | parentChanged id parent =>
    exact (steady_parentChanged h.layout id parent).guarded.mono fun t ht => ht.changed rfl rfl rfl
  | setMinMaxSize id minSize maxSize =>
    refine guarded_pure.mpr (Steady.changed (.of_layout h.layout rfl rfl ?_) rfl rfl rfl)
    simp only [Assoc.keys_modify]
  | commit strict id commit =>
    exact (moves_commit h clock strict id commit).mono fun t ht => ⟨ht.1, ht.2⟩
  | dispatchIdles rules outputs =>
    exact ((steady_dispatchIdles h.layout rules outputs).weaken And.left).mono
      fun t ht => ht.changed (a := .dispatchIdles rules outputs) rfl rfl rfl
  | request id request =>
    exact (steady_request h.layout clock id request).mono fun t ht => ht.changed rfl rfl rfl
  | requestMode id =>
    exact guarded_pure.mpr ((steady_requestMode h.layout id).changed rfl rfl rfl)
  | requestActivation id now timestamp =>
    refine guarded_pure.mpr ?_
    unfold State.requestActivation
    split_ifs
    · refine Steady.changed (.of_layout h.layout rfl ?_ rfl) rfl rfl rfl
      simp only [Assoc.keys_modify]
    · exact (Steady.refl h.layout).changed rfl rfl rfl
  | updateRules id rules =>
    refine guarded_pure.mpr (Steady.changed (.of_layout h.layout rfl ?_ rfl) rfl rfl rfl)
    simp only [State.updateRules, Assoc.keys_modify]
  | toplevelDestroyed id => exact changed_toplevelDestroyed h clock id
  | layout op =>
    refine guarded_bind.mpr ((Layout.step_changed h.layout clock ha.1).mono fun l hl =>
      guarded_pure.mpr ⟨⟨hl.sound, ?_, hl.inRange⟩, rfl⟩)
    have hperm := hl.perm
    rw [ha.2.opens, List.nil_append] at hperm
    exact (List.perm_append_comm_assoc ..).trans (hperm.append_left _)

/-! ### Runs -/

/-- Toplevels come and go as the protocol has it, and clients leave the ids of their windows
alone. -/
def lawful (s : State W Id) (a : Clock × Step W Id) : Prop := a.2.Lawful s

theorem sound_initial (h : (machine W Id).initial s) : s.Sound ∧ s.toplevels = [] := by
  obtain ⟨⟨nextId, config, hlayout⟩, hunmapped, htoplevels, -⟩ := h
  have hheld : s.held = [] := by
    rw [State.held, hunmapped, hlayout, Layout.windowIds_withOptionsAndWorkspaces]
    rfl
  refine ⟨⟨?_, ?_, ?_, ?_⟩, htoplevels⟩
  · rw [hlayout]
    exact Layout.sound_withOptionsAndWorkspaces nextId config
  · rw [hheld]
    exact List.nodup_nil
  · rw [hheld]
    exact fun id hid => absurd hid List.not_mem_nil
  · rw [htoplevels]
    exact List.nodup_nil

/-! ### Toplevels that are missing -/

/-- The toplevels that are neither unmapped nor in the layout. -/
def State.missing (s : State W Id) : List Id :=
  (Assoc.keys s.toplevels).filter fun id => id ∉ s.held

/-- The windows that the layout drops along with a workspace. -/
def Step.drops (s : State W Id) : Step W Id → List Id
  | .layout op => op.closes s.layout
  | _ => []

/-- The toplevel that is destroyed while it is missing. -/
def Step.forgets (s : State W Id) : Step W Id → List Id
  | .toplevelDestroyed id => if id ∈ s.held then [] else [id]
  | _ => []

omit [Maps W Id] in
/-- Every toplevel is in one place, or is missing. -/
theorem perm_toplevels (h : s.Sound) : (s.held ++ s.missing).Perm (Assoc.keys s.toplevels) := by
  have hmissing : ∀ id, id ∈ s.missing ↔ id ∈ Assoc.keys s.toplevels ∧ id ∉ s.held := by
    intro id
    rw [State.missing, List.mem_filter, decide_eq_true_eq]
  have hnodup : s.missing.Nodup := h.toplevels.filter _
  refine (List.perm_ext_iff_of_nodup (List.nodup_append.mpr ⟨h.nodup, hnodup,
    fun id hid id' hid' => ?_⟩) h.toplevels).mpr fun id => ?_
  · rintro rfl
    exact ((hmissing id).mp hid').2 hid
  · rw [List.mem_append, hmissing]
    refine ⟨fun hid => hid.elim (h.living id) And.left, fun hid => ?_⟩
    by_cases hheld : id ∈ s.held
    · exact .inl hheld
    · exact .inr ⟨hid, hheld⟩

omit [Maps W Id] in
/-- What a step takes out it drops, or it is that of a toplevel that is gone. -/
theorem Changed.perm_missing {a : Step W Id} (h : s.Sound) (ha : a.Lawful s)
    (hc : Changed s a t) : (a.forgets s ++ t.missing).Perm (a.drops s ++ s.missing) := by
  refine List.perm_iff_count.mpr fun id => ?_
  have hs := (perm_toplevels h).count_eq id
  have ht := (perm_toplevels (hc.sound h ha)).count_eq id
  have hperm := hc.moves.perm.count_eq id
  rw [hc.living] at ht
  simp only [List.count_append] at hs ht hperm ⊢
  have hsteady : a.brings = [] → a.takes s = a.drops s → a.forgets s = [] →
      a.living (Assoc.keys s.toplevels) = Assoc.keys s.toplevels →
        (a.forgets s).count id + t.missing.count id =
          (a.drops s).count id + s.missing.count id := by
    intro hbrings htakes hforgets hliving
    rw [hbrings, htakes, List.count_nil] at hperm
    rw [hliving] at ht
    rw [hforgets, List.count_nil]
    omega
  cases a with
  | newToplevel id' =>
    change List.count id [] + t.held.count id = List.count id [id'] + s.held.count id at hperm
    change _ = (Assoc.keys s.toplevels ++ [id']).count id at ht
    change List.count id [] + t.missing.count id = List.count id [] + s.missing.count id
    rw [List.count_nil] at hperm
    rw [List.count_append] at ht
    omega
  | toplevelDestroyed id' =>
    have hkeys := (Assoc.perm_keys_remove h.toplevels ha).count_eq id
    change _ + t.held.count id = List.count id [] + s.held.count id at hperm
    change _ = ((Assoc.keys s.toplevels).filter _).count id at ht
    change _ + t.missing.count id = List.count id [] + s.missing.count id
    rw [Assoc.keys_remove, ← List.singleton_append, List.count_append] at hkeys
    rw [Step.takes] at hperm
    rw [Step.forgets]
    split_ifs at hperm ⊢ <;> rw [List.count_nil] at * <;> omega
  | parentChanged | setMinMaxSize | commit | dispatchIdles | request | requestMode
  | requestActivation | updateRules | layout => exact hsteady rfl rfl rfl rfl

/-- Every toplevel is either unmapped or in the layout, and not both; or it is missing from both,
and these are the ones that were dropped along with a workspace when the configuration was reloaded,
but for those that are destroyed by now. -/
theorem ledger_missing {dropped forgotten : List Id}
    (h : (machine W Id).Ledger lawful (fun s a => a.2.drops s) (fun s a => a.2.forgets s) s dropped
      forgotten) :
    (s.held ++ s.missing).Perm (Assoc.keys s.toplevels) ∧
      (Assoc.keys s.toplevels).Nodup ∧ (forgotten ++ s.missing).Perm dropped := by
  have hinitial : ∀ s : State W Id, (machine W Id).initial s → s.Sound ∧ s.missing = [] := by
    intro s hs
    obtain ⟨hsound, hnone⟩ := sound_initial hs
    refine ⟨hsound, ?_⟩
    rw [State.missing, hnone]
    exact List.filter_nil
  obtain ⟨hsound, hperm⟩ := h.balance State.Sound State.missing hinitial fun s a hs ha =>
    (step_changed hs a.1 ha).ensures.mono fun t ht => ⟨ht.sound hs ha, ht.perm_missing hs ha⟩
  exact ⟨perm_toplevels hsound, hsound.toplevels, hperm⟩

/-! ### Indices -/

/-- The steps of a run leave the indices in range. -/
def careful (s : State W Id) (a : Clock × Step W Id) : Prop := a.2.Lawful s ∧ a.2.KeepsIndices s

theorem reachable_careful (h : (machine W Id).ReachableBy careful s) :
    s.Sound ∧ s.layout.InRange := by
  refine h.invariant (P := fun s => s.Sound ∧ s.layout.InRange) (fun s hs => ?_)
    fun s a hs ha => (step_changed hs.1 a.1 ha.1).ensures.mono fun t ht =>
      ⟨ht.sound hs.1 ha.1, ht.moves.inRange ha.2 hs.2⟩
  obtain ⟨nextId, config, hlayout⟩ := hs.1
  refine ⟨(sound_initial hs).1, ?_⟩
  rw [hlayout]
  exact Layout.inRange_withOptionsAndWorkspaces nextId config

/-- After a run that is careful no step panics that its callers may take; a window may be mapped
anyway. -/
theorem reachable_steps_return (h : (machine W Id).ReachableBy careful s) (clock : Clock)
    {a : Step W Id} (ha : a.Lawful s) (hcall : a.Callable s) :
    Returns (step clock s a) fun t =>
      (a.KeepsIndices s → t.layout.InRange) ∧ (a.takes s ++ t.held).Perm (a.brings ++ s.held) := by
  obtain ⟨hs, hinRange⟩ := reachable_careful h
  exact ((step_changed hs clock ha).returns ⟨hinRange, hcall⟩).mono fun t ht =>
    ⟨fun hkeeps => ht.moves.inRange hkeeps hinRange, ht.moves.perm⟩

/-! ### Concrete runs -/

/-- Steps of which it is seen at once that they are careful. -/
def Step.isTame (s : State W Id) : Step W Id → Bool
  | .newToplevel id => id ∉ Assoc.keys s.toplevels
  | .toplevelDestroyed id => id ∈ Assoc.keys s.toplevels
  | .commit .. => s.layout.monitors.all fun m => decide (2 ≤ m.workspaces.length)
  | .request _ (.fullscreen (some _)) => false
  | .dispatchIdles .. | .request .. => true
  | .layout (.addOutput ..) => s.layout.monitors.isEmpty
  | .layout (.updateConfig _) | .layout (.advanceAnimations _) => true
  | _ => false

omit [Maps W Id] in
theorem careful_of_isTame {a : Clock × Step W Id} (h : a.2.isTame s = true) : careful s a := by
  obtain ⟨clock, a⟩ := a
  cases a with
  | newToplevel id =>
    exact ⟨of_decide_eq_true (p := id ∉ Assoc.keys s.toplevels) h, trivial⟩
  | toplevelDestroyed id =>
    exact ⟨of_decide_eq_true (p := id ∈ Assoc.keys s.toplevels) h, trivial⟩
  | commit strict id commit =>
    exact ⟨trivial, fun _ m hm _ => of_decide_eq_true (List.all_eq_true.mp h m hm)⟩
  | dispatchIdles => exact ⟨trivial, trivial⟩
  | request id request =>
    refine ⟨trivial, ?_⟩
    rcases request with _ | _ | ⟨_ | output⟩ | _
    case fullscreen.some => cases h
    all_goals trivial
  | layout op =>
    cases op
    case addOutput output layoutConfig =>
      exact ⟨⟨trivial, trivial⟩, (Layout.careful_of_isTame (a := (clock, .addOutput output
        layoutConfig)) h).2⟩
    case updateConfig | advanceAnimations => exact ⟨⟨trivial, trivial⟩, trivial⟩
    all_goals cases h
  | parentChanged | setMinMaxSize | requestMode | requestActivation | updateRules => cases h

end Shell

/-- How a sample window is mapped. -/
instance Sample.maps : Shell.Maps Sample.Toplevel ℕ where
  mapped id toplevel _ := { Sample.toplevel id with parent := toplevel.parent }
  id_mapped _ _ _ := rfl

/-- The shell of an empty layout with some configuration. -/
def Sample.shell (config : Config) : Shell.State Sample.Toplevel ℕ where
  layout := Layout.withOptionsAndWorkspaces 0 config.workspaces config.options
  unmappedWindows := []
  toplevels := []
  idles := []
  nextSerial := 0
  log := []

/-- A commit, with or without a buffer. -/
def Sample.commit (isMapped : Bool) : Shell.State.Commit := ⟨0, isMapped, none, ⟨0, 0⟩⟩

/-- Windows are focused when they open. -/
def Sample.focusingRules : Shell.ResolvedWindowRules :=
  { Shell.ResolvedWindowRules.default with openFocused := some true }

/-- Two toplevels are configured, and the first of them is mapped on a monitor with an empty
workspace on top. -/
def Sample.mapping : List (Clock × Shell.Step Sample.Toplevel ℕ) :=
  [(Sample.clock, .layout (.addOutput (Sample.output 1) none)),
    (Sample.clock, .newToplevel 1),
    (Sample.clock, .newToplevel 2),
    (Sample.clock, .commit false 1 (Sample.commit false)),
    (Sample.clock, .commit false 2 (Sample.commit false)),
    (Sample.clock, .dispatchIdles (fun _ => Sample.focusingRules) []),
    (Sample.clock, .commit false 1 (Sample.commit true)),
    (Sample.clock, .layout (.advanceAnimations none))]

namespace Shell

/-- The configuration that is loaded then has no such workspace, and the window goes. -/
theorem ledger_missing_reloaded : ∃ (s : State Sample.Toplevel ℕ) (dropped forgotten : List ℕ),
    dropped = [1] ∧ forgotten = [] ∧ s.missing = [1] ∧
      (s.held ++ s.missing).Perm (Assoc.keys s.toplevels) := by
  obtain ⟨s, dropped, forgotten, hs, hends⟩ := Machine.exists_ledger
    (M := machine Sample.Toplevel ℕ)
    (p := fun r => decide (r.2.1 = [1] ∧ r.2.2 = []))
    (Sample.mapping ++ [(Sample.clock, .layout (.updateConfig (Sample.config [])))])
    (show (machine Sample.Toplevel ℕ).initial (Sample.shell (Sample.config [Sample.abovePart]))
      from ⟨⟨0, _, rfl⟩, rfl, rfl, rfl, rfl⟩)
    (show ((machine Sample.Toplevel ℕ).account (fun s a => a.2.isTame s = true)
      (fun s a => a.2.drops s) (fun s a => a.2.forgets s) _ _ _ _).any _ = true by decide +kernel)
  obtain ⟨hdropped, hforgotten⟩ : dropped = [1] ∧ forgotten = [] := of_decide_eq_true hends
  obtain ⟨hperm, -, hmissing⟩ := ledger_missing (hs.mono fun _ _ ha => (careful_of_isTame ha).1)
  refine ⟨s, dropped, forgotten, hdropped, hforgotten, ?_, hperm⟩
  rw [hdropped, hforgotten] at hmissing
  exact List.perm_singleton.mp hmissing

theorem exists_after_mapping {p : State Sample.Toplevel ℕ → Bool}
    (hrun : ((machine Sample.Toplevel ℕ).run (fun s a => a.2.isTame s = true)
      (Sample.shell (Sample.config [Sample.abovePart])) Sample.mapping).any p = true) :
    ∃ s, (machine Sample.Toplevel ℕ).ReachableBy (fun s a => a.2.isTame s = true) s ∧ p s = true :=
  Machine.exists_reachableBy Sample.mapping ⟨⟨0, _, rfl⟩, rfl, rfl, rfl, rfl⟩ hrun

/-- The second toplevel is mapped. -/
theorem reachable_steps_return_mapped : ∃ s t : State Sample.Toplevel ℕ, s.held = [2, 1] ∧
    step Sample.clock s (.commit false 2 (Sample.commit true)) = .ok t ∧ t.held.Perm [2, 1] := by
  obtain ⟨s, hs, hends⟩ := exists_after_mapping (p := fun s => decide (s.held = [2, 1]))
    (by decide +kernel)
  obtain ⟨t, ht, -, hperm⟩ := reachable_steps_return
    (hs.mono fun _ _ ha => careful_of_isTame ha) Sample.clock
    (a := .commit false 2 (Sample.commit true)) trivial fun h => absurd h (by decide)
  have hheld : s.held = [2, 1] := of_decide_eq_true hends
  exact ⟨s, t, hheld, ht, hheld ▸ hperm⟩

end Shell

end Sol
