import Sol.Config
import Sol.LastWrites
import Sol.SolConfBounds

/-!
# Settings that are set twice

Every accepted line is one write to the configuration (`Write`), and most writes are written over
by a later one of the same setting.  The radius of corners and the mode are added to lists: the
last rule of a list counts but the radius is added in front of the others, and the first output
counts but the mode is added after the others.

* `ofText_keepLastLine_iff`: exactly when the lines of a setting but its last can be deleted.
-/

namespace Sol.SolConf

open Chars Floats LastWrites

variable {C : Type} {library : Library C} {config : Config C} {value rawLine : Text}

/-! ### Effective settings -/

structure ResolvedWindowRules where
  geometryCornerRadius : Option Value
  clipToGeometry : Option Bool
  deriving DecidableEq, Repr

/-- `ResolvedWindowRules::compute`: the rules of a configuration have no matches and no excludes, so
that each of them is one of every window. -/
def ResolvedWindowRules.compute (rules : List WindowRule) : ResolvedWindowRules :=
  rules.foldl (fun resolved rule =>
    let resolved := { resolved with geometryCornerRadius := some rule.geometryCornerRadius }
    { resolved with clipToGeometry := some rule.clipToGeometry }) ⟨none, none⟩

/-- `Outputs::find`. -/
def Outputs.find (outputs : List Output) (name : OutputName) : Option Output :=
  outputs.find? fun o => name.matches o.name

/-- A configuration without its lists of rules and outputs. -/
def Config.base (self : Config C) : Config C := { self with outputs := [], windowRules := [] }

/-- What a configuration amounts to: its lists are only looked up. -/
structure Effective (C : Type) where
  base : Config C
  rules : ResolvedWindowRules
  output : OutputName → Option Output

def Config.effective (self : Config C) : Effective C where
  base := self.base
  rules := .compute self.windowRules
  output := Outputs.find self.outputs

/-- The effective settings of a text, if it is accepted. -/
def Effective.ofText (library : Library C) (text : Text) : Option (Effective C) :=
  (parseSol library text).toOption.map Config.effective

/-! ### Writes -/

/-- What is set of an animation along a curve. -/
inductive EasingWrite
  | off (off : Bool)
  | durationMs (durationMs : ℕ)
  | curve (curve : Curve)

inductive SpringWrite
  | dampingRatio (ratio : Value)
  | stiffness (stiffness : ℕ)
  | epsilon (epsilon : Value)

/-- The lines that set nothing: those without a known key, and those of some settings. -/
inductive Ignored
  | line
  | remap
  | gapsOut
  | idleTimeout

/-- What a line sets. -/
inductive Write (C : Type)
  | ignored (ignored : Ignored)
  | capsEscape
  | gaps (gaps : Value)
  | borderWidth (width : Value)
  | borderColor (color : C)
  | mode (mode : ConfiguredMode)
  | repeatRate (rate : ℕ)
  | repeatDelay (delay : ℕ)
  | spawn (command : List Text)
  | bind (bind : Bind)
  | cornerRadius (radius : Value)
  | inactiveAlpha (alpha : Value)
  | inactiveBlur (on : Bool)
  | wallpaperDaemon (on : Bool)
  | blurPasses (passes : ℕ)
  | blurRadius (radius : Value)
  | tileMovement (write : EasingWrite)
  | tileSpring (write : SpringWrite)
  | windowOpen (write : EasingWrite)
  | windowClose (write : EasingWrite)

def EasingWrite.run (self : EasingWrite) (animation : Animation) : Animation :=
  match self with
  | .off value => { animation with off := value }
  | .durationMs value => animation.setEasing fun p => { p with durationMs := value }
  | .curve value => animation.setEasing fun p => { p with curve := value }

def SpringWrite.set (self : SpringWrite) (params : SpringParams) : SpringParams :=
  match self with
  | .dampingRatio value => { params with dampingRatio := value }
  | .stiffness value => { params with stiffness := value }
  | .epsilon value => { params with epsilon := value }

/-- The option of xkb is added to the others. -/
def withCapsEscape (options : Option Text) : Text :=
  if options.getD [] = [] then "caps:escape".toList
  else options.getD [] ++ ",caps:escape".toList

def Write.run (config : Config C) : Write C → Config C
  | .ignored _ => config
  | .capsEscape => { config with keyboard.options := some (withCapsEscape config.keyboard.options) }
  | .gaps value => { config with layout.gaps := value }
  | .borderWidth width => { config with
      layout.focusRing := ⟨width = .finite 0, width, config.layout.focusRing.activeColor⟩ }
  | .borderColor color => { config with
      layout.focusRing := ⟨config.layout.focusRing.off, config.layout.focusRing.width, color⟩ }
  | .mode value => { config with outputs := config.outputs ++ [⟨primaryOutputName, value⟩] }
  | .repeatRate rate => { config with keyboard.repeatRate := rate }
  | .repeatDelay delay => { config with keyboard.repeatDelay := delay }
  | .spawn command => { config with spawnAtStartup := config.spawnAtStartup ++ [command] }
  | .bind value => { config with binds := config.binds ++ [value] }
  | .cornerRadius radius => { config with windowRules := ⟨radius, true⟩ :: config.windowRules }
  | .inactiveAlpha alpha => { config with inactiveAlpha := some alpha }
  | .inactiveBlur on => { config with inactiveBlur := on }
  | .wallpaperDaemon on => { config with wallpaperDaemon := on }
  | .blurPasses passes => { config with blur.passes := passes }
  | .blurRadius radius => { config with blur.offset := radius }
  | .tileMovement write => config.setTileMovement write.run
  | .tileSpring write => config.setTileMovement fun a => a.setSpring write.set
  | .windowOpen write => config.setWindowOpen write.run
  | .windowClose write => config.setWindowClose write.run

/-- The setting of a write to an animation. -/
def EasingWrite.setting (off durationMs curve : Setting) : EasingWrite → Setting
  | .off _ => off
  | .durationMs _ => durationMs
  | .curve _ => curve

def SpringWrite.setting : SpringWrite → Setting
  | .dampingRatio _ => .tileMovementDampingRatio
  | .stiffness _ => .tileMovementStiffness
  | .epsilon _ => .tileMovementEpsilon

def Ignored.setting : Ignored → Option Setting
  | .line => none
  | .remap => some .remap
  | .gapsOut => some .gapsOut
  | .idleTimeout => some .idleTimeout

def Write.setting : Write C → Option Setting
  | .ignored write => write.setting
  | .capsEscape => some .remap
  | .gaps _ => some .gapsIn
  | .borderWidth _ => some .borderWidth
  | .borderColor _ => some .borderColor
  | .mode _ => some .mode
  | .repeatRate _ => some .keyboardRepeatRate
  | .repeatDelay _ => some .keyboardRepeatDelay
  | .spawn _ => some .execOnce
  | .bind _ => some .bind
  | .cornerRadius _ => some .cornerRadius
  | .inactiveAlpha _ => some .inactiveAlpha
  | .inactiveBlur _ => some .inactiveBlur
  | .wallpaperDaemon _ => some .wallpaperDaemon
  | .blurPasses _ => some .inactiveBlurPasses
  | .blurRadius _ => some .inactiveBlurRadius
  | .tileMovement write =>
    some (write.setting .tileMovement .tileMovementDurationMs .tileMovementCurve)
  | .tileSpring write => some write.setting
  | .windowOpen write => some (write.setting .windowOpen .windowOpenDurationMs .windowOpenCurve)
  | .windowClose write =>
    some (write.setting .windowClose .windowCloseDurationMs .windowCloseCurve)

/-- The setting has one value. -/
def Setting.SingleValued (self : Setting) : Prop := self ∉ [.remap, .execOnce, .bind]

instance (self : Setting) : Decidable self.SingleValued := inferInstanceAs (Decidable (_ ∉ _))

section Settings

variable {setting : Setting} {α : Type} {x : Result α}

/-- A value is rejected in every configuration, or it is one write to whatever configuration. -/
def OneWrite (library : Library C) (setting : Setting) (value : Text) : Prop :=
  (∃ error, ∀ config : Config C, apply library config value setting = .error error) ∨
    ∃ write : Write C, write.setting = some setting ∧
      ∀ config, apply library config value setting = .ok (write.run config)

theorem oneWrite_of_bind (write : α → Write C)
    (hsetting : ∀ a, (write a).setting = some setting)
    (happly : ∀ config, apply library config value setting =
      x >>= fun a => .ok ((write a).run config)) : OneWrite library setting value := by
  cases x with
  | error error => exact .inl ⟨error, happly⟩
  | ok a => exact .inr ⟨write a, hsetting a, happly⟩

/-- The value is rejected too if the number is out of range. -/
theorem oneWrite_of_check (write : α → Write C) {bad : α → Prop} [DecidablePred bad]
    {error : SettingError} (hsetting : ∀ a, (write a).setting = some setting)
    (happly : ∀ config, apply library config value setting =
      x >>= fun a => if bad a then .error error else .ok ((write a).run config)) :
    OneWrite library setting value := by
  cases x with
  | error error => exact .inl ⟨error, happly⟩
  | ok a =>
    by_cases hbad : bad a
    · exact .inl ⟨error, fun config => (happly config).trans (if_pos hbad)⟩
    · exact .inr ⟨write a, hsetting a, fun config => (happly config).trans (if_neg hbad)⟩

theorem oneWrite_remap : OneWrite library .remap value := by
  have happly : ∀ config, apply library config value .remap = applyRemap config value :=
    fun _ => rfl
  unfold OneWrite
  simp only [happly, applyRemap]
  split
  · split_ifs
    · exact .inr ⟨.capsEscape, rfl, fun _ => rfl⟩
    · exact .inr ⟨.ignored .remap, rfl, fun _ => rfl⟩
  · exact .inl ⟨_, fun _ => rfl⟩
  · exact .inl ⟨_, fun _ => rfl⟩

theorem oneWrite_mode : OneWrite library .mode value := by
  cases hmode : ConfiguredMode.ofText value with
  | error error =>
    refine .inl ⟨.invalidMode value error, fun config => ?_⟩
    simp only [apply, hmode]
  | ok mode =>
    refine .inr ⟨.mode mode, rfl, fun config => ?_⟩
    simp only [apply, hmode, Write.run]

end Settings

/-- Every setting has this form. -/
theorem oneWrite (library : Library C) (setting : Setting) (value : Text) :
    OneWrite library setting value := by
  cases setting with
  | remap => exact oneWrite_remap
  | gapsIn => exact oneWrite_of_bind .gaps (fun _ => rfl) fun _ => rfl
  | gapsOut => exact .inr ⟨.ignored .gapsOut, rfl, fun _ => rfl⟩
  | borderWidth => exact oneWrite_of_bind .borderWidth (fun _ => rfl) fun _ => rfl
  | borderColor => exact oneWrite_of_bind .borderColor (fun _ => rfl) fun _ => rfl
  | mode => exact oneWrite_mode
  | keyboardRepeatRate => exact oneWrite_of_bind .repeatRate (fun _ => rfl) fun _ => rfl
  | keyboardRepeatDelay => exact oneWrite_of_bind .repeatDelay (fun _ => rfl) fun _ => rfl
  | execOnce => exact oneWrite_of_bind .spawn (fun _ => rfl) fun _ => rfl
  | bind => exact oneWrite_of_bind .bind (fun _ => rfl) fun _ => rfl
  | cornerRadius =>
    exact oneWrite_of_check (fun number => .cornerRadius (binary32.convert number)) (fun _ => rfl)
      fun _ => rfl
  | inactiveAlpha =>
    exact oneWrite_of_check (fun number => .inactiveAlpha (binary32.convert number)) (fun _ => rfl)
      fun _ => rfl
  | inactiveBlur => exact oneWrite_of_bind .inactiveBlur (fun _ => rfl) fun _ => rfl
  | wallpaperDaemon => exact oneWrite_of_bind .wallpaperDaemon (fun _ => rfl) fun _ => rfl
  | inactiveBlurPasses => exact oneWrite_of_bind .blurPasses (fun _ => rfl) fun _ => rfl
  | inactiveBlurRadius => exact oneWrite_of_check .blurRadius (fun _ => rfl) fun _ => rfl
  | tileMovement =>
    exact oneWrite_of_bind (fun on => .tileMovement (.off !on)) (fun _ => rfl) fun _ => rfl
  | tileMovementDampingRatio =>
    exact oneWrite_of_check (fun ratio => .tileSpring (.dampingRatio ratio)) (fun _ => rfl)
      fun _ => rfl
  | tileMovementStiffness =>
    exact oneWrite_of_check (fun number => .tileSpring (.stiffness number)) (fun _ => rfl)
      fun _ => rfl
  | tileMovementEpsilon =>
    exact oneWrite_of_check (fun number => .tileSpring (.epsilon number)) (fun _ => rfl)
      fun _ => rfl
  | tileMovementDurationMs =>
    exact oneWrite_of_bind (fun ms => .tileMovement (.durationMs ms)) (fun _ => rfl) fun _ => rfl
  | tileMovementCurve =>
    exact oneWrite_of_bind (fun curve => .tileMovement (.curve curve)) (fun _ => rfl) fun _ => rfl
  | windowOpen =>
    exact oneWrite_of_bind (fun on => .windowOpen (.off !on)) (fun _ => rfl) fun _ => rfl
  | windowOpenDurationMs =>
    exact oneWrite_of_bind (fun ms => .windowOpen (.durationMs ms)) (fun _ => rfl) fun _ => rfl
  | windowOpenCurve =>
    exact oneWrite_of_bind (fun curve => .windowOpen (.curve curve)) (fun _ => rfl) fun _ => rfl
  | windowClose =>
    exact oneWrite_of_bind (fun on => .windowClose (.off !on)) (fun _ => rfl) fun _ => rfl
  | windowCloseDurationMs =>
    exact oneWrite_of_bind (fun ms => .windowClose (.durationMs ms)) (fun _ => rfl) fun _ => rfl
  | windowCloseCurve =>
    exact oneWrite_of_bind (fun curve => .windowClose (.curve curve)) (fun _ => rfl) fun _ => rfl
  | idleTimeout => exact .inr ⟨.ignored .idleTimeout, rfl, fun _ => rfl⟩

/-! ### Writes that are written over -/

theorem base_run (write : Write C) (config : Config C) :
    (write.run config.base).base = (write.run config).base := by
  cases write <;> rfl

/-- The write puts parameters of an easing into its animation. -/
def EasingWrite.IsKind : EasingWrite → Prop
  | .off _ => False
  | _ => True

/-- The writes put parameters of different kinds into one animation. -/
inductive Write.Switches : Write C → Write C → Prop
  | toEasing (a : EasingWrite) (b : SpringWrite) :
    a.IsKind → Switches (.tileMovement a) (.tileSpring b)
  | toSpring (a : SpringWrite) (b : EasingWrite) :
    b.IsKind → Switches (.tileSpring a) (.tileMovement b)

theorem EasingWrite.run_comm {a b : EasingWrite} {off durationMs curve : Setting}
    (hne : a.setting off durationMs curve ≠ b.setting off durationMs curve)
    (animation : Animation) : a.run (b.run animation) = b.run (a.run animation) := by
  obtain ⟨disabled, kind⟩ := animation
  cases a <;> cases b <;> cases kind <;> first | rfl | exact absurd rfl hne

theorem SpringWrite.run_comm {a b : SpringWrite} (hne : a.setting ≠ b.setting)
    (animation : Animation) :
    (animation.setSpring b.set).setSpring a.set = (animation.setSpring a.set).setSpring b.set := by
  obtain ⟨disabled, kind⟩ := animation
  cases a <;> cases b <;> cases kind <;> first | rfl | exact absurd rfl hne

theorem Write.run_comm {write other : Write C} (hne : write.setting ≠ other.setting)
    (hkinds : ¬write.Switches other) (config : Config C) :
    write.run (other.run config) = other.run (write.run config) := by
  cases write <;> cases other <;> first | rfl | exact absurd rfl hne | skip
  case tileMovement.tileMovement a b =>
    have hcomm := EasingWrite.run_comm (fun h => hne (congrArg some h)) config.animations.tileMovement
    exact congrArg (fun animation => config.setTileMovement fun _ => animation) hcomm
  case tileSpring.tileSpring a b =>
    have hcomm := SpringWrite.run_comm (fun h => hne (congrArg some h)) config.animations.tileMovement
    exact congrArg (fun animation => config.setTileMovement fun _ => animation) hcomm
  case windowOpen.windowOpen a b =>
    have hcomm := EasingWrite.run_comm (fun h => hne (congrArg some h)) config.animations.windowOpen
    exact congrArg (fun animation => config.setWindowOpen fun _ => animation) hcomm
  case windowClose.windowClose a b =>
    have hcomm := EasingWrite.run_comm (fun h => hne (congrArg some h)) config.animations.windowClose
    exact congrArg (fun animation => config.setWindowClose fun _ => animation) hcomm
  case tileMovement.tileSpring a b =>
    cases a with
    | off disabled => rfl
    | durationMs durationMs => exact absurd (.toEasing _ _ trivial) hkinds
    | curve curve => exact absurd (.toEasing _ _ trivial) hkinds
  case tileSpring.tileMovement a b =>
    cases b with
    | off disabled => rfl
    | durationMs durationMs => exact absurd (.toSpring _ _ trivial) hkinds
    | curve curve => exact absurd (.toSpring _ _ trivial) hkinds

/-- After a switch only the parameters of the last write are left, with the defaults of its kind. -/
theorem Write.Switches.exists_kind {write other : Write C} (h : write.Switches other) :
    ∃ kind, ∀ config : Config C, write.run (other.run config) =
      (write.run config).setTileMovement fun animation => { animation with kind } := by
  cases h with
  | toEasing a b ha =>
    cases a with
    | off disabled => exact absurd ha id
    | durationMs durationMs => exact ⟨.easing ⟨durationMs, .easeOutQuad⟩, fun _ => rfl⟩
    | curve curve => exact ⟨.easing ⟨150, curve⟩, fun _ => rfl⟩
  | toSpring a b hb =>
    refine ⟨.spring (a.set ⟨literal 1, 600, literal (1 / 10000)⟩), fun config => ?_⟩
    cases b with
    | off disabled => exact absurd hb id
    | durationMs durationMs => rfl
    | curve curve => rfl

/-- The second of two writes of one setting counts. -/
theorem Write.base_run_run {write other : Write C} (heq : write.setting = other.setting)
    (hsingle : ∀ setting ∈ write.setting, setting.SingleValued) (config : Config C) :
    (write.run (other.run config)).base = (write.run config).base := by
  -- writes of different settings are ruled out, so that the cases are one for each setting
  rcases write with (_ | _ | _ | _) | _ | _ | _ | _ | _ | _ | _ | _ | _ | _ | _ | _ | _ | _ | _ |
    (_ | _ | _) | (_ | _ | _) | (_ | _ | _) | (_ | _ | _) <;>
  rcases other with (_ | _ | _ | _) | _ | _ | _ | _ | _ | _ | _ | _ | _ | _ | _ | _ | _ | _ | _ |
    (_ | _ | _) | (_ | _ | _) | (_ | _ | _) | (_ | _ | _) <;>
  cases heq
  all_goals first | rfl | exact absurd (hsingle _ rfl) (by decide)

/-- The configurations are the same, up to their lists, after one more write of the setting. -/
def AgreeUpTo (setting : Setting) (config config' : Config C) : Prop :=
  ∀ write : Write C, write.setting = some setting →
    (write.run config).base = (write.run config').base

/-- The writes of a setting with one value are written over. -/
theorem forgets {setting : Setting} (hsingle : setting.SingleValued) :
    Forgets (fun (config : Config C) (write : Write C) => (write.run config).base)
      (fun write => decide (write.setting = some setting)) (AgreeUpTo setting) where
  refl _ _ _ := rfl
  forget config config' other hother hagree write hwrite := by
    have heq : write.setting = other.setting := hwrite.trans (of_decide_eq_true hother).symm
    have hsingle' : ∀ s ∈ write.setting, s.SingleValued := by
      rw [hwrite]
      rintro s ⟨⟩
      exact hsingle
    rw [base_run, Write.base_run_run heq hsingle', hagree write hwrite]
  step config config' other hother hagree write hwrite := by
    have hne : write.setting ≠ other.setting := by
      rw [hwrite]
      exact Ne.symm (of_decide_eq_false hother)
    rw [base_run, base_run]
    by_cases hkinds : write.Switches other
    · obtain ⟨kind, hkind⟩ := hkinds.exists_kind
      rw [hkind, hkind]
      exact congrArg (fun base : Config C => base.setTileMovement fun animation =>
        { animation with kind }) (hagree write hwrite)
    · rw [Write.run_comm hne hkinds, Write.run_comm hne hkinds, ← base_run other (write.run config),
        hagree write hwrite, base_run]
  overwrite config config' write hwrite hagree := hagree write (of_decide_eq_true hwrite)

/-! ### Lists of writes -/

def runs (config : Config C) (writes : List (Write C)) : Config C :=
  writes.foldl (fun config write => write.run config) config

def Write.radius : Write C → Option Value
  | .cornerRadius radius => some radius
  | _ => none

def Write.configuredMode : Write C → Option ConfiguredMode
  | .mode value => some value
  | _ => none

theorem base_runs (config : Config C) (writes : List (Write C)) : (runs config writes).base =
    writes.foldl (fun config write => (write.run config).base) config.base := by
  induction writes generalizing config with
  | nil => rfl
  | cons write writes ih =>
    rw [runs, List.foldl_cons, List.foldl_cons, base_run]
    exact ih (write.run config)

theorem windowRules_runs (config : Config C) (writes : List (Write C)) :
    (runs config writes).windowRules =
      ((writes.filterMap Write.radius).map fun radius => ⟨radius, true⟩).reverse ++
        config.windowRules := by
  induction writes generalizing config with
  | nil => rfl
  | cons write writes ih =>
    refine (ih (write.run config)).trans ?_
    rw [List.filterMap_cons]
    cases write with
    | cornerRadius radius =>
      change _ ++ (⟨radius, true⟩ :: config.windowRules) = List.reverse (_ :: _) ++ _
      rw [List.reverse_cons, List.append_assoc, List.singleton_append]
    | _ => rfl

theorem outputs_runs (config : Config C) (writes : List (Write C)) :
    (runs config writes).outputs =
      config.outputs ++ (writes.filterMap Write.configuredMode).map (⟨primaryOutputName, ·⟩) := by
  induction writes generalizing config with
  | nil => exact (List.append_nil _).symm
  | cons write writes ih =>
    refine (ih (write.run config)).trans ?_
    rw [List.filterMap_cons]
    cases write with
    | mode mode =>
      change (config.outputs ++ [_]) ++ _ = config.outputs ++ (_ :: _)
      rw [List.append_assoc, List.singleton_append]
    | _ => rfl

/-- The last rule counts, which is the first one that was added. -/
theorem compute_reverse (radii : List Value) :
    ResolvedWindowRules.compute (radii.map fun radius => ⟨radius, true⟩).reverse =
      ⟨radii.head?, radii.head?.map fun _ => true⟩ := by
  cases radii with
  | nil => rfl
  | cons radius radii =>
    rw [List.map_cons, List.reverse_cons, ResolvedWindowRules.compute, List.foldl_append]
    rfl

/-- The first output counts. -/
theorem find_map (modes : List ConfiguredMode) (name : OutputName) :
    Outputs.find (modes.map (⟨primaryOutputName, ·⟩)) name =
      if name.matches primaryOutputName then modes.head?.map (⟨primaryOutputName, ·⟩) else none := by
  unfold Outputs.find
  cases modes with
  | nil => split_ifs <;> rfl
  | cons mode modes =>
    split_ifs with hmatches
    · exact List.find?_cons_of_pos hmatches
    · refine List.find?_eq_none.mpr fun o ho => ?_
      obtain ⟨mode, -, rfl⟩ := List.mem_map.mp ho
      exact hmatches

theorem effective_runs (library : Library C) (writes : List (Write C)) :
    (runs (.initial library) writes).effective =
      { base := (runs (.initial library) writes).base
        rules := ⟨(writes.filterMap Write.radius).head?,
          (writes.filterMap Write.radius).head?.map fun _ => true⟩
        output := fun name => if name.matches primaryOutputName then
            (writes.filterMap Write.configuredMode).head?.map (⟨primaryOutputName, ·⟩)
          else none } := by
  unfold Config.effective
  rw [windowRules_runs, outputs_runs]
  congr 1
  · exact (congrArg _ (List.append_nil _)).trans (compute_reverse _)
  · funext name
    exact find_map _ name

/-- The connector that settings are for. -/
def primaryOutput : OutputName := ⟨primaryOutputName, none, none, none⟩

/-- Writes that only differ in the lists amount to the same exactly if their first entries do. -/
theorem effective_eq_iff {writes writes' : List (Write C)}
    (hbase : (runs (.initial library) writes).base = (runs (.initial library) writes').base) :
    (runs (.initial library) writes).effective = (runs (.initial library) writes').effective ↔
      (writes.filterMap Write.radius).head? = (writes'.filterMap Write.radius).head? ∧
        (writes.filterMap Write.configuredMode).head? =
          (writes'.filterMap Write.configuredMode).head? := by
  rw [effective_runs, effective_runs, Effective.mk.injEq]
  constructor
  · rintro ⟨-, hrules, houtput⟩
    refine ⟨congrArg ResolvedWindowRules.geometryCornerRadius hrules, ?_⟩
    have hprimary := congrFun houtput primaryOutput
    have hmatches : primaryOutput.matches primaryOutputName = true := by decide +kernel
    rw [if_pos hmatches, if_pos hmatches] at hprimary
    exact Option.map_injective (fun a b h => congrArg Output.mode h) hprimary
  · rintro ⟨hradius, hmode⟩
    rw [hradius, hmode]
    exact ⟨hbase, rfl, rfl⟩

theorem isSome_radius (write : Write C) :
    decide (write.setting = some .cornerRadius) = write.radius.isSome := by
  rcases write with (_ | _ | _ | _) | _ | _ | _ | _ | _ | _ | _ | _ | _ | _ | _ | _ | _ | _ | _ |
    (_ | _ | _) | (_ | _ | _) | (_ | _ | _) | (_ | _ | _) <;> rfl

theorem isSome_configuredMode (write : Write C) :
    decide (write.setting = some .mode) = write.configuredMode.isSome := by
  rcases write with (_ | _ | _ | _) | _ | _ | _ | _ | _ | _ | _ | _ | _ | _ | _ | _ | _ | _ | _ |
    (_ | _ | _) | (_ | _ | _) | (_ | _ | _) | (_ | _ | _) <;> rfl

theorem eq_none_of_setting {β : Type} {f : Write C → Option β} {own : Setting}
    (hf : ∀ write, decide (write.setting = some own) = (f write).isSome) {write : Write C}
    (hne : write.setting ≠ some own) : f write = none := by
  have hisSome := hf write
  rw [decide_eq_false hne] at hisSome
  exact Option.not_isSome_iff_eq_none.mp (by rw [← hisSome]; exact Bool.false_ne_true)

/-- A list keeps its first entry of a kind if the entries of another setting are deleted, and if it
is the last entry as well. -/
theorem head?_keepLast {β : Type} {f : Write C → Option β} {own setting : Setting}
    (hf : ∀ write, decide (write.setting = some own) = (f write).isSome)
    (writes : List (Write C)) :
    ((keepLast (fun write => decide (write.setting = some setting)) writes).filterMap f).head? =
        (writes.filterMap f).head? ↔
      (setting = own → (writes.filterMap f).head? = (writes.filterMap f).getLast?) := by
  by_cases hown : setting = own
  · subst hown
    rw [filterMap_keepLast hf]
    cases (writes.filterMap f).getLast? <;> simp [eq_comm]
  · have hnone : ∀ write, decide (write.setting = some setting) = true → f write = none := by
      intro write hwrite
      refine eq_none_of_setting hf ?_
      rw [of_decide_eq_true hwrite]
      exact fun h => hown (Option.some.inj h)
    rw [filterMap_keepLast_of_none hnone]
    exact ⟨fun _ h => absurd h hown, fun _ => rfl⟩

/-- Exactly when the writes of a setting but its last can be deleted. -/
theorem effective_keepLast_iff {setting : Setting} (hsingle : setting.SingleValued)
    (writes : List (Write C)) :
    (runs (.initial library)
        (keepLast (fun write => decide (write.setting = some setting)) writes)).effective =
      (runs (.initial library) writes).effective ↔
    (setting = .cornerRadius →
      (writes.filterMap Write.radius).head? = (writes.filterMap Write.radius).getLast?) ∧
    (setting = .mode → (writes.filterMap Write.configuredMode).head? =
      (writes.filterMap Write.configuredMode).getLast?) := by
  rw [effective_eq_iff, head?_keepLast isSome_radius, head?_keepLast isSome_configuredMode]
  rw [base_runs, base_runs]
  exact (forgets hsingle).foldl_keepLast _

/-! ### Lines -/

/-- The line has the setting. -/
def isLineOf (setting : Setting) (rawLine : Text) : Bool :=
  decide ((lineSetting rawLine).map Prod.fst = some setting)

/-- The radius of a line, if it has one. -/
def lineRadius (rawLine : Text) : Option Value :=
  match lineSetting rawLine with
  | some (.cornerRadius, value) => (parse value).map binary32.convert
  | _ => none

/-- The mode of a line, if it has one. -/
def lineMode (rawLine : Text) : Option ConfiguredMode :=
  match lineSetting rawLine with
  | some (.mode, value) => (ConfiguredMode.ofText value).toOption
  | _ => none

/-- The line is a write in every configuration. -/
structure Writes (library : Library C) (rawLine : Text) (write : Write C) : Prop where
  parse : ∀ config lineno, parseLine library config lineno rawLine = .ok (write.run config)
  setting : write.setting = (lineSetting rawLine).map Prod.fst
  radius : write.radius = lineRadius rawLine
  mode : write.configuredMode = lineMode rawLine

theorem radius_of_apply {write : Write C} (hsetting : write.setting = some .cornerRadius)
    (happly : apply library config value .cornerRadius = .ok (write.run config)) :
    write.radius = (parse value).map binary32.convert := by
  obtain ⟨number, hnumber, hchecked⟩ := bind_eq_ok.mp happly
  have hrules := congrArg Config.windowRules (ite_error_eq_ok.mp hchecked).2
  have hsome := isSome_radius write
  rw [decide_eq_true hsetting] at hsome
  rw [parseF64_eq_ok.mp hnumber, Option.map_some]
  cases write with
  | cornerRadius radius =>
    have hrule := (List.cons.inj hrules).1
    exact congrArg some (congrArg WindowRule.geometryCornerRadius hrule).symm
  | _ => cases hsome

theorem mode_of_apply {write : Write C} (hsetting : write.setting = some .mode)
    (happly : apply library config value .mode = .ok (write.run config)) :
    write.configuredMode = (ConfiguredMode.ofText value).toOption := by
  have hsome := isSome_configuredMode write
  rw [decide_eq_true hsetting] at hsome
  simp only [apply] at happly
  cases hmode : ConfiguredMode.ofText value with
  | error error =>
    rw [hmode] at happly
    cases happly
  | ok mode =>
    rw [hmode] at happly
    have houtputs := congrArg Config.outputs (Except.ok.inj happly)
    cases write with
    | mode mode' =>
      have houtput := (List.cons.inj (List.append_cancel_left houtputs)).1
      exact congrArg some (congrArg Output.mode houtput).symm
    | _ => cases hsome

theorem writes_ignored (hnone : lineSetting rawLine = none)
    (hparse : ∀ (config : Config C) lineno, parseLine library config lineno rawLine = .ok config) :
    Writes library rawLine (.ignored .line) where
  parse := hparse
  setting := by rw [hnone]; rfl
  radius := by rw [lineRadius, hnone]; rfl
  mode := by rw [lineMode, hnone]; rfl

theorem writes_of_apply {write : Write C} {setting : Setting}
    (hline : lineSetting rawLine = some (setting, value)) (hsetting : write.setting = some setting)
    (happly : ∀ config, apply library config value setting = .ok (write.run config))
    (hparse : ∀ config lineno, parseLine library config lineno rawLine = .ok (write.run config)) :
    Writes library rawLine write where
  parse := hparse
  setting := by rw [hline, hsetting]; rfl
  radius := by
    rw [lineRadius, hline]
    by_cases hradius : setting = .cornerRadius
    · subst hradius
      exact radius_of_apply hsetting (happly (.initial library))
    · have hne : write.setting ≠ some .cornerRadius := by
        rw [hsetting]
        exact fun h => hradius (Option.some.inj h)
      rw [eq_none_of_setting isSome_radius hne]
      split
      · rename_i heq
        cases heq
        exact absurd rfl hradius
      · rfl
  mode := by
    rw [lineMode, hline]
    by_cases hmode : setting = .mode
    · subst hmode
      exact mode_of_apply hsetting (happly (.initial library))
    · have hne : write.setting ≠ some .mode := by
        rw [hsetting]
        exact fun h => hmode (Option.some.inj h)
      rw [eq_none_of_setting isSome_configuredMode hne]
      split
      · rename_i heq
        cases heq
        exact absurd rfl hmode
      · rfl

/-- Every accepted line is a write. -/
theorem exists_writes {lineno : ℕ} {config' : Config C}
    (h : parseLine library config lineno rawLine = .ok config') :
    ∃ write, Writes library rawLine write ∧ config' = write.run config := by
  suffices hwrites : ∃ write, Writes library rawLine write by
    obtain ⟨write, hwrite⟩ := hwrites
    exact ⟨write, hwrite, Except.ok.inj (h.symm.trans (hwrite.parse config lineno))⟩
  by_cases hempty : stripLine rawLine = []
  · refine ⟨_, writes_ignored ?_ fun config lineno => if_pos hempty⟩
    rw [lineSetting, hempty]
    rfl
  have hline := fun config lineno =>
    show parseLine library config lineno rawLine = _ from if_neg hempty
  rw [hline] at h
  cases hkeyValue : keyValue (stripLine rawLine) with
  | none =>
    rw [hkeyValue] at h
    cases h
  | some p =>
    simp only [hkeyValue, applySetting] at h hline
    cases hkey : Setting.ofKey p.1 with
    | none =>
      simp only [hkey] at hline
      refine ⟨_, writes_ignored ?_ hline⟩
      rw [lineSetting, hkeyValue, Option.bind_some, hkey]
      rfl
    | some setting =>
      simp only [hkey] at h hline
      rcases oneWrite library setting p.2 with ⟨error, herror⟩ | ⟨write, hsetting, happly⟩
      · rw [herror] at h
        cases h
      · simp only [happly] at hline
        refine ⟨write, writes_of_apply ?_ hsetting happly hline⟩
        rw [lineSetting, hkeyValue, Option.bind_some, hkey]
        rfl

theorem parseLines_eq_ok_iff (lineno : ℕ) {rawLines : List Text} {config' : Config C} :
    parseLines library config lineno rawLines = .ok config' ↔
      ∃ writes, List.Forall₂ (Writes library) rawLines writes ∧ config' = runs config writes := by
  induction rawLines generalizing config lineno with
  | nil =>
    constructor
    · intro h
      exact ⟨[], .nil, (Except.ok.inj h).symm⟩
    · rintro ⟨writes, h, rfl⟩
      cases h
      rfl
  | cons rawLine rawLines ih =>
    rw [parseLines, bind_eq_ok]
    constructor
    · rintro ⟨config₁, hline, hlines⟩
      obtain ⟨write, hwrite, rfl⟩ := exists_writes hline
      obtain ⟨writes, hwrites, rfl⟩ := (ih _).mp hlines
      exact ⟨write :: writes, .cons hwrite hwrites, rfl⟩
    · rintro ⟨writes, h, rfl⟩
      cases h with
      | cons hwrite hwrites => exact ⟨_, hwrite.parse config lineno, (ih _).mpr ⟨_, hwrites, rfl⟩⟩

/-! ### Texts -/

/-- The text without all but the last of the lines of a setting. -/
def keepLastLine (setting : Setting) (text : Text) : Text :=
  join '\n' (keepLast (isLineOf setting) (split '\n' text))

theorem split_keepLastLine (setting : Setting) (text : Text) :
    split '\n' (keepLastLine setting text) = keepLast (isLineOf setting) (split '\n' text) := by
  refine split_join ?_ fun part hpart => notMem_of_mem_split part (keepLast_sublist.subset hpart)
  intro hnil
  have hlast := getLast?_keepLast (p := isLineOf setting) (l := split '\n' text)
  rw [hnil, List.getLast?_nil, eq_comm, List.getLast?_eq_none_iff] at hlast
  exact split_ne_nil '\n' text hlast

theorem stripLine_append_return (line : Text) : stripLine (line ++ ['\r']) = stripLine line := by
  unfold stripLine
  rw [List.takeWhile_append]
  split_ifs with hlength
  · have hline : line.takeWhile (· ≠ '#') = line :=
      (List.takeWhile_prefix _).eq_of_length hlength
    rw [hline]
    exact trim_pad (List.forall_mem_singleton.mpr rfl)
  · rfl

theorem parseLine_congr {rawLine' : Text} (hstrip : stripLine rawLine = stripLine rawLine')
    {lineno : ℕ} {config' : Config C} (h : parseLine library config lineno rawLine = .ok config') :
    parseLine library config lineno rawLine' = .ok config' := by
  unfold parseLine at h ⊢
  rw [hstrip] at h
  dsimp only at h ⊢
  split_ifs at h ⊢
  · exact h
  · cases hkeyValue : keyValue (stripLine rawLine') with
    | none =>
      rw [hkeyValue] at h
      cases h
    | some p =>
      rw [hkeyValue] at h
      exact h

theorem Writes.congr {rawLine' : Text} {write : Write C}
    (hstrip : stripLine rawLine = stripLine rawLine') (h : Writes library rawLine write) :
    Writes library rawLine' write := by
  have hsetting : lineSetting rawLine = lineSetting rawLine' := by
    unfold lineSetting
    rw [hstrip]
  refine ⟨fun config lineno => parseLine_congr hstrip (h.parse config lineno), ?_, ?_, ?_⟩
  · rw [h.setting, hsetting]
  · rw [h.radius, lineRadius, lineRadius, hsetting]
  · rw [h.mode, lineMode, lineMode, hsetting]

/-- The line without a carriage return at its end. -/
def chomp (line : Text) : Text := if line.getLast? = some '\r' then line.dropLast else line

theorem stripLine_chomp (line : Text) : stripLine (chomp line) = stripLine line := by
  unfold chomp
  split_ifs with hlast
  · have hline := List.dropLast_append_getLast? '\r' hlast
    rw [← stripLine_append_return, hline]
  · rfl

theorem forall₂_chomp {front : List Text} {writes : List (Write C)} :
    List.Forall₂ (Writes library) (front.map chomp) writes ↔
      List.Forall₂ (Writes library) front writes := by
  rw [List.forall₂_map_left_iff]
  constructor
  · exact List.Forall₂.imp fun line write h => h.congr (stripLine_chomp line)
  · exact List.Forall₂.imp fun line write h => h.congr (stripLine_chomp line).symm

theorem lines_of_split {text last : Text} {front : List Text}
    (h : split '\n' text = front ++ [last]) :
    lines text = front.map chomp ++ if last = [] then [] else [last] := by
  unfold lines
  rw [h]
  dsimp only
  rw [List.dropLast_concat, List.getLast?_concat]
  cases last with
  | nil => exact (List.append_nil _).symm
  | cons c last => rfl

/-- The lines of a text are its parts between line feeds, as far as they set something. -/
theorem parseSol_eq_ok_iff {text : Text} : parseSol library text = .ok config ↔
    ∃ writes, List.Forall₂ (Writes library) (split '\n' text) writes ∧
      config = runs (.initial library) writes := by
  rw [← parseLines_eq_ok_iff 1]
  have hsplit := (List.dropLast_append_getLast (split_ne_nil '\n' text)).symm
  generalize (split '\n' text).dropLast = front at hsplit
  generalize (split '\n' text).getLast _ = last at hsplit
  rw [parseSol, lines_of_split hsplit, hsplit, parseLines_append, parseLines_append, bind_eq_ok,
    bind_eq_ok, List.length_map]
  refine exists_congr fun config₁ => and_congr ?_ ?_
  · rw [parseLines_eq_ok_iff, parseLines_eq_ok_iff]
    simp only [forall₂_chomp]
  · split_ifs with hlast
    · rw [hlast]
      rfl
    · rfl

/-! ### Lines that are deleted -/

/-- The radii of corners in a text. -/
def cornerRadii (text : Text) : List Value := (split '\n' text).filterMap lineRadius

/-- The modes in a text. -/
def configuredModes (text : Text) : List ConfiguredMode := (split '\n' text).filterMap lineMode

/-- The first line of the setting counts as much as the last one. -/
def FirstIsLast (setting : Setting) (text : Text) : Prop :=
  (setting = .cornerRadius → (cornerRadii text).head? = (cornerRadii text).getLast?) ∧
    (setting = .mode → (configuredModes text).head? = (configuredModes text).getLast?)

theorem filterMap_writes {β : Type} {f : Text → Option β} {g : Write C → Option β}
    {rawLines : List Text} {writes : List (Write C)}
    (hfg : ∀ rawLine write, Writes library rawLine write → g write = f rawLine)
    (h : List.Forall₂ (Writes library) rawLines writes) :
    writes.filterMap g = rawLines.filterMap f := by
  induction h with
  | nil => rfl
  | cons hwrite _ ih => rw [List.filterMap_cons, List.filterMap_cons, hfg _ _ hwrite, ih]

/-- Without all but the last of the lines of a setting an accepted text is accepted, and it amounts
to the same exactly if the first radius of corners is the last one, where the setting is that, and
the first mode is the last one, where it is that. -/
theorem ofText_keepLastLine_iff {setting : Setting} (hsingle : setting.SingleValued) {text : Text}
    {effective : Effective C} (h : Effective.ofText library text = some effective) :
    (∃ effective', Effective.ofText library (keepLastLine setting text) = some effective') ∧
      (Effective.ofText library (keepLastLine setting text) = some effective ↔
        FirstIsLast setting text) := by
  obtain ⟨config, hconfig, rfl⟩ := Option.map_eq_some_iff.mp h
  have hparse : parseSol library text = .ok config := by
    cases hresult : parseSol library text with
    | error error =>
      rw [hresult] at hconfig
      cases hconfig
    | ok config' =>
      rw [hresult] at hconfig
      exact congrArg _ (Option.some.inj hconfig)
  obtain ⟨writes, hwrites, rfl⟩ := parseSol_eq_ok_iff.mp hparse
  have hkept := forall₂_keepLast (p := isLineOf setting)
    (q := fun write : Write C => decide (write.setting = some setting))
    (fun rawLine write hwrite => by rw [isLineOf, hwrite.setting]) hwrites
  rw [← split_keepLastLine] at hkept
  have heffective : Effective.ofText library (keepLastLine setting text) = some (runs
      (.initial library) (keepLast (fun write => decide (write.setting = some setting))
        writes)).effective := by
    rw [Effective.ofText, parseSol_eq_ok_iff.mpr ⟨_, hkept, rfl⟩]
    rfl
  refine ⟨⟨_, heffective⟩, ?_⟩
  rw [heffective, Option.some.injEq, effective_keepLast_iff hsingle, FirstIsLast, cornerRadii,
    configuredModes, filterMap_writes (fun _ _ hwrite => hwrite.radius) hwrites,
    filterMap_writes (fun _ _ hwrite => hwrite.mode) hwrites]

/-! ### Settings of two lines -/

namespace Sample

def twoGaps : Text := "gaps_in = 4\nborder_width = 2\ngaps_in = 8".toList

def twoRadii : Text := "corner_radius = 4\ncorner_radius = 8".toList

def twoModes : Text := "mode = 1920x1080\nmode = 1280x720".toList

end Sample

/-- The first of two gaps can be deleted. -/
theorem ofText_keepLastLine_twoGaps : ∃ effective,
    Effective.ofText Sample.twoKeys Sample.twoGaps = some effective ∧
      Effective.ofText Sample.twoKeys (keepLastLine .gapsIn Sample.twoGaps) = some effective := by
  have hsome : (Effective.ofText Sample.twoKeys Sample.twoGaps).isSome = true := by decide +kernel
  obtain ⟨effective, heffective⟩ := Option.isSome_iff_exists.mp hsome
  exact ⟨effective, heffective,
    (ofText_keepLastLine_iff (by decide) heffective).2.mpr ⟨nofun, nofun⟩⟩

/-- The first of two radii of corners counts, and the first of two modes. -/
theorem not_ofText_keepLastLine :
    (Effective.ofText Sample.twoKeys Sample.twoRadii).map Effective.rules =
      some ⟨some (.finite 4), some true⟩ ∧
    (Effective.ofText Sample.twoKeys (keepLastLine .cornerRadius Sample.twoRadii)).map
      Effective.rules = some ⟨some (.finite 8), some true⟩ ∧
    (Effective.ofText Sample.twoKeys Sample.twoModes).map (·.output primaryOutput) =
      some (some ⟨primaryOutputName, ⟨1920, 1080, none⟩⟩) ∧
    (Effective.ofText Sample.twoKeys (keepLastLine .mode Sample.twoModes)).map
      (·.output primaryOutput) = some (some ⟨primaryOutputName, ⟨1280, 720, none⟩⟩) := by
  decide +kernel

end Sol.SolConf
