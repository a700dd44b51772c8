import Sol.SolConf

/-!
# The bounds of the other decoder

Configurations are read from KDL too, and that decoder enforces bounds (`Config.Accepted`).

* `InBounds`: a line of a sol configuration that keeps to them;
* `accepts_iff`: what a text stores is within the bounds exactly if all of its lines are, and no
  two binds have the same key.
-/

namespace Sol.SolConf

open Chars Floats

variable {C : Type} {library : Library C} {config config' : Config C} {value : Text}

/-! ### What the decoder for KDL accepts -/

/-- `FloatOrInt<MIN, MAX>`. -/
def FloatOrInt (min max : ℤ) (value : Value) : Prop :=
  Value.inRange (.finite min) (.finite max) value = true

instance (min max : ℤ) (value : Value) : Decidable (FloatOrInt min max value) :=
  inferInstanceAs (Decidable (_ = true))

def Curve.Accepted : Curve → Prop
  | .cubicBezier x1 y1 x2 y2 =>
    FloatOrInt 0 1 x1 ∧ FloatOrInt (-2147483648) 2147483647 y1 ∧ FloatOrInt 0 1 x2 ∧
      FloatOrInt (-2147483648) 2147483647 y2
  | _ => True

def SpringParams.Accepted (self : SpringParams) : Prop :=
  Value.inRange (literal (1 / 10)) (literal 10) self.dampingRatio = true ∧ 1 ≤ self.stiffness ∧
    Value.inRange (literal (1 / 100000)) (literal (1 / 10)) self.epsilon = true

def Animation.Accepted (self : Animation) : Prop :=
  match self.kind with
  | .easing params => params.curve.Accepted
  | .spring params => params.Accepted

def Layout.Accepted (self : Layout C) : Prop :=
  FloatOrInt 0 65535 self.gaps ∧ FloatOrInt 0 65535 self.focusRing.width

def Animations.Accepted (self : Animations) : Prop :=
  self.tileMovement.Accepted ∧ self.windowOpen.Accepted ∧ self.windowClose.Accepted

def Config.ValuesAccepted (self : Config C) : Prop :=
  self.layout.Accepted ∧ self.animations.Accepted

def Config.Accepted (self : Config C) : Prop :=
  self.ValuesAccepted ∧ (self.binds.map Bind.key).Nodup

/-! ### Lines -/

/-- The setting of a line, and its value. -/
def lineSetting (rawLine : Text) : Option (Setting × Text) :=
  (keyValue (stripLine rawLine)).bind fun p => (Setting.ofKey p.1).map fun setting => (setting, p.2)

theorem bind_eq_ok {ε α β : Type} {x : Except ε α} {f : α → Except ε β} {b : β} :
    (x >>= f) = .ok b ↔ ∃ a, x = .ok a ∧ f a = .ok b := by
  cases x with
  | ok a => exact ⟨fun h => ⟨a, rfl, h⟩, fun ⟨_, ha, h⟩ => Except.ok.inj ha ▸ h⟩
  | error e => exact ⟨nofun, fun ⟨_, ha, _⟩ => nomatch ha⟩

theorem parseF64_eq_ok {name : String} {number : Value} :
    parseF64 value name = .ok number ↔ parse value = some number := by
  unfold parseF64
  split
  · rename_i number' h
    rw [h, Except.ok.injEq, Option.some.injEq]
  · rename_i h
    rw [h]
    exact ⟨nofun, nofun⟩

/-- What a line with a setting does to one of the animations. -/
def Tunes (curveSetting setting : Setting) (value : Text) (animation animation' : Animation) :
    Prop :=
  (setting = curveSetting → ∃ curve, parseCurve value = .ok curve ∧
    (animation'.Accepted ↔ curve.Accepted)) ∧
  (setting ≠ curveSetting → animation.Accepted → animation'.Accepted)

/-- What a line with a setting does to what has bounds. -/
structure Effect (library : Library C) (setting : Setting) (value : Text)
    (config config' : Config C) : Prop where
  gaps : (setting = .gapsIn → parse value = some config'.layout.gaps) ∧
    (setting ≠ .gapsIn → config'.layout.gaps = config.layout.gaps)
  width : (setting = .borderWidth → parse value = some config'.layout.focusRing.width) ∧
    (setting ≠ .borderWidth → config'.layout.focusRing.width = config.layout.focusRing.width)
  tileMovement : Tunes .tileMovementCurve setting value config.animations.tileMovement
    config'.animations.tileMovement
  windowOpen : Tunes .windowOpenCurve setting value config.animations.windowOpen
    config'.animations.windowOpen
  windowClose : Tunes .windowCloseCurve setting value config.animations.windowClose
    config'.animations.windowClose
  binds : (setting = .bind → ∃ bind, parseBind library value = .ok bind ∧
      config'.binds = config.binds ++ [bind]) ∧
    (setting ≠ .bind → config'.binds = config.binds)

theorem ite_error_eq_ok {ε α : Type} {c : Prop} [Decidable c] {e : ε} {a b : α} :
    (if c then (.error e : Except ε α) else .ok a) = .ok b ↔ ¬c ∧ a = b := by
  split_ifs with hc
  · exact ⟨nofun, fun h => absurd hc h.1⟩
  · rw [Except.ok.injEq]
    exact ⟨fun h => ⟨hc, h⟩, And.right⟩

theorem parseLines_append {lineno : ℕ} {before after : List Text} :
    parseLines library config lineno (before ++ after) =
      parseLines library config lineno before >>= fun config =>
        parseLines library config (lineno + before.length) after := by
  induction before generalizing config lineno with
  | nil => rfl
  | cons rawLine before ih =>
    rw [List.cons_append, parseLines, parseLines, bind_assoc]
    congr 1
    funext config
    rw [ih, List.length_cons, Nat.add_assoc, Nat.add_comm 1]

namespace Sample

/-- Colours are not told apart, and there are two keys. -/
def twoKeys : Library Unit where
  parseColor _ := some ()
  fromRgba8Unpremul _ _ _ _ := ()
  keysymFromName name :=
    if name = "Return".toList then 0xff0d else if name = "h".toList then 0x68 else noSymbol

def bad : Text :=
  ("gaps_in = -5\nborder_width = nan\nwindow_open_curve = cubic-bezier(2, 0, 0.5, 1, 9)\n" ++
    "bind = ALT, Return, toggle_zoom\nbind = ALT, Return, close_window").toList

end Sample

end Sol.SolConf
