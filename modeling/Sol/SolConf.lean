import Sol.Floats

/-!
# The sol configuration format

Lines of the form `key = value`.  The parser for colours and the names of keys are those of other
libraries (`Library`).  What warnings say is left out, and so are the parts of a configuration
that no line changes.
-/

namespace Sol.SolConf

open Chars Floats

/-- What is taken from other libraries. -/
structure Library (C : Type) where
  parseColor : Text → Option C
  fromRgba8Unpremul : ℕ → ℕ → ℕ → ℕ → C
  /-- The key symbol of a name in whatever case, or `noSymbol`. -/
  keysymFromName : Text → ℕ

def noSymbol : ℕ := 0

/-! ### Configurations -/

inductive Curve
  | linear
  | easeOutQuad
  | easeOutCubic
  | easeOutExpo
  | cubicBezier (x1 y1 x2 y2 : Value)
  deriving DecidableEq, Repr

structure EasingParams where
  durationMs : ℕ
  curve : Curve
  deriving DecidableEq, Repr

structure SpringParams where
  dampingRatio : Value
  stiffness : ℕ
  epsilon : Value
  deriving DecidableEq, Repr

inductive Kind
  | easing (params : EasingParams)
  | spring (params : SpringParams)
  deriving DecidableEq, Repr

structure Animation where
  off : Bool
  kind : Kind
  deriving DecidableEq, Repr

structure Animations where
  tileMovement : Animation
  windowOpen : Animation
  windowClose : Animation
  deriving DecidableEq, Repr

structure FocusRing (C : Type) where
  off : Bool
  width : Value
  activeColor : C

structure Layout (C : Type) where
  gaps : Value
  workspaceCount : ℕ
  focusRing : FocusRing C

structure ConfiguredMode where
  width : ℕ
  height : ℕ
  refresh : Option Value
  deriving DecidableEq, Repr

structure Output where
  name : String
  mode : ConfiguredMode
  deriving DecidableEq, Repr

structure Keyboard where
  repeatRate : ℕ
  repeatDelay : ℕ
  /-- The options of xkb. -/
  options : Option Text
  deriving DecidableEq, Repr

structure Modifiers where
  ctrl : Bool
  shift : Bool
  alt : Bool
  super : Bool
  deriving DecidableEq, Repr

structure Key where
  keysym : ℕ
  modifiers : Modifiers
  deriving DecidableEq, Repr

inductive Action
  | spawn (command : List Text)
  | focusColumnLeft
  | focusColumnRight
  | focusWindowUp
  | focusWindowDown
  | moveColumnLeft
  | moveColumnRight
  | moveWindowUp
  | moveWindowDown
  | maximizeWindowToEdges
  | fullscreenWindow
  | closeWindow
  | focusWorkspace (index : ℕ)
  | moveWindowToWorkspace (index : ℕ) (focus : Bool)
  | enterResizeMode
  deriving DecidableEq, Repr

structure Bind where
  key : Key
  action : Action
  deriving DecidableEq, Repr

structure WindowRule where
  geometryCornerRadius : Value
  clipToGeometry : Bool
  deriving DecidableEq, Repr

structure Blur where
  passes : ℕ
  offset : Value
  deriving DecidableEq, Repr

structure Config (C : Type) where
  preferNoCsd : Bool
  hotCornersOff : Bool
  dbusInterfacesInNonSessionInstances : Bool
  skipHotkeyOverlayAtStartup : Bool
  layout : Layout C
  outputs : List Output
  keyboard : Keyboard
  spawnAtStartup : List (List Text)
  binds : List Bind
  windowRules : List WindowRule
  inactiveAlpha : Option Value
  inactiveBlur : Bool
  wallpaperDaemon : Bool
  blur : Blur
  animations : Animations

/-- A constant of the source. -/
def literal (value : ℚ) : Value := binary64.round value

def windCurve : Curve :=
  .cubicBezier (literal (5 / 100)) (literal (9 / 10)) (literal (1 / 10)) (literal (105 / 100))

def Animation.wind (durationMs : ℕ) : Animation := ⟨false, .easing ⟨durationMs, windCurve⟩⟩

variable {C : Type}

/-- The configuration before the first line: the default one, with some defaults for sol. -/
def Config.initial (library : Library C) : Config C where
  preferNoCsd := true
  hotCornersOff := true
  dbusInterfacesInNonSessionInstances := true
  skipHotkeyOverlayAtStartup := true
  layout := ⟨literal 16, 5, ⟨false, literal 4, library.fromRgba8Unpremul 127 200 255 255⟩⟩
  outputs := []
  keyboard := ⟨25, 600, none⟩
  spawnAtStartup := []
  binds := []
  windowRules := []
  inactiveAlpha := none
  inactiveBlur := false
  wallpaperDaemon := false
  blur := ⟨3, literal 3⟩
  animations := ⟨.wind 260, .wind 250, .wind 220⟩

def primaryOutputName : String := "DP-2"

/-! ### Values -/

inductive SettingError
  | invalidFloat (name : String) (value : Text)
  | invalidInt (name : String) (value : Text) (error : IntErrorKind)
  | invalidColor (value : Text)
  | invalidMode (value : Text) (error : String)
  | outOfRange (name : String) (value : Text) (expected : String)
  | malformedQuoting
  | emptyCommand
  | notOnOff (name : String) (value : Text)
  | cubicBezierNumbers
  | unknownCurve (value : Text)
  | remapParts (value : Text)
  | remapTooManyParts
  | bindParts (value : Text)
  | unknownModifier (token : Text)
  | unknownKey (key : Text)
  | direction (action : String) (rest : Text)
  | unknownAction (name : Text)
  deriving DecidableEq, Repr

abbrev Result := Except SettingError

def parseF64 (value : Text) (name : String) : Result Value :=
  match parse value with
  | some number => .ok number
  | none => .error (.invalidFloat name value)

def parseInt (bits : ℕ) (value : Text) (name : String) : Result ℕ :=
  match parseUnsigned bits value with
  | .ok number => .ok number
  | .error error => .error (.invalidInt name value error)

/-- The numbers of `cubic-bezier(..)` as far as they are needed: only the first four parts are
looked at. -/
def parseCubicBezier (inner : Text) : Result Curve :=
  match (split ',' inner).map fun part => parse (trim part) with
  | some x1 :: some y1 :: some x2 :: some y2 :: _ => .ok (.cubicBezier x1 y1 x2 y2)
  | _ => .error .cubicBezierNumbers

/-- What is inside of `cubic-bezier(..)`. -/
def cubicBezierInner (name : Text) : Option Text :=
  if "cubic-bezier(".toList.isPrefixOf name ∧ name.getLast? = some ')' then
    some ((name.drop "cubic-bezier(".toList.length).dropLast)
  else none

def curveNames : List (String × Curve) :=
  [("linear", .linear), ("ease-out-quad", .easeOutQuad), ("ease_out_quad", .easeOutQuad),
    ("ease-out-cubic", .easeOutCubic), ("ease_out_cubic", .easeOutCubic),
    ("ease-out-expo", .easeOutExpo), ("ease_out_expo", .easeOutExpo)]

def parseCurve (value : Text) : Result Curve :=
  let trimmed := trim (toAsciiLowercase value)
  match curveNames.find? fun p => p.1.toList = trimmed with
  | some p => .ok p.2
  | none =>
    match cubicBezierInner trimmed with
    | some inner => parseCubicBezier inner
    | none => .error (.unknownCurve value)

def parseOnOff (value : Text) (name : String) : Result Bool :=
  let lower := toAsciiLowercase value
  if lower ∈ ["on", "true", "yes", "1"].map String.toList then .ok true
  else if lower ∈ ["off", "false", "no", "0"].map String.toList then .ok false
  else .error (.notOnOff name value)

/-- `ConfiguredMode::from_str`. -/
def ConfiguredMode.ofText (value : Text) : Except String ConfiguredMode :=
  match splitOnce 'x' value with
  | none => .error "no 'x' separator found"
  | some (width, rest) =>
    let (height, refresh) : Text × Option Text := match splitOnce '@' rest with
      | some (height, refresh) => (height, some refresh)
      | none => (rest, none)
    match parseUnsigned 16 width, parseUnsigned 16 height with
    | .error _, _ => .error "error parsing width"
    | .ok _, .error _ => .error "error parsing height"
    | .ok width, .ok height =>
      match refresh with
      | none => .ok ⟨width, height, none⟩
      | some refresh =>
        match parse refresh with
        | none => .error "error parsing refresh rate"
        | some refresh => .ok ⟨width, height, some refresh⟩

/-- Where the splitter stands. -/
structure Splitter where
  out : List Text
  cur : Text
  inQuote : Bool
  hadToken : Bool
  deriving DecidableEq, Repr

/-- The characters from some point on, `\` being followed by another one inside of quotes. -/
def Splitter.run (self : Splitter) : Text → Option Splitter
  | [] => some self
  | c :: text =>
    if c = '\\' ∧ self.inQuote then
      match text with
      | [] => none
      | next :: text => { self with cur := self.cur ++ [next] }.run text
    else if c = '"' then { self with inQuote := !self.inQuote, hadToken := true }.run text
    else if (c = ' ' ∨ c = '\t') ∧ ¬self.inQuote then
      if self.hadToken then
        { self with out := self.out ++ [self.cur], cur := [], hadToken := false }.run text
      else self.run text
    else { self with cur := self.cur ++ [c], hadToken := true }.run text

/-- The words of a command; `"..."` is one, with `\` escapes inside. -/
def shellSplit (text : Text) : Option (List Text) :=
  match Splitter.run ⟨[], [], false, false⟩ text with
  | none => none
  | some splitter =>
    if splitter.inQuote then none
    else if splitter.hadToken then some (splitter.out ++ [splitter.cur])
    else some splitter.out

def parseCommand (text : Text) : Result (List Text) :=
  match shellSplit text with
  | none => .error .malformedQuoting
  | some argv => if argv = [] then .error .emptyCommand else .ok argv

/-! ### Binds -/

def parseModifier (token : Text) (modifiers : Modifiers) : Result Modifiers :=
  let upper := toAsciiUppercase token
  if upper ∈ ["CTRL", "CONTROL"].map String.toList then .ok { modifiers with ctrl := true }
  else if upper ∈ ["ALT", "MOD1"].map String.toList then .ok { modifiers with alt := true }
  else if upper = "SHIFT".toList then .ok { modifiers with shift := true }
  else if upper ∈ ["SUPER", "META", "MOD", "WIN"].map String.toList then
    .ok { modifiers with super := true }
  else .error (.unknownModifier upper)

def parseModifiers (text : Text) : Result Modifiers :=
  let tokens := ((split '+' text).map trim).filter (· ≠ [])
  tokens.foldlM (fun modifiers token => parseModifier token modifiers) ⟨false, false, false, false⟩

def parseTrigger (library : Library C) (key : Text) : Result ℕ :=
  let keysym := library.keysymFromName key
  if keysym = noSymbol then .error (.unknownKey key) else .ok keysym

def parseDirection (action : String) (rest : Text) (left right up down : Action) :
    Result Action :=
  if rest = "left".toList then .ok left
  else if rest = "right".toList then .ok right
  else if rest = "up".toList then .ok up
  else if rest = "down".toList then .ok down
  else .error (.direction action rest)

def parseAction (name rest : Text) : Result Action :=
  if name = "exec".toList then do
    let argv ← parseCommand rest
    .ok (.spawn argv)
  else if name = "focus_dir".toList then
    parseDirection "focus_dir" rest .focusColumnLeft .focusColumnRight .focusWindowUp
      .focusWindowDown
  else if name = "move_dir".toList then
    parseDirection "move_dir" rest .moveColumnLeft .moveColumnRight .moveWindowUp .moveWindowDown
  else if name = "toggle_zoom".toList then .ok .maximizeWindowToEdges
  else if name = "toggle_fullscreen".toList then .ok .fullscreenWindow
  else if name = "close_window".toList then .ok .closeWindow
  else if name = "workspace".toList then do
    let index ← parseInt 8 rest "workspace index"
    .ok (.focusWorkspace index)
  else if name = "move_to_workspace".toList then do
    let index ← parseInt 8 rest "move_to_workspace index"
    .ok (.moveWindowToWorkspace index false)
  else if name = "resize_mode".toList then .ok .enterResizeMode
  else .error (.unknownAction name)

def parseBindParts (library : Library C) (mods key actionName rest : Text) : Result Bind := do
  let modifiers ← parseModifiers mods
  let keysym ← parseTrigger library key
  let action ← parseAction actionName rest
  .ok ⟨⟨keysym, modifiers⟩, action⟩

/-- `bind = MODS, KEY, ACTION[, ARGS]`. -/
def parseBind (library : Library C) (value : Text) : Result Bind :=
  match (splitn ',' 3 value).map trim with
  | [mods, key, actionName] => parseBindParts library mods key actionName []
  | [mods, key, actionName, rest] => parseBindParts library mods key actionName (trim rest)
  | _ => .error (.bindParts value)

/-! ### Settings -/

inductive Setting
  | remap
  | gapsIn
  | gapsOut
  | borderWidth
  | borderColor
  | mode
  | keyboardRepeatRate
  | keyboardRepeatDelay
  | execOnce
  | bind
  | cornerRadius
  | inactiveAlpha
  | inactiveBlur
  | wallpaperDaemon
  | inactiveBlurPasses
  | inactiveBlurRadius
  | tileMovement
  | tileMovementDampingRatio
  | tileMovementStiffness
  | tileMovementEpsilon
  | tileMovementDurationMs
  | tileMovementCurve
  | windowOpen
  | windowOpenDurationMs
  | windowOpenCurve
  | windowClose
  | windowCloseDurationMs
  | windowCloseCurve
  | idleTimeout
  deriving DecidableEq, Repr

def settings : List (String × Setting) :=
  [("remap", .remap), ("gaps_in", .gapsIn), ("gaps_out", .gapsOut),
    ("border_width", .borderWidth), ("border_color", .borderColor), ("mode", .mode),
    ("keyboard_repeat_rate", .keyboardRepeatRate), ("keyboard_repeat_delay", .keyboardRepeatDelay),
    ("exec-once", .execOnce), ("bind", .bind), ("corner_radius", .cornerRadius),
    ("inactive_alpha", .inactiveAlpha), ("inactive_blur", .inactiveBlur),
    ("wallpaper_daemon", .wallpaperDaemon), ("inactive_blur_passes", .inactiveBlurPasses),
    ("inactive_blur_radius", .inactiveBlurRadius), ("tile_movement", .tileMovement),
    ("tile_movement_damping_ratio", .tileMovementDampingRatio),
    ("tile_movement_stiffness", .tileMovementStiffness),
    ("tile_movement_epsilon", .tileMovementEpsilon),
    ("tile_movement_duration_ms", .tileMovementDurationMs),
    ("tile_movement_curve", .tileMovementCurve), ("window_open", .windowOpen),
    ("window_open_duration_ms", .windowOpenDurationMs), ("window_open_curve", .windowOpenCurve),
    ("window_close", .windowClose), ("window_close_duration_ms", .windowCloseDurationMs),
    ("window_close_curve", .windowCloseCurve), ("idle_timeout", .idleTimeout)]

/-- The setting of a key, if it is known. -/
def Setting.ofKey (key : Text) : Option Setting :=
  (settings.find? fun p => p.1.toList = key).map Prod.snd

def Animation.setSpring (self : Animation) (f : SpringParams → SpringParams) : Animation :=
  let params := match self.kind with
    | .spring params => params
    | .easing _ => ⟨literal 1, 600, literal (1 / 10000)⟩
  { self with kind := .spring (f params) }

def Animation.setEasing (self : Animation) (f : EasingParams → EasingParams) : Animation :=
  let params := match self.kind with
    | .easing params => params
    | .spring _ => ⟨150, .easeOutQuad⟩
  { self with kind := .easing (f params) }

def Config.setTileMovement (self : Config C) (f : Animation → Animation) : Config C :=
  { self with animations.tileMovement := f self.animations.tileMovement }

def Config.setWindowOpen (self : Config C) (f : Animation → Animation) : Config C :=
  { self with animations.windowOpen := f self.animations.windowOpen }

def Config.setWindowClose (self : Config C) (f : Animation → Animation) : Config C :=
  { self with animations.windowClose := f self.animations.windowClose }

/-- `remap = FROM, TO`; only one of them is an option of xkb, the others are ignored. -/
def applyRemap (config : Config C) (value : Text) : Result (Config C) :=
  match (split ',' value).map trim with
  | [source, target] =>
    if toAsciiLowercase source = "capslock".toList ∧ toAsciiLowercase target = "escape".toList then
      let options := config.keyboard.options.getD []
      let merged := if options = [] then "caps:escape".toList
        else options ++ ",caps:escape".toList
      .ok { config with keyboard.options := some merged }
    else .ok config
  | _ :: _ :: _ :: _ => .error .remapTooManyParts
  | _ => .error (.remapParts value)

def color (library : Library C) (value : Text) : Result C :=
  let text := if value.head? = some '#' then value else '#' :: value
  match library.parseColor text with
  | some color => .ok color
  | none => .error (.invalidColor value)

def apply (library : Library C) (config : Config C) (value : Text) :
    Setting → Result (Config C)
  | .remap => applyRemap config value
  | .gapsIn => do
    let gaps ← parseF64 value "gaps_in"
    .ok { config with layout.gaps := gaps }
  | .gapsOut => .ok config
  | .borderWidth => do
    let width ← parseF64 value "border_width"
    .ok { config with
      layout.focusRing := ⟨width = .finite 0, width, config.layout.focusRing.activeColor⟩ }
  | .borderColor => do
    let color ← color library value
    .ok { config with
      layout.focusRing := ⟨config.layout.focusRing.off, config.layout.focusRing.width, color⟩ }
  | .mode =>
    match ConfiguredMode.ofText value with
    | .ok mode => .ok { config with outputs := config.outputs ++ [⟨primaryOutputName, mode⟩] }
    | .error error => .error (.invalidMode value error)
  | .keyboardRepeatRate => do
    let rate ← parseInt 8 value "keyboard_repeat_rate"
    .ok { config with keyboard.repeatRate := rate }
  | .keyboardRepeatDelay => do
    let delay ← parseInt 16 value "keyboard_repeat_delay"
    .ok { config with keyboard.repeatDelay := delay }
  | .execOnce => do
    let argv ← parseCommand value
    .ok { config with spawnAtStartup := config.spawnAtStartup ++ [argv] }
  | .bind => do
    let bind ← parseBind library value
    .ok { config with binds := config.binds ++ [bind] }
  | .cornerRadius => do
    let number ← parseF64 value "corner_radius"
    let radius := binary32.convert number
    if ¬radius.isFinite ∨ radius.lt (.finite 0) then
      .error (.outOfRange "corner_radius" value "a non-negative number")
    else .ok { config with windowRules := ⟨radius, true⟩ :: config.windowRules }
  | .inactiveAlpha => do
    let number ← parseF64 value "inactive_alpha"
    let alpha := binary32.convert number
    if ¬alpha.isFinite ∨ ¬Value.inRange (.finite 0) (.finite 1) alpha then
      .error (.outOfRange "inactive_alpha" value "in [0.0, 1.0]")
    else .ok { config with inactiveAlpha := some alpha }
  | .inactiveBlur => do
    let on ← parseOnOff value "inactive_blur"
    .ok { config with inactiveBlur := on }
  | .wallpaperDaemon => do
    let on ← parseOnOff value "wallpaper_daemon"
    .ok { config with wallpaperDaemon := on }
  | .inactiveBlurPasses => do
    let passes ← parseInt 8 value "inactive_blur_passes"
    .ok { config with blur.passes := passes }
  | .inactiveBlurRadius => do
    let radius ← parseF64 value "inactive_blur_radius"
    if ¬radius.isFinite ∨ radius.lt (.finite 0) then
      .error (.outOfRange "inactive_blur_radius" value "a non-negative number")
    else .ok { config with blur.offset := radius }
  | .tileMovement => do
    let enabled ← parseOnOff value "tile_movement"
    .ok (config.setTileMovement fun a => { a with off := !enabled })
  | .tileMovementDampingRatio => do
    let ratio ← parseF64 value "tile_movement_damping_ratio"
    if ¬Value.inRange (literal (1 / 10)) (literal 10) ratio then
      .error (.outOfRange "tile_movement_damping_ratio" value "between 0.1 and 10")
    else .ok (config.setTileMovement fun a => a.setSpring fun p => { p with dampingRatio := ratio })
  | .tileMovementStiffness => do
    let stiffness ← parseInt 32 value "tile_movement_stiffness"
    if stiffness = 0 then .error (.outOfRange "tile_movement_stiffness" value ">= 1")
    else .ok (config.setTileMovement fun a => a.setSpring fun p => { p with stiffness })
  | .tileMovementEpsilon => do
    let epsilon ← parseF64 value "tile_movement_epsilon"
    if ¬Value.inRange (literal (1 / 100000)) (literal (1 / 10)) epsilon then
      .error (.outOfRange "tile_movement_epsilon" value "between 0.00001 and 0.1")
    else .ok (config.setTileMovement fun a => a.setSpring fun p => { p with epsilon })
  | .tileMovementDurationMs => do
    let durationMs ← parseInt 32 value "tile_movement_duration_ms"
    .ok (config.setTileMovement fun a => a.setEasing fun p => { p with durationMs })
  | .tileMovementCurve => do
    let curve ← parseCurve value
    .ok (config.setTileMovement fun a => a.setEasing fun p => { p with curve })
  | .windowOpen => do
    let enabled ← parseOnOff value "window_open"
    .ok (config.setWindowOpen fun a => { a with off := !enabled })
  | .windowOpenDurationMs => do
    let durationMs ← parseInt 32 value "window_open_duration_ms"
    .ok (config.setWindowOpen fun a => a.setEasing fun p => { p with durationMs })
  | .windowOpenCurve => do
    let curve ← parseCurve value
    .ok (config.setWindowOpen fun a => a.setEasing fun p => { p with curve })
  | .windowClose => do
    let enabled ← parseOnOff value "window_close"
    .ok (config.setWindowClose fun a => { a with off := !enabled })
  | .windowCloseDurationMs => do
    let durationMs ← parseInt 32 value "window_close_duration_ms"
    .ok (config.setWindowClose fun a => a.setEasing fun p => { p with durationMs })
  | .windowCloseCurve => do
    let curve ← parseCurve value
    .ok (config.setWindowClose fun a => a.setEasing fun p => { p with curve })
  | .idleTimeout => .ok config

/-- A setting with an unknown key is ignored. -/
def applySetting (library : Library C) (config : Config C) (key value : Text) :
    Result (Config C) :=
  match Setting.ofKey key with
  | none => .ok config
  | some setting => apply library config value setting

/-! ### Texts -/

/-- An error with the number of its line. -/
inductive Error
  | expectedKeyValue (lineno : ℕ) (rawLine : Text)
  | failedToApply (lineno : ℕ) (key : Text) (error : SettingError)
  deriving DecidableEq, Repr

/-- A line without its comment and the blanks around it. -/
def stripLine (rawLine : Text) : Text := trim (rawLine.takeWhile (· ≠ '#'))

/-- The key and the value of a line. -/
def keyValue (line : Text) : Option (Text × Text) :=
  (splitOnce '=' line).map fun p => (trim p.1, trim p.2)

def parseLine (library : Library C) (config : Config C) (lineno : ℕ) (rawLine : Text) :
    Except Error (Config C) :=
  let line := stripLine rawLine
  if line = [] then .ok config
  else
    match keyValue line with
    | none => .error (.expectedKeyValue lineno rawLine)
    | some (key, value) =>
      match applySetting library config key value with
      | .ok config => .ok config
      | .error error => .error (.failedToApply lineno key error)

/-- The lines from one on. -/
def parseLines (library : Library C) (config : Config C) (lineno : ℕ) :
    List Text → Except Error (Config C)
  | [] => .ok config
  | rawLine :: rawLines => do
    let config ← parseLine library config lineno rawLine
    parseLines library config (lineno + 1) rawLines

def parseSol (library : Library C) (text : Text) : Except Error (Config C) :=
  parseLines library (.initial library) 1 (lines text)

end Sol.SolConf
