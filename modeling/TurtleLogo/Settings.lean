import TurtleLogo.Duration
import TurtleLogo.Log
import TurtleLogo.Turtle
import TurtleLogo.Machine

/-!
# Settings

All that can be configured, in sections. `issues` lists every setting that is out of range, in the
order of the rules.
-/

set_option autoImplicit false

namespace TurtleLogo

namespace Settings

structure Canvas where
  width : Float
  height : Float
  background : Text
  showCursor : Bool

structure Pen where
  color : Text
  width : Float

structure Running where
  stepDelay : Duration
  maxDepth : Int

structure Storage where
  path : Text
  retention : Duration
  purgeInterval : Duration

structure Serving where
  address : Text
  cacheEntries : Int
  maxBodyBytes : Int
  renderTimeout : Duration

structure Logging where
  level : Text
  color : Bool

end Settings

structure Settings where
  canvas : Settings.Canvas
  pen : Settings.Pen
  running : Settings.Running
  storage : Settings.Storage
  serving : Settings.Serving
  logging : Settings.Logging

namespace Settings

def standard : Settings where
  canvas :=
    { width := Turtle.Options.standard.width
      height := Turtle.Options.standard.height
      background := Turtle.Options.standard.background
      showCursor := Turtle.Options.standard.showCursor }
  pen :=
    { color := Turtle.Options.standard.color
      width := Turtle.Options.standard.penWidth }
  running :=
    { stepDelay := 5 * Duration.millisecond
      maxDepth := defaultMaxDepth }
  storage :=
    { path := utf8 "nlogo.db"
      retention := 7 * 24 * Duration.hour
      purgeInterval := Duration.hour }
  serving :=
    { address := utf8 ":8080"
      cacheEntries := 128
      maxBodyBytes := Int.pow 2 20
      renderTimeout := 5 * Duration.second }
  logging :=
    { level := utf8 "info"
      color := true }

inductive Issue where
  | canvasSize (width height : Float)
  | emptyColor
  | penWidth (width : Float)
  | stepDelay (d : Duration)
  | maxDepth (n : Int)
  | emptyPath
  | retention (d : Duration)
  | purgeInterval (d : Duration)
  | cacheEntries (n : Int)
  | maxBodyBytes (n : Int)
  | renderTimeout (d : Duration)
  | logLevel (level : Text)

def Issue.message : Issue → Text
  | .canvasSize width height =>
    utf8 "canvas size must be positive, got " ++ Number.general width ++ utf8 "x"
      ++ Number.general height
  | .emptyColor => utf8 "turtle.color must not be empty"
  | .penWidth width => utf8 "turtle.pen_width must be positive, got " ++ Number.general width
  | .stepDelay d => utf8 "run.step_delay must not be negative, got " ++ d.text
  | .maxDepth n => utf8 "run.max_depth must be at least 1, got " ++ Text.ofInt n
  | .emptyPath => utf8 "store.path must not be empty"
  | .retention d => utf8 "store.retention must not be negative, got " ++ d.text
  | .purgeInterval d => utf8 "store.purge_interval must be positive, got " ++ d.text
  | .cacheEntries n => utf8 "server.cache_entries must not be negative, got " ++ Text.ofInt n
  | .maxBodyBytes n => utf8 "server.max_body_bytes must be positive, got " ++ Text.ofInt n
  | .renderTimeout d => utf8 "server.render_timeout must be positive, got " ++ d.text
  | .logLevel level => utf8 "log.level: " ++ Log.Level.unknownMessage level

def raise (condition : Bool) (issue : Issue) : List Issue :=
  if condition then [issue] else []

def issues (s : Settings) : List Issue :=
  raise (s.canvas.width ≤ 0 || s.canvas.height ≤ 0) (.canvasSize s.canvas.width s.canvas.height)
    ++ raise s.pen.color.isEmpty .emptyColor
    ++ raise (s.pen.width ≤ 0) (.penWidth s.pen.width)
    ++ raise (s.running.stepDelay < 0) (.stepDelay s.running.stepDelay)
    ++ raise (s.running.maxDepth < 1) (.maxDepth s.running.maxDepth)
    ++ raise s.storage.path.isEmpty .emptyPath
    ++ raise (s.storage.retention < 0) (.retention s.storage.retention)
    ++ raise (s.storage.purgeInterval ≤ 0) (.purgeInterval s.storage.purgeInterval)
    ++ raise (s.serving.cacheEntries < 0) (.cacheEntries s.serving.cacheEntries)
    ++ raise (s.serving.maxBodyBytes ≤ 0) (.maxBodyBytes s.serving.maxBodyBytes)
    ++ raise (s.serving.renderTimeout ≤ 0) (.renderTimeout s.serving.renderTimeout)
    ++ raise (Log.Level.named? s.logging.level).isNone (.logLevel s.logging.level)

def issuesMessage (issues : List Text) : Text :=
  if issues.isEmpty then utf8 "config: invalid configuration"
  else utf8 "config validation failed:" ++ issues.flatMap fun issue => utf8 "\n- " ++ issue

def turtleOptions (s : Settings) : Turtle.Options where
  width := s.canvas.width
  height := s.canvas.height
  color := s.pen.color
  penWidth := s.pen.width
  background := s.canvas.background
  showCursor := s.canvas.showCursor

def paced (s : Settings) : Bool :=
  s.running.stepDelay != 0

/-- The logger that the settings ask for; an unknown level counts as `info`. -/
def logger (s : Settings) : Logger where
  threshold := ((Log.Level.named? s.logging.level).getD .info).rank
  path := utf8 "nlogo"
  colored := s.logging.color

end Settings

end TurtleLogo
