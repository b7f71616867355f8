import MatrixFree.Krylov.Convergence
import MatrixFree.Options.Database
import MatrixFree.Options.Solver
import MatrixFree.Text.Number
import MatrixFree.Text.Numeral

/-!
# Settings of a solve

`Settings` is what a solve is configured by, and `Setting` is one entry that an option database may
have for it: a name, and how a value is read. `Settings.apply` goes through the eight settings in a
fixed order and stops at the first value that cannot be read; what was read before stays. All keys are
looked up behind a scope, so that one database serves several solvers.
-/

namespace MatrixFree.Options

open Text

/-- What a solve is configured by. -/
structure Settings where
  solver : Solver
  /-- Wanted share of the initial residual. -/
  relative : Float
  /-- Residual that is small enough. -/
  absolute : Float
  /-- Growth of the residual that counts as divergence. -/
  growth : Float
  /-- Iterations allowed. -/
  limit : Nat
  /-- Length of the basis in a cycle of minimal residuals. -/
  restart : Nat
  /-- Start from the vector that is given and not from zero. -/
  keepGuess : Bool
  /-- Log the residual of each iteration. -/
  monitor : Bool

/-- The settings without any option. -/
def Settings.default : Settings where
  solver := .minimalResidual
  relative := 1e-5
  absolute := 1e-50
  growth := 1e5
  limit := 10000
  restart := 30
  keepGuess := false
  monitor := false

/-- One setting: the key that names it behind the scope, and the settings with its value, given
as text or as a bare flag, if that can be read. -/
structure Setting where
  key : String
  read : Option String → Settings → Option Settings

namespace Setting

/-- A setting that needs a value. -/
def valued (key : String) {β : Type} (parse : String → Option β) (put : Settings → β → Settings) :
    Setting where
  key := key
  read raw s := do return put s (← parse (← raw))

/-- The words for yes and no. -/
def flag? (s : String) : Option Bool :=
  if s ∈ ["1", "true", "yes", "on"] then some true
  else if s ∈ ["0", "false", "no", "off"] then some false
  else none

/-- A setting that is switched on by its mere presence. -/
def flag (key : String) (put : Settings → Bool → Settings) : Setting where
  key := key
  read raw s := match raw with
    | none => some (put s true)
    | some word => (flag? word).map (put s)

/-- The eight settings, in the order in which they are looked up. -/
def all : List Setting :=
  [valued "ksp_type" (fun s => (Solver.ofWord s).toOption) fun s v => { s with solver := v },
    valued "ksp_rtol" Numeral.real? fun s v => { s with relative := v },
    valued "ksp_atol" Numeral.real? fun s v => { s with absolute := v },
    valued "ksp_divtol" Numeral.real? fun s v => { s with growth := v },
    valued "ksp_max_it" Numeral.natural? fun s v => { s with limit := v },
    valued "ksp_gmres_restart" Numeral.natural? fun s v => { s with restart := v },
    flag "ksp_initial_guess_nonzero" fun s v => { s with keepGuess := v },
    flag "ksp_monitor" fun s v => { s with monitor := v }]

end Setting

namespace Settings

/-- The tolerances are numbers that a residual can be compared with. -/
def tolerable (s : Settings) : Bool :=
  Scalar.le 0 s.relative && Scalar.le 0 s.absolute && Scalar.lt 0 s.growth

/-- Refuse settings with which no solve can be started. -/
def validate (s : Settings) : Except EngineError Unit :=
  if !s.tolerable then
    .error (.invalidArgument ("tolerances must be non-negative (rtol " ++ Number.plain s.relative
      ++ ", atol " ++ Number.plain s.absolute ++ ", divtol " ++ Number.plain s.growth ++ ")"))
  else if s.restart = 0 then .error (.invalidArgument "GMRES restart must be at least 1")
  else .ok ()

/-- Read the given settings one after the other, up to the first that cannot be read. -/
def readAll (db : Database) (scope : String) : List Setting → Settings →
    Except EngineError Unit × Settings
  | [], s => (.ok (), s)
  | setting :: rest, s =>
    match db.get? (scope ++ setting.key) with
    | none => readAll db scope rest s
    | some raw =>
      match setting.read raw s with
      | none => (.error (.badOption (scope ++ setting.key) (raw.getD "")), s)
      | some s => readAll db scope rest s

/-- Overwrite the settings that the database has under a scope, then validate. The answer holds the
settings afterwards, also after an error. -/
def apply (s : Settings) (db : Database) (scope : String) : Except EngineError Unit × Settings :=
  match readAll db scope Setting.all s with
  | (.ok (), s) => (s.validate, s)
  | refused => refused

/-- When a solve with these settings stops. -/
def criteria (s : Settings) : Krylov.Criteria Float :=
  ⟨s.relative, s.absolute, s.growth, s.limit⟩

/-- Equality of settings, in which the tolerances are compared as numbers. -/
def same (s t : Settings) : Bool :=
  s.solver = t.solver && s.relative == t.relative && s.absolute == t.absolute
    && s.growth == t.growth && s.limit = t.limit && s.restart = t.restart
    && s.keepGuess = t.keepGuess && s.monitor = t.monitor

/-- The settings with all they hold, as a structured text. -/
def detail (s : Settings) : String :=
  record "KspOptions"
    [("kind", s.solver.name), ("rtol", Number.entry s.relative), ("atol", Number.entry s.absolute),
      ("divtol", Number.entry s.growth), ("max_it", toString s.limit),
      ("restart", toString s.restart), ("initial_guess_nonzero", toString s.keepGuess),
      ("monitor", toString s.monitor)]

end Settings

end MatrixFree.Options
