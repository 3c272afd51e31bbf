/-
# LaneDuel.Settings -- what the environment configures

The settings are read from environment variables once.  A variable that is not
set, or does not read as what it stands for, leaves the standard value.
-/
import LaneDuel.Catalog.Bundled
import LaneDuel.Catalog.Load
import LaneDuel.Table.Basic

namespace LaneDuel

set_option autoImplicit false

/-- Environment variables with their values. -/
abbrev Environment := List (String × String)

/-- Set a variable, or unset it. -/
def Environment.set (env : Environment) (key : String) (value : Option String) : Environment :=
  let rest := env.filter (·.1 != key)
  match value with
  | some v => rest ++ [(key, v)]
  | none => rest

structure Settings where
  laneCount : Int
  startHealth : Int
  /-- The file of the effect catalog; the bundled one if none is named. -/
  catalogPath : Option String
  locale : String
  logLevel : String
  logFile : String
  debugMode : Bool
deriving DecidableEq, Repr

namespace Settings

def readIntOr (env : Environment) (key : String) (standard : Int) : Int :=
  ((env.lookup key).bind Text.readInt?).getD standard

def readBoolOr (env : Environment) (key : String) (standard : Bool) : Bool :=
  let value := ((env.lookup key).getD "").toLower
  if ["true", "1", "yes", "on"].contains value then true
  else if ["false", "0", "no", "off"].contains value then false
  else standard

def ofEnvironment (env : Environment) : Settings where
  laneCount := readIntOr env "BATTLER_LANES" standardLanes
  startHealth := readIntOr env "BATTLER_START_HEALTH" standardHealth
  catalogPath := env.lookup "BATTLER_CATALOG"
  locale := (env.lookup "BATTLER_LOCALE").getD "zh_CN"
  logLevel := (env.lookup "BATTLER_LOG_LEVEL").getD "INFO"
  logFile := (env.lookup "BATTLER_LOG_FILE").getD "logs/battler.log"
  debugMode := readBoolOr env "BATTLER_DEBUG" false

/-- The catalog that is used when no other one is given. -/
def catalog (s : Settings) (levels : Nat) (files : Files) : Except Failure Catalog :=
  match s.catalogPath with
  | none => .ok .bundled
  | some path => Catalog.ofFile levels (Text.normalPath path) (files.look (Text.normalPath path))

end Settings

/-- Make a locale the one in use. -/
def Phrasebook.use (b : Phrasebook) (locale : String) : Except Failure Phrasebook :=
  match (Vocabulary.read? locale : Option Locale) with
  | some l => .ok { b with locale := l }
  | none => .error (.unsupportedLocale locale)

end LaneDuel
