/-
# `FullTextSearch.Settings` — what a search falls back to, and where that comes from.

Builders take their settings from the caller and never read the environment themselves.  Settings may
come from environment variables: unset and empty ones keep the built-in settings.  A file of variables
is loaded only on request.  Whatever loads it is an `EnvLoader`, of which one thing is relied on: it
overrides no variable that is set, not even an empty one (`lookup_loadOnRequest`).
-/
import FullTextSearch.Number.Reading
import FullTextSearch.Outcome

namespace FullTextSearch

/-- The fallbacks of a search. -/
structure Settings where
  /-- The `ORDER BY` clauses where no order is asked for, and in place of a rank clause where there
  is no query to rank by. -/
  defaultOrder : List Text := ["updated_at DESC".toList]
  /-- The vector that a rank clause scores. -/
  defaultTsv : Text := "tsv".toList
  /-- The normalization of ranks; 16 divides a rank by one plus the logarithm of the number of
  unique words, which favours short documents. -/
  defaultNormalization : Int := 16
  /-- The name of a headline in the select list. -/
  headlineName : Text := "headline".toList
  /-- The text search configuration of the match predicate. -/
  textSearchConfig : Option Text := none
deriving DecidableEq, Repr

/-! ## Environments -/

/-- The variables of a process. -/
abbrev Environment := List (Text × Text)

/-- A loader of files of variables. -/
structure EnvLoader where
  /-- The environment behind loading the text of a file. -/
  load : Environment → Text → Except Fault Environment
  /-- A variable that is set keeps its value. -/
  lookup_load : ∀ {env full : Environment} {file name value : Text}, load env file = .ok full →
    env.lookup name = some value → full.lookup name = some value

namespace Environment

/-- The variable that asks for the file of variables. -/
def fileSwitch : Text := "TEXT_QUERY_LOAD_DOTENV".toList

/-- The value of a variable. -/
def get? (env : Environment) (name : String) : Option Text := env.lookup name.toList

/-- The environment with the variables of a file, if there is one and the environment asks for it.
-/
def loadOnRequest (loader : EnvLoader) (env : Environment) (file : Option Text) :
    Except Fault Environment :=
  match file with
  | some f => if env.lookup fileSwitch = some ['1'] then loader.load env f else .ok env
  | none => .ok env

/-! ## Settings in variables -/

/-- The `ORDER BY` clauses in a variable: its text without the blanks at its ends, cut at the commas
and the blanks after them, without empty pieces. -/
def orderClauses (list : Text) : List Text :=
  (Text.commaList list.trim).filter fun clause => !clause.isEmpty

/-- The integer in a variable; a text that is none keeps the default, with a warning. -/
def integer (value : Option Text) (default : Int) : Outcome Int :=
  match value with
  | none => pure default
  | some t =>
    if t.isAllBlank then pure default
    else
      match Numeral.read t with
      | .ok n => pure n
      | .error _ => .instead default .settingNotInteger

/-- The settings in the variables of an environment. -/
def settings (env : Environment) : Outcome Settings := do
  let base : Settings := {}
  let text := fun name => Text.given? (env.get? name)
  let order := orderClauses ((text "TEXT_QUERY_DEFAULT_ORDER").getD [])
  let normalization ← integer (env.get? "TEXT_QUERY_NORMALIZATION") base.defaultNormalization
  return {
    defaultOrder := if order = [] then base.defaultOrder else order
    defaultTsv := (text "TEXT_QUERY_TSV").getD base.defaultTsv
    defaultNormalization := normalization
    headlineName := (text "TEXT_QUERY_HEADLINE_ATTR").getD base.headlineName
    textSearchConfig := text "TEXT_QUERY_CONFIG" }

/-- The settings of an environment and, where it asks for one, a file of variables. -/
def loadSettings (loader : EnvLoader) (env : Environment) (file : Option Text) :
    Outcome Settings := do
  let full ← env.loadOnRequest loader file
  full.settings

/-- The address of the database; without one there is no connection. -/
def databaseAddress (env : Environment) : Except Fault Text :=
  match Text.given? (env.get? "DATABASE_URL") with
  | some address => .ok address
  | none => .error .missingDatabase

/-- **A variable that is set keeps its value**, whether a file is loaded or not. -/
theorem lookup_loadOnRequest {loader : EnvLoader} {env full : Environment} {file : Option Text}
    {name value : Text} (hload : env.loadOnRequest loader file = .ok full)
    (h : env.lookup name = some value) : full.lookup name = some value := by
  unfold loadOnRequest at hload
  split at hload
  · split at hload
    · exact loader.lookup_load hload h
    · cases hload
      exact h
  · cases hload
    exact h

end Environment

end FullTextSearch
