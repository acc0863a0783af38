/-
# `FullTextSearch.Search.Options` — search options from any value.

Unlike rank options, search options are taken whole or not at all: one field that cannot be used
replaces all of them by the defaults, with one warning.  The rank options among them are read in any
case, and leniently, so their own warnings stand before that one.
-/
import FullTextSearch.Rank.Reading

namespace FullTextSearch.Search

variable (lib : Validation)

/-! ## Fields -/

/-- The order: what the validation takes a value for, and nothing where there is none. -/
def readOrder? : Option Value → Option OrderChoice
  | none | some .null => some .unset
  | some v => lib.order? v

/-- The headline: what the validation takes a value for, and none where nothing is given. -/
def readHeadline? : Option Value → Option HeadlineChoice
  | none => some (.flag false)
  | some v => lib.headline? v

/-- The options of the headline: a mapping whose keys are texts, or nothing. -/
def readHeadlineOptions? : Option Value → Option (Option (List (Text × Value)))
  | none | some .null => some none
  | some v => (lib.named? v).map some

/-- The configuration: a text or nothing. -/
def readConfiguration? : Option Value → Option (Option Text)
  | none | some .null => some none
  | some v => (lib.text? v).map some

/-! ## Options -/

/-- The options that a mapping gives once its rank options are read; `none` where a field cannot be
used. -/
def withRank? (rank : RankOptions) (entries : List (Value × Value)) : Option SearchOptions := do
  let order ← readOrder? lib (Value.field? "order".toList entries)
  let withHeadline ← readHeadline? lib (Value.field? "with_headline".toList entries)
  let headlineOptions ← readHeadlineOptions? lib (Value.field? "headline_options".toList entries)
  let withConfiguration ←
    readConfiguration? lib (Value.field? "with_configuration".toList entries)
  return { order, rank, withHeadline, headlineOptions, withConfiguration }

/-- The options that a mapping gives. -/
def ofEntries (entries : List (Value × Value)) : Outcome SearchOptions := do
  let rank ← Rank.ofValue lib ((Value.field? "rank".toList entries).getD .null)
  match withRank? lib rank entries with
  | some options => pure options
  | none => .instead .default .invalidSearchOptions

/-- The options that any value gives. -/
def ofValue : Value → Outcome SearchOptions
  | .null => pure .default
  | .searchOptions o => pure o
  | .mapping entries => ofEntries lib entries
  | _ => .instead .default .unsupportedSearchOptions

end FullTextSearch.Search
