/-
# `FullTextSearch.Settings.EnvFile` — files of environment variables.

A file holds one binding a line, `NAME=value`, optionally after `export`.  Blank lines and comments
are skipped, and so is a byte order mark in front.  A value is the rest of its line up to a comment,
or stands between single or double quotes, where it may hold escapes and line ends.  A line that is
none of these binds nothing.  All three kinds of line ends are one.  References in a value are then
replaced, each by what its name means at that point of the file.

The reader takes one binding after another; each takes at least one code point, so the length of the
file bounds their number.  What it reads makes `loader`, the loader of files that programs run with.
-/
import FullTextSearch.Entries
import FullTextSearch.Settings
import FullTextSearch.Settings.Reference

namespace FullTextSearch.EnvFile

/-- A name and its value; a name without an equals sign has none. -/
abbrev Binding := Text × Option Text

/-! ## Lines -/

/-- The text without the byte order mark in front, if it has one. -/
def dropMark : Text → Text
  | '\uFEFF' :: rest => rest
  | t => t

/-- The text with every line end written as one line feed. -/
def unifyLines : Text → Text
  | [] => []
  | '\r' :: '\n' :: rest => '\n' :: unifyLines rest
  | '\r' :: rest => '\n' :: unifyLines rest
  | c :: rest => c :: unifyLines rest

/-- A blank that does not end a line. -/
def isSpace (c : Char) : Bool := isBlank c && c != '\n'

/-- The text after the spaces at its start. -/
def skipSpaces (t : Text) : Text := t.dropWhile isSpace

/-- The text after the current line. -/
def skipLine (t : Text) : Text := (t.dropWhile (· != '\n')).drop 1

/-- The text after a comment, if any, and the end of the line; `none` where more stands on the line.
-/
def lineEnd? (t : Text) : Option Text :=
  let rest := skipSpaces t
  let rest := match rest with
    | '#' :: _ => rest.dropWhile (· != '\n')
    | _ => rest
  match rest with
  | [] => some []
  | '\n' :: rest => some rest
  | _ => none

/-! ## Values -/

/-- What stands before the closing quote, and what follows it.  A backslash takes the code point
after it along, so a quote behind one does not close. -/
def upToQuote? (quote : Char) : Text → Option (Text × Text)
  | [] => none
  | '\\' :: c :: rest =>
    (upToQuote? quote rest).map fun (value, after) => ('\\' :: c :: value, after)
  | c :: rest =>
    if c = quote then some ([], rest)
    else (upToQuote? quote rest).map fun (value, after) => (c :: value, after)

/-- The code point of an escape between double quotes. -/
def doubleEscape? : Char → Option Char
  | '\\' => some '\\'
  | '\'' => some '\''
  | '"' => some '"'
  | 'a' => some (Char.ofNat 7)
  | 'b' => some (Char.ofNat 8)
  | 'f' => some (Char.ofNat 12)
  | 'n' => some '\n'
  | 'r' => some '\r'
  | 't' => some '\t'
  | 'v' => some (Char.ofNat 11)
  | _ => none

/-- The code point of an escape between single quotes. -/
def singleEscape? : Char → Option Char
  | '\\' => some '\\'
  | '\'' => some '\''
  | _ => none

/-- The text with its escapes replaced; a backslash before anything else stays. -/
def unescape (escape? : Char → Option Char) : Text → Text
  | [] => []
  | [c] => [c]
  | c :: d :: rest =>
    if c = '\\' then
      match escape? d with
      | some e => e :: unescape escape? rest
      | none => c :: unescape escape? (d :: rest)
    else c :: unescape escape? (d :: rest)

/-- Blanks, if any, and then the sign of a comment. -/
def startsComment (t : Text) : Bool := (t.dropWhile isBlank).head? == some '#'

/-- The text before its first comment: a `#` after a blank. -/
def beforeComment : Text → Text
  | [] => []
  | c :: rest => if isBlank c && startsComment rest then [] else c :: beforeComment rest

/-- A value, and what follows it, from the text after the equals sign.  The blanks there count as
standing before a comment, so that a comment alone is an empty value. -/
def readValue? (t : Text) : Option (Text × Text) :=
  match skipSpaces t with
  | '\'' :: rest =>
    (upToQuote? '\'' rest).map fun (value, after) => (unescape singleEscape? value, after)
  | '"' :: rest =>
    (upToQuote? '"' rest).map fun (value, after) => (unescape doubleEscape? value, after)
  | _ =>
    some (Text.trim (beforeComment (t.takeWhile (· != '\n'))), t.dropWhile (· != '\n'))

/-! ## Bindings -/

/-- The text after the word `export` and the spaces behind it, where it stands. -/
def skipExport (t : Text) : Text :=
  let word := "export".toList
  if word.isPrefixOf t ∧ ((t.drop word.length).head?.any isSpace) then
    skipSpaces (t.drop word.length)
  else t

/-- A name, plain or between single quotes, and what follows it; a comment has the empty name. -/
def readName? : Text → Option (Text × Text)
  | '#' :: rest => some ([], '#' :: rest)
  | '\'' :: rest =>
    let name := rest.takeWhile (· != '\'')
    match rest.dropWhile (· != '\'') with
    | _ :: after => if name = [] then none else some (name, after)
    | [] => none
  | t =>
    let part := fun c => !isBlank c && c != '=' && c != '#'
    let name := t.takeWhile part
    if name = [] then none else some (name, t.dropWhile part)

/-- A binding whose line has to end here, and what follows the line. -/
def closeLine (binding : Binding) (t : Text) : Option Binding × Text :=
  match lineEnd? t with
  | some rest => (some binding, rest)
  | none => (none, skipLine t)

/-- The binding at the start of a text, if there is one, and what follows its line.  Where reading
stops, the rest of that line is passed over. -/
def readBinding (t : Text) : Option Binding × Text :=
  let t := skipExport t
  match readName? t with
  | none => (none, skipLine t)
  | some (name, rest) =>
    match skipSpaces rest with
    | '=' :: rest =>
      match readValue? rest with
      | some (value, after) => closeLine (name, some value) after
      | none => (none, skipLine rest)
    | rest => closeLine (name, none) rest

/-- The bindings of a text of unified lines. -/
def readBindings : (fuel : Nat) → Text → List Binding
  | 0, _ => []
  | fuel + 1, t =>
    match Text.trimStart t with
    | [] => []
    | t =>
      let (binding, rest) := readBinding t
      binding.toList ++ readBindings fuel rest

/-- The bindings of a file, in order. -/
def bindings (file : Text) : List Binding :=
  let text := unifyLines (dropMark file)
  (readBindings (text.length + 1) text).filter fun (name, _) => !name.isEmpty

/-! ## Variables -/

/-- What a name means while a file is read: what the process has under it, or else what the file has
bound to it so far.  A name bound without a value means the empty text. -/
def meaning? (process : Text → Option Text) (known : List Binding) (name : Text) : Option Text :=
  (process name).or ((Entries.get? (· == ·) name known).map (·.getD []))

/-- The names that a file binds, in the order in which they first stand there, each with the value
of its last binding. -/
def assignments (process : Text → Option Text) (file : Text) : List Binding :=
  (bindings file).foldl (fun known (name, value) =>
    Entries.put (· == ·) name (value.map (expand (meaning? process known))) known) []

/-! ## Loading -/

/-- A NUL ends the text of a variable where processes keep it, and an equals sign its name, so that
neither can stand there. -/
def checkVariable (name value : Text) : Except Fault Unit :=
  if '\x00' ∈ name ∨ '\x00' ∈ value then .error .variableNul
  else if '=' ∈ name then .error .variableName
  else .ok ()

/-- The variables of a file that an environment lacks. -/
def newVariables (env : Environment) (file : Text) : Environment :=
  (assignments (env.lookup ·) file).filterMap fun (name, value) =>
    if (env.lookup name).isSome then none else value.map fun v => (name, v)

/-- The environment with the variables of a file that it lacks. -/
def load (env : Environment) (file : Text) : Except Fault Environment := do
  let new := newVariables env file
  new.forM fun (name, value) => checkVariable name value
  return env ++ new

/-- What an environment has, it keeps when the variables of a file join it. -/
theorem lookup_load {env full : Environment} {file name value : Text}
    (hload : load env file = .ok full) (h : env.lookup name = some value) :
    full.lookup name = some value := by
  unfold load at hload
  cases hcheck : (newVariables env file).forM fun (name, value) => checkVariable name value with
  | error e => simp [hcheck, bind, Except.bind] at hload
  | ok u =>
    simp only [hcheck, bind, Except.bind, pure, Except.pure, Except.ok.injEq] at hload
    rw [← hload, List.lookup_append, h, Option.some_or]

/-- The loader that programs run with. -/
def loader : EnvLoader where
  load := load
  lookup_load := lookup_load

end FullTextSearch.EnvFile
