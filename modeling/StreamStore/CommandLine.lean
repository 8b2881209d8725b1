import StreamStore.Command
import StreamStore.Text.Pieces

/-!
# Reading the command line

A command line is a list of words: *switches*, each with a value or without, and
one word that names the command.  Which switches there are is data (`Switch`), and
one reader serves the line before the name of the command and the line after it.

The reader goes from left to right and the first thing that decides the outcome
wins: asking for help or for the version, or a misuse.  So a value in the word of
its switch is checked where it stands; a value that is a word of its own is
checked when the next switch of its line comes, or else when the whole line has
been read.  What can be missing is looked for at the end.

* `--name value` and `--name=value` mean the same.  So do `-n value`, `-nvalue`
  and `-n=value`, and a switch without a value may stand before others in one
  word: `-vn value`.
* A word that starts with a dash is no value unless it is the dash alone.
* A switch may be given once, before the command and again after it; then the
  later one counts.  Only a switch that collects values may be repeated.
* The word `--` ends the switches.  No command takes further words, so nothing
  may follow it.
* The word `help` in place of a command asks for help, on one command if its name
  follows; more than that may not follow.
-/

namespace StreamStore

namespace CommandLine

/-- What a switch does. -/
inductive Role where
  /-- It asks for help. -/
  | help
  /-- It asks for the version. -/
  | version
  /-- It is on when it is given. -/
  | flag
  /-- It has a value that passes a check. -/
  | single (accepts : String → Bool)
  /-- It has a value that passes a check, and may be repeated. -/
  | many (accepts : String → Bool)

/-- A switch. -/
structure Switch where
  /-- Its name behind two dashes. -/
  long : String
  /-- Its name behind one dash, if it has one. -/
  short : Option Char
  /-- What it does. -/
  role : Role

/-- Why reading ends before a command is known. -/
inductive Stop where
  /-- Help is asked for. -/
  | help
  /-- The version is asked for, behind the name of a command or without one. -/
  | version (command : Option String)
  /-- The words are not a command line. -/
  | misuse
  deriving DecidableEq, Repr

/-- The switches given so far, by their long names, with their values; that of a
flag is empty. -/
abbrev Given := List (String × String)

/-! ### One word -/

/-- What a part of a word says. -/
inductive Event where
  /-- A switch without a value. -/
  | bare (s : Switch)
  /-- A switch with its value. -/
  | valued (s : Switch) (value : String)
  /-- A switch whose value is the next word. -/
  | expecting (s : Switch)
  /-- No switch, or a value for a switch that has none. -/
  | unknown

/-- Whether a switch has a value. -/
def Switch.hasValue (s : Switch) : Bool :=
  match s.role with
  | .single _ => true
  | .many _ => true
  | _ => false

/-- What a word behind two dashes says. -/
def longEvent (switches : List Switch) (word : List Char) : Event :=
  let (name, value) := match Text.cutOnce '=' word with
    | some (name, value) => (name, some (String.ofList value))
    | none => (word, none)
  match switches.find? fun s => s.long == String.ofList name with
  | none => .unknown
  | some s =>
      match s.hasValue, value with
      | true, some v => .valued s v
      | true, none => .expecting s
      | false, some _ => .unknown
      | false, none => .bare s

/-- What the letters of a word behind one dash say. -/
def shortEvents (switches : List Switch) : List Char → List Event
  | [] => []
  | c :: rest =>
      match switches.find? fun s => s.short == some c with
      | none => [.unknown]
      | some s =>
          if s.hasValue then
            match rest with
            | [] => [.expecting s]
            | '=' :: value => [.valued s (String.ofList value)]
            | value => [.valued s (String.ofList value)]
          else .bare s :: shortEvents switches rest

/-- What a word says, if it is one of switches. -/
def events? (switches : List Switch) (word : String) : Option (List Event) :=
  match word.toList with
  | '-' :: '-' :: rest => some [longEvent switches rest]
  | '-' :: c :: rest => some (shortEvents switches (c :: rest))
  | _ => none

/-- Whether a word can be the value of the switch before it. -/
def isValue (word : String) : Bool :=
  match word.toList with
  | '-' :: _ :: _ => false
  | _ => true

/-! ### The words of one level -/

/-- Adds a switch with its value to those given. -/
def give (given : Given) (s : Switch) (value : String) : Except Stop Given :=
  match s.role with
  | .help => .error .help
  | .version => .error (.version none)
  | .flag => if (given.lookup s.long).isSome then .error .misuse else .ok (given ++ [(s.long, "")])
  | .single accepts =>
      if (given.lookup s.long).isSome || !accepts value then .error .misuse
      else .ok (given ++ [(s.long, value)])
  | .many accepts =>
      if accepts value then .ok (given ++ [(s.long, value)]) else .error .misuse

/-- Adds what a word says, and answers the switch that expects the next word. -/
def takeEvents (given : Given) : List Event → Except Stop (Given × Option Switch)
  | [] => .ok (given, none)
  | .unknown :: _ => .error .misuse
  | .expecting s :: _ => .ok (given, some s)
  | .bare s :: rest => do
      let given ← give given s ""
      takeEvents given rest
  | .valued s value :: rest => do
      let given ← give given s value
      takeEvents given rest

/-- A switch and its value, which was a word of its own and has not been checked. -/
abbrev Pending := Option (Switch × String)

/-- Adds the switch whose value was left to be checked. -/
def settle (given : Given) : Pending → Except Stop Given
  | none => .ok given
  | some (s, value) => give given s value

/-- Reads switches up to a word that is none, and answers that word and what
follows it. -/
def readSwitches (switches : List Switch) :
    Given → Pending → List String → Except Stop (Given × Pending × List String)
  | given, pending, [] => .ok (given, pending, [])
  | given, pending, word :: rest =>
      if word = "--" then
        if rest.isEmpty then .ok (given, pending, []) else .error .misuse
      else
        match events? switches word with
        | none => .ok (given, pending, word :: rest)
        | some events =>
            match settle given pending >>= fun given => takeEvents given events with
            | .error stop => .error stop
            | .ok (given, none) => readSwitches switches given none rest
            | .ok (given, some s) =>
                match rest with
                | [] => .error .misuse
                | value :: rest =>
                    if isValue value then readSwitches switches given (some (s, value)) rest
                    else .error .misuse

/-! ### Values -/

/-- The record type that a word names. -/
def type? (word : String) : Option RecordType :=
  if word = "data" then some .data else if word = "event" then some .event else none

/-- The number that a word is. -/
def number? (word : String) : Option Nat :=
  Text.wordOf word.toList

/-- The column and the value that a word `column=value` names. -/
def assignment? (word : String) : Option (String × String) :=
  match Text.cutOnce '=' word.toList with
  | some (column, value) =>
      let column := Text.trim (String.ofList column)
      if column.isEmpty then none else some (column, String.ofList value)
  | none => none

/-! ### The switches -/

/-- A switch with any value. -/
def anyText (long : String) (short : Option Char) : Switch :=
  ⟨long, short, .single fun _ => true⟩

/-- A switch with a number. -/
def anyNumber (long : String) : Switch :=
  ⟨long, none, .single fun word => (number? word).isSome⟩

/-- The switch that names the base table. -/
def tableSwitch : Switch :=
  anyText "table" (some 't')

/-- The switch that names the record type. -/
def typeSwitch : Switch :=
  ⟨"type", none, .single fun word => (type? word).isSome⟩

/-- The switches that every command has, also before its name. -/
def commonSwitches : List Switch :=
  [⟨"config", some 'c', .single fun word => !word.isEmpty⟩,
    ⟨"verbose", some 'v', .flag⟩,
    ⟨"help", some 'h', .help⟩,
    ⟨"version", some 'V', .version⟩]

/-! ### The commands -/

/-- A command as it is written: its name, its switches, and what it is when they
are given.  It is nothing when one that it needs is missing. -/
structure Form where
  /-- The name. -/
  name : String
  /-- The switches, without the common ones. -/
  switches : List Switch
  /-- The command. -/
  command? : Given → Option Command

/-- Loads one page of a stream's rows. -/
def scanForm : Form where
  name := "scan"
  switches := [tableSwitch, typeSwitch, anyText "stream" (some 's'), anyText "columns" none,
    anyText "query-only" none, anyNumber "from", anyNumber "to", anyText "constraint" none,
    anyText "limit" (some 'l'), anyText "scanner-id" none]
  command? given := do
    let request : LoadRequest := {
      table := ← given.lookup "table"
      type := ← (given.lookup "type").bind type?
      streamId := ← given.lookup "stream"
      columns := ← given.lookup "columns"
      queryOnly := (given.lookup "query-only").getD ""
      oldest := (given.lookup "from").bind number?
      newest := (given.lookup "to").bind number?
      limit := (given.lookup "limit").bind limitOf
      cursor := .ofId (given.lookup "scanner-id") }
    return .onStore (.scan request (given.lookup "constraint"))

/-- Deletes a scanner. -/
def closeForm : Form where
  name := "close"
  switches := [tableSwitch, typeSwitch, anyText "scanner-id" none]
  command? given := do
    return .onStore (.close (← given.lookup "table") (← (given.lookup "type").bind type?)
      (← given.lookup "scanner-id"))

/-- Reads columns of rows. -/
def getForm : Form where
  name := "get"
  switches := [tableSwitch, typeSwitch, anyText "row-key" (some 'r'), anyText "columns" none]
  command? given := do
    return .onStore (.get (← given.lookup "table") (← (given.lookup "type").bind type?)
      (given.lookup "row-key") (← given.lookup "columns"))

/-- Writes columns of one row. -/
def putForm : Form where
  name := "put"
  switches := [tableSwitch, typeSwitch, anyText "row-key" (some 'r'),
    ⟨"value", none, .many fun word => (assignment? word).isSome⟩, anyNumber "timestamp"]
  command? given := do
    let request : PutRequest := {
      type := ← (given.lookup "type").bind type?
      rowKey := ← given.lookup "row-key"
      values := given.filterMap fun e => if e.1 == "value" then assignment? e.2 else none
      timestamp := (given.lookup "timestamp").bind number? }
    if request.values.isEmpty then none
    else some (.onStore (.put (← given.lookup "table") request))

/-- Creates the table for a record type. -/
def createTableForm : Form where
  name := "create-table"
  switches := [tableSwitch, typeSwitch]
  command? given := do
    return .onStore (.createTable (← given.lookup "table") (← (given.lookup "type").bind type?))

/-- Shows the filter that a constraint becomes. -/
def compileForm : Form where
  name := "compile"
  switches := [typeSwitch, anyText "constraint" none]
  command? given := do
    return .compile (← (given.lookup "type").bind type?) (← given.lookup "constraint")

/-- Shows the settings. -/
def configForm : Form where
  name := "config"
  switches := [⟨"validate", none, .flag⟩]
  command? given := some (.settings (given.lookup "validate").isSome)

/-- All commands. -/
def forms : List Form :=
  [scanForm, closeForm, getForm, putForm, createTableForm, compileForm, configForm]

/-! ### The whole line -/

/-- The name of the program. -/
def programName : String :=
  "hbase-access"

/-- The version of the program. -/
def programVersion : String :=
  "0.3.0"

/-- What is printed when the version is asked for. -/
def versionText : Option String → String
  | none => s!"{programName} {programVersion}\n"
  | some command => s!"{programName}-{command} {programVersion}\n"

/-- A command, and where its settings come from. -/
structure Invocation where
  /-- The file with the settings, if one is named. -/
  file : Option String
  /-- Whether the log is to say everything. -/
  verbose : Bool
  /-- The command. -/
  command : Command

/-- Reads what follows the name of a command. -/
def readForm (form : Form) (words : List String) : Except Stop (Given × Command) :=
  match readSwitches (form.switches ++ commonSwitches) [] none words with
  | .error (.version _) => .error (.version (some form.name))
  | .error stop => .error stop
  | .ok (_, _, _ :: _) => .error .misuse
  | .ok (given, pending, []) => do
      let given ← settle given pending
      match form.command? given with
      | none => .error .misuse
      | some command => .ok (given, command)

/-- What the words after `help` ask for. -/
def helpOn : List String → Stop
  | [] => .help
  | [word] => if word = "help" ∨ (forms.find? fun form => form.name == word).isSome then .help
      else .misuse
  | _ => .misuse

/-- Reads the words of a command line. -/
def read (words : List String) : Except Stop Invocation :=
  match readSwitches commonSwitches [] none words with
  | .error stop => .error stop
  | .ok (_, _, []) => .error .misuse
  | .ok (before, pending, word :: rest) =>
      match forms.find? fun form => form.name == word with
      | none => .error (if word = "help" then helpOn rest else .misuse)
      | some form => do
          let (given, command) ← readForm form rest
          let before ← settle before pending
          return {
            file := (given.lookup "config").or (before.lookup "config")
            verbose := (given.lookup "verbose").isSome || (before.lookup "verbose").isSome
            command }

end CommandLine

end StreamStore
