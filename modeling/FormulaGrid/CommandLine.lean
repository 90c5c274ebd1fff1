/-
# The command line

    gridcalc [--log-file FILE] [edit [FILE] [--rows N] [--cols N] | show FILE [--formulas]]
    gridcalc help [edit | show | help]
    gridcalc --version

`edit` is the command if none is given. What follows `help` is the name of one command, and
nothing else. `--log-file` may stand before or after the command;
if it stands in both places the second one counts. Otherwise an option is given at most
once. The value of an option is the next argument, which must not start with a dash unless
it is one, or follows the option after a sign of equality. After `--` every argument is a
file. Numbers of rows and columns are at least one and fit 64 bits.

| ends with | when |
| --- | --- |
| 0 | a sheet was printed, the version or the help was asked for |
| 1 | a file could not be read, made, or understood: a report on standard error |
| 2 | the arguments cannot be understood |
| 101 | the new sheet has more rows or columns than a list holds, or a column is too wide to print |

The file of the log is made, or emptied, before anything else, and stays empty here.
-/

import FormulaGrid.Session.Basic
import FormulaGrid.Table

namespace FormulaGrid
namespace CommandLine

open Text (Bytes)

/-- What arguments ask for. -/
inductive Command where
  | print (file : String) (formulas : Bool)
  | edit (file : Option String) (rows cols : Nat)
deriving Repr

/-- What arguments come to. -/
inductive Request where
  | version
  | help
  | run (log : Option String) (command : Command)
  /-- The arguments cannot be understood. -/
  | unclear
deriving Repr

/-! ## Arguments -/

/-- An argument by its look. -/
inductive Argument where
  /-- Two dashes, after which every argument is a file. -/
  | dashes
  /-- An option by its name, perhaps with a value after a sign of equality. -/
  | long (name : String) (value : Option String)
  /-- An option by its first letter. -/
  | short (letter : Char)
  | plain (s : String)
deriving Repr

/-- An argument's look. -/
def Argument.of (s : String) : Argument :=
  match s.toList with
  | ['-', '-'] => .dashes
  | '-' :: '-' :: r =>
    let name := r.takeWhile (· != '=')
    .long (String.ofList name)
      (if name.length < r.length then some (String.ofList (r.drop (name.length + 1))) else none)
  | '-' :: c :: _ => .short c
  | _ => .plain s

/-- The value of an option: what is attached to it, or the next argument; and the arguments
left. -/
def optionValue (attached : Option String) (rest : List String) : Option (String × List String) :=
  match attached, rest with
  | some value, _ => some (value, rest)
  | none, next :: rest =>
    match Argument.of next with
    | .plain value => some (value, rest)
    | _ => none
  | none, [] => none

/-- An option's value takes no argument that was not there. -/
theorem optionValue_length {attached : Option String} {rest left : List String} {value : String}
    (h : optionValue attached rest = some (value, left)) : left.length ≤ rest.length := by
  unfold optionValue at h
  split at h
  · cases h
    exact Nat.le_refl _
  · split at h
    · cases h
      simp
    · cases h
  · cases h

/-- A number of rows or columns: an optional plus sign and digits. -/
def extent? (s : String) : Option Nat :=
  let ds := match s.toList with
    | '+' :: r => r
    | r => r
  if ds.isEmpty || !ds.all Char.isDigit then none
  else
    let n := Number.digitsValue ds
    if 0 < n ∧ n < numberLimit then some n else none

/-- A file name, which is not empty. -/
def fileName? (s : String) : Option String := if s.isEmpty then none else some s

/-- What a command has been given so far. -/
structure Given where
  log : Option String
  file : Option String
  formulas : Bool
  rows : Option Nat
  cols : Option Nat

/-- A command that has been given nothing. -/
def Given.nothing : Given := ⟨none, none, false, none, none⟩

/-- The commands by name. -/
inductive Name where
  | edit
  | print
deriving DecidableEq, Repr

/-- Sets what has not been set. -/
def setOnce {α : Type} (old : Option α) (new : Option α) : Option (Option α) :=
  match old, new with
  | none, some a => some (some a)
  | _, _ => none

/-- One more file. -/
def Given.addFile (g : Given) (s : String) : Option Given :=
  (setOnce g.file (fileName? s)).map fun file => { g with file }

/-- One more option that takes a value; nothing if the command has no such option. -/
def Given.addOption (name : Name) (g : Given) (option value : String) : Option Given :=
  match name, option with
  | _, "log-file" => (setOnce g.log (fileName? value)).map fun log => { g with log }
  | .edit, "rows" => (setOnce g.rows (extent? value)).map fun rows => { g with rows }
  | .edit, "cols" => (setOnce g.cols (extent? value)).map fun cols => { g with cols }
  | _, _ => none

/-- What a command and what it has been given come to. -/
def Given.request (name : Name) (log : Option String) (g : Given) : Request :=
  match name, g.file with
  | .print, none => .unclear
  | .print, some file => .run (g.log.or log) (.print file g.formulas)
  | .edit, file =>
    .run (g.log.or log)
      (.edit file (g.rows.getD Sheet.usualExtent) (g.cols.getD Sheet.usualExtent))

/-- What the arguments after the name of a command come to. -/
def commandArguments (name : Name) (log : Option String) (g : Given) (args : List String) : Request :=
  match args with
  | [] => g.request name log
  | arg :: rest =>
    match Argument.of arg with
    | .dashes =>
      match rest.foldlM Given.addFile g with
      | some g => g.request name log
      | none => .unclear
    | .plain s =>
      match g.addFile s with
      | some g => commandArguments name log g rest
      | none => .unclear
    | .short letter => if letter = 'h' then .help else .unclear
    | .long "help" none => .help
    | .long "formulas" none =>
      if name = .print ∧ !g.formulas then
        commandArguments name log { g with formulas := true } rest
      else .unclear
    | .long option attached =>
      match _h : optionValue attached rest with
      | none => .unclear
      | some (value, left) =>
        match g.addOption name option value with
        | some g => commandArguments name log g left
        | none => .unclear
termination_by args.length
decreasing_by
  · simp
  · simp
  · have := optionValue_length _h
    simp only [List.length_cons]
    omega

/-- The names that help can be asked for. -/
def helpTopics : List String := ["edit", "show", "help"]

/-- What the arguments after `help` come to. -/
def helpRequest : List String → Request
  | [] => .help
  | [topic] => if topic ∈ helpTopics then .help else .unclear
  | _ => .unclear

/-- What the arguments before the name of a command, and those after it, come to. -/
def requestFrom (log : Option String) (args : List String) : Request :=
  match args with
  | [] => Given.nothing.request .edit log
  | arg :: rest =>
    match Argument.of arg with
    | .dashes => if rest.isEmpty then Given.nothing.request .edit log else .unclear
    | .plain "edit" => commandArguments .edit log .nothing rest
    | .plain "show" => commandArguments .print log .nothing rest
    | .plain "help" => helpRequest rest
    | .plain _ => .unclear
    | .short letter => if letter = 'V' then .version else if letter = 'h' then .help else .unclear
    | .long "version" none => .version
    | .long "help" none => .help
    | .long "log-file" attached =>
      match _h : optionValue attached rest with
      | none => .unclear
      | some (value, left) =>
        match setOnce log (fileName? value) with
        | some log => requestFrom log left
        | none => .unclear
    | .long _ _ => .unclear
termination_by args.length
decreasing_by
  have := optionValue_length _h
  simp only [List.length_cons]
  omega

/-- **What arguments come to.** -/
def request (args : List String) : Request := requestFrom none args

/-! ## Answers -/

/-- What a command does to files, in a monad of its own. -/
structure Files (m : Type → Type) where
  read : String → m (Except FileError Bytes)
  /-- Makes an empty file, or empties one. -/
  make : String → m (Except FileError Unit)
  has : String → m Bool

/-- The files of a disk. -/
def Files.ofDisk : Files (StateM Disk) where
  read path := do pure ((← get).read path)
  make path := do
    match (← get).write path [] with
    | .ok d => do set d; pure (.ok ())
    | .error e => pure (.error e)
  has path := do pure ((← get).has path)

/-- What a command printed and the code it ended with. -/
structure Report where
  code : Nat
  out : String
  err : String
deriving DecidableEq, Repr

/-- How a command ends: with a report, or by handing over to a session. -/
inductive Outcome where
  | report (r : Report)
  | session (s : Session)

/-- The name and version of the program. -/
def versionText : String := "gridcalc 0.1.0\n"

/-- How the program is called. -/
def usageText : String :=
  "Usage: gridcalc [--log-file FILE] [edit [FILE] [--rows N] [--cols N] | show FILE [--formulas]]\n"

/-- A failure and its causes, from the outermost inward; several are numbered. -/
def failureText (what : String) (causes : List String) : String :=
  let lines := match causes with
    | [cause] => ["    " ++ cause ++ "\n"]
    | _ => causes.zipIdx.map fun (cause, i) => "    " ++ Nat.repr i ++ ": " ++ cause ++ "\n"
  "Error: " ++ what ++ "\n\nCaused by:\n" ++ String.join lines

/-- The report of a failure. -/
def failed (what : String) (causes : List String) : Outcome :=
  .report ⟨1, "", failureText what causes⟩

/-- The causes of a storage error: itself and, if a file is to blame, the file's error. -/
def causes (e : StorageError) : List String :=
  match e with
  | .corrupt _ => [e.text]
  | .file f => [e.text, f.text]

/-- The report of a sheet that could not be loaded. -/
def loadFailed (path : String) (e : StorageError) : Outcome :=
  failed ("cannot load " ++ path) (causes e)

/-- The most bytes that a list takes. -/
def maxListBytes : Nat := 0x7FFFFFFFFFFFFFFF

/-- The bytes that a row takes in the list of rows. -/
def rowBytes : Nat := 24

/-- The bytes that a cell takes in the list of a row's cells. -/
def cellBytes : Nat := 56

/-- Whether a new sheet has more rows or columns than a list holds. -/
def isTooLarge (rows cols : Nat) : Bool :=
  rows * rowBytes > maxListBytes || cols * cellBytes > maxListBytes

/-- The report of a sheet that is too large. -/
def tooLargeText : String := "Error: capacity overflow\n"

/-- The report of a column that is too wide. -/
def tooWideText : String := "Error: Formatting argument out of range\n"

section
variable {m : Type → Type} [Monad m] (files : Files m)

/-- A sheet with the cells of a file in place of its own. -/
def load (s : Sheet) (path : String) : m (Except StorageError Sheet) := do
  match ← files.read path with
  | .ok doc => pure (s.load doc)
  | .error e => pure (.error (.file e))

/-- Prints a sheet from a file. -/
def printFile (path : String) (formulas : Bool) : m Outcome := do
  match ← load files (Sheet.blank 1 1) path with
  | .ok s =>
    let s := if formulas then s.toggleView else s
    match Table.print? s with
    | some table => pure (.report ⟨0, table, ""⟩)
    | none => pure (.report ⟨101, "", tooWideText⟩)
  | .error e => pure (loadFailed path e)

/-- Starts a session on a new sheet, or on that of a file. A file that is not there yet is
the one the session saves to. -/
def editFile (file : Option String) (rows cols : Nat) : m Outcome := do
  if isTooLarge rows cols then return .report ⟨101, "", tooLargeText⟩
  match file with
  | none => pure (.session (Session.start (Sheet.blank rows cols)))
  | some path =>
    if ← files.has path then
      match ← load files (Sheet.blank 1 1) path with
      | .ok sheet =>
        let session := { Session.start sheet with fileName := some path }
        pure (.session (session.say ("Loaded from " ++ path)))
      | .error e => pure (loadFailed path e)
    else pure (.session { Session.start (Sheet.blank rows cols) with fileName := some path })

/-- Does what a command asks for. -/
def runCommand : Command → m Outcome
  | .print file formulas => printFile files file formulas
  | .edit file rows cols => editFile files file rows cols

/-- **Does what arguments ask for.** -/
def run (args : List String) : m Outcome := do
  match request args with
  | .version => pure (.report ⟨0, versionText, ""⟩)
  | .help => pure (.report ⟨0, usageText, ""⟩)
  | .unclear => pure (.report ⟨2, "", usageText⟩)
  | .run none command => runCommand files command
  | .run (some log) command =>
    match ← files.make log with
    | .ok _ => runCommand files command
    | .error e => pure (failed ("cannot create log file " ++ log) [e.text])

end

end CommandLine
end FormulaGrid
