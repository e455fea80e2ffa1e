import BundleBuilder.Catalog
import BundleBuilder.Report.Analysis

/-!
# The command line

There are two commands: one writes the generated units, the other shows what was found out about the
controllers. Both read class models and options. Options are given with a hyphen and a letter or
with two hyphens and a name; a value stands in the next word, or behind the option with or without
an equals sign.
-/

set_option autoImplicit false

namespace BundleBuilder.CommandLine

open Files

/-! ## Arguments -/

/-- What both commands read. -/
structure Inputs where
  files : List String := []
  includes : List String := []
  config? : Option String := none
  settings : List String := []
  deriving DecidableEq, Repr

/-- A command with its arguments. -/
inductive Command where
  | codegen (inputs : Inputs) (library : Bool) (output : String)
  | analyze (inputs : Inputs) (json : Bool)
  deriving DecidableEq, Repr

/-- What a command line asks for: a command, or the description of the usage. -/
inductive Request where
  | command (command : Command)
  | help
  deriving DecidableEq, Repr

/-- The options that the commands know. -/
inductive Flag where
  | files
  | includes
  | config
  | settings
  | output
  | library
  | json
  | verbose
  | help
  deriving DecidableEq, Repr

namespace Flag

/-- Whether an option has a value. -/
def takesValue : Flag → Bool
  | files | includes | config | settings | output => true
  | library | json | verbose | help => false

/-- Whether a value names a file, so that it must not be empty. -/
def namesFile : Flag → Bool
  | files | includes | config | output => true
  | _ => false

/-- Whether an option may be given several times. -/
def repeatable : Flag → Bool
  | files | includes | settings => true
  | _ => false

/-- The option of a letter. -/
def ofLetter? : Char → Option Flag
  | 'f' => some files
  | 'i' => some includes
  | 'c' => some config
  | 'A' => some settings
  | 'o' => some output
  | 'v' => some verbose
  | 'h' => some help
  | _ => none

/-- The option of a name. -/
def ofName? : String → Option Flag
  | "files" => some files
  | "include-dir" => some includes
  | "config" => some config
  | "output" => some output
  | "library" => some library
  | "json" => some json
  | "verbose" => some verbose
  | "help" => some help
  | _ => none

end Flag

/-- The commands by their names. -/
inductive CommandName where
  | codegen
  | analyze
  deriving DecidableEq, Repr

/-- The command of a word. -/
def CommandName.ofWord? : String → Option CommandName
  | "codegen" => some codegen
  | "analyze" => some analyze
  | _ => none

/-- Whether an option belongs to a command. -/
def CommandName.knows : CommandName → Flag → Bool
  | codegen, .json => false
  | analyze, .library | analyze, .output => false
  | _, _ => true

/-- An option that was given, with its value. -/
abbrev Given := Flag × String

/-- The values given for an option, in their order. -/
def valuesOf (given : List Given) (flag : Flag) : List String :=
  (given.filter fun entry => entry.1 == flag).map (·.2)

/-- Whether an option was given. -/
def isGiven (given : List Given) (flag : Flag) : Bool := given.any fun entry => entry.1 == flag

/-- Whether a word cannot be the value of an option before it. -/
def looksLikeOption (word : String) : Bool :=
  word.toList.head? == some '-' && word != "-"

/-- What is wrong with a command line. -/
inductive UsageError where
  | unknownOption (word : String)
  | unexpectedValue (word : String)
  | missingValue (flag : Flag)
  | repeatedOption (flag : Flag)
  | unexpectedWord (word : String)
  | unknownCommand (word : String)
  | missingCommand
  | missingFiles
  deriving DecidableEq, Repr

/-- What was read of the options of a command: the options, or that help was asked for. -/
inductive Reading where
  | given (options : List Given)
  | help
  deriving DecidableEq, Repr

/-- Adds an option to those given before. A value that names a file must not be empty, and only some
options may be given again. -/
def addOption (before : List Given) (flag : Flag) (value : List Char) :
    Except UsageError (List Given) :=
  if value.isEmpty && flag.namesFile then .error (.missingValue flag)
  else if isGiven before flag && !flag.repeatable then .error (.repeatedOption flag)
  else .ok (before ++ [(flag, String.ofList value)])

/-- The options that were given up to a word, where the value of the last one may still be missing,
or a request for help. -/
inductive WordReading where
  | options (options : List Given)
  | needsValue (options : List Given) (flag : Flag)
  | help

/-- The reading of a word that ends with an option and its value. -/
def withOption (before : List Given) (flag : Flag) (value : List Char) :
    Except UsageError WordReading :=
  match addOption before flag value with
  | .error error => .error error
  | .ok options => .ok (.options options)

/-- Reads the letters behind a hyphen. -/
def readLetters (knows : Flag → Bool) (word : String) (before : List Given) :
    List Char → Except UsageError WordReading
  | [] => .ok (.options before)
  | c :: rest =>
    match Flag.ofLetter? c with
    | none => .error (.unknownOption word)
    | some flag =>
      if !knows flag then .error (.unknownOption word)
      else if flag = .help then .ok .help
      else if flag.takesValue then
        -- The rest of the word is the value, with or without an equals sign in front.
        match rest with
        | [] => .ok (.needsValue before flag)
        | '=' :: value => withOption before flag value
        | value => withOption before flag value
      else match addOption before flag [] with
        | .error error => .error error
        | .ok options => readLetters knows word options rest

/-- Reads the name behind two hyphens. -/
def readName (knows : Flag → Bool) (word : String) (before : List Given) (text : List Char) :
    Except UsageError WordReading :=
  let name := text.takeWhile (· != '=')
  let value? := (text.dropWhile (· != '=')).tail?
  match Flag.ofName? (String.ofList name) with
  | none => .error (.unknownOption word)
  | some flag =>
    if !knows flag then .error (.unknownOption word)
    else if flag.takesValue then
      match value? with
      | none => .ok (.needsValue before flag)
      | some value => withOption before flag value
    else if value?.isSome then .error (.unexpectedValue word)
    else if flag = .help then .ok .help
    else withOption before flag []

/-- Reads a word that begins with a hyphen. -/
def readWord (knows : Flag → Bool) (before : List Given) (word : String) :
    Except UsageError WordReading :=
  match word.toList with
  | '-' :: '-' :: text => readName knows word before text
  | '-' :: letters => readLetters knows word before letters
  | _ => .error (.unexpectedWord word)

/-- Reads the options of a command. -/
def readOptions (knows : Flag → Bool) (before : List Given) :
    List String → Except UsageError Reading
  | [] => .ok (.given before)
  | word :: words =>
    if word = "--" then
      match words with
      | [] => .ok (.given before)
      | next :: _ => .error (.unexpectedWord next)
    else if !looksLikeOption word then .error (.unexpectedWord word)
    else match readWord knows before word with
      | .error error => .error error
      | .ok .help => .ok .help
      | .ok (.options options) => readOptions knows options words
      | .ok (.needsValue options flag) =>
        match words with
        | [] => .error (.missingValue flag)
        | value :: words =>
          -- A word that looks like an option is never taken as a value.
          if looksLikeOption value then .error (.missingValue flag)
          else match addOption options flag value.toList with
            | .error error => .error error
            | .ok options => readOptions knows options words

/-- The command that options ask for. -/
def commandOf (name : CommandName) (given : List Given) : Except UsageError Command :=
  let inputs : Inputs :=
    { files := valuesOf given .files
      includes := valuesOf given .includes
      config? := (valuesOf given .config).head?
      settings := valuesOf given .settings }
  if inputs.files.isEmpty then .error .missingFiles
  else match name with
    | .codegen =>
      .ok (.codegen inputs (isGiven given .library)
        ((valuesOf given .output).head?.getD "generated"))
    | .analyze => .ok (.analyze inputs (isGiven given .json))

/-- Reads the words behind the name of a command. -/
def readCommand (name : CommandName) (words : List String) : Except UsageError Request :=
  match readOptions name.knows [] words with
  | .error error => .error error
  | .ok .help => .ok .help
  | .ok (.given given) =>
    match commandOf name given with
    | .error error => .error error
    | .ok command => .ok (.command command)

/-- Reads the words behind a request for help, which may name one command. -/
def readHelp : List String → Except UsageError Request
  | [] => .ok .help
  | word :: words =>
    if word = "help" ∨ (CommandName.ofWord? word).isSome = true then
      match words with
      | [] => .ok .help
      | next :: _ => .error (.unknownCommand next)
    else .error (.unknownCommand word)

/-- Whether an option may stand in front of the command. -/
def isGeneral (flag : Flag) : Bool := flag == .verbose || flag == .help

/-- Reads the words of a command line after the options given before, which belong to all
commands. -/
def readWords (before : List Given) : List String → Except UsageError Request
  | [] => .error .missingCommand
  | word :: words =>
    if looksLikeOption word && word != "--" then
      match readWord isGeneral before word with
      | .error error => .error error
      | .ok .help => .ok .help
      | .ok (.options options) => readWords options words
      | .ok (.needsValue _ flag) => .error (.missingValue flag)
    else if word = "help" then readHelp words
    else match CommandName.ofWord? word with
      | some name => readCommand name words
      | none => .error (.unknownCommand word)

/-- Reads the words of a command line. -/
def readRequest (words : List String) : Except UsageError Request := readWords [] words

/-! ## Commands -/

/-- Why a command cannot be carried out. -/
inductive CommandError where
  | usage (error : UsageError)
  | unreadableConfig (path : String)
  | malformedConfig (path : String) (error : Yaml.ReadError)
  | setting (error : Options.SettingError)
  | model (path : String) (error : LoadError)
  | reported (count : Nat)

/-- The wording of an error of a command. -/
def CommandError.message : CommandError → String
  | usage _ => "invalid usage"
  | unreadableConfig path => "failed to read config " ++ path
  | malformedConfig path _ => "failed to parse config " ++ path
  | setting error => error.message
  | model path error => "failed to load class model " ++ path ++ ": " ++ error.message
  | reported count => toString count ++ " error(s) reported"

/-- The exit code for an error: two for a wrong command line, one for everything else. -/
def CommandError.code : CommandError → Nat
  | usage _ => 2
  | _ => 1

/-- What a command leaves behind: what it prints, the diagnostics of its run, the error with which
it ends, and the files. -/
structure Outcome where
  output : String := ""
  diagnostics : List Diagnostic := []
  error? : Option CommandError := none
  tree : Tree

/-- The exit code of a command. -/
def Outcome.code (outcome : Outcome) : Nat := (outcome.error?.map CommandError.code).getD 0

/-- The options from a configuration file. -/
def readConfig (tree : Tree) (directory : Place) : Option String → Except CommandError Options
  | none => .ok {}
  | some path =>
    match (tree.locate? directory path).bind tree.read? with
    | none => .error (.unreadableConfig path)
    | some contents =>
      match Options.read contents with
      | .error error => .error (.malformedConfig path error)
      | .ok options => .ok options

/-- The options of a command: the configuration file, then the settings, then the library flag. -/
def readOptionsOf (tree : Tree) (directory : Place) (inputs : Inputs) (library : Bool) :
    Except CommandError Options :=
  match readConfig tree directory inputs.config? with
  | .error error => .error error
  | .ok options =>
    match options.applyAll inputs.settings with
    | .error error => .error (.setting error)
    | .ok options => .ok { options with library := options.library || library }

/-- The catalog of the class models of a command. -/
def readModels (library : Library) (catalog : Catalog) : List String → Except CommandError Catalog
  | [] => .ok catalog
  | path :: paths =>
    match catalog.loadFile library path with
    | (_, some error) => .error (.model path error)
    | (catalog, none) => readModels library catalog paths

/-- The run of a command. -/
def generationOf (tree : Tree) (directory : Place) (inputs : Inputs) (library : Bool) :
    Except CommandError Generation :=
  match readOptionsOf tree directory inputs library with
  | .error error => .error error
  | .ok options =>
    match readModels ⟨tree, directory, inputs.includes⟩ {} inputs.files with
    | .error error => .error error
    | .ok catalog => .ok (Generation.run (catalog.toTable options.platform) options)

/-- Writes units below an output directory up to the first failure: the tree, the paths that were
written, and the error. -/
def writeUnits (tree : Tree) (directory : Place) (output : String) :
    List Java.SourceUnit → Tree × List String × Option ProcessingError
  | [] => (tree, [], none)
  | unit :: units =>
    let path := Files.appendPath output unit.relativePath
    match tree.write? directory path (some unit.source) with
    | none => (tree, [], some (.unwritable unit.qualifiedName path "the file cannot be written"))
    | some tree =>
      let (tree, written, error?) := writeUnits tree directory output units
      (tree, path :: written, error?)

/-- The end of a command with the given diagnostics. -/
def finish (tree : Tree) (output : String) (diagnostics : Diagnostics) : Outcome :=
  { output
    diagnostics := diagnostics.entries
    error? := if diagnostics.hasErrors then some (.reported diagnostics.errorCount) else none
    tree }

/-- Carries out a command in a directory of a tree. -/
def execute (tree : Tree) (directory : Place) : Command → Outcome
  | .codegen inputs library output =>
    match generationOf tree directory inputs library with
    | .error error => { error? := some error, tree }
    | .ok generation =>
      match writeUnits tree directory output generation.units with
      | (tree, _, none) => finish tree "" generation.diagnostics
      | (tree, _, some error) => finish tree "" (generation.diagnostics.report error)
  | .analyze inputs json =>
    match generationOf tree directory inputs false with
    | .error error => { error? := some error, tree }
    | .ok generation =>
      let output :=
        if json then (Report.generationRecord generation).pretty 0 ++ "\n"
        else Report.generationText generation
      finish tree output generation.diagnostics

/-- The description of the usage. -/
def usage : String :=
  "Builder and injector generation for annotated Android fragments\n\n" ++
    "Usage: fragargs-gen [OPTIONS] <COMMAND>\n\n" ++
    "Commands:\n" ++
    "  codegen  Generate builder classes and the dispatch class\n" ++
    "  analyze  Analyze class models and print the controller models\n" ++
    "  help     Print this message or the help of the given subcommand(s)\n\n" ++
    "Options:\n" ++
    "  -v, --verbose  Enable debug logging (overridden by RUST_LOG)\n" ++
    "  -h, --help     Print help\n"

/-- Carries out the words of a command line in a directory of a tree. -/
def run (tree : Tree) (directory : Place) (words : List String) : Outcome :=
  match readRequest words with
  | .error error => { error? := some (.usage error), tree }
  | .ok .help => { output := usage, tree }
  | .ok (.command command) => execute tree directory command

end BundleBuilder.CommandLine
