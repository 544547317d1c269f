import ApiContract.Configuration
import ApiContract.Text.Cut

/-!
The command line: which options there are, how words are read as options, and what the options
change in a configuration.

An option is written with its long name behind two hyphens, its text behind an equals sign or in the
next word, or with its letter behind one hyphen, where letters without a text may share a hyphen and
a text may follow its letter at once. A next word that itself begins with a hyphen is no text.
-/

namespace ApiContract.Command

structure Options where
  input : Option String := none
  model : Option String := none
  namespaceHint : Option String := none
  groupBy : Option String := none
  output : Option String := none
  libraryName : Option String := none
  publicClients : Bool := false
  skipMetadata : Bool := false
  dryRun : Bool := false
  verbosity : Nat := 0
  deriving DecidableEq, Repr, Inhabited

/-- What a command line asks for. -/
inductive Request where
  | run (options : Options)
  | help
  | version
  deriving DecidableEq, Repr

inductive UsageError where
  | unknownOption (word : String)
  | unexpectedWord (word : String)
  | missingText (option : String)
  | unexpectedText (option : String)
  | repeated (option : String)
  | conflict (first second : String)
  deriving DecidableEq, Repr

def UsageError.message : UsageError → String
  | unknownOption word => "unexpected argument '" ++ word ++ "' found"
  | unexpectedWord word => "unexpected argument '" ++ word ++ "' found"
  | missingText option => "a value is required for '" ++ option ++ "' but none was supplied"
  | unexpectedText option => "no value is expected for '" ++ option ++ "'"
  | repeated option => "the argument '" ++ option ++ "' cannot be used multiple times"
  | conflict first second =>
      "the argument '" ++ first ++ "' cannot be used with '" ++ second ++ "'"

/-- Options that take a text. -/
inductive TextOption where
  | input
  | model
  | namespaceHint
  | groupBy
  | output
  | libraryName
  deriving DecidableEq, Repr

/-- Options that are given or not. -/
inductive Flag where
  | publicClients
  | skipMetadata
  | dryRun
  | verbose
  | help
  | version
  deriving DecidableEq, Repr

/-- An option by kind. -/
inductive Kind where
  | text (option : TextOption)
  | flag (flag : Flag)
  deriving DecidableEq, Repr

structure Entry where
  long : String
  letter : Option Char
  kind : Kind
  purpose : String

def entries : List Entry :=
  [⟨"input", some 'i', .text .input, "Folder holding Configuration.json and CodeModel.yaml (or .json)"⟩,
   ⟨"model", some 'm', .text .model, "API model file (YAML or JSON)"⟩,
   ⟨"namespace", some 'n', .text .namespaceHint, "Namespace of the generated modules"⟩,
   ⟨"group-by", some 'g', .text .groupBy, "Grouping policy"⟩,
   ⟨"output", some 'o', .text .output, "Output folder for generated code"⟩,
   ⟨"library-name", none, .text .libraryName, "Library name used in generated documentation"⟩,
   ⟨"public-clients", none, .flag .publicClients, "Make generated clients public"⟩,
   ⟨"no-metadata", none, .flag .skipMetadata, "Skip the record of the run"⟩,
   ⟨"dry-run", none, .flag .dryRun, "Print generated code without writing files"⟩,
   ⟨"verbose", some 'v', .flag .verbose, "Increase verbosity"⟩,
   ⟨"help", some 'h', .flag .help, "Print help"⟩,
   ⟨"version", some 'V', .flag .version, "Print version"⟩]

namespace Options

/-- Sets a field that may be set once. -/
def once (name : String) (old : Option String) (text : String) :
    Except UsageError (Option String) :=
  if old.isSome then .error (.repeated name) else .ok (some text)

/-- A path is not empty. -/
def path (name : String) (old : Option String) (text : String) :
    Except UsageError (Option String) :=
  if text = "" then .error (.missingText name) else once name old text

def setText (options : Options) (text : String) : TextOption → Except UsageError Options
  | .input => do return { options with input := ← path "--input" options.input text }
  | .model => do return { options with model := ← path "--model" options.model text }
  | .namespaceHint => do
      return { options with namespaceHint := ← once "--namespace" options.namespaceHint text }
  | .groupBy => do return { options with groupBy := ← once "--group-by" options.groupBy text }
  | .output => do return { options with output := ← once "--output" options.output text }
  | .libraryName => do
      return { options with libraryName := ← once "--library-name" options.libraryName text }

/-- The effect of a flag: further options, or an end of the reading. -/
def setFlag (options : Options) : Flag → Except UsageError (Options ⊕ Request)
  | .publicClients =>
      if options.publicClients then .error (.repeated "--public-clients")
      else .ok (.inl { options with publicClients := true })
  | .skipMetadata =>
      if options.skipMetadata then .error (.repeated "--no-metadata")
      else .ok (.inl { options with skipMetadata := true })
  | .dryRun =>
      if options.dryRun then .error (.repeated "--dry-run")
      else .ok (.inl { options with dryRun := true })
  | .verbose => .ok (.inl { options with verbosity := options.verbosity + 1 })
  | .help => .ok (.inr .help)
  | .version => .ok (.inr .version)

/-- Options that contradict each other are refused when all words are read. -/
def finish (options : Options) : Except UsageError Request :=
  if options.input.isSome && options.model.isSome then .error (.conflict "--input" "--model")
  else .ok (.run options)

/-- The options put on top of a configuration. -/
def apply (options : Options) (configuration : Configuration) : Configuration :=
  { outputFolder := options.output.getD configuration.outputFolder
    namespaceHint := options.namespaceHint.getD configuration.namespaceHint
    libraryName := options.libraryName.or configuration.libraryName
    groupBy := options.groupBy.getD configuration.groupBy
    publicClients := options.publicClients || configuration.publicClients
    generateMetadata := !options.skipMetadata && configuration.generateMetadata }

end Options

/-- What reading the options of one word leads to. -/
inductive Progress where
  | going (options : Options)
  | awaiting (options : Options) (name : String) (option : TextOption)
  | ended (request : Request)

/-- The options of a word of one hyphen. -/
def readLetters (options : Options) : List Char → Except UsageError Progress
  | [] => .ok (.going options)
  | letter :: rest =>
      let name := "-" ++ String.ofList [letter]
      match entries.find? (·.letter == some letter) with
      | none => .error (.unknownOption name)
      | some entry =>
          match entry.kind with
          | .flag flag =>
              match options.setFlag flag with
              | .error e => .error e
              | .ok (.inl options) => readLetters options rest
              | .ok (.inr request) => .ok (.ended request)
          | .text option =>
              match rest with
              | [] => .ok (.awaiting options name option)
              | '=' :: text => (options.setText (String.ofList text) option).map .going
              | text => (options.setText (String.ofList text) option).map .going

/-- The option of a word of two hyphens, with the text behind an equals sign. -/
def readName (options : Options) (name : String) (text : Option String) :
    Except UsageError Progress :=
  let word := "--" ++ name
  match entries.find? (·.long == name) with
  | none => .error (.unknownOption word)
  | some entry =>
      match entry.kind, text with
      | .flag _, some _ => .error (.unexpectedText word)
      | .flag flag, none =>
          (options.setFlag flag).map fun
            | .inl options => .going options
            | .inr request => .ended request
      | .text option, some text => (options.setText text option).map .going
      | .text option, none => .ok (.awaiting options word option)

def readWord (options : Options) (word : String) : Except UsageError Progress :=
  match word.toList with
  | '-' :: '-' :: name =>
      match Text.cutChars '=' name with
      | some (name, text) => readName options (String.ofList name) (some (String.ofList text))
      | none => readName options (String.ofList name) none
  | '-' :: letter :: letters => readLetters options (letter :: letters)
  | _ => .error (.unexpectedWord word)

/-- Whether a word begins as options do. -/
def isOption (word : String) : Bool :=
  match word.toList with
  | '-' :: _ :: _ => true
  | _ => false

/-- Reads the words of a command line. Two hyphens alone end the options, and nothing may follow
them. A request for help or the version ends the reading. -/
def read (options : Options) : List String → Except UsageError Request
  | [] => options.finish
  | "--" :: [] => options.finish
  | "--" :: word :: _ => .error (.unexpectedWord word)
  | word :: rest =>
      match readWord options word with
      | .error e => .error e
      | .ok (.going options) => read options rest
      | .ok (.ended request) => .ok request
      | .ok (.awaiting options name option) =>
          match rest with
          | [] => .error (.missingText name)
          | text :: rest =>
              if isOption text then .error (.missingText name)
              else
                match options.setText text option with
                | .error e => .error e
                | .ok options => read options rest

def version : String := "0.1.0"

/-- A line for an option in the list of options. -/
def Entry.line (entry : Entry) : String :=
  "  " ++ (match entry.letter with
    | some letter => "-" ++ String.ofList [letter] ++ ", "
    | none => "    ") ++ "--" ++ entry.long ++
    (match entry.kind with
    | .text _ => " <TEXT>"
    | .flag _ => "") ++ "\n          " ++ entry.purpose ++ "\n"

def usageLine : String := "Usage: blueprint-gen [OPTIONS]\n"

def helpText : String :=
  "Generates typed clients and handler traits from API models\n\n" ++ usageLine ++ "\nOptions:\n" ++
    String.join (entries.map Entry.line)

end ApiContract.Command
