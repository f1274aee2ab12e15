import ValueShadow.Files.Output

/-!
# Command lines

A command line names a command, its options and how much is reported. An option that takes a value
has it behind `=`, in the same word after a short name, or in the next word, which must not look
like an option. No option is given twice, except that `-v` counts. `CommandLine.parse` reads the
words in order, so the first word that asks for the version or for help wins over mistakes behind
it.
-/

namespace ValueShadow

/-- What the program is asked to do. -/
inductive Command where
  /-- Write the generated classes of a manifest below a directory. -/
  | generate (manifest output : String) (format : OutputFormat)
  /-- Try the value classes of a manifest. -/
  | check (manifest : String)
  deriving DecidableEq, Repr

/-- What a command line asks for. -/
inductive CommandLine where
  /-- A command, with how often more reports were asked for. -/
  | command (task : Command) (verbosity : Nat)
  | version
  | help
  /-- The command line is not understood. -/
  | misuse
  deriving DecidableEq, Repr

/-- The name of the manifest when none is given. -/
def defaultManifest : String := "shadowgen.toml"

/-- The options that take a value. -/
inductive ValueOption where
  | manifest
  | output
  | format
  deriving DecidableEq, Repr

namespace ValueOption

/-- The option with that long name. -/
def ofLong? : List Char → Option ValueOption
  | ['m', 'a', 'n', 'i', 'f', 'e', 's', 't'] => some .manifest
  | ['o', 'u', 't', 'p', 'u', 't'] => some .output
  | ['f', 'o', 'r', 'm', 'a', 't'] => some .format
  | _ => none

/-- The option with that short name. -/
def ofShort? : Char → Option ValueOption
  | 'm' => some .manifest
  | 'o' => some .output
  | 'f' => some .format
  | _ => none

end ValueOption

/-- The two commands. -/
inductive CommandName where
  | generate
  | check
  deriving DecidableEq, Repr

/-- Whether the command has the option. -/
def CommandName.takes : CommandName → ValueOption → Bool
  | .generate, _ => true
  | .check, .manifest => true
  | .check, _ => false

/-- The options of a command that were read so far. -/
structure Options where
  manifest : Option String := none
  output : Option String := none
  format : Option OutputFormat := none
  verbosity : Nat := 0

namespace Options

/-- The options with one more, unless it was given before or the value is not one of its. -/
def add (options : Options) (option : ValueOption) (value : String) : Option Options :=
  match option with
  | .manifest =>
    if options.manifest.isSome || value.isEmpty then none
    else some { options with manifest := some value }
  | .output =>
    if options.output.isSome || value.isEmpty then none
    else some { options with output := some value }
  | .format =>
    if options.format.isSome then none
    else if value = "java" then some { options with format := some .java }
    else if value = "json" then some { options with format := some .json }
    else none

/-- The command line of a command with these options. The count behind the command, if any, replaces
the one in front of it. -/
def finish (options : Options) (command : CommandName) (verbosity : Nat) : CommandLine :=
  let manifest := options.manifest.getD defaultManifest
  let verbosity := if options.verbosity = 0 then verbosity else options.verbosity
  match command, options.output with
  | .check, _ => .command (.check manifest) verbosity
  | .generate, some output =>
    .command (.generate manifest output (options.format.getD .java)) verbosity
  | .generate, none => .misuse

end Options

namespace CommandLine

/-- Whether the word can be the value of an option: it does not look like an option. -/
def isValue (word : String) : Bool :=
  word.toList.head? != some '-' || word == "-"

/-- What was read of a word. -/
inductive WordResult where
  /-- The options with those of the word. -/
  | options (options : Options)
  /-- The options of the word, and one whose value is the next word. -/
  | needsValue (options : Options) (option : ValueOption)
  /-- The word ends the reading. -/
  | done (result : CommandLine)

/-- The result for a value that stands in the word itself. -/
def withValue (options : Options) (option : ValueOption) (value : String) : WordResult :=
  match options.add option value with
  | some options => .options options
  | none => .done .misuse

/-- Reads the short names of a word, after its dash. -/
def readShort (command : CommandName) (options : Options) : List Char → WordResult
  | [] => .options options
  | 'v' :: rest => readShort command { options with verbosity := options.verbosity + 1 } rest
  | 'h' :: _ => .done .help
  | name :: rest =>
    match (ValueOption.ofShort? name).filter command.takes, rest with
    | none, _ => .done .misuse
    | some option, [] => .needsValue options option
    | some option, '=' :: value => withValue options option (String.ofList value)
    | some option, value => withValue options option (String.ofList value)

/-- Reads the long name of a word, after its dashes. -/
def readLong (command : CommandName) (options : Options) (word : List Char) : WordResult :=
  if word = "verbose".toList then
    .options { options with verbosity := options.verbosity + 1 }
  else if word = "help".toList then
    .done .help
  else
    match (ValueOption.ofLong? (word.takeWhile (· != '='))).filter command.takes,
      word.dropWhile (· != '=') with
    | none, _ => .done .misuse
    | some option, [] => .needsValue options option
    | some option, _ :: value => withValue options option (String.ofList value)

/-- Reads a word behind the command. -/
def readWord (command : CommandName) (options : Options) (word : String) : WordResult :=
  match word.toList with
  | '-' :: '-' :: name => readLong command options name
  | '-' :: name :: names => readShort command options (name :: names)
  | _ => .done .misuse

/-- Reads the words behind the command; `pending` is an option whose value comes next. Behind `--`
there is nothing to read. -/
def parseOptions (command : CommandName) (verbosity : Nat) (pending : Option ValueOption)
    (options : Options) : List String → CommandLine
  | [] => if pending.isSome then .misuse else options.finish command verbosity
  | word :: words =>
    match pending with
    | some option =>
      match if isValue word then options.add option word else none with
      | some options => parseOptions command verbosity none options words
      | none => .misuse
    | none =>
      if word = "--" then
        if words.isEmpty then options.finish command verbosity else .misuse
      else
        match readWord command options word with
        | .done result => result
        | .options options => parseOptions command verbosity none options words
        | .needsValue options option => parseOptions command verbosity (some option) options words

/-- The count after short names in front of the command, or the result that ends the reading. -/
def readCommonShort (verbosity : Nat) : List Char → Except CommandLine Nat
  | [] => .ok verbosity
  | 'v' :: rest => readCommonShort (verbosity + 1) rest
  | 'V' :: _ => .error .version
  | 'h' :: _ => .error .help
  | _ => .error .misuse

/-- The count after a word in front of the command, or the result that ends the reading. -/
def readCommonWord (verbosity : Nat) (word : String) : Except CommandLine Nat :=
  if word = "--verbose" then .ok (verbosity + 1)
  else if word = "--version" then .error .version
  else if word = "--help" then .error .help
  else
    match word.toList with
    | '-' :: name :: names => readCommonShort verbosity (name :: names)
    | _ => .error .misuse

/-- Reads the words from the start, after `verbosity` times `-v`. -/
def parseFrom (verbosity : Nat) : List String → CommandLine
  | [] => .misuse
  | word :: words =>
    if word = "check" then parseOptions .check verbosity none {} words
    else if word = "generate" then parseOptions .generate verbosity none {} words
    else if word = "help" then
      if words.all (fun w => w == "check" || w == "generate" || w == "help") then .help else .misuse
    else
      match readCommonWord verbosity word with
      | .ok verbosity => parseFrom verbosity words
      | .error result => result

/-- Reads a command line, without the name of the program. -/
def parse (words : List String) : CommandLine :=
  parseFrom 0 words

end CommandLine

end ValueShadow
