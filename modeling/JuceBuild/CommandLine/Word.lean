import JuceBuild.Text.DecimalDigit
import JuceBuild.Text.Quoted
import JuceBuild.Text.Split

/-!
# Words of a command line

A word is an option, with the value written into it if there is one, or an argument, or the
separator after which every word is an argument. Long options may be shortened as long as only one
begins that way, and short options may be written together with what follows them.
-/

namespace JuceBuild.CommandLine

/-- What an option asks for. -/
inductive Flag where
  | help
  | version
  | juce6
  | outputDirectory
  | verbose
  deriving DecidableEq, Repr

namespace Flag

/-- The names of options, in the order in which they are tried. -/
def names : List (String × Flag) := [
  ("-h", .help), ("--help", .help), ("-V", .version), ("--version", .version), ("--juce6", .juce6),
  ("-o", .outputDirectory), ("--output-dir", .outputDirectory), ("-v", .verbose),
  ("--verbose", .verbose)]

def ofName? (name : String) : Option Flag := names.lookup name

def takesValue (flag : Flag) : Bool := flag = .outputDirectory

def label (flag : Flag) : String :=
  Text.join "/" ((names.filter (·.2 = flag)).map (·.1))

end Flag

/-- Why a command line makes no sense. -/
inductive UsageError where
  | ambiguous (word : String) (names : List String)
  | ignoredValue (flag : Flag) (value : String)
  | missingValue (flag : Flag)
  | missingProject
  | unrecognized (words : List String)
  deriving DecidableEq, Repr

def UsageError.message : UsageError → String
  | .ambiguous word names =>
    "ambiguous option: " ++ word ++ " could match " ++ Text.join ", " names
  | .ignoredValue flag value =>
    "argument " ++ flag.label ++ ": ignored explicit argument " ++ Text.quoted value
  | .missingValue flag => "argument " ++ flag.label ++ ": expected one argument"
  | .missingProject => "the following arguments are required: jucer_file"
  | .unrecognized words => "unrecognized arguments: " ++ Text.join " " words

/-- What an option's word goes on with: a text behind an equals sign, or directly behind the letter
of a short option. -/
inductive Attachment where
  | assigned (text : String)
  | joined (text : String)
  deriving DecidableEq, Repr

/-- A word of a command line. -/
inductive Word where
  | argument (text : String)
  | separator
  | option (flag : Flag) (isLong : Bool) (attachment? : Option Attachment)
  | unknown (text : String)
  deriving DecidableEq, Repr

namespace Word

/-- The word as it was written, for words that are no options. -/
def text : Word → String
  | .argument text => text
  | .separator => "--"
  | .option .. => ""
  | .unknown text => text

/-- The name in a word and the value after its first equals sign. -/
def splitValue (word : List Char) : String × Option String :=
  match word.dropWhile (· ≠ '=') with
  | [] => (String.ofList word, none)
  | _ :: value => (String.ofList (word.takeWhile (· ≠ '=')), some (String.ofList value))

def isDigits (text : List Char) : Bool :=
  text ≠ [] && text.all fun c => (Text.digitValue? c).isSome

/-- Whether a text is a negative number: a hyphen before digits, or before a fraction with or
without digits before its point. One line feed may follow. -/
def isNegativeNumber (text : List Char) : Bool :=
  match text with
  | '-' :: rest =>
    let rest := if rest.getLast? = some '\n' then rest.dropLast else rest
    match rest.dropWhile (· ≠ '.') with
    | [] => isDigits rest
    | _ :: fraction =>
      let whole := rest.takeWhile (· ≠ '.')
      (whole = [] || isDigits whole) && isDigits fraction
  | _ => false

/-- The options that a word may mean, with their full names. -/
def candidates (word : List Char) : List (String × Word) :=
  match word with
  | '-' :: '-' :: _ =>
    let (start, value?) := splitValue word
    (Flag.names.filter fun (name, _) => start.toList.isPrefixOf name.toList).map
      fun (name, flag) => (name, .option flag true (value?.map .assigned))
  | _ =>
    let name := String.ofList (word.take 2)
    match Flag.ofName? name with
    | none => []
    | some flag => [(name, .option flag false (some (.joined (String.ofList (word.drop 2)))))]

def isLongName (name : String) : Bool := "--".toList.isPrefixOf name.toList

/-- The option that a word names in full. -/
def exactOption? (word : String) : Option Word :=
  match Flag.ofName? word with
  | some flag => some (.option flag (isLongName word) none)
  | none =>
    let (name, value?) := splitValue word.toList
    match value?, Flag.ofName? name with
    | some value, some flag => some (.option flag (isLongName name) (some (.assigned value)))
    | _, _ => none

/-- What a word before the separator means. -/
def classify (word : String) : Except UsageError Word :=
  match word.toList with
  | [] | ['-'] => .ok (.argument word)
  | '-' :: _ =>
    match exactOption? word with
    | some found => .ok found
    | none =>
      match candidates word.toList with
      | [(_, found)] => .ok found
      | [] =>
        if isNegativeNumber word.toList || ' ' ∈ word.toList then .ok (.argument word)
        else .ok (.unknown word)
      | several => .error (.ambiguous word (several.map (·.1)))
  | _ => .ok (.argument word)

/-- What the words of a command line mean. -/
def classifyAll : List String → Except UsageError (List Word)
  | [] => .ok []
  | "--" :: rest => .ok (.separator :: rest.map .argument)
  | word :: rest => do
    let word ← classify word
    let words ← classifyAll rest
    return word :: words

end Word

end JuceBuild.CommandLine
