import RandomSearch.CommandLine.Path
import RandomSearch.Text.Integer
import RandomSearch.Text.Quoted

/-!
# Command line options

The options name the configuration, override its counts and its seed, and ask for a pool of
processes.  A long option can be shortened as long as it is clear which one is meant, and its
argument can follow after an equals sign or as the next word.  The mark `--`, after which there are
no more options, is taken off wherever it stands, even as the argument of an option.
-/

namespace RandomSearch.CommandLine

inductive OptionName where
  | help
  | config
  | samples
  | workers
  | seed
  | processes
  deriving DecidableEq, Repr

namespace OptionName

def title : OptionName → String
  | .help => "-h/--help"
  | .config => "--config"
  | .samples => "--samples"
  | .workers => "--workers"
  | .seed => "--seed"
  | .processes => "--processes"

def spellings : List (String × OptionName) :=
  [("-h", .help), ("--help", .help), ("--config", .config), ("--samples", .samples),
   ("--workers", .workers), ("--seed", .seed), ("--processes", .processes)]

end OptionName

inductive UsageFault where
  | helpWanted
  | ambiguous (word : Text) (candidates : List String)
  | argumentMissing (option : OptionName)
  | notInteger (option : OptionName) (word : Text)
  | argumentIgnored (option : OptionName) (word : Text)
  | unrecognised (words : List Text)
  deriving DecidableEq, Repr

def UsageFault.message : UsageFault → Text
  | .helpWanted => "help"
  | .ambiguous word candidates =>
      "ambiguous option: " ++ word ++ " could match " ++ ", ".intercalate candidates
  | .argumentMissing option => s!"argument {option.title}: expected one argument"
  | .notInteger option word =>
      s!"argument {option.title}: invalid int value: " ++ word.quoted
  | .argumentIgnored option word =>
      s!"argument {option.title}: ignored explicit argument " ++ word.quoted
  | .unrecognised words => "unrecognized arguments: " ++ Text.joinWith " " words

/-- The argument of an option: nothing is left of the mark if that stood in its place. -/
inductive Argument (α : Type) where
  | value (content : α)
  | nothing
  deriving DecidableEq, Repr

/-- An argument that is an integer, as a value.  Nothing is an empty list. -/
def Argument.toValue : Argument Int → Value
  | .value n => .int n
  | .nothing => .list []

structure Options where
  config : Option (Argument Text)
  samples : Option (Argument Int)
  workers : Option (Argument Int)
  seed : Option (Argument Int)
  processes : Bool
  deriving DecidableEq, Repr

def Options.empty : Options :=
  ⟨none, none, none, none, false⟩

/-! ## Words -/

inductive Word where
  | argument (word : Text)
  /-- The mark after which there are no more options. -/
  | mark
  | option (name : OptionName) (explicit : Option Text)
  /-- The short option for help, with letters after it. -/
  | helpLetters (letters : Text)
  /-- A word that looks like an option and is none. -/
  | unknown (word : Text)

def markText : Text :=
  "--"

/-- A text up to the first equals sign, and what follows, if there is one. -/
def splitEquals : Text → Text × Option Text
  | [] => ([], none)
  | point :: rest =>
      if point = .scalar '=' then
        ([], some rest)
      else
        let (before, after) := splitEquals rest
        (point :: before, after)

/-- Whether a text is a negative number in decimal digits, with at most one point and a digit after
it.  A line feed at the end does not matter. -/
def isNegativeNumber (text : List Char) : Bool :=
  let isDigit (c : Char) : Bool := (Text.digitValue? c).isSome
  let body := if text.getLast? = some '\n' then text.dropLast else text
  match body with
  | '-' :: unsigned =>
      match unsigned.dropWhile isDigit with
      | [] => !unsigned.isEmpty
      | '.' :: fraction => !fraction.isEmpty && fraction.all isDigit
      | _ => false
  | _ => false

def spelled? (text : Text) : Option OptionName :=
  (OptionName.spellings.find? fun (spelling, _) => text == Text.ofString spelling).map Prod.snd

/-- The options that a shortened word can stand for, each with its spelling. -/
def candidates (text : Text) : List (String × OptionName) :=
  OptionName.spellings.filter fun (spelling, _) => text.isPrefixOf (Text.ofString spelling)

/-- Classify a word that begins with a dash and is not an option in full. -/
def classifyShortened (word : Text) : Except UsageFault Word :=
  let (before, explicit) := splitEquals word
  let other :=
    if isNegativeNumber word.toChars || word.contains (.scalar ' ') then Word.argument word
    else .unknown word
  match word with
  | .scalar '-' :: .scalar '-' :: _ =>
      match candidates before with
      | [] => .ok other
      | [(_, name)] => .ok (.option name explicit)
      | several => .error (.ambiguous word (several.map Prod.fst))
  | .scalar '-' :: .scalar 'h' :: letters => .ok (.helpLetters letters)
  | _ => .ok other

/-- Classify a word.  What follows an equals sign after the short option for help counts as
letters. -/
def classify (word : Text) : Except UsageFault Word :=
  match word with
  | .scalar '-' :: _ :: _ =>
      match spelled? word with
      | some name => .ok (.option name none)
      | none =>
          let (before, after) := splitEquals word
          match after, spelled? before with
          | some explicit, some name =>
              if before = "-h" ∧ explicit ≠ [] then .ok (.helpLetters explicit)
              else .ok (.option name (some explicit))
          | _, _ => classifyShortened word
  | _ => .ok (.argument word)

/-- Classify all words.  After the mark there are only arguments. -/
def classifyAll : List Text → Except UsageFault (List Word)
  | [] => .ok []
  | word :: rest =>
      if word = markText then
        .ok (.mark :: rest.map .argument)
      else do
        let first ← classify word
        let others ← classifyAll rest
        return first :: others

/-! ## Reading -/

def Argument.ofWord {α : Type} (read : Text → Except UsageFault α) (word : Text) :
    Except UsageFault (Argument α) :=
  if word = markText then .ok .nothing else (read word).map .value

def Options.set (options : Options) (name : OptionName) (word : Text) :
    Except UsageFault Options := do
  let integer : Except UsageFault (Argument Int) :=
    Argument.ofWord (fun written =>
      match Text.readInteger written.toChars with
      | .ok n => .ok n
      | .error _ => .error (.notInteger name written)) word
  match name with
  | .config =>
      return { options with
        config := some (← Argument.ofWord (fun written => .ok (normalPath written)) word) }
  | .samples => return { options with samples := some (← integer) }
  | .workers => return { options with workers := some (← integer) }
  | .seed => return { options with seed := some (← integer) }
  | .help | .processes => return options

/-- What comes of letters after the short option for help: each that is the same option stands for
itself, and what follows cannot be the argument of one. -/
def usageOfLetters (letters : Text) : UsageFault :=
  match letters.dropWhile (· = .scalar 'h') with
  | [] => .helpWanted
  | rest => .argumentIgnored .help rest

/-- Take in the remaining words.  Those that belong to no option are listed. -/
def readWords (options : Options) (extras : List Text) :
    List Word → Except UsageFault Options
  | [] => if extras.isEmpty then .ok options else .error (.unrecognised extras)
  | .argument word :: rest => readWords options (extras ++ [word]) rest
  | .unknown word :: rest => readWords options (extras ++ [word]) rest
  | .mark :: rest => readWords options (extras ++ [markText]) rest
  | .option .help none :: _ => .error .helpWanted
  | .option .help (some word) :: _ => .error (.argumentIgnored .help word)
  | .helpLetters letters :: _ => .error (usageOfLetters letters)
  | .option .processes (some word) :: _ => .error (.argumentIgnored .processes word)
  | .option .processes none :: rest => readWords { options with processes := true } extras rest
  | .option name (some word) :: rest =>
      match options.set name word with
      | .ok next => readWords next extras rest
      | .error fault => .error fault
  | .option name none :: .argument word :: rest =>
      match options.set name word with
      | .ok next => readWords next extras rest
      | .error fault => .error fault
  | .option name none :: _ => .error (.argumentMissing name)

def readOptions (words : List Text) : Except UsageFault Options := do
  readWords Options.empty [] (← classifyAll words)

end RandomSearch.CommandLine
