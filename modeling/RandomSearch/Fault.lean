import RandomSearch.Phase
import RandomSearch.Value.Order
import RandomSearch.Value.Text

/-!
# Faults

Everything that can go wrong, by cause: an operation on values that has no result, a configuration
that is refused, code supplied by the caller that failed in some phase, workers that failed.  A
fault has a kind, under which callers catch it, and a message.
-/

namespace RandomSearch

inductive FaultKind where
  | searchError
  | invalidConfiguration
  | collaboratorFailure
  | parallelSearchError
  | typeError
  | valueError
  | keyError
  | attributeError
  | indexError
  | overflowError
  | zeroDivisionError
  | memoryError
  | runtimeError
  | notImplementedError
  | stopIteration
  | keyboardInterrupt
  | cancelledError
  | osError
  | permissionError
  | fileNotFoundError
  | isADirectoryError
  | notADirectoryError
  | unicodeEncodeError
  | yamlError
  deriving DecidableEq, Repr

def FaultKind.name : FaultKind → String
  | .searchError => "SearchError"
  | .invalidConfiguration => "InvalidConfiguration"
  | .collaboratorFailure => "CollaboratorFailure"
  | .parallelSearchError => "ParallelSearchError"
  | .typeError => "TypeError"
  | .valueError => "ValueError"
  | .keyError => "KeyError"
  | .attributeError => "AttributeError"
  | .indexError => "IndexError"
  | .overflowError => "OverflowError"
  | .zeroDivisionError => "ZeroDivisionError"
  | .memoryError => "MemoryError"
  | .runtimeError => "RuntimeError"
  | .notImplementedError => "NotImplementedError"
  | .stopIteration => "StopIteration"
  | .keyboardInterrupt => "KeyboardInterrupt"
  | .cancelledError => "CancelledError"
  | .osError => "OSError"
  | .permissionError => "PermissionError"
  | .fileNotFoundError => "FileNotFoundError"
  | .isADirectoryError => "IsADirectoryError"
  | .notADirectoryError => "NotADirectoryError"
  | .unicodeEncodeError => "UnicodeEncodeError"
  | .yamlError => "YAMLError"

/-- The operations on numbers that a message can name. -/
inductive Operator where
  | add
  | mul
  | mod
  deriving DecidableEq, Repr

def Operator.symbol : Operator → String
  | .add => "+"
  | .mul => "*"
  | .mod => "%"

/-- Why values cannot be put into a text that is used as a pattern. -/
inductive PatternFault where
  /-- A place asks for a key, and what is put in has none. -/
  | mappingRequired
  | keyUnclosed
  /-- A list is asked for an item by a text. -/
  | listKey
  | valueMissing
  | valueUnused
  /-- A width or precision is to be taken from a value that is no integer. -/
  | amountNotInteger
  | widthTooBig
  | precisionTooBig
  | widthOutOfRange
  | precisionOutOfRange
  /-- An integer with that many digits leaves no room for its sign. -/
  | precisionTooLarge
  | incomplete
  | unknownConversion (conversion : CodePoint) (position : Nat)
  | integerRequired (conversion : Char) (kind : Value.Kind)
  | numberRequired (conversion : Char) (kind : Value.Kind)
  | realRequired (kind : Value.Kind)
  | characterRequired
  | characterOutOfRange
  | textTooLong
  deriving DecidableEq, Repr

/-- An operation on values that has no result. -/
inductive ValueFault where
  /-- Two values of these forms have no order. -/
  | unordered (comparison : Comparison) (left right : Value.Kind)
  | unsupported (operator : Operator) (left right : Value.Kind)
  /-- Only an integer can say how often something is repeated. -/
  | notARepeatCount (kind : Value.Kind)
  | repeatCountTooLarge
  | repeatedTextTooLong
  | repeatedListTooLong
  | integerTooLargeForFloat
  | integerModulusZero
  | floatModulusZero
  | ofPattern (fault : PatternFault)
  | notIterable (kind : Value.Kind)
  | noLength (kind : Value.Kind)
  | noAttribute (owner : String) (field : Text)
  | missingKey (key : Value)
  | notAKey (kind : Value.Kind)
  | notAnInteger (kind : Value.Kind)
  /-- A text does not write an integer in the given base. -/
  | notIntegerText (base : Nat) (text : Text)
  | tooManyDigits (count : Nat)
  | integerTooLong
  | undefinedAsInteger
  | infiniteAsInteger
  /-- The joined part at this position is not a text. -/
  | notATextPart (position : Nat) (kind : Value.Kind)
  /-- The entry at this position of a list of entries is no sequence. -/
  | notAnEntry (position : Nat)
  | notAPair (position length : Nat)
  | notACharacter (code : Nat)
  /-- Only numbers and texts can be filled up to a width. -/
  | notPadded (kind : Value.Kind)

/-- What a random stream refuses. -/
inductive StreamFault where
  | negativeEntropy
  | notEntropy (value : Value)
  | fractionalEntropy
  | entropyText
  | lowerOutOfRange
  | upperOutOfRange
  | nothingToDraw

/-- Why a configuration is refused before any work is started. -/
inductive Rejection where
  | unknownDirection (value : Value)
  | notACount (label : String) (value : Value)
  | negativeCount (label : String) (value : Value)
  | noThreads (value : Value)
  | unknownSense (constraint sense : Value)
  | noVariables
  | limitCount (side : String) (expected given : Nat)
  | objectiveCount (expected given : Nat)
  | emptyRange (name : Value) (lower upper : Int)
  | coefficientCount (constraint : Value) (expected given : Nat)
  | notAMapping (path : Text)

/-- What was being read when a malformed part of it was met. -/
inductive Document where
  | problem
  | search (path : Text)
  deriving DecidableEq, Repr

/-- Why a file cannot be read. -/
inductive FileFault where
  | missing (path : Text)
  | isDirectory (path : Text)
  /-- The path goes through something that is no directory. -/
  | notDirectory (path : Text)
  | nameTooLong (path : Text)
  /-- The path holds the character that ends all paths. -/
  | holdsNul
  /-- The path holds lone surrogates from the first to the last of these positions. -/
  | holdsSurrogates (path : Text) (first last : Nat)
  deriving DecidableEq, Repr

inductive Fault where
  /-- Raised by code the caller supplied. -/
  | raised (kind : FaultKind) (text : Text)
  | ofValue (fault : ValueFault)
  | ofStream (fault : StreamFault)
  | ofFile (fault : FileFault)
  | rejected (reason : Rejection)
  | malformed (document : Document) (cause : Fault)
  /-- The item at this position of a list of constraints cannot be applied to a candidate. -/
  | notAConstraint (position : Nat) (item : Value)
  /-- The wrong number of names was given for a list of verdicts. -/
  | nameCount (expected given : Nat)
  /-- A predicate signalled the end of an iteration, which has no meaning there. -/
  | predicateStopped
  | phaseFailed (label : PhaseLabel) (worker : Option Int) (cause : Option Fault)
  | workersFailed (failures : List (Int × Fault)) (cause : Option Fault)
  | cancelledBeforeRun (worker : Nat)
  | executorClosed
  | malformedYaml

namespace PatternFault

def kind : PatternFault → FaultKind
  | .keyUnclosed | .widthTooBig | .precisionTooBig | .incomplete
  | .unknownConversion .. => .valueError
  | .widthOutOfRange | .precisionOutOfRange | .precisionTooLarge
  | .characterOutOfRange => .overflowError
  | .textTooLong => .memoryError
  | _ => .typeError

/-- A conversion as it is shown in a message: a question mark stands for what is not a plain
character. -/
def shownConversion (conversion : CodePoint) : Char :=
  if 0x1f ≤ conversion.code ∧ conversion.code ≤ 0x7e then conversion.toChar else '?'

def hexadecimalText (n : Nat) : String :=
  String.ofList (Nat.toDigits 16 n)

def message : PatternFault → String
  | .mappingRequired => "format requires a mapping"
  | .keyUnclosed => "incomplete format key"
  | .listKey => "list indices must be integers or slices, not str"
  | .valueMissing => "not enough arguments for format string"
  | .valueUnused => "not all arguments converted during string formatting"
  | .amountNotInteger => "* wants int"
  | .widthTooBig => "width too big"
  | .precisionTooBig => "precision too big"
  | .widthOutOfRange => "Python int too large to convert to C ssize_t"
  | .precisionOutOfRange => "Python int too large to convert to C int"
  | .precisionTooLarge => "precision too large"
  | .incomplete => "incomplete format"
  | .unknownConversion conversion position =>
      s!"unsupported format character '{shownConversion conversion}' " ++
        s!"(0x{hexadecimalText conversion.code}) at index {position}"
  | .integerRequired conversion kind =>
      s!"%{conversion} format: an integer is required, not {kind.name}"
  | .numberRequired conversion kind =>
      s!"%{conversion} format: a real number is required, not {kind.name}"
  | .realRequired kind => s!"must be real number, not {kind.name}"
  | .characterRequired => "%c requires int or char"
  | .characterOutOfRange => "%c arg not in range(0x110000)"
  | .textTooLong => ""

end PatternFault

namespace ValueFault

def kind : ValueFault → FaultKind
  | .unordered .. | .unsupported .. | .notARepeatCount _ | .notIterable _
  | .noLength _ | .notAKey _ | .notAnInteger _ | .notATextPart .. | .notAnEntry _
  | .notPadded _ => .typeError
  | .repeatCountTooLarge | .repeatedTextTooLong | .integerTooLargeForFloat
  | .infiniteAsInteger => .overflowError
  | .repeatedListTooLong => .memoryError
  | .integerModulusZero | .floatModulusZero => .zeroDivisionError
  | .noAttribute .. => .attributeError
  | .missingKey _ => .keyError
  | .notIntegerText .. | .tooManyDigits _ | .integerTooLong | .undefinedAsInteger
  | .notAPair .. => .valueError
  | .ofPattern fault => fault.kind
  | .notACharacter code => if code < 0x80000000 then .valueError else .overflowError

/-- A text in quotes, cut off after two hundred characters. -/
def shortQuoted (text : Text) : Text :=
  text.quoted.take 200

def message : ValueFault → Text
  | .unordered comparison left right =>
      s!"'{comparison.symbol}' not supported between instances of '{left.name}' and '{right.name}'"
  | .unsupported operator left right =>
      s!"unsupported operand type(s) for {operator.symbol}: '{left.name}' and '{right.name}'"
  | .notARepeatCount kind => s!"can't multiply sequence by non-int of type '{kind.name}'"
  | .repeatCountTooLarge => "cannot fit 'int' into an index-sized integer"
  | .repeatedTextTooLong => "repeated string is too long"
  | .repeatedListTooLong => ""
  | .integerTooLargeForFloat => "int too large to convert to float"
  | .integerModulusZero => "integer modulo by zero"
  | .floatModulusZero => "float modulo"
  | .ofPattern fault => fault.message
  | .notIterable kind => s!"'{kind.name}' object is not iterable"
  | .noLength kind => s!"object of type '{kind.name}' has no len()"
  | .noAttribute owner field => s!"'{owner}' object has no attribute '" ++ field ++ "'"
  | .missingKey key => key.quotedText
  | .notAKey kind => s!"unhashable type: '{kind.name}'"
  | .notAnInteger kind =>
      s!"int() argument must be a string, a bytes-like object or a real number, not '{kind.name}'"
  | .notIntegerText base text =>
      s!"invalid literal for int() with base {base}: " ++ shortQuoted text
  | .tooManyDigits count =>
      "Exceeds the limit (4300 digits) for integer string conversion: value has " ++
        s!"{count} digits; use sys.set_int_max_str_digits() to increase the limit"
  | .integerTooLong =>
      "Exceeds the limit (4300 digits) for integer string conversion; " ++
        "use sys.set_int_max_str_digits() to increase the limit"
  | .undefinedAsInteger => "cannot convert float NaN to integer"
  | .infiniteAsInteger => "cannot convert float infinity to integer"
  | .notATextPart position kind =>
      s!"sequence item {position}: expected str instance, {kind.name} found"
  | .notAnEntry position =>
      s!"cannot convert dictionary update sequence element #{position} to a sequence"
  | .notAPair position length =>
      s!"dictionary update sequence element #{position} has length {length}; 2 is required"
  | .notACharacter code =>
      if code < 0x80000000 then "chr() arg not in range(0x110000)"
      else "Python int too large to convert to C int"
  | .notPadded kind => s!"unsupported format string passed to {kind.name}.__format__"

end ValueFault

namespace StreamFault

def kind : StreamFault → FaultKind
  | .negativeEntropy | .entropyText | .lowerOutOfRange | .upperOutOfRange
  | .nothingToDraw => .valueError
  | .notEntropy _ | .fractionalEntropy => .typeError

def message : StreamFault → Text
  | .negativeEntropy => "expected non-negative integer"
  | .notEntropy value =>
      "SeedSequence expects int or sequence of ints for entropy not " ++ value.text
  | .fractionalEntropy => "seed must be integer"
  | .entropyText => "unrecognized seed string"
  | .lowerOutOfRange => "low is out of bounds for int64"
  | .upperOutOfRange => "high is out of bounds for int64"
  | .nothingToDraw => "high <= 0"

end StreamFault

namespace FileFault

def kind : FileFault → FaultKind
  | .missing _ => .fileNotFoundError
  | .isDirectory _ => .isADirectoryError
  | .notDirectory _ => .notADirectoryError
  | .nameTooLong _ => .osError
  | .holdsNul => .valueError
  | .holdsSurrogates .. => .unicodeEncodeError

def message : FileFault → Text
  | .missing path => "[Errno 2] No such file or directory: " ++ path.quoted
  | .isDirectory path => "[Errno 21] Is a directory: " ++ path.quoted
  | .notDirectory path => "[Errno 20] Not a directory: " ++ path.quoted
  | .nameTooLong path => "[Errno 36] File name too long: " ++ path.quoted
  | .holdsNul => "embedded null byte"
  | .holdsSurrogates path first last =>
      let place : Text :=
        if first = last then
          let shown := Text.ofChars ((path.drop first).take 1 |>.flatMap fun point =>
            Text.codeEscape point.code)
          "character '" ++ shown ++ s!"' in position {first}"
        else
          s!"characters in position {first}-{last}"
      "'utf-8' codec can't encode " ++ place ++ ": surrogates not allowed"

end FileFault

namespace Rejection

/-- The values that the message of a refused configuration writes. -/
def values : Rejection → List Value
  | .unknownDirection value | .notACount _ value | .negativeCount _ value
  | .noThreads value => [value]
  | .unknownSense constraint sense => [constraint, sense]
  | .emptyRange name lower upper => [name, .int lower, .int upper]
  | .coefficientCount constraint _ _ => [constraint]
  | .noVariables | .limitCount .. | .objectiveCount .. | .notAMapping _ => []

def message : Rejection → Text
  | .unknownDirection value => "unknown optimisation direction: " ++ value.quotedText
  | .notACount label value => label ++ " must be an integer, got " ++ value.quotedText
  | .negativeCount label value => label ++ " must be >= 0, got " ++ value.text
  | .noThreads value => "max_workers must be > 0, got " ++ value.text
  | .unknownSense constraint sense =>
      "constraint " ++ constraint.quotedText ++ ": unknown sense " ++ sense.quotedText ++
        ", expected one of ['<=', '==', '>=']"
  | .noVariables => "a linear problem needs at least one variable"
  | .limitCount side expected given => s!"{side} bounds: expected {expected} values, got {given}"
  | .objectiveCount expected given => s!"objective: expected {expected} coefficients, got {given}"
  | .emptyRange name lower upper =>
      "variable " ++ name.quotedText ++ s!": lower bound {lower} exceeds upper bound {upper}"
  | .coefficientCount constraint expected given =>
      "constraint " ++ constraint.quotedText ++ s!": expected {expected} coefficients, got {given}"
  | .notAMapping path => path ++ ": expected a mapping at the top level"

end Rejection

def Document.complaint : Document → Text
  | .problem => "malformed problem definition: "
  | .search path => path ++ ": malformed search config: "

namespace Fault

def kind : Fault → FaultKind
  | .raised kind _ => kind
  | .ofValue fault => fault.kind
  | .ofStream fault => fault.kind
  | .ofFile fault => fault.kind
  | .rejected _ | .malformed .. => .invalidConfiguration
  | .notAConstraint .. => .typeError
  | .nameCount .. => .valueError
  | .predicateStopped | .executorClosed => .runtimeError
  | .phaseFailed .. => .collaboratorFailure
  | .workersFailed .. => .parallelSearchError
  | .cancelledBeforeRun _ => .cancelledError
  | .malformedYaml => .yamlError

/-- Where a failure happened: in which phase, and in which worker, if any. -/
def placeText (label : PhaseLabel) (worker : Option Int) : Text :=
  let place : Text :=
    match worker with
    | none => ""
    | some worker => s!" in worker {worker}"
  "user code failed while " ++ label.inSentence ++ place

mutual

def message : Fault → Text
  | .raised .keyError text => text.quoted
  | .raised _ text => text
  | .ofValue fault => fault.message
  | .ofStream fault => fault.message
  | .ofFile fault => fault.message
  | .rejected reason => reason.message
  | .malformed document cause => document.complaint ++ cause.message
  | .notAConstraint position item =>
      s!"constraint {position} is not callable: " ++ item.quotedText
  | .nameCount expected given => s!"expected {expected} constraint names, got {given}"
  | .predicateStopped => "generator raised StopIteration"
  | .phaseFailed label worker none => placeText label worker
  | .phaseFailed label worker (some cause) =>
      placeText label worker ++ s!": {cause.kind.name}: " ++ cause.message
  | .workersFailed failures _ =>
      s!"{failures.length} worker(s) failed; " ++ failureTexts failures
  | .cancelledBeforeRun worker => s!"worker {worker} was cancelled before it ran"
  | .executorClosed => "cannot schedule new futures after shutdown"
  | .malformedYaml => "malformed document"
termination_by structural fault => fault

def failureTexts : List (Int × Fault) → Text
  | [] => ""
  | [(worker, fault)] => s!"worker {worker}: " ++ fault.message
  | (worker, fault) :: next :: rest =>
      s!"worker {worker}: " ++ fault.message ++ "; " ++ failureTexts (next :: rest)
termination_by structural failures => failures

end

/-- A fault whose message writes the given values.  If one of them cannot be written, that is the
fault instead. -/
def writing (values : List Value) (fault : Fault) : Fault :=
  if values.all Value.isWritable then fault else .ofValue .integerTooLong

def refusal (reason : Rejection) : Fault :=
  writing reason.values (.rejected reason)

/-- Whether a fault asks for the whole program to stop.  Such a fault passes through the phases as
it is. -/
def isInterrupt (fault : Fault) : Bool :=
  fault.kind == .keyboardInterrupt

end Fault

end RandomSearch
