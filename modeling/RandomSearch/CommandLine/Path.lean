import RandomSearch.Fault

/-!
# Paths

A path is written without repeated or closing slashes and without steps that stay where they are.
The empty path is the present directory.  A path can be looked up only if it can be encoded: the
surrogates that stand for single bytes can, all others cannot.
-/

namespace RandomSearch.CommandLine

def isSlash (point : CodePoint) : Bool :=
  point == .scalar '/'

def pathSteps (path : Text) : List Text :=
  (Text.splitAt isSlash path).filter fun step => !(step.isEmpty || step == ".")

/-- The root of a path.  Exactly two slashes at its beginning have a meaning of their own. -/
def pathRoot : Text → Text
  | .scalar '/' :: .scalar '/' :: .scalar '/' :: _ => "/"
  | .scalar '/' :: .scalar '/' :: _ => "//"
  | .scalar '/' :: _ => "/"
  | _ => ""

def normalPath (path : Text) : Text :=
  let text := pathRoot path ++ Text.joinWith "/" (pathSteps path)
  if text.isEmpty then "." else text

def isSurrogate : CodePoint → Bool
  | .surrogate _ => true
  | .scalar _ => false

/-- Whether a surrogate stands for a single byte, given its distance from the first one. -/
def standsForByte (offset : Nat) : Bool :=
  0x480 ≤ offset && offset ≤ 0x4ff

/-- The first row of surrogates that cannot be encoded, from its first position to its last, if
there is one; the text begins at the given position. -/
def unencodable? (position : Nat) : Text → Option (Nat × Nat)
  | [] => none
  | .scalar _ :: rest => unencodable? (position + 1) rest
  | .surrogate offset :: rest =>
      if standsForByte offset then
        unencodable? (position + 1) rest
      else
        some (position, position + (rest.takeWhile isSurrogate).length)

def checkPath (path : Text) : Except Fault Unit :=
  match unencodable? 0 path with
  | some (first, last) => .error (.ofFile (.holdsSurrogates path first last))
  | none =>
      if path.contains (.scalar '\x00') then .error (.ofFile .holdsNul) else .ok ()

end RandomSearch.CommandLine
