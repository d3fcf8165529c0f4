import CallGuard.Files.Tree

namespace CallGuard

/-!
# Path patterns

A pattern is matched against paths part by part. In a part, a question mark
stands for one character, a star for any run, and brackets for one of some
characters or, after an exclamation mark, for one of all others. A part of two
stars stands for any number of directories.
-/

/-- Characters from one to another; a single one from and to itself. -/
structure CharacterRange where
  first : Char
  last : Char
  deriving DecidableEq, Repr

/-- What a piece of a pattern stands for. -/
inductive GlobToken where
  | literal (c : Char)
  | anyOne
  | anyRun
  /-- Any number of directories. -/
  | descent
  | oneOf (ranges : List CharacterRange)
  | noneOf (ranges : List CharacterRange)
  deriving DecidableEq, Repr

/-- What can be wrong with a pattern. -/
inductive GlobProblem where
  | longStars
  | strayDescent
  | badRange
  deriving DecidableEq, Repr

/-- A faulty pattern: where the fault is, and what. -/
structure GlobFault where
  position : Nat
  problem : GlobProblem
  deriving DecidableEq, Repr

/-- The wording of a problem. -/
def GlobProblem.message : GlobProblem → String
  | .longStars => "wildcards are either regular `*` or recursive `**`"
  | .strayDescent => "recursive wildcards must form a single path component"
  | .badRange => "invalid range pattern"

/-- The wording of a fault. -/
def GlobFault.message (fault : GlobFault) : String :=
  s!"Pattern syntax error near position {fault.position}: {fault.problem.message}"

namespace Glob

/-- The ranges written between brackets. -/
def ranges : List Char → List CharacterRange
  | first :: '-' :: last :: rest => ⟨first, last⟩ :: ranges rest
  | c :: rest => ⟨c, c⟩ :: ranges rest
  | [] => []

/-- The characters before a closing bracket and those after it. -/
def splitAtBracket? : List Char → Option (List Char × List Char)
  | [] => none
  | ']' :: rest => some ([], rest)
  | c :: rest => (splitAtBracket? rest).map fun (inside, after) => (c :: inside, after)

/--
The token that brackets stand for, read after the opening one, and what follows.
The first character between the brackets may be a closing bracket.
-/
def bracket? : List Char → Option (GlobToken × List Char)
  | '!' :: first :: rest =>
      (splitAtBracket? rest).map fun (inside, after) =>
        (.noneOf (ranges (first :: inside)), after)
  | ['!'] => none
  | first :: rest =>
      (splitAtBracket? rest).map fun (inside, after) =>
        (.oneOf (ranges (first :: inside)), after)
  | [] => none

/--
The tokens of a pattern. `atStart` says that a part begins here; every step
takes at least one character, so the length is fuel enough.
-/
def tokens :
    Nat →
    Nat →
    Bool →
    List Char →
    Except GlobFault (List GlobToken)
  | _, _, _, [] => .ok []
  | 0, _, _, _ => .ok []
  | fuel + 1, position, atStart, '*' :: rest =>
      let more := rest.takeWhile (· == '*')
      let after := rest.dropWhile (· == '*')
      match more.length with
      | 0 => (tokens fuel (position + 1) false after).map (.anyRun :: ·)
      | 1 =>
          if !atStart then
            .error ⟨position - 1, .strayDescent⟩
          else
            match after with
            | [] => .ok [.descent]
            | '/' :: after => (tokens fuel (position + 3) true after).map (.descent :: ·)
            | _ => .error ⟨position + 2, .strayDescent⟩
      | _ => .error ⟨position + 2, .longStars⟩
  | fuel + 1, position, _, '?' :: rest =>
      (tokens fuel (position + 1) false rest).map (.anyOne :: ·)
  | fuel + 1, position, _, '[' :: rest =>
      match bracket? rest with
      | none => .error ⟨position, .badRange⟩
      | some (token, after) =>
          let length := 1 + (rest.length - after.length)
          (tokens fuel (position + length) false after).map (token :: ·)
  | fuel + 1, position, _, c :: rest =>
      (tokens fuel (position + 1) (c == '/') rest).map (.literal c :: ·)

/-- The tokens of a whole pattern or of one of its parts. -/
def tokensOf (text : String) : Except GlobFault (List GlobToken) :=
  let characters := text.toList
  tokens characters.length 0 true characters

/-- Whether a character lies in one of the ranges. -/
def inRanges
    (ranges : List CharacterRange)
    (c : Char) :
    Bool :=
  ranges.any fun range => decide (range.first ≤ c) && decide (c ≤ range.last)

/-- What is left of a list after each of its beginnings. -/
def tails : List Char → List (List Char)
  | [] => [[]]
  | c :: rest => (c :: rest) :: tails rest

/-- Whether tokens match all of a name. -/
def matchesName : List GlobToken → List Char → Bool
  | [], name => name.isEmpty
  | .anyRun :: rest, name => (tails name).any (matchesName rest)
  | .descent :: rest, name => (tails name).any (matchesName rest)
  | .anyOne :: rest, name =>
      match name with
      | [] => false
      | _ :: more => matchesName rest more
  | .literal expected :: rest, name =>
      match name with
      | [] => false
      | c :: more => c == expected && matchesName rest more
  | .oneOf ranges :: rest, name =>
      match name with
      | [] => false
      | c :: more => inRanges ranges c && matchesName rest more
  | .noneOf ranges :: rest, name =>
      match name with
      | [] => false
      | c :: more => !inRanges ranges c && matchesName rest more

/-- The one name that tokens stand for, if they are all literal. -/
def soleName? : List GlobToken → Option (List Char)
  | [] => some []
  | .literal c :: rest => (soleName? rest).map (c :: ·)
  | _ => none

/-- Whether a path stays at the working directory by its form alone. -/
def isHere (path : String) : Bool :=
  match pathParts path with
  | "." :: rest => rest.all fun part => part == "" || part == "."
  | _ => false

/-- A path with one more part; the working directory itself does not show. -/
def join (path part : String) : String :=
  if isHere path then
    part
  else if path.toList.getLast? == some '/' then
    path ++ part
  else
    path ++ "/" ++ part

/-- A path below another one, which shows even if it is the working directory. -/
def joinShown (path part : String) : String :=
  if path.toList.getLast? == some '/' then path ++ part else path ++ "/" ++ part

/-- Names in ascending order. -/
def sorted (names : List String) : List String :=
  names.mergeSort fun a b => decide (a ≤ b)

/-- The names of a directory for itself and for the one above that a part matches. -/
def specialNames (part : List GlobToken) : List String :=
  match part with
  | .literal '.' :: _ =>
      ["..", "."].filter fun name => matchesName part name.toList
  | _ => []

mutual

/--
The paths below a directory that match the parts of a pattern, in the order of
names, a directory before what is in it. Every step into a directory or on to
the next part uses one unit of fuel.
-/
def below
    (tree : FileTree) :
    Nat →
    List (List GlobToken) →
    String →
    List String
  | 0, _, _ => []
  | _ + 1, [], path => [path]
  | fuel + 1, part :: parts, path =>
      match soleName? part with
      | some name =>
          let name := String.ofList name
          let next := join path name
          let isThere :=
            if name == "." || name == ".." then
              tree.hasDirectory path
            else
              tree.hasPath next
          if isThere then below tree fuel parts next else []
      | none =>
          if tree.hasDirectory path then
            (specialNames part).flatMap (fun name =>
              below tree fuel parts (joinShown path name))
              ++ (sorted (tree.names path)).flatMap fun name =>
                visit tree fuel (part :: parts) (join path name) name
          else
            []

/-- The paths that match the parts of a pattern at or below a path of the given name. -/
def visit
    (tree : FileTree) :
    Nat →
    List (List GlobToken) →
    String →
    String →
    List String
  | 0, _, _, _ => []
  | _ + 1, [], _, _ => []
  | fuel + 1, part :: parts, path, name =>
      if part == [.descent] then
        let parts := parts.dropWhile (· == [.descent])
        let inside :=
          if tree.hasDirectory path then below tree fuel ([.descent] :: parts) path else []
        match parts with
        | [] => if tree.hasDirectory path then path :: inside else []
        | next :: later =>
            (if matchesName next name.toList then below tree fuel later path else [])
              ++ inside
      else if matchesName part name.toList then
        below tree fuel parts path
      else
        []

end

/-- The parts of a pattern; a slash at its end starts no further one. -/
def patternParts (pattern : String) : List String :=
  match (pathParts pattern).reverse with
  | "" :: rest => rest.reverse
  | _ => pathParts pattern

/-- Whether a pattern wants directories alone. -/
def wantsDirectory (pattern : String) : Bool :=
  pattern.toList.getLast? == some '/'

/-- Whether a path is to be read as a pattern. -/
def isPattern (path : String) : Bool :=
  path.toList.any fun c => c == '*' || c == '?' || c == '[' || c == '\x7b'

end Glob

/--
The paths that a pattern matches below the working directory. A walk takes a step
for each part of the pattern and each level of the tree, which bounds the fuel.
-/
def FileTree.glob
    (tree : FileTree)
    (pattern : String) :
    Except GlobFault (List String) := do
  let _ ← Glob.tokensOf pattern
  let parts ← (Glob.patternParts pattern).mapM Glob.tokensOf
  let places := tree.files.map (·.1) ++ tree.directories
  let depth := places.foldl (fun depth place => max depth place.length) 0
  let fuel := 2 * (parts.length + 1) * (depth + 2)
  let found :=
    if pattern.toList.head? == some '/' then [] else Glob.below tree fuel parts "."
  if Glob.wantsDirectory pattern then
    return found.filter tree.hasDirectory
  else
    return found

end CallGuard
