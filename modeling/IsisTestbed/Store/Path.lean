import IsisTestbed.Config.Error

/-!
Paths of files, and what their names tell about formats.
-/

namespace IsisTestbed.Store

/-- The parts of a path between its slashes. -/
def splitSlashes : List Char → List (List Char)
  | [] => [[]]
  | '/' :: rest => [] :: splitSlashes rest
  | c :: rest =>
    match splitSlashes rest with
    | [] => [[c]]
    | part :: parts => (c :: part) :: parts

/-- The parts of a path that lead somewhere: empty parts and single dots are left out. -/
def steps (path : String) : List String :=
  ((splitSlashes path.toList).filter fun part => part != [] && part != ['.']).map String.ofList

/-- The greatest length of a name in octets. -/
def nameLimit : Nat := 255

/-- The greatest length of a path in octets. -/
def pathLimit : Nat := 4095

/-- Whether a path may lead anywhere: it has no null characters, and neither it nor any name in it
is too long. -/
def isUsable (path : String) : Bool :=
  !path.toList.contains '\x00' && path.utf8ByteSize ≤ pathLimit &&
    (steps path).all fun step => step.utf8ByteSize ≤ nameLimit

/-- The places on the way along some steps, with its start and its end. -/
def way (place : List String) : List String → List (List String)
  | [] => [place]
  | ".." :: rest => place :: way place.dropLast rest
  | step :: rest => place :: way (place ++ [step]) rest

/-- The name of the file that a path leads to, if it does not end in a step upwards. -/
def fileName? (path : String) : Option String :=
  (steps path).getLast?.filter (· != "..")

/-- What follows the last dot of a name, unless that dot is its first character. -/
def extensionOf? (name : List Char) : Option (List Char) :=
  let behind := (name.reverse.takeWhile (· ≠ '.')).reverse
  let before := name.length - behind.length
  if before ≤ 1 then none else some behind

/-- The extension of the file that a path leads to. -/
def extension? (path : String) : Option String :=
  (fileName? path).bind fun name => (extensionOf? name.toList).map String.ofList

end IsisTestbed.Store

namespace IsisTestbed

/-- The formats of configuration files. -/
inductive ConfigFormat where
  | json
  | yaml
  deriving DecidableEq, Repr, Inhabited

/-- The format that the extension of a path tells. -/
def ConfigFormat.ofPath (path : String) : Except ConfigError ConfigFormat :=
  match Store.extension? path with
  | some "json" => .ok .json
  | some "yaml" => .ok .yaml
  | some "yml" => .ok .yaml
  | _ => .error (.unknownFormat path)

end IsisTestbed
