/-!
# Paths

Paths as texts, with slashes between their components.
-/

namespace ResourceTables.Path

/-- The components of a path, with empty ones where slashes meet or stand at an end. -/
def split : List Char → List (List Char)
  | [] => [[]]
  | c :: rest =>
    if c = '/' then [] :: split rest
    else match split rest with
      | piece :: pieces => (c :: piece) :: pieces
      | [] => [[c]]

/-- The components that name something: neither empty nor the directory itself. -/
def components (path : String) : List String :=
  ((split path.toList).map String.ofList).filter fun c => c != "" && c != "."

/-- Whether the path starts at the root. -/
def isAbsolute (path : String) : Bool :=
  path.toList.head? == some '/'

/-- The last component, which is empty when the path ends in a slash. -/
def base (path : String) : String :=
  String.ofList ((split path.toList).getLastD [])

/-- The path `inner` seen from the directory `outer`. -/
def join (outer inner : String) : String :=
  if isAbsolute inner then inner
  else if outer.isEmpty || outer.toList.getLast? == some '/' then outer ++ inner
  else outer ++ "/" ++ inner

/-- The components of a path after those of `before`, with the steps upwards carried out. -/
def follow (before : List String) (steps : List String) : List String :=
  steps.foldl (fun found c => if c = ".." then found.dropLast else found ++ [c]) before

/-- The components from the root of a path that is meant from the directory `here`. -/
def absolute (here : List String) (path : String) : List String :=
  follow (if isAbsolute path then [] else here) (components path)

/-- The two lists without the elements at the start that they share. -/
def dropCommon : List String → List String → List String × List String
  | a :: as, b :: bs => if a = b then dropCommon as bs else (a :: as, b :: bs)
  | as, bs => (as, bs)

/-- How `path` is reached from the directory `start`, both meant from the directory `here`. An
empty path leads nowhere. -/
def relative? (here : List String) (path start : String) : Option String :=
  if path.isEmpty then none
  else
    let (up, down) := dropCommon (absolute here start) (absolute here path)
    match up.map (fun _ => "..") ++ down with
    | [] => some "."
    | steps => some ("/".intercalate steps)

end ResourceTables.Path
