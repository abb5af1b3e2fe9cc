import SecurityRules.Files.Path

/-!
# File trees

The files and directories that are known, by their names from the current
directory. The directories above it are there as well, but nothing is known
about what else they hold. They have the names of the path of the current
directory, so a path can lead out of the current directory and back into it.

Writing never makes a directory: the directory that a file is to stand in has
to be there.
-/

namespace SecurityRules

/-- What a path can lead to. -/
inductive Node where
  | file (bytes : Bytes)
  | directory
  deriving DecidableEq, Repr

/-- A place, by the shortest way that leads to it from the current directory:
first the steps up, then the names down. -/
abbrev Location := List Text

/-- The names from the root to the current directory. -/
abbrev Home := List Text

/-- Some directory below the root. No path has an empty name in it, so none
leads back here. -/
def Home.somewhere : Home := [[]]

namespace Location

def stepUp : Text := ".."

/-- Whether a place is the current directory or one above it. -/
def isAbove (names : Location) : Bool :=
  names.all (· = stepUp)

/-- Whether a place is below the current directory. -/
def isBelow (names : Location) : Bool :=
  match names.head? with
  | none => false
  | some name => name ≠ stepUp

/-- The root directory. -/
def root (home : Home) : Location :=
  List.replicate home.length stepUp

/-- One step up. The root has nothing above it. -/
def parent (home : Home) (names : Location) : Location :=
  if !isAbove names then names.dropLast
  else if names.length < home.length then names ++ [stepUp]
  else names

/-- One step down. From above the current directory, the right name is a step
back towards it. -/
def child (home : Home) (names : Location) (name : Text) : Location :=
  if names ≠ [] && isAbove names && home[home.length - names.length]? = some name then names.tail
  else names ++ [name]

end Location

/-- The known nodes by their places. -/
abbrev FileTree := List (Location × Node)

/-- Why a file was not written. -/
inductive WriteFault where
  | path (fault : PathFault)
  | isDirectory
  | nullCharacter
  /-- Lone surrogate halves in the path or in the content. -/
  | loneHalves (halves : Utf8.LoneHalves)

def WriteFault.message (path : Path) : WriteFault → Text
  | .path fault => fault.message path
  | isDirectory => "[Errno 21] Is a directory: " ++ path.text.quoted
  | nullCharacter => "embedded null byte"
  | loneHalves halves => halves.message

namespace FileTree

/-- The node at a place. -/
def node? (tree : FileTree) (names : Location) : Option Node :=
  if names.isAbove then some .directory
  else (tree.find? (·.1 = names)).map (·.2)

/-- Follows names from a place. All but the last have to lead to directories,
and a name that is looked up in a directory has to be short enough. -/
def follow (tree : FileTree) (home : Home) (start : Location) :
    List Text → Except PathFault Location
  | [] => .ok start
  | name :: names =>
      match tree.node? start with
      | none => .error .missing
      | some (.file _) => .error .notDirectory
      | some .directory =>
          if name = Location.stepUp then follow tree home (start.parent home) names
          else if Path.maxNameSize < Path.size name then .error .tooLong
          else follow tree home (start.child home name) names

/-- From above the current directory its own names lead back to it. -/
theorem follow_back (tree : FileTree) {front back : Home}
    (h : ∀ name ∈ back, name ≠ Location.stepUp ∧ Path.size name ≤ Path.maxNameSize)
    (names : List Text) :
    tree.follow (front ++ back) (List.replicate back.length Location.stepUp) (back ++ names)
      = tree.follow (front ++ back) [] names := by
  induction back generalizing front with
  | nil => rfl
  | cons name back ih =>
      have hname := h name List.mem_cons_self
      have habove : Location.isAbove (List.replicate (back.length + 1) Location.stepUp) = true := by
        simp [Location.isAbove]
      have hnode : tree.node? (List.replicate (back.length + 1) Location.stepUp)
          = some .directory := if_pos habove
      have hchild : Location.child (front ++ name :: back)
          (List.replicate (back.length + 1) Location.stepUp) name
          = List.replicate back.length Location.stepUp := by
        rw [Location.child, if_pos]
        · rfl
        · simp [habove]
      have hback := @ih (front ++ [name]) fun other hother =>
        h other (List.mem_cons_of_mem name hother)
      rw [List.append_assoc, List.singleton_append] at hback
      rw [List.cons_append, List.length_cons, follow, hnode]
      simp only [if_neg hname.1, if_neg (Nat.not_lt.mpr hname.2), hchild]
      exact hback

/-- The place that a path leads to. -/
def locate (tree : FileTree) (home : Home) (path : Path) : Except PathFault Location :=
  if Path.maxSize < Path.size path.text then .error .tooLong
  else follow tree home (if path.root = [] then [] else Location.root home) path.parts

/-- An absolute path through the current directory leads where the rest of it leads
from there. -/
theorem locate_through_home (tree : FileTree) {home : Home}
    (h : ∀ name ∈ home, name ≠ Location.stepUp ∧ Path.size name ≤ Path.maxNameSize)
    {path inner : Path} (hpath : path.root ≠ []) (hinner : inner.root = [])
    (hparts : path.parts = home ++ inner.parts) (hsize : Path.size path.text ≤ Path.maxSize)
    (hinnerSize : Path.size inner.text ≤ Path.maxSize) :
    tree.locate home path = tree.locate home inner := by
  rw [locate, if_neg (Nat.not_lt.mpr hsize), if_neg hpath, hparts, locate,
    if_neg (Nat.not_lt.mpr hinnerSize), if_pos hinner]
  exact @follow_back tree [] home h inner.parts

/-- What a path leads to. -/
def look (tree : FileTree) (path : Path) (home : Home := .somewhere) : Except PathFault Node :=
  if path.text.holds '\x00' || (Path.strayHalves? 0 path.text).isSome then .error .missing
  else
    match tree.locate home path with
    | .error fault => .error fault
    | .ok names =>
        match tree.node? names with
        | some node => .ok node
        | none => .error .missing

example : look [(["s"], .directory)] (.ofText "/a/b/s") ["a", "b"] = .ok .directory := rfl

example : look [(["s"], .directory)] (.ofText "../b/s") ["a", "b"] = .ok .directory := rfl

/-- Gives the node at a place new content, or adds it. -/
def set (names : Location) (node : Node) : FileTree → FileTree
  | [] => [(names, node)]
  | (other, old) :: rest =>
      if other = names then (other, node) :: rest else (other, old) :: set names node rest

/-- Where a path says that a file is to be written. -/
def target (tree : FileTree) (home : Home) (path : Path) : Except WriteFault Location :=
  match Path.strayHalves? 0 path.text with
  | some halves => .error (.loneHalves halves)
  | none =>
      if path.text.holds '\x00' then .error .nullCharacter
      else
        match tree.locate home path with
        | .error fault => .error (.path fault)
        | .ok names =>
            match tree.node? names with
            | some .directory => .error .isDirectory
            | _ => .ok names

/-- Writes a text to a file. A text that has no bytes leaves the file empty. -/
def write (tree : FileTree) (home : Home) (path : Path) (content : Text) :
    Except WriteFault Unit × FileTree :=
  match tree.target home path with
  | .error fault => (.error fault, tree)
  | .ok names =>
      match Utf8.encode content with
      | .ok bytes => (.ok (), tree.set names (.file bytes))
      | .error halves => (.error (.loneHalves halves), tree.set names (.file []))

/-- Adds a node together with the directories above it. -/
def add (tree : FileTree) (path : Path) (node : Node) : FileTree :=
  let withParents := (List.range path.parts.length).foldl
    (fun (tree : FileTree) i =>
      let above := path.parts.take i
      if (tree.node? above).isSome then tree else tree.set above .directory) tree
  if path.parts = [] then withParents else withParents.set path.parts node

end FileTree

end SecurityRules
