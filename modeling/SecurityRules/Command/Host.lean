import SecurityRules.Console.Basic
import SecurityRules.Files.Tree
import SecurityRules.Stack

/-!
# Hosts

What a run of the program depends on besides its arguments and the files: the
directory that it is started in, the console it prints on, and the room it has
for nested values. A directory alone stands for a host on which everything can
be shown and read.
-/

namespace SecurityRules

structure Host where
  /-- The path of the current directory, as messages show it. -/
  directory : Text
  console : Console := {}
  stack : Stack := {}

instance : Coe Text Host := ⟨fun directory => { directory }⟩

/-- The names from the root to the current directory. -/
def Host.home (host : Host) : Home :=
  (Path.ofText host.directory).parts

end SecurityRules
