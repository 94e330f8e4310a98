import Stencil.Shell.Run

/-! # Running programs

A program is launched by its path, or by a name that is looked for in some folders, over the
files of a tree and in surroundings that every computer has: the usual programs, devices and
folders. It reads nothing, and what it prints is collected.
-/

namespace Stencil.Shell

/-- What a program leaves behind. -/
structure ProgramRun where
  ending : Ending
  output : ByteArray
  error : ByteArray
  /-- The files, among them those of the surroundings. -/
  tree : FileTree
  /-- The milliseconds until nothing is printed any more. -/
  elapsed : Nat

/-- Why there is nothing that a program leaves behind. -/
inductive LaunchFailure where
  | launch (error : LaunchError)
  /-- The program does not end. -/
  | endless
  deriving Repr, DecidableEq

/-! ## Surroundings -/

namespace Surroundings

def programNames : List String :=
  Utility.catalog.map Prod.fst ++ Launch.carriers.map Prod.fst

/-- The folders that are there in any case. -/
def folders : List Place :=
  [["dev"], ["etc"], ["home"], ["root"], ["tmp"], ["usr"], ["usr", "bin"], ["usr", "sbin"],
   ["usr", "lib"], ["usr", "local"], ["usr", "local", "bin"], ["usr", "local", "sbin"], ["var"],
   ["var", "tmp"], ["proc"], ["opt"], ["dev", "fd"]]

/-- The links that are there in any case. -/
def links : List (Place × String) :=
  [(["bin"], "usr/bin"), (["sbin"], "usr/sbin"), (["lib"], "usr/lib")]

def devices : List (Place × Device) :=
  [(["dev", "null"], .null), (["dev", "zero"], .zero), (["dev", "full"], .full),
   (["dev", "tty"], .terminal), (["dev", "stdin"], .stream 0), (["dev", "stdout"], .stream 1),
   (["dev", "stderr"], .stream 2)] ++
    (List.range 10).map fun number => (["dev", "fd", toString number], .stream number)

/-- The files that are there in any case. -/
def files : List (Place × String) :=
  [(["etc", "passwd"], "root:x:0:0:root:/root:/bin/bash\n"), (["etc", "group"], "root:x:0:\n"),
   (["etc", "hostname"], "localhost\n"), (["etc", "hosts"], "127.0.0.1\tlocalhost\n")]

/-- What is there in any case. -/
def nodes : List (Place × Node) :=
  folders.map (fun place => (place, .folder)) ++
  links.map (fun (place, target) => (place, .link target)) ++
  devices.map (fun (place, device) => (place, .device device)) ++
  files.map (fun (place, text) => (place, .file { bytes := text.toUTF8 })) ++
  programNames.map fun name => (["usr", "bin", name], .program name)

/-- The place in a tree in which there are the usual links, for a place of a tree in which
    there are none. -/
def placeWithLinks (place : Place) : Place :=
  match place with
  | first :: rest =>
    if ["bin", "sbin", "lib"].contains first then "usr" :: first :: rest else place
  | [] => []

/-- A tree in the usual surroundings. What the tree has comes first. -/
def around (tree : FileTree) : FileTree :=
  let moved := tree.nodes.filterMap fun (place, node) =>
    if (links.lookup place).isSome then none else some (placeWithLinks place, node)
  { tree with nodes := moved ++ nodes.filter fun (place, _) => (moved.lookup place).isNone }

/-- A tree without the usual surroundings, unless they were there before. -/
def without (before tree : FileTree) : FileTree :=
  let isUsual (entry : Place × Node) : Bool :=
    nodes.contains entry && (before.nodes.lookup entry.1).isNone
  { tree with nodes := tree.nodes.filter fun entry => !isUsual entry }

/-- The values of variables if nothing else is told. -/
def bindings : List (String × String) :=
  [("PATH", "/usr/local/sbin:/usr/local/bin:/usr/sbin:/usr/bin:/sbin:/bin"), ("HOME", "/root")]

/-- The variables that a program gets. -/
def inherited (environment : String → Option String) (name : ByteText) : Option ByteText :=
  let name := ByteText.toString name
  match environment name with
  | some value => some (ByteText.ofString value)
  | none => (bindings.lookup name).map String.toList

end Surroundings

def mostSteps : Nat := 4000000

def mostDepth : Nat := 12000

/-- Launch a program with arguments, and run it to its end. -/
def launch (environment : String → Option String) (tree : FileTree) (program : String)
    (arguments : List String) : Except LaunchFailure ProgramRun :=
  let files := Surroundings.around tree
  let inherited := Surroundings.inherited environment
  let words := (program :: arguments).map ByteText.ofString
  let path := (inherited "PATH".toList).getD []
  match Launch.callOf files path words with
  | .error error => .error (.launch error)
  | .ok call =>
    let own : Setting :=
      { process := 1, name := words.headD [], arguments := [], inherited
        streams := [(0, .device .null), (1, .sink 0), (2, .sink 1)] }
    let world : World :=
      { tree := files, sinks := #[ByteArray.empty, ByteArray.empty], budget := mostSteps }
    let body : Action (Ending × Nat) := do
      let ending ← Launch.inProcess 1 (Launch.perform (Run.engine mostDepth) call)
      Action.waitForAll 2
      return (ending, (← Action.world).elapsed)
    match body { world, own } with
    | .ok (ending, elapsed) shell =>
      let sinks := shell.world.sinks
      .ok { ending, elapsed
            output := sinks[0]?.getD ByteArray.empty, error := sinks[1]?.getD ByteArray.empty
            tree := { shell.world.tree with current := tree.current, mask := tree.mask } }
    | .error _ _ => .error .endless

end Stencil.Shell
