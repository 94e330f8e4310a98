import Stencil.Utility.Lines

/-! # Utilities for files

Utilities that list, make, copy, move and remove files and folders, and those that take
paths apart.
-/

namespace Stencil

open Shell (ByteText)

namespace Utility

/-- The path without slashes at its end. -/
def trimSlashes (path : ByteText) : ByteText :=
  (path.reverse.dropWhile (· == '/')).reverse

def folderName (path : ByteText) : ByteText :=
  let trimmed := trimSlashes path
  match Text.splitLast? '/' trimmed with
  | some (folder, _) =>
    let folder := trimSlashes folder
    if folder.isEmpty then ['/'] else folder
  | none => if trimmed.isEmpty && path.head? = some '/' then ['/'] else ['.']

def lastName (path : ByteText) : ByteText :=
  let trimmed := trimSlashes path
  match Text.splitLast? '/' trimmed with
  | some (_, file) => file
  | none => if trimmed.isEmpty && path.head? = some '/' then ['/'] else trimmed

def joinPath (folder name : ByteText) : ByteText :=
  if folder.getLast? = some '/' then folder ++ name else folder ++ '/' :: name

/-- What is at the end of a path, with its place; a link there is followed if `follows`. -/
def nodeAt (tree : FileTree) (follows : Bool) (path : ByteText) : Except FileError (Place × Node) :=
  match tree.placeOf follows (Work.pathOf path) with
  | .error error => .error error
  | .ok place =>
    match tree.node? place with
    | some node => .ok (place, node)
    | none => .error .notFound

def dirname : Utility := fun arguments => do
  let spec : UtilityOptions := { flags := "z", name := "dirname" }
  let given ← spec.read arguments
  if given.operands.isEmpty then spec.refuse ["missing operand".toList]
  for path in given.operands do
    Work.printLine (folderName path)
  return 0

/-- Prints the last components of paths, without an ending that is given. -/
def basename : Utility := fun arguments => do
  let spec : UtilityOptions :=
    { flags := "az", valued := "s", long := [("multiple", 'a'), ("suffix", 's')], mixes := false
      name := "basename" }
  let given ← spec.read arguments
  let print (ending path : ByteText) : Work Unit := do
    let name := lastName path
    Work.printLine (match Text.dropTail? ending name with
      | some stem => if stem.isEmpty then name else stem
      | none => name)
  match given.operands with
  | [] => spec.refuse ["missing operand".toList]
  | path :: rest =>
    if given.has 'a' || given.has 's' then
      for path in given.operands do
        print ((given.value? 's').getD []) path
    else
      match rest with
      | _ :: extra :: _ => spec.refuse ["extra operand ".toList, quotedName extra]
      | _ => print (rest.headD []) path
    return 0

def pathOfPlace (place : Place) : ByteText :=
  ByteText.ofString ("/" ++ "/".intercalate place)

def pwd : Utility := fun _ => do
  Work.printLine (pathOfPlace (← get).tree.current)
  return 0

/-- The names of options of `ls` that do not matter here. -/
def listFlags : String := "aAlhrtSUdFpR1CxqQNnogisLHGfbBcuvkmX"

def nodeMark (given : Arguments) (node : Option Node) : ByteText :=
  match node with
  | some .folder => if given.has 'F' || given.has 'p' then ['/'] else []
  | some (.link _) => if given.has 'F' then ['@'] else []
  | some (.file file) => if given.has 'F' && file.executable then ['*'] else []
  | some (.program _) => if given.has 'F' then ['*'] else []
  | _ => []

def nodeSize (node : Option Node) : Nat :=
  match node with
  | some (.file file) => file.bytes.size
  | some .folder => 4096
  | some (.link target) => target.utf8ByteSize
  | _ => 0

def nodeMode (node : Option Node) : Nat :=
  match node with
  | some (.link _) => 0o777
  | some (.device _) => 0o666
  | some (.file file) => file.mode
  | _ => 0o755

/-- The kind and the rights of a node as they are shown in front of its name. -/
def nodeRights (node : Option Node) : String :=
  let kind := match node with
    | some .folder => 'd'
    | some (.link _) => 'l'
    | some (.device _) => 'c'
    | _ => '-'
  let mode := nodeMode node
  let letters := "rwxrwxrwx".toList.mapIdx fun i letter =>
    if mode / 2 ^ (8 - i) % 2 = 1 then letter else '-'
  String.ofList (kind :: letters)

def listEntry (given : Arguments) (width : Nat) (place : Place) (name : ByteText) : Work Unit := do
  let node := (← get).tree.node? place
  let shown := name ++ nodeMark given node
  if given.has 'l' then
    let arrow := match node with
      | some (.link target) => " -> ".toList ++ ByteText.ofString target
      | _ => []
    Work.printLine ((nodeRights node).toList ++ " 1 root root ".toList ++
      padNumber width (nodeSize node) ++ " Jan  1 00:00 ".toList ++ shown ++ arrow)
  else if given.has 's' then
    Work.printLine (padNumber 1 ((nodeSize node + 4095) / 4096 * 4) ++ ' ' :: shown)
  else Work.printLine shown

/-- Names in the order that options ask for. -/
def orderNames (given : Arguments) (tree : FileTree) (folder : Place) (names : List String) :
    List String :=
  let names := if given.has 'S' then
      names.mergeSort fun one other =>
        nodeSize (tree.node? (folder ++ [other])) ≤ nodeSize (tree.node? (folder ++ [one]))
    else names
  if given.has 'r' then names.reverse else names

/-- List a folder, and those below it if that is asked for. -/
def listFolder (fuel : Nat) (given : Arguments) (showsName isFirst : Bool) (folder : Place)
    (path : ByteText) : Work Unit := do
  match fuel with
  | 0 => return
  | fuel + 1 =>
    let tree := (← get).tree
    if showsName then
      Work.print ((if isFirst then [] else ['\n']) ++ path ++ ":\n".toList)
    let dots := if given.has 'a' || given.has 'f' then [".", ".."] else []
    let all := (tree.namesIn folder).filter fun name =>
      given.has 'a' || given.has 'A' || given.has 'f' || !name.startsWith "."
    let names := orderNames given tree folder (dots ++ all)
    let width := (names.map fun name =>
      (ByteText.ofNat (nodeSize (tree.node? (folder ++ [name])))).length).foldl max 1
    if given.has 'l' then Work.printLine ("total ".toList ++ ByteText.ofNat (4 * names.length))
    for name in names do
      let place := if name = "." then folder else if name = ".." then folder.dropLast else folder ++ [name]
      listEntry given width place (ByteText.ofString name)
    if given.has 'R' then
      for name in names do
        if tree.isFolder (folder ++ [name]) && name ≠ "." && name ≠ ".." then
          listFolder fuel given true false (folder ++ [name]) (joinPath path (ByteText.ofString name))

def list : Utility := fun arguments => do
  let spec : UtilityOptions :=
    { flags := listFlags, valued := "wIT"
      long := [("all", 'a'), ("almost-all", 'A'), ("reverse", 'r'), ("recursive", 'R'),
        ("directory", 'd'), ("classify", 'F'), ("color", 'G'), ("size", 's')]
      failure := 2, name := "ls" }
  let given ← spec.read arguments
  let paths := if given.operands.isEmpty then [['.']] else
    given.operands.mergeSort ByteText.isAtMost
  let mut files : List (ByteText × Place) := []
  let mut folders : List (ByteText × Place) := []
  let mut status := 0
  for path in paths do
    let tree := (← get).tree
    let place := if given.has 'd' || given.has 'l' then tree.locate (Work.pathOf path)
      else match tree.resolve (Work.pathOf path) with
        | .ok place => if (tree.node? place).isSome then .ok place else tree.locate (Work.pathOf path)
        | .error _ => tree.locate (Work.pathOf path)
    match place with
    | .ok place =>
      match tree.node? place with
      | some .folder =>
        if given.has 'd' then files := (path, place) :: files
        else folders := (path, place) :: folders
      | some _ => files := (path, place) :: files
      | none =>
        Work.complainOf ["cannot access ".toList, quotedName path, ": No such file or directory".toList]
        status := 2
    | .error error =>
      Work.complainOf ["cannot access ".toList, quotedName path, ": ".toList, Work.wording error]
      status := 2
  let inOrder {α : Type} (entries : List α) := if given.has 'r' then entries else entries.reverse
  for (path, place) in inOrder files do
    listEntry given 1 place path
  let showsNames := 1 < paths.length || given.has 'R'
  let mut isFirst := files.isEmpty
  for (path, place) in inOrder folders do
    listFolder 64 given showsNames isFirst place path
    isFirst := false
  return status

def mkdir : Utility := fun arguments => do
  let spec : UtilityOptions :=
    { flags := "pvZ", valued := "m", long := [("parents", 'p'), ("verbose", 'v'), ("mode", 'm')]
      name := "mkdir" }
  let given ← spec.read arguments
  if given.operands.isEmpty then spec.refuse ["missing operand".toList]
  let mut status := 0
  for path in given.operands do
    let tree := (← get).tree
    let made : Except FileError FileTree :=
      if given.has 'p' then tree.createFolders (Work.pathOf path)
      else
        match tree.locate (Work.pathOf (if (trimSlashes path).isEmpty then path else trimSlashes path)) with
        | .error error => .error error
        | .ok place =>
          if (tree.node? place).isSome then .error .alreadyThere else .ok (tree.putFolder place)
    match made with
    | .ok tree =>
      Work.setTree tree
      if given.has 'v' then
        Work.printLine ("mkdir: created directory ".toList ++ quotedName path)
    | .error error =>
      Work.complainOf ["cannot create directory ".toList, quotedName path, ": ".toList, Work.wording error]
      status := 1
  return status

def rmdir : Utility := fun arguments => do
  let spec : UtilityOptions :=
    { flags := "pvE", long := [("parents", 'p'), ("ignore-fail-on-non-empty", 'E'), ("verbose", 'v')]
      name := "rmdir" }
  let given ← spec.read arguments
  if given.operands.isEmpty then spec.refuse ["missing operand".toList]
  let mut status := 0
  for path in given.operands do
    let tree := (← get).tree
    let gone : Except FileError Place :=
      match tree.locate (Work.pathOf path) with
      | .error error => .error error
      | .ok place =>
        match tree.node? place with
        | none => .error .notFound
        | some .folder => if tree.isEmptyFolder place then .ok place else .error .notEmpty
        | some _ => .error .notAFolder
    match gone with
    | .ok place => Work.setTree (tree.remove place)
    | .error error =>
      if !(error = .notEmpty && given.has 'E') then
        Work.complainOf ["failed to remove ".toList, quotedName path, ": ".toList, Work.wording error]
        status := 1
  return status

def rm : Utility := fun arguments => do
  let spec : UtilityOptions :=
    { flags := "rRfivdI", long := [("recursive", 'r'), ("force", 'f'), ("verbose", 'v'), ("dir", 'd')]
      name := "rm" }
  let given ← spec.read arguments
  if given.operands.isEmpty && !given.has 'f' then spec.refuse ["missing operand".toList]
  let mut status := 0
  for path in given.operands do
    let tree := (← get).tree
    let gone : Except FileError Place :=
      match tree.locate (Work.pathOf path) with
      | .error error => .error error
      | .ok place =>
        match tree.node? place with
        | none => .error .notFound
        | some .folder =>
          if given.has 'r' || given.has 'R' then .ok place
          else if given.has 'd' then if tree.isEmptyFolder place then .ok place else .error .notEmpty
          else .error .isAFolder
        | some _ => .ok place
    match gone with
    | .ok place =>
      Work.setTree (tree.remove place)
      if given.has 'v' then Work.printLine ("removed ".toList ++ quotedName path)
    | .error error =>
      if !(given.has 'f' && (error = .notFound || error = .notAFolder)) then
        Work.complainOf ["cannot remove ".toList, quotedName path, ": ".toList, Work.wording error]
        status := 1
  return status

/-- Makes files that are not there. -/
def touch : Utility := fun arguments => do
  let spec : UtilityOptions :=
    { flags := "acmhf", valued := "drt", long := [("no-create", 'c'), ("date", 'd'), ("reference", 'r')]
      name := "touch" }
  let given ← spec.read arguments
  if given.operands.isEmpty then spec.refuse ["missing file operand".toList]
  let mut status := 0
  for path in given.operands do
    let tree := (← get).tree
    match tree.resolve (Work.pathOf path) with
    | .ok place =>
      if (tree.node? place).isNone && !given.has 'c' then
        Work.setTree (tree.writeAt place ByteArray.empty)
    | .error error =>
      if !given.has 'c' then
        Work.complainOf ["cannot touch ".toList, quotedName path, ": ".toList, Work.wording error]
        status := 1
  return status

/-- The sources and the target of copying, moving and linking: an option may name the
    target, which else is the last path. -/
def sourcesAndTarget (spec : UtilityOptions) (given : Arguments) : Work (List ByteText × ByteText) := do
  match given.value? 't' with
  | some target =>
    if given.operands.isEmpty then spec.refuse ["missing file operand".toList]
    return (given.operands, target)
  | none =>
    match given.operands with
    | [] => spec.refuse ["missing file operand".toList]
    | [path] =>
      spec.refuse ["missing destination file operand after ".toList, quotedName path]
    | _ => return (given.operands.dropLast, given.operands.getLastD [])

/-- The paths that sources go to: names in a folder, or the target itself. -/
def goalsOf (given : Arguments) (sources : List ByteText) (target : ByteText) :
    Work (List (ByteText × ByteText)) := do
  let tree := (← get).tree
  let isFolder := match tree.lookup (Work.pathOf target) with
    | .ok (_, .folder) => !given.has 'T'
    | _ => false
  if isFolder then return sources.map fun source => (source, joinPath target (lastName source))
  match sources with
  | [source] =>
    if (given.value? 't').isSome then
      Work.stop 1 ["target directory ".toList, quotedName target, ": No such file or directory".toList]
    return [(source, target)]
  | _ =>
    let reason : FileError := if (tree.lookup (Work.pathOf target)).isOk then .notAFolder else .notFound
    Work.stop 1 ["target ".toList, quotedName target, ": ".toList, Work.wording reason]

/-- Copy what is at a place and below it to another place. -/
def copyBelow (tree : FileTree) (source goal : Place) : FileTree :=
  tree.nodes.foldl (fun copied (place, node) =>
      match source.isPrefixOf? place with
      | some rest => copied.put (goal ++ rest) node
      | none => copied)
    tree

/-- Why something is not copied to a place, if there is a reason. -/
def copyObstacle? (given : Arguments) (source goal : ByteText) (place goalPlace : Place) (node : Node)
    (there : Option Node) : Option (List ByteText) :=
  if node = .folder then
    if !(given.has 'r' || given.has 'R' || given.has 'a') then
      some ["-r not specified; omitting directory ".toList, quotedName source]
    else if there.isSome && there ≠ some .folder then
      some ["cannot overwrite non-directory ".toList, quotedName goal, " with directory ".toList,
        quotedName source]
    else if place.isPrefixOf goalPlace then
      some ["cannot copy a directory, ".toList, quotedName source, ", into itself, ".toList,
        quotedName goal]
    else none
  else if goalPlace = place then
    some [quotedName source, " and ".toList, quotedName goal, " are the same file".toList]
  else if there = some .folder then
    some ["cannot overwrite directory ".toList, quotedName goal, " with non-directory".toList]
  else none

/-- Copy what is no folder to a place where something else may be. -/
def copyNode (keepsRights : Bool) (place : Place) (node : Node) (there : Option Node) : Work Unit := do
  let tree := (← get).tree
  match node, there with
  | .file file, some (.file before) =>
    let mode := if keepsRights then file.mode else before.mode
    Work.setTree (tree.putFile place { file with mode })
  | .file file, none =>
    let mode := if keepsRights then file.mode else tree.freshMode file.mode
    Work.setTree (tree.putFile place { file with mode })
  | .device .null, _ => Work.setTree (tree.putFile place { bytes := ByteArray.empty })
  | .device _, _ =>
    let text ← Work.takeInput
    Work.setTree ((← get).tree.putFile place { bytes := ByteText.toBytes text })
  | .file file, some (.device (.stream number)) =>
    let text := ByteText.ofBytes file.bytes
    if number = 2 then Work.mutter text else Work.print text
  | _, some (.device _) => pure ()
  | node, _ => Work.setTree (tree.put place node)

/-- Copy a file, or a folder with all that is in it; whether that went well. -/
def copyOne (given : Arguments) (source goal : ByteText) : Work Bool := do
  let tree := (← get).tree
  let keepsLinks := given.has 'a' || given.has 'P' || given.has 'd' || given.has 'r' || given.has 'R'
  match nodeAt tree (!keepsLinks) source, tree.resolve (Work.pathOf goal) with
  | .error error, _ =>
    Work.complainOf ["cannot stat ".toList, quotedName source, ": ".toList, Work.wording error]
    return false
  | .ok _, .error error =>
    Work.complainOf
      ["cannot create regular file ".toList, quotedName goal, ": ".toList, Work.wording error]
    return false
  | .ok (place, node), .ok goalPlace =>
    let there := tree.node? goalPlace
    match copyObstacle? given source goal place goalPlace node there with
    | some complaint =>
      Work.complainOf complaint
      return false
    | none =>
      if node = .folder then Work.setTree (copyBelow (tree.putFolder goalPlace) place goalPlace)
      else if !(given.has 'n' && there.isSome) then
        copyNode (given.has 'p' || given.has 'a') goalPlace node there
        if given.has 'v' then Work.printLine (quotedName source ++ " -> ".toList ++ quotedName goal)
      return true

def cp : Utility := fun arguments => do
  let spec : UtilityOptions :=
    { flags := "rRaprfnivTLPdHulsxb", valued := "tS"
      long := [("recursive", 'r'), ("archive", 'a'), ("force", 'f'), ("no-clobber", 'n'),
        ("verbose", 'v'), ("preserve", 'p'), ("target-directory", 't'), ("no-target-directory", 'T')]
      name := "cp" }
  let given ← spec.read arguments
  let (sources, target) ← sourcesAndTarget spec given
  let mut status := 0
  for (source, goal) in ← goalsOf given sources target do
    if !(← copyOne given source goal) then status := 1
  return status

def mv : Utility := fun arguments => do
  let spec : UtilityOptions :=
    { flags := "finvTub", valued := "tS"
      long := [("force", 'f'), ("no-clobber", 'n'), ("verbose", 'v'), ("target-directory", 't')]
      name := "mv" }
  let given ← spec.read arguments
  let (sources, target) ← sourcesAndTarget spec given
  let mut status := 0
  for (source, goal) in ← goalsOf given sources target do
    let tree := (← get).tree
    match nodeAt tree false source with
    | .error error =>
      Work.complainOf ["cannot stat ".toList, quotedName source, ": ".toList, Work.wording error]
      status := 1
    | .ok (place, node) =>
      match tree.locate (Work.pathOf (if node = .folder then trimSlashes goal else goal)) with
      | .error error =>
        Work.complainOf ["cannot move ".toList, quotedName source, " to ".toList, quotedName goal,
          ": ".toList, Work.wording error]
        status := 1
      | .ok goalPlace =>
        let there := tree.node? goalPlace
        if goalPlace = place then
          Work.complainOf [quotedName source, " and ".toList, quotedName goal,
            " are the same file".toList]
          status := 1
        else if node = .folder && place.isPrefixOf goalPlace then
          Work.complainOf ["cannot move ".toList, quotedName source,
            " to a subdirectory of itself, ".toList, quotedName goal]
          status := 1
        else if there = some .folder && node ≠ .folder then
          Work.complainOf ["cannot overwrite directory ".toList, quotedName goal,
            " with non-directory".toList]
          status := 1
        else if there = some .folder && !tree.isEmptyFolder goalPlace then
          Work.complainOf ["cannot move ".toList, quotedName source, " to ".toList, quotedName goal,
            ": Directory not empty".toList]
          status := 1
        else if given.has 'n' && there.isSome then pure ()
        else Work.setTree (tree.move place goalPlace)
  return status

/-- Makes links, which lead to a path with an option and else are copies. -/
def ln : Utility := fun arguments => do
  let spec : UtilityOptions :=
    { flags := "sfnTvrbLPi", valued := "tS"
      long := [("symbolic", 's'), ("force", 'f'), ("no-dereference", 'n'), ("verbose", 'v'),
        ("target-directory", 't')]
      name := "ln" }
  let given ← spec.read arguments
  let (sources, target) ← match given.operands with
    | [source] => pure ([source], if (given.value? 't').isSome then (given.value? 't').getD [] else ['.'])
    | _ => sourcesAndTarget spec given
  let kind := if given.has 's' then "symbolic" else "hard"
  let mut status := 0
  for (source, goal) in ← goalsOf given sources target do
    let tree := (← get).tree
    let node : Except FileError Node :=
      if given.has 's' then .ok (.link (Work.pathOf source))
      else match tree.lookup (Work.pathOf source) with
        | .ok (_, node) => .ok node
        | .error error => .error error
    match node with
    | .error error =>
      Work.complainOf ["failed to access ".toList, quotedName source, ": ".toList, Work.wording error]
      status := 1
    | .ok .folder =>
      Work.complainOf [quotedName source, ": hard link not allowed for directory".toList]
      status := 1
    | .ok node =>
      let fault (error : FileError) : Work Unit :=
        Work.complainOf [("failed to create " ++ kind ++ " link ").toList, quotedName goal,
          ": ".toList, Work.wording error]
      match tree.locate (Work.pathOf goal) with
      | .error error =>
        fault error
        status := 1
      | .ok place =>
        if source.isEmpty && given.has 's' then
          fault .notFound
          status := 1
        else if (tree.node? place).isSome && !given.has 'f' then
          fault .alreadyThere
          status := 1
        else Work.setTree (tree.put place node)
  return status

/-- The rights that letters stand for, for one kind of user. -/
def rightsOf (runs : Bool) (letters : ByteText) : Nat :=
  (if letters.contains 'r' then 4 else 0) + (if letters.contains 'w' then 2 else 0) +
    (if letters.contains 'x' || (letters.contains 'X' && runs) then 1 else 0)

/-- The rights after a clause of a mode. -/
def changeByClause? (mask : Nat) (isFolder : Bool) (before : Nat) (clause : ByteText) : Option Nat :=
  let who := clause.takeWhile fun c => "ugoa".toList.contains c
  match clause.drop who.length with
  | operator :: letters =>
    if !("+-=".toList.contains operator) || letters.any fun c => !("rwxXstugo".toList.contains c)
    then none
    else
      let rights := rightsOf (isFolder || before &&& 0o111 ≠ 0) letters
      let isFor (kind : Char) : Bool := who.isEmpty || who.contains kind || who.contains 'a'
      let spread (value : Nat) : Nat :=
        (if isFor 'u' then value * 64 else 0) + (if isFor 'g' then value * 8 else 0) +
          (if isFor 'o' then value else 0)
      let masked := if who.isEmpty then spread rights &&& (0o777 ^^^ mask) else spread rights
      match operator with
      | '+' => some (before ||| masked)
      | '-' => some (before &&& (0o777 ^^^ masked))
      | _ => some ((before &&& (0o777 ^^^ spread 7)) ||| masked)
  | [] => none

/-- The rights after a change that a text describes; none for a text that is no mode. -/
def changeMode? (mask : Nat) (mode : ByteText) (isFolder : Bool) (before : Nat) : Option Nat :=
  if !mode.isEmpty && mode.all fun c => '0' ≤ c && c ≤ '7' then
    let value := mode.foldl (fun value c => value * 8 + (c.toNat - '0'.toNat)) 0
    if value < 4096 then some (value % 512) else none
  else (Text.splitAll ',' mode).foldlM (changeByClause? mask isFolder) before

def chmod : Utility := fun arguments => do
  let spec : UtilityOptions :=
    { flags := "Rcfv", long := [("recursive", 'R'), ("changes", 'c'), ("silent", 'f'), ("verbose", 'v')]
      name := "chmod" }
  let isMode (word : ByteText) := match word with
    | '-' :: rest => !rest.isEmpty && rest.all fun c => "rwxX".toList.contains c
    | _ => false
  let given ← spec.read (arguments.filter fun word => !isMode word)
  let operands := (arguments.filter isMode) ++ given.operands
  match operands with
  | [] => spec.refuse ["missing operand".toList]
  | [mode] => spec.refuse ["missing operand after ".toList, quotedName mode]
  | mode :: paths =>
    let mask := (← get).tree.mask
    if (changeMode? mask mode false 0).isNone then
      spec.refuse ["invalid mode: ".toList, quotedName mode]
    let mut status := 0
    for path in paths do
      let tree := (← get).tree
      match tree.lookup (Work.pathOf path) with
      | .ok (place, .file file) =>
        let changed := (changeMode? mask mode false file.mode).getD file.mode
        Work.setTree (tree.putFile place { file with mode := changed })
      | .ok _ => pure ()
      | .error error =>
        if !given.has 'f' then
          Work.complainOf ["cannot access ".toList, quotedName path, ": ".toList, Work.wording error]
        status := 1
    return status

/-- Does nothing but look whether its files are there. -/
def changeOwner : Utility := fun arguments => do
  let operands := arguments.filter fun word => word.head? ≠ some '-'
  let mut status := 0
  for path in operands.drop 1 do
    match (← get).tree.lookup (Work.pathOf path) with
    | .ok _ => pure ()
    | .error error =>
      Work.complainOf ["cannot access ".toList, quotedName path, ": ".toList, Work.wording error]
      status := 1
  return status

def readlink : Utility := fun arguments => do
  let spec : UtilityOptions :=
    { flags := "femnqsvz", long := [("canonicalize", 'f'), ("canonicalize-existing", 'e'),
        ("canonicalize-missing", 'm'), ("no-newline", 'n')]
      name := "readlink" }
  let given ← spec.read arguments
  if given.operands.isEmpty then spec.refuse ["missing operand".toList]
  let mut status := 0
  for path in given.operands do
    let tree := (← get).tree
    let found : Option ByteText :=
      if given.has 'f' || given.has 'e' || given.has 'm' then
        match tree.resolve (Work.pathOf path) with
        | .ok place =>
          if given.has 'e' && (tree.node? place).isNone then none else some (pathOfPlace place)
        | .error _ => none
      else match tree.locate (Work.pathOf path) with
        | .ok place => match tree.node? place with
          | some (.link target) => some (ByteText.ofString target)
          | _ => none
        | .error _ => none
    match found with
    | some text => if given.has 'n' then Work.print text else Work.printLine text
    | none => status := 1
  return status

/-- Prints paths without links and dots. -/
def realpath : Utility := fun arguments => do
  let spec : UtilityOptions :=
    { flags := "emqszLP", long := [("canonicalize-existing", 'e'), ("canonicalize-missing", 'm'), ("quiet", 'q')]
      name := "realpath" }
  let given ← spec.read arguments
  if given.operands.isEmpty then spec.refuse ["missing operand".toList]
  let mut status := 0
  for path in given.operands do
    let tree := (← get).tree
    let found : Except FileError Place := match tree.resolve (Work.pathOf path) with
      | .ok place => if given.has 'e' && (tree.node? place).isNone then .error .notFound else .ok place
      | .error error => .error error
    match found with
    | .ok place => Work.printLine (pathOfPlace place)
    | .error error =>
      if !given.has 'q' then Work.complainOf (Work.plainComplaint path error)
      status := 1
  return status

/-- A format of `stat` with what it says of a node. -/
def describe (path : ByteText) (node : Node) : (format : ByteText) → ByteText
  | '%' :: letter :: rest =>
    let told : ByteText := match letter with
      | 'n' => path
      | 'N' => quotedName path
      | 's' => ByteText.ofNat (nodeSize (some node))
      | 'F' => match node with
        | .folder => "directory".toList
        | .link _ => "symbolic link".toList
        | .device _ => "character special file".toList
        | .program _ => "regular file".toList
        | .file file =>
          if file.bytes.size = 0 then "regular empty file".toList else "regular file".toList
      | 'a' => Nat.toDigits 8 (nodeMode (some node))
      | 'A' => (nodeRights (some node)).toList
      | 'u' | 'g' => ['0']
      | 'U' | 'G' => "root".toList
      | 'h' => ['1']
      | '%' => ['%']
      | c => ['?', c]
    told ++ describe path node rest
  | c :: rest => c :: describe path node rest
  | [] => []

/-- Prints what is known of files. -/
def stat : Utility := fun arguments => do
  let spec : UtilityOptions :=
    { flags := "Lft", valued := "cp", long := [("format", 'c'), ("printf", 'p'), ("dereference", 'L')]
      name := "stat" }
  let given ← spec.read arguments
  if given.operands.isEmpty then spec.refuse ["missing operand".toList]
  let mut status := 0
  for path in given.operands do
    let tree := (← get).tree
    match nodeAt tree (given.has 'L') path with
    | .error error =>
      Work.complainOf ["cannot statx ".toList, quotedName path, ": ".toList, Work.wording error]
      status := 1
    | .ok (_, node) =>
      match given.value? 'p', given.value? 'c' with
      | some format, _ =>
        let text := describe path node format
        Work.print (unescape (text.length + 1) text).1
      | none, format => Work.printLine (describe path node (format.getD "%n".toList))
  return status

/-- Makes a file or a folder with a name of its own. -/
def mktemp : Utility := fun arguments => do
  let spec : UtilityOptions :=
    { flags := "dqut", valued := "p", long := [("directory", 'd'), ("tmpdir", 'p'), ("dry-run", 'u')]
      name := "mktemp" }
  let given ← spec.read arguments
  let template := given.operands.headD "tmp.XXXXXXXXXX".toList
  let marks := (template.reverse.takeWhile (· == 'X')).length
  if marks < 3 then
    Work.stop 1 ["too few X's in template ".toList, quotedName template]
  let folder := if given.operands.isEmpty || (given.value? 'p').isSome || given.has 't' then
      some ((given.value? 'p').getD "/tmp".toList)
    else none
  let stem := template.take (template.length - marks)
  let number := (← get).tree.nodes.length
  let digits := ByteText.ofNat number
  let name := stem ++ List.replicate (marks - digits.length) '0' ++ digits.take marks
  let path := folder.elim name fun folder => joinPath folder name
  let tree := (← get).tree
  match tree.locate (Work.pathOf path) with
  | .error error =>
    Work.stop 1 ["failed to create file via template ".toList, quotedName template, ": ".toList,
      Work.wording error]
  | .ok place =>
    if !given.has 'u' then
      Work.setTree (if given.has 'd' then tree.putFolder place
        else tree.putFile place { bytes := ByteArray.empty })
    Work.printLine path
    return 0

namespace BlockCopy

variable (arguments : List ByteText)

def value? (name : String) : Option ByteText :=
  arguments.findSome? fun word => Text.dropLead? (name ++ "=").toList word

def refuseUnknown : Work Unit := do
  for word in arguments do
    if !word.contains '=' then
      Work.complainOf ["unrecognized operand ".toList, quotedName word]
      Work.mutter "Try 'dd --help' for more information.\n".toList
      throw 1

def number (name : String) (usual : Nat) : Work Nat := do
  match value? arguments name with
  | none => return usual
  | some text =>
    match count? (text.map fun c => if c = 'w' then 'b' else c) with
    | some number => return number
    | none => Work.stop 1 ["invalid number: ".toList, quotedName text]

def failure (name : ByteText) (error : FileError) : List ByteText :=
  ["failed to open ".toList, quotedName name, ": ".toList, Work.wording error]

def readInput (limit : Nat) : Work ByteText := do
  match value? arguments "if" with
  | none => Work.takeInput
  | some name =>
    match ← Work.readAtMost limit name with
    | .ok text => return text
    | .error error => Work.stop 1 (failure name error)

def conversions : List ByteText :=
  (value? arguments "conv").elim [] (Text.splitAll ',')

def convert (text : ByteText) : ByteText :=
  if (conversions arguments).contains "ucase".toList then text.map Char.toUpper
  else if (conversions arguments).contains "lcase".toList then text.map Char.toLower
  else text

/-- Print a text, or put it into a file behind a number of bytes. -/
def deliver (start : Nat) (text : ByteText) : Work Unit := do
  match value? arguments "of" with
  | none => Work.print text
  | some name =>
    let before ← match (← get).tree.read (Work.pathOf name) with
      | .ok bytes => pure (ByteText.ofBytes bytes)
      | .error _ => pure []
    let lead := before.take start ++ List.replicate (start - before.length) '\x00'
    let keeps := (conversions arguments).contains "notrunc".toList
    let rest := if keeps then before.drop (start + text.length) else []
    let whole := if start = 0 && !keeps then text else lead ++ text ++ rest
    match ← Work.write name false whole with
    | .ok () => pure ()
    | .error error => Work.stop 1 (failure name error)

/-- Tell how many blocks and bytes were copied. -/
def report (block : Nat) (text : ByteText) : Work Unit := do
  let part := if text.length % block = 0 then 0 else 1
  let records := ByteText.ofNat (text.length / block) ++ '+' :: ByteText.ofNat part
  match (value? arguments "status").map String.ofList with
  | some "none" => pure ()
  | mode =>
    Work.mutter (records ++ " records in\n".toList ++ records ++ " records out\n".toList)
    if mode ≠ some "noxfer" then
      Work.mutter (ByteText.ofNat text.length ++
        (if text.length = 1 then " byte copied, 0 s, 0 B/s\n" else " bytes copied, 0 s, 0 B/s\n").toList)

end BlockCopy

section

open BlockCopy

def dd : Utility := fun arguments => do
  refuseUnknown arguments
  let block ← number arguments "bs" (← number arguments "ibs" 512)
  let skipped ← number arguments "skip" 0
  let sought ← number arguments "seek" 0
  let count ← match value? arguments "count" with
    | some _ => do pure (some (← number arguments "count" 0))
    | none => pure none
  let limit := match count with
    | some count => (skipped + count) * block
    | none => Work.zerosRead
  let input ← readInput arguments limit
  let text := input.drop (skipped * block)
  let text := match count with
    | some count => text.take (count * block)
    | none => text
  let text := convert arguments text
  deliver arguments (sought * block) text
  report arguments block text
  return 0

end

def truncate : Utility := fun arguments => do
  let spec : UtilityOptions :=
    { flags := "co", valued := "sr", long := [("size", 's'), ("no-create", 'c'), ("reference", 'r')]
      name := "truncate" }
  let given ← spec.read arguments
  let some size := given.value? 's'
    | spec.refuse ["you must specify either '--size' or '--reference'".toList]
  if given.operands.isEmpty then spec.refuse ["missing file operand".toList]
  let (sign, digits) := match size with
    | c :: rest => if "+-<>".toList.contains c then (some c, rest) else (none, size)
    | [] => (none, [])
  let some number := count? digits
    | Work.stop 1 ["Invalid number: ".toList, quotedName size]
  let mut status := 0
  for name in given.operands do
    let before ← match (← get).tree.read (Work.pathOf name) with
      | .ok bytes => pure (ByteText.ofBytes bytes)
      | .error _ => pure []
    let length := match sign with
      | some '+' => before.length + number
      | some '-' => before.length - number
      | some '<' => min before.length number
      | some '>' => max before.length number
      | _ => number
    match ← Work.write name false (before.take length ++ List.replicate (length - before.length) '\x00') with
    | .ok () => pure ()
    | .error error =>
      Work.complainOf ["cannot open ".toList, quotedName name, " for writing: ".toList, Work.wording error]
      status := 1
  return status

/-- The number of the first byte in which texts differ, from one, if there is one in both. -/
def firstDifference? (fuel : Nat) (one other : ByteText) (number : Nat) : Option Nat :=
  match fuel, one, other with
  | fuel + 1, c :: rest, d :: rest' =>
    if c = d then firstDifference? fuel rest rest' (number + 1) else some number
  | _, _, _ => none

/-- Tells whether two files are the same. -/
def cmp : Utility := fun arguments => do
  let spec : UtilityOptions :=
    { flags := "slb", valued := "n", long := [("silent", 's'), ("quiet", 's'), ("verbose", 'l'), ("bytes", 'n')]
      failure := 2, name := "cmp" }
  let given ← spec.read arguments
  match given.operands with
  | one :: rest =>
    let other := rest.headD ['-']
    let (texts, status) ← Work.readAll [one, other] Work.plainComplaint
    match texts with
    | [(_, text), (_, text')] =>
      let limit := (given.value? 'n').bind Text.decimal?
      let cutText (text : ByteText) := limit.elim text text.take
      let (text, text') := (cutText text, cutText text')
      if text = text' then return 0
      if given.has 's' then return 1
      if given.has 'l' then
        for (i, c, d) in (text.zip text').mapIdx fun i (c, d) => (i, c, d) do
          if c ≠ d then
            let octal (c : Char) := ({ width := 3 } : Directive).layUnsigned 'o' c.toNat
            Work.printLine (ByteText.ofNat (i + 1) ++ ' ' :: octal c ++ ' ' :: octal d)
        if text.length = text'.length then return 1
      match firstDifference? text.length text text' 1 with
      | some number =>
        let line := (text.take (number - 1)).count '\n' + 1
        Work.printLine (one ++ ' ' :: other ++ " differ: char ".toList ++ ByteText.ofNat number ++
          ", line ".toList ++ ByteText.ofNat line)
      | none =>
        let (shorter, content) := if text.length < text'.length then (one, text) else (other, text')
        if content.isEmpty then
          Work.complainOf ["EOF on ".toList, shorter, " which is empty".toList]
        else
          let lines := content.count '\n'
          let inLine := if content.getLast? = some '\n' then ", line ".toList ++ ByteText.ofNat lines
            else ", in line ".toList ++ ByteText.ofNat (lines + 1)
          Work.complainOf ["EOF on ".toList, shorter, " after byte ".toList,
            ByteText.ofNat content.length, inLine]
      return 1
    | _ => return if status = 0 then 2 else 2
  | [] => spec.refuse ["missing operand after 'cmp'".toList]

end Utility

end Stencil
