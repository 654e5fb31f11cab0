import EditorBridge.Utility.Basic

/-!
# Programs about files

Making, removing, copying, moving and listing files and directories, and taking paths apart.
-/
namespace EditorBridge.Utility

open Host Act

/-- The files, and the directory from which paths start. -/
def surroundings : Act (FileTree × Location) := do
  return ((← machine).files, (← task).directory)

def setFiles (files : FileTree) : Act Unit :=
  modifyMachine fun machine => { machine with files }

def changeFiles (change : FileTree → Location → Path → FileTree.Changed) (path : Raw) :
    Act (Except SystemError Unit) := do
  let (files, directory) ← surroundings
  let (files, result) := change files directory (Raw.toBytes path)
  setFiles files
  return result

def entryOf (path : Raw) : Act (Except SystemError (Location × Entry)) := do
  let (files, directory) ← surroundings
  return match files.find directory (Raw.toBytes path) with
    | .ok (location, .file content executable) =>
        if path.getLast? = some '/' then .error .notDirectory
        else .ok (location, .file content executable)
    | found => found

def isDirectory (path : Raw) : Act Bool := do
  let (files, directory) ← surroundings
  return files.isDirectory directory (Raw.toBytes path)

/-- A path without slashes at its end, unless it is nothing else. -/
def withoutSlashes (path : Raw) : Raw :=
  match path.reverse.dropWhile (· = '/') with
  | [] => path.take 1
  | reversed => reversed.reverse

def lastName (path : Raw) : Raw :=
  ((withoutSlashes path).reverse.takeWhile (· ≠ '/')).reverse

def below (directory name : Raw) : Raw :=
  if directory.getLast? = some '/' then directory ++ name else directory ++ '/' :: name

/-- Do something with each operand, and give the worst status. -/
def forOperands (operands : List Raw) (action : Raw → Act Nat) : Act Nat := do
  let mut status := 0
  for operand in operands do
    status := max status (← action operand)
  return status

/-- Complain that something cannot be done, and give the status of failure. -/
def cannot (what : String) (path : Raw) (error : SystemError) : Act Nat := do
  complainOf (what.toList ++ Quoting.shown path) error
  return 1

/-- Ask, and tell whether the answer is yes. -/
def agrees (question : Raw) : Act Bool := do
  write 2 ((← task).name ++ ": ".toList ++ question ++ "? ".toList)
  let rec answer : Nat → Raw → Act Raw
    | 0, line => return line
    | rounds + 1, line => do
        match ← readFrom 0 1 with
        | .ok [c] => if c = '\n' then return line else answer rounds (line ++ [c])
        | _ => return line
  let line ← answer 65536 []
  return line.head? = some 'y' || line.head? = some 'Y'

/-- The paths of a directory and of those above it, the longest last. -/
def pathsTo (path : Raw) : List Raw :=
  ((List.range (path.length + 1)).drop 1).filterMap fun n =>
    let isEnd := n = path.length
    let isBorder := path[n]? = some '/' && path[n - 1]? ≠ some '/'
    if isEnd || isBorder then some (path.take n) else none

def makeDirectory (verbose : Bool) (path : Raw) : Act Nat := do
  match ← changeFiles FileTree.makeDirectory path with
  | .ok () => do
      if verbose then
        putLine ((← task).name ++ ": created directory ".toList ++ Quoting.shown path)
      return 0
  | .error error => cannot "cannot create directory " path error

def makeDirectories (verbose : Bool) (whole : Raw) : List Raw → Act Nat
  | [] => return 0
  | path :: rest => do
      if ← isDirectory path then makeDirectories verbose whole rest
      else
        match ← entryOf path with
        | .ok _ =>
            if rest.isEmpty then cannot "cannot create directory " path .alreadyThere
            else cannot "cannot create directory " path .notDirectory
        | .error _ => do
            let status ← makeDirectory verbose path
            if status ≠ 0 then return status
            makeDirectories verbose whole rest

/-- Whether a text is a way to write permissions. -/
def isMode (text : Raw) : Bool :=
  let isOctal (text : Raw) : Bool :=
    text ≠ [] && text.length ≤ 5 && text.all fun c => '0' ≤ c && c ≤ '7'
  let isClause (clause : Raw) : Bool :=
    let actions := clause.dropWhile "ugoa".toList.contains
    actions.head?.any "+-=".toList.contains && actions.all "+-=rwxXstugo".toList.contains
  isOctal text || (text ≠ [] && (Raw.splitOn ',' text).all isClause)

def mkdir : Utility := fun arguments => do
  let options ← optionsOf (table "pm:vZ" [("parents", .none, 'p'), ("mode", .required, 'm'),
    ("verbose", .none, 'v')]) arguments
  if options.operands.isEmpty then missingOperand []
  match options.value? 'm' with
  | some mode =>
      if !isMode mode then giveUp ("invalid mode ".toList ++ Quoting.shown mode)
  | none => pure ()
  let verbose := options.has 'v'
  forOperands options.operands fun path =>
    if options.has 'p' && path ≠ [] then makeDirectories verbose path (pathsTo path)
    else makeDirectory verbose path

def removeEmpty (path : Raw) : Act (Except SystemError Unit) := do
  if lastName path = ['.'] then return .error (.number 22)
  match ← entryOf path with
  | .error error => return .error error
  | .ok (_, .file _ _) => return .error .notDirectory
  | .ok (location, .directory) => do
      let files := (← machine).files
      if location = [] then return .error (.number 16)
      else if !(files.namesBelow location).isEmpty then return .error (.number 39)
      else
        setFiles (files.remove location)
        return .ok ()

/-- Remove directories that are empty. -/
def rmdir : Utility := fun arguments => do
  let options ← optionsOf (table "pv" [("parents", .none, 'p'), ("verbose", .none, 'v'),
    ("ignore-fail-on-non-empty", .none, 'i')]) arguments
  if options.operands.isEmpty then missingOperand []
  let remove (what : String) (path : Raw) : Act (Nat × Bool) := do
    if options.has 'v' then
      putLine ((← task).name ++ ": removing directory, ".toList ++ Quoting.shown path)
    match ← removeEmpty path with
    | .ok () => return (0, true)
    | .error error =>
        if error = .number 39 && options.has 'i' then return (0, false)
        else return (← cannot what path error, false)
  let rec removeParents : List Raw → Act Nat
    | [] => return 0
    | path :: rest => do
        let (status, goesOn) ← remove "failed to remove directory " path
        if goesOn then removeParents rest else return status
  forOperands options.operands fun path => do
    let (status, goesOn) ← remove "failed to remove " path
    if goesOn && options.has 'p' then
      removeParents (pathsTo (withoutSlashes path)).dropLast.reverse
    else return status

structure Removal where
  force : Bool
  recursive : Bool
  directories : Bool
  verbose : Bool
  asks : Bool

/-- Remove a file, or a directory with all that is in it; the fuel exceeds the depth. -/
def removePath (removal : Removal) : Nat → Raw → Act Nat
  | 0, _ => return 1
  | fuel + 1, path => do
      match ← entryOf path with
      | .error error =>
          if removal.force && (error = .noEntry || error = .notDirectory) then return 0
          else cannot "cannot remove " path error
      | .ok (location, .file content _) => do
          let kind :=
            if content.isEmpty then "remove regular empty file " else "remove regular file "
          if removal.asks then
            if !(← agrees (kind.toList ++ Quoting.shown path)) then return 0
          setFiles ((← machine).files.remove location)
          if removal.verbose then putLine ("removed ".toList ++ Quoting.shown path)
          return 0
      | .ok (location, .directory) => do
          let names := (← machine).files.namesBelow location
          if !removal.recursive && !removal.directories then
            return ← cannot "cannot remove " path .isDirectory
          if !names.isEmpty && !removal.recursive then
            return ← cannot "cannot remove " path (.number 39)
          if removal.asks && !names.isEmpty then
            if !(← agrees ("descend into directory ".toList ++ Quoting.shown path)) then return 0
          let mut status := 0
          for name in names do
            status := max status (← removePath removal fuel (below path (Raw.ofBytes name)))
          if !((← machine).files.namesBelow location).isEmpty then return status
          if removal.asks then
            if !(← agrees ("remove directory ".toList ++ Quoting.shown path)) then return status
          setFiles ((← machine).files.remove location)
          if removal.verbose then putLine ("removed directory ".toList ++ Quoting.shown path)
          return status

/-- The options of a removal.  If they are not right because a file looks like one, say so. -/
def removalOptions (arguments : List Raw) : Act Options := do
  let table := table "dfiIrRv" [("dir", .none, 'd'), ("force", .none, 'f'),
    ("interactive", .optional, 'j'), ("recursive", .none, 'r'), ("verbose", .none, 'v'),
    ("one-file-system", .none, 'x'), ("preserve-root", .optional, 'y'),
    ("no-preserve-root", .none, 'z')]
  match table.take arguments with
  | .ok _ => optionsOf table arguments
  | .error problem => do
      complain problem.message
      let name := (← task).name
      for argument in arguments do
        if argument.head? = some '-' && argument ≠ ['-'] &&
            (← entryOf argument).toOption.isSome then
          write 2 ("Try '".toList ++ name ++ " ./".toList ++ Quoting.forShell argument ++
            "' to remove the file ".toList ++ Quoting.shown argument ++ ".\n".toList)
          break
      giveUpHelpfully

def rm : Utility := fun arguments => do
  let options ← removalOptions arguments
  let asks := options.lastOf? "fi" = some 'i'
  let force := options.lastOf? "fi" = some 'f'
  if options.operands.isEmpty then
    if force then return 0 else missingOperand []
  let recursive := options.has 'r' || options.has 'R'
  let removal : Removal := ⟨force, recursive, options.has 'd', options.has 'v', asks⟩
  forOperands options.operands fun path => do
    let name := lastName path
    if recursive && (name = ['.'] || name = ['.', '.']) then
      complain ("refusing to remove '.' or '..' directory: skipping ".toList ++
        Quoting.shown (withoutSlashes path))
      return 1
    let isRoot := match ← entryOf path with
      | .ok ([], _) => true
      | _ => false
    if recursive && isRoot then
      complain ("it is dangerous to operate recursively on '/'").toList
      complain "use --no-preserve-root to override this failsafe".toList
      return 1
    let depth := (← machine).files.entries.length + 2
    removePath removal depth path

structure Transfer where
  recursive : Bool
  force : Bool
  /-- Whether files that are there stay as they are. -/
  keeps : Bool
  verbose : Bool
  /-- Whether the source goes away. -/
  moves : Bool

/-- Complain about two paths. -/
def cannotBoth (what : String) (source : Raw) (between : String) (target : Raw) (after : Raw) :
    Act Nat := do
  complain (what.toList ++ Quoting.shown source ++ between.toList ++ Quoting.shown target ++ after)
  return 1

/-- Say what has been done with two paths. -/
def tellBoth (transfer : Transfer) (source target : Raw) : Act Unit := do
  if transfer.verbose then
    putLine ((if transfer.moves then "renamed " else "").toList ++ Quoting.shown source ++
      " -> ".toList ++ Quoting.shown target)

/-- Copy a file, or a directory with all that is in it; the fuel exceeds the depth. -/
def copyPath (transfer : Transfer) : Nat → Raw → Raw → Act Nat
  | 0, _, _ => return 1
  | fuel + 1, source, target => do
      match ← entryOf source with
      | .error error => cannot "cannot stat " source error
      | .ok (_, .file content executable) => do
          match ← entryOf target with
          | .ok (_, .directory) => do
              complain ("cannot overwrite directory ".toList ++ Quoting.shown target ++
                " with non-directory".toList)
              return 1
          | found => do
              if transfer.keeps && found.isOk then return 0
              let (files, directory) ← surroundings
              let path := Raw.toBytes target
              if target.getLast? = some '/' then
                return ← cannot "cannot create regular file " target .notDirectory
              match files.write directory path false content with
              | (_, .error error) => cannot "cannot create regular file " target error
              | (files, .ok ()) => do
                  let mode := match found, files.locate directory path with
                    | .error _, .ok location => files.put location (.file content executable)
                    | _, _ => files
                  setFiles mode
                  tellBoth transfer source target
                  return 0
      | .ok (location, .directory) => do
          if !transfer.recursive then
            complain ("-r not specified; omitting directory ".toList ++ Quoting.shown source)
            return 1
          match ← entryOf target with
          | .ok (_, .file _ _) =>
              cannotBoth "cannot overwrite non-directory " target " with directory " source []
          | found => do
              let isNew := match found with
                | .ok _ => false
                | .error _ => true
              let names := (← machine).files.namesBelow location
              if isNew then
                match ← changeFiles FileTree.makeDirectory target with
                | .error error => return ← cannot "cannot create directory " target error
                | .ok () => tellBoth transfer source target
              let into := match ← entryOf target with
                | .ok (into, _) => into
                | .error _ => []
              if location.isPrefixOf into then
                for name in names do
                  if location ++ [name] ≠ into then
                    let _ ← copyPath transfer fuel (below source (Raw.ofBytes name))
                      (below target (Raw.ofBytes name))
                return ← cannotBoth "cannot copy a directory, " source ", into itself, " target []
              let mut status := 0
              for name in names do
                status := max status (← copyPath transfer fuel (below source (Raw.ofBytes name))
                  (below target (Raw.ofBytes name)))
              return status

def movePath (transfer : Transfer) (source target : Raw) : Act Nat := do
  match ← entryOf source with
  | .error error => cannot "cannot stat " source error
  | .ok (location, entry) => do
      let (files, directory) ← surroundings
      let isDirectory := match entry with
        | .directory => true
        | .file _ _ => false
      let found ← entryOf target
      match found, isDirectory with
      | .ok (_, .directory), false => do
          complain ("cannot overwrite directory ".toList ++ Quoting.shown target ++
            " with non-directory".toList)
          return 1
      | .ok (_, .file _ _), true =>
          cannotBoth "cannot overwrite non-directory " target " with directory " source []
      | found, _ => do
          if transfer.keeps && found.isOk then
            complain ("not replacing ".toList ++ Quoting.shown target)
            return 1
          let path := if isDirectory then withoutSlashes target else target
          let place := if isDirectory then files.locate directory (Raw.toBytes path)
            else files.locateFile directory (Raw.toBytes path)
          let refuse (error : SystemError) : Act Nat := do
            complain ("cannot move ".toList ++ Quoting.shown source ++ " to ".toList ++
              Quoting.shown target ++ ": ".toList ++ reason error)
            return 1
          match place with
          | .error error =>
              refuse (if error = .isDirectory then .notDirectory else error)
          | .ok into =>
              if isDirectory && location.isPrefixOf into then
                let shown := if location = into then below target (lastName source) else target
                cannotBoth "cannot move " source " to a subdirectory of itself, " shown []
              else if isDirectory && !(files.namesBelow into).isEmpty then do
                complain ("cannot overwrite ".toList ++ Quoting.shown target ++
                  ": Directory not empty".toList)
                return 1
              else
                setFiles ((files.remove into).move location into)
                tellBoth transfer source target
                return 0

/-- Copy or move one thing, unless both paths lead to the same. -/
def transferOne (transfer : Transfer) (source target : Raw) : Act Nat := do
  match ← entryOf source, ← entryOf target with
  | .ok (location, entry), .ok (into, _) =>
      let isFile := match entry with
        | .file _ _ => true
        | .directory => false
      if location = into && (isFile || !transfer.moves) && (isFile || transfer.recursive) then
        return ← cannotBoth "" source " and " target " are the same file".toList
  | _, _ => pure ()
  if transfer.moves then movePath transfer source target
  else
    let depth := (← machine).files.entries.length + 2
    copyPath transfer depth source target

/-- Copy or move some things into a directory; one that is named again is passed over. -/
def transferInto (transfer : Transfer) (directory : Raw) (seen : List Raw) : List Raw → Act Nat
  | [] => return 0
  | source :: rest => do
      let status ← if seen.contains source && !transfer.moves then do
          complain ("warning: source file ".toList ++ Quoting.shown source ++
            " specified more than once".toList)
          pure 0
        else transferOne transfer source (below directory (lastName source))
      return max status (← transferInto transfer directory (source :: seen) rest)

/-- Copy or move files, as options and operands say. -/
def transferAll (transfer : Transfer) (options : Options) : Act Nat := do
  let operands := options.operands
  match options.value? 't' with
  | some directory => do
      if operands.isEmpty then misuse "missing file operand".toList
      if !(← isDirectory directory) then
        giveUp ("target directory ".toList ++ Quoting.shown directory ++
          ": No such file or directory".toList)
      transferInto transfer directory [] operands
  | none =>
      match operands.reverse with
      | [] => misuse "missing file operand".toList
      | [only] => misuse ("missing destination file operand after ".toList ++ Quoting.shown only)
      | target :: reversed => do
          let sources := reversed.reverse
          if options.has 'T' then
            match sources with
            | [source] => transferOne transfer source target
            | _ => extraOperand target
          else if ← isDirectory target then transferInto transfer target [] sources
          else match sources with
            | [source] => transferOne transfer source target
            | _ => do
                let error := match ← entryOf target with
                  | .error error => error
                  | .ok _ => .notDirectory
                complainOf ("target ".toList ++ Quoting.shown target) error
                throw .failed

/-- Options for what happens with files that are there already. -/
def transferNames : List (String × Arity × Char) :=
  [("archive", .none, 'a'), ("force", .none, 'f'), ("interactive", .none, 'i'),
    ("no-clobber", .none, 'n'), ("recursive", .none, 'r'), ("target-directory", .required, 't'),
    ("no-target-directory", .none, 'T'), ("update", .optional, 'u'), ("verbose", .none, 'v'),
    ("preserve", .optional, 'p')]

def cp : Utility := fun arguments => do
  let options ← optionsOf (table "adfilnprRst:TuvxPHLZ" transferNames) arguments
  let recursive := options.has 'r' || options.has 'R' || options.has 'a'
  if options.has 'n' then
    complain ("warning: behavior of -n is non-portable and may change in future; " ++
      "use --update=none instead").toList
  transferAll ⟨recursive, options.has 'f', options.has 'n', options.has 'v', false⟩ options

def mv : Utility := fun arguments => do
  let options ← optionsOf (table "finst:TuvZ" transferNames) arguments
  let keeps := options.lastOf? "fin" = some 'n'
  transferAll ⟨true, options.has 'f', keeps, options.has 'v', true⟩ options

def touch : Utility := fun arguments => do
  let options ← optionsOf (table "acd:fhmr:t:" [("time", .required, 'x'), ("no-create", .none, 'c'),
    ("date", .required, 'd'), ("reference", .required, 'r'), ("no-dereference", .none, 'h')])
    arguments
  if options.operands.isEmpty then misuse "missing file operand".toList
  forOperands options.operands fun path => do
    if path = ['-'] then return 0
    match ← entryOf path with
    | .ok _ => return 0
    | .error error =>
        if options.has 'c' then return 0
        else if path.getLast? = some '/' then cannot "setting times of " path error
        else match ← changeFiles FileTree.createFile path with
          | .ok () => return 0
          | .error error => cannot "cannot touch " path error

/-- What a way to write permissions makes of a file that may be executed by nobody or somebody. -/
def executableBy (isDirectory : Bool) (mode : Raw) (executable : Bool) : Bool :=
  if mode.all Char.isDigit then mode.any fun c => c = '1' || c = '3' || c = '5' || c = '7'
  else (Raw.splitOn ',' mode).foldl
    (fun executable clause =>
      let actions := clause.dropWhile "ugoa".toList.contains
      let everybody :=
        clause.length = actions.length || (clause.takeWhile "ugoa".toList.contains).any
        fun c => c = 'a' || c = 'u'
      let grants := actions.contains 'x' || (actions.contains 'X' && (executable || isDirectory))
      match actions.head? with
      | some '+' => executable || grants
      | some '-' => executable && !(grants && everybody)
      | some '=' => grants || (executable && !everybody)
      | _ => executable) executable

def chmod : Utility := fun arguments => do
  let isMinus (argument : Raw) : Bool := match argument with
    | '-' :: c :: _ => "rwxXst".toList.contains c
    | _ => false
  let options ← optionsOf { table "Rcfv" [("recursive", .none, 'R'), ("changes", .none, 'c'),
    ("silent", .none, 'f'), ("quiet", .none, 'f'), ("verbose", .none, 'v')] with
      isOperand := isMinus } arguments
  match options.operands with
  | [] => missingOperand []
  | [only] => missingOperand [only]
  | mode :: paths => do
      let isValid := match mode with
        | '-' :: _ => isMode mode
        | mode => isMode mode
      if !isValid then misuse ("invalid mode: ".toList ++ Quoting.shown mode)
      forOperands paths fun path => do
        match ← entryOf path with
        | .error error => cannot "cannot access " path error
        | .ok (location, entry) => do
            let files := (← machine).files
            match entry with
            | .directory => return 0
            | .file content executable => do
                setFiles (files.put location
                  (.file content (executableBy false mode executable)))
                return 0

structure Listing where
  /-- Whether hidden names are listed, and those of the directory itself and the one above. -/
  hidden : Bool
  self : Bool
  directories : Bool
  recursive : Bool
  /-- Which signs follow names: for directories, and for files that can be executed. -/
  slashes : Bool
  stars : Bool
  reverses : Bool
  /-- Whether names are separated by commas or by ends of lines. -/
  commas : Bool
  bySize : Bool
  byExtension : Bool

def Listing.signed (listing : Listing) (name : Raw) : Entry → Raw
  | .directory => if listing.slashes then name ++ ['/'] else name
  | .file _ true => if listing.stars then name ++ ['*'] else name
  | .file _ false => name

/-- What comes behind the last point of a name. -/
def extension (name : Raw) : Raw :=
  match name.reverse.dropWhile (· ≠ '.') with
  | [] => []
  | _ => '.' :: (name.reverse.takeWhile (· ≠ '.')).reverse

def Listing.ordered (listing : Listing) (names : List (Raw × Entry)) : List (Raw × Entry) :=
  let byName (a b : Raw) : Bool := FileTree.bytesLe (Raw.toBytes a) (Raw.toBytes b)
  let size (entry : Entry) : Nat := match entry with
    | .file content _ => content.length
    | .directory => 4096
  let before (a b : Raw × Entry) : Bool :=
    if listing.bySize && size a.2 ≠ size b.2 then size b.2 < size a.2
    else if listing.byExtension && extension a.1 ≠ extension b.1 then
      byName (extension a.1) (extension b.1)
    else byName a.1 b.1
  let sorted := names.mergeSort before
  if listing.reverses then sorted.reverse else sorted

def Listing.show (listing : Listing) (names : List (Raw × Entry)) : Act Unit := do
  let signed := (listing.ordered names).map fun (name, entry) => listing.signed name entry
  if listing.commas then
    if !signed.isEmpty then putLine (Raw.join ", ".toList signed)
  else
    for name in signed do
      putLine name

def Listing.namesIn (listing : Listing) (location : Location) : Act (List (Raw × Entry)) := do
  let files := (← machine).files
  let own : List (Raw × Entry) :=
    if listing.self then [(['.'], .directory), (['.', '.'], .directory)] else []
  let names := (files.namesBelow location).map fun name =>
    (Raw.ofBytes name, (files.entry? (location ++ [name])).getD .directory)
  return own ++ names.filter fun (name, _) => listing.hidden || name.head? ≠ some '.'

/-- List a directory, and those below it if that is asked for; the fuel exceeds the depth. -/
def listDirectory (listing : Listing) (headed : Bool) : Nat → Bool → Raw → Location → Act Unit
  | 0, _, _, _ => return ()
  | fuel + 1, isFirst, path, location => do
      if headed then put ((if isFirst then [] else ['\n']) ++ path ++ ":\n".toList)
      let names ← listing.namesIn location
      listing.show names
      if listing.recursive then
        for (name, entry) in listing.ordered names do
          if entry = .directory && name ≠ ['.'] && name ≠ ['.', '.'] then
            listDirectory listing headed fuel false (below path name)
              (location ++ [Raw.toBytes name])

def ls : Utility := fun arguments => do
  let options ← optionsOf (table "abcdfghiklmnopqrstuvw:xABCDFGHI:LNQRST:UXZ1"
    [("all", .none, 'a'), ("almost-all", .none, 'A'), ("directory", .none, 'd'),
      ("recursive", .none, 'R'), ("reverse", .none, 'r'), ("classify", .optional, 'F'),
      ("color", .optional, 'k'), ("format", .required, '\u0110'), ("sort", .required, '\u0111')])
    arguments
  let listing : Listing :=
    { hidden := options.has 'a' || options.has 'A' || options.has 'f'
      self := (options.lastOf? "aA" = some 'a') || options.has 'f'
      directories := options.has 'd'
      recursive := options.has 'R' && !options.has 'd'
      slashes := options.has 'p' || options.has 'F'
      stars := options.has 'F'
      reverses := options.has 'r'
      commas := options.lastOf? "m1Cxl" = some 'm'
      bySize := options.has 'S'
      byExtension := options.has 'X' }
  let paths := if options.operands.isEmpty then [['.']] else options.operands
  let mut status := 0
  let mut files : List (Raw × Entry) := []
  let mut directories : List (Raw × Location) := []
  for path in paths do
    match ← entryOf path with
    | .error error => do
        complainOf ("cannot access ".toList ++ Quoting.betweenQuotes path) error
        status := 2
    | .ok (location, .directory) =>
        if listing.directories then files := files ++ [(path, .directory)]
        else directories := directories ++ [(path, location)]
    | .ok (_, entry) => files := files ++ [(path, entry)]
  listing.show files
  let headed := listing.recursive || 1 < paths.length
  let depth := (← machine).files.entries.length + 2
  let mut isFirst := files.isEmpty
  for (path, _) in listing.ordered (directories.map fun (path, _) => (path, Entry.directory)) do
    match directories.lookup path with
    | some location => listDirectory listing headed depth isFirst path location
    | none => pure ()
    isFirst := false
  return status

/-- A name without a suffix, unless it is nothing else. -/
def withoutSuffix (suffix name : Raw) : Raw :=
  if suffix ≠ [] && suffix.isSuffixOf name && suffix.length < name.length then
    name.take (name.length - suffix.length)
  else name

/-- The last name of a path, where slashes alone are the root. -/
def baseName (path : Raw) : Raw :=
  if path ≠ [] && path.all (· = '/') then ['/'] else lastName path

/-- Write the last names of paths. -/
def basename : Utility := fun arguments => do
  let options ← optionsOf (leadingTable "as:z"
    [("multiple", .none, 'a'), ("suffix", .required, 's'),
    ("zero", .none, 'z')]) arguments
  let terminator := if options.has 'z' then '\x00' else '\n'
  let several := options.has 'a' || options.has 's'
  match options.operands with
  | [] => missingOperand []
  | operands => do
      if several then
        let suffix := (options.value? 's').getD []
        for path in operands do
          put (withoutSuffix suffix (baseName path) ++ [terminator])
      else match operands with
        | _ :: _ :: extra :: _ => extraOperand extra
        | path :: rest =>
            let name := baseName path
            let shown := if name = ['/'] then name else withoutSuffix (rest.headD []) name
            put (shown ++ [terminator])
        | [] => pure ()
      return 0

/-- A path without its last name. -/
def directoryName (path : Raw) : Raw :=
  let whole := withoutSlashes path
  if whole ≠ [] && whole.all (· = '/') then ['/']
  else
    let before := (whole.reverse.dropWhile (· ≠ '/')).reverse
    if before = [] then ['.'] else withoutSlashes before

/-- Write paths without their last names. -/
def dirname : Utility := fun arguments => do
  let options ← optionsOf (leadingTable "z" [("zero", .none, 'z')]) arguments
  if options.operands.isEmpty then missingOperand []
  for path in options.operands do
    put (directoryName path ++ [if options.has 'z' then '\x00' else '\n'])
  return 0

def absolute (location : Location) : Raw := '/' :: Raw.ofBytes (Path.concat location)

/-- Write the working directory. -/
def pwd : Utility := fun arguments => do
  let options ← optionsOf (table "LP" [("logical", .none, 'L'), ("physical", .none, 'P')]) arguments
  if !options.operands.isEmpty then complain "ignoring non-option arguments".toList
  putLine (absolute (← task).directory)
  return 0

/-- Write paths from the root. -/
def realpath : Utility := fun arguments => do
  let options ← optionsOf (table "eELmPqsz" [("canonicalize-existing", .none, 'e'),
    ("canonicalize-missing", .none, 'm'), ("quiet", .none, 'q'), ("strip", .none, 's'),
    ("zero", .none, 'z')]) arguments
  if options.operands.isEmpty then missingOperand []
  let (files, directory) ← surroundings
  forOperands options.operands fun path => do
    let found := if options.has 'e' then (files.find directory (Raw.toBytes path)).map (·.1)
      else files.locate directory (Raw.toBytes path)
    match found with
    | .ok location => do
        put (absolute location ++ [if options.has 'z' then '\x00' else '\n'])
        return 0
    | .error error => do
        if !options.has 'q' then complainOfFile path error
        return 1

/-- Write paths from the root if that is asked for; nothing else is a link. -/
def readlink : Utility := fun arguments => do
  let options ← optionsOf (table "efmnqsvz" [("canonicalize", .none, 'f'),
    ("canonicalize-existing", .none, 'e'), ("canonicalize-missing", .none, 'm'),
    ("no-newline", .none, 'n'), ("verbose", .none, 'v'), ("zero", .none, 'z')]) arguments
  if options.operands.isEmpty then missingOperand []
  let (files, directory) ← surroundings
  forOperands options.operands fun path => do
    let canonical := options.has 'f' || options.has 'e' || options.has 'm'
    let found := if options.has 'e' then (files.find directory (Raw.toBytes path)).map (·.1)
      else files.locate directory (Raw.toBytes path)
    match found with
    | .ok location =>
        if canonical then
          put (absolute location ++
            if options.has 'n' then [] else [if options.has 'z' then '\x00' else '\n'])
          return 0
        else return 1
    | .error error => do
        if options.has 'v' then complainOfFile path error
        return 1

end EditorBridge.Utility
