import ClassBatch.Shell.Session
import ClassBatch.Shell.Wildcard

/-! What the programs of the system have in common, and those that work on files. -/

namespace ClassBatch.Shell

open Files
open Text (Bytes)

namespace Utility

def splitOptions : List String → List Char × List String
  | [] => ([], [])
  | "--" :: rest => ([], rest)
  | arg :: rest =>
    match arg.toList with
    | '-' :: c :: letters =>
      let (options, rest) := splitOptions rest
      (c :: letters ++ options, rest)
    | _ => ([], arg :: rest)

def lines (data : Bytes) : List Bytes :=
  match data with
  | [] => []
  | data =>
    let (last, rest) := data.foldr (fun b (line, lines) =>
      if b = 10 then ([], line :: lines) else (b :: line, lines)) (([] : Bytes), ([] : List Bytes))
    let all := last :: rest
    if all.getLast? = some [] then all.dropLast else all

def unlines (ls : List Bytes) : Bytes :=
  ls.flatMap fun line => line ++ [10]

def attempt (s : Session) (what : FileError → String) (result : Except FileError Disk) : Session :=
  match result with
  | .ok disk => { s with disk }
  | .error e => s.fails (what e)

def removeDir (s : Session) (what : FileError → String) (path : String) : Session :=
  match s.disk.removeDir path with
  | (none, disk) => { s with disk }
  | (some e, disk) => { s with disk }.fails (what e)

def reason (e : FileError) : String :=
  String.ofList (e.message.toList.takeWhile (· ≠ '(')).dropLast

def contents (name : String) (s : Session) : List String → Bytes × Session
  | [] => (s.input, { s with input := [] })
  | paths => paths.foldl (fun (data, s) path =>
    if path = "-" || path = "/dev/stdin" then (data ++ s.input, { s with input := [] })
    else if path = "/dev/null" then (data, s)
    else match s.disk.read path with
      | .ok content => (data ++ content, s)
      | .error e => (data, s.fails (name ++ ": " ++ path ++ ": " ++ reason e))) ([], s)

def cat (args : List String) (s : Session) : Session :=
  let (data, s) := contents "cat" s (splitOptions args).2
  s.write 1 data

def mkdir (args : List String) (s : Session) : Session :=
  let (options, paths) := splitOptions args
  let fault (path : String) (e : FileError) :=
    "mkdir: cannot create directory '" ++ path ++ "': " ++ reason e
  paths.foldl (fun s path =>
    if options.contains 'p' then
      match s.disk.createDirs path with
      | (none, disk) => { s with disk }
      | (some e, disk) => { s with disk }.fails (fault path e)
    else attempt s (fault path) (s.disk.createDir path)) s

def rm (args : List String) (s : Session) : Session :=
  let (options, paths) := splitOptions args
  let deep := options.contains 'r' || options.contains 'R'
  let force := options.contains 'f'
  paths.foldl (fun s path =>
    let fault (e : FileError) := "rm: cannot remove '" ++ path ++ "': " ++ reason e
    match s.disk.node path with
    | .error .notFound => if force then s else s.fails (fault .notFound)
    | .error e => s.fails (fault e)
    | .ok (.dir ..) => if deep then removeDir s fault path else s.fails (fault .isDirectory)
    | .ok (.file ..) => attempt s fault (s.disk.removeFile path)) s

def rmdir (args : List String) (s : Session) : Session :=
  (splitOptions args).2.foldl (fun s path =>
    let fault (why : String) := "rmdir: failed to remove '" ++ path ++ "': " ++ why
    match s.disk.node path with
    | .ok (.dir [] _) => removeDir s (fun e => fault (reason e)) path
    | .ok (.dir ..) => s.fails (fault "Directory not empty")
    | .ok (.file ..) => s.fails (fault (reason .notDirectory))
    | .error e => s.fails (fault (reason e))) s

def touch (args : List String) (s : Session) : Session :=
  (splitOptions args).2.foldl (fun s path =>
    if s.disk.has path then s
    else attempt s (fun e => "touch: cannot touch '" ++ path ++ "': " ++ reason e)
      (s.disk.write path [])) s

def baseName (path : String) : String :=
  let bare := path.toList.reverse.dropWhile (· = '/')
  if bare.isEmpty && !path.isEmpty then "/"
  else String.ofList (bare.takeWhile (· ≠ '/')).reverse

def dirName (path : String) : String :=
  let bare := path.toList.reverse.dropWhile (· = '/')
  let above := bare.dropWhile (· ≠ '/')
  if above.isEmpty then if bare.isEmpty && !path.isEmpty then "/" else "."
  else
    let dir := above.dropWhile (· = '/')
    if dir.isEmpty then "/" else String.ofList dir.reverse

def place (d : Disk) (path : String) (node : Node) : Except FileError Disk := do
  let place ← d.locate path
  return { d with tree := ← d.tree.alter place fun _ => .ok (some node) }

def erase (d : Disk) (path : String) : Except FileError Disk := do
  let place ← d.locate path
  return { d with tree := ← d.tree.alter place fun _ => .ok none }

def copyOrMove (move : Bool) (args : List String) (s : Session) : Session :=
  let name := if move then "mv" else "cp"
  let (options, paths) := splitOptions args
  let deep := move || options.any fun c => c = 'r' || c = 'R' || c = 'a'
  let target := paths.getLast?.getD ""
  if paths.length > 2 && !s.disk.isDir target then
    s.fails (name ++ ": target '" ++ target ++ "': No such file or directory")
  else paths.dropLast.foldl (fun s path =>
    let goal := if s.disk.isDir target then Path.join target (baseName path) else target
    match s.disk.node path with
    | .error e => s.fails (name ++ ": cannot stat '" ++ path ++ "': " ++ reason e)
    | .ok node =>
      if node.isDir && !deep then
        s.fails (name ++ ": -r not specified; omitting directory '" ++ path ++ "'")
      else
        let fault (e : FileError) :=
          name ++ ": cannot create regular file '" ++ goal ++ "': " ++ reason e
        let s := if move then attempt s fault (erase s.disk path) else s
        attempt s fault (place s.disk goal node)) s

def chmod (args : List String) (s : Session) : Session :=
  match args with
  | mode :: paths =>
    let executable := mode.toList.any fun c => c = 'x' || c = '7' || c = '5' || c = '1'
    let executable := executable && !mode.toList.contains '-'
    paths.foldl (fun s path =>
      attempt s (fun e => "chmod: cannot access '" ++ path ++ "': " ++ reason e) do
        match ← s.disk.node path with
        | .file content _ => place s.disk path (.file content executable)
        | .dir .. => return s.disk) s
  | [] => s.fails "chmod: missing operand"

def basename (args : List String) (s : Session) : Session :=
  match args with
  | [path] => s.say (baseName path ++ "\n")
  | path :: ending :: _ =>
    let base := baseName path
    let stem := (Text.beforeEnding? ending.toList base.toList).getD base.toList
    s.say (String.ofList (if stem.isEmpty then base.toList else stem) ++ "\n")
  | [] => s.fails "basename: missing operand"

def dirname (args : List String) (s : Session) : Session :=
  args.foldl (fun s path => s.say (dirName path ++ "\n")) s

def realpath (args : List String) (s : Session) : Session :=
  (splitOptions args).2.foldl (fun s path =>
    match s.disk.locate path with
    | .ok place => s.say (Path.render place ++ "\n")
    | .error e => s.fails ("realpath: " ++ path ++ ": " ++ reason e)) s

end Utility

end ClassBatch.Shell
