import ClassBatch.Shell.Format
import ClassBatch.Shell.Utilities

/-! The programs of the system that list and find files. -/

namespace ClassBatch.Shell

open Files

namespace Utility

def namesShown (options : List Char) (entries : List (String × Node)) : String :=
  let hidden (name : String) : Bool := name.toList.head? = some '.'
  let names := (entries.map Prod.fst).filter fun name =>
    options.contains 'a' || options.contains 'A' || !hidden name
  let names := if options.contains 'a' then "." :: ".." :: names else names
  String.join ((names.mergeSort (· ≤ ·)).map (· ++ "\n"))

def ls (args : List String) (s : Session) : Session :=
  let (options, paths) := splitOptions args
  let paths := if paths.isEmpty then ["."] else paths.mergeSort (· ≤ ·)
  let s := paths.foldl (fun s path =>
    match s.disk.node path with
    | .error e => (s.complain ("ls: cannot access '" ++ path ++ "': " ++ reason e)).done 2
    | .ok _ => s) s
  let isListed (node : Node) : Bool := node.isDir && !options.contains 'd'
  let found := paths.filterMap fun path => (s.disk.node path).toOption.map fun node => (path, node)
  let files := (found.filter fun f => !isListed f.2).map fun f => f.1 ++ "\n"
  let dirs := (found.filter fun f => isListed f.2).map fun (path, node) =>
    (if paths.length > 1 then path ++ ":\n" else "") ++
      match node with
      | .dir entries _ => namesShown options entries
      | .file .. => ""
  let files := if files.isEmpty then [] else [String.join files]
  s.say (String.intercalate "\n" (files ++ dirs))

inductive Condition
  | name (pattern : List Wildcard)
  | path (pattern : List Wildcard)
  | kind (c : Char)
  | empty
  | no (c : Condition)

def Condition.holds (path name : String) (node : Node) : Condition → Bool
  | .name pattern => Wildcard.matchesAll pattern name.toList
  | .path pattern => Wildcard.matchesAll pattern path.toList
  | .kind c => if c = 'd' then node.isDir else c = 'f' && !node.isDir
  | .empty =>
    match node with
    | .file content _ => content.isEmpty
    | .dir entries _ => entries.isEmpty
  | .no c => !c.holds path name node

inductive Finding
  | tell (ending : String)
  | delete
  | run (command : List String) (together : Bool)

structure Search where
  conditions : List Condition := []
  deepest : Option Nat := none
  shallowest : Nat := 0
  finding : Finding := .tell "\n"

def Search.add (f : Search) (negated : Bool) (c : Condition) : Search :=
  { f with conditions := (if negated then .no c else c) :: f.conditions }

def readSearch : Bool → List String → Search → Search
  | negated, "-name" :: pattern :: rest, f =>
    readSearch false rest (f.add negated (.name (Wildcard.ofText pattern.toList)))
  | negated, "-path" :: pattern :: rest, f =>
    readSearch false rest (f.add negated (.path (Wildcard.ofText pattern.toList)))
  | negated, "-type" :: kind :: rest, f =>
    readSearch false rest (f.add negated (.kind (kind.toList.headD 'f')))
  | negated, "-empty" :: rest, f => readSearch false rest (f.add negated .empty)
  | negated, "!" :: rest, f | negated, "-not" :: rest, f => readSearch (!negated) rest f
  | _, "-maxdepth" :: n :: rest, f =>
    readSearch false rest { f with deepest := some (Format.readCount n.toList).1 }
  | _, "-mindepth" :: n :: rest, f =>
    readSearch false rest { f with shallowest := (Format.readCount n.toList).1 }
  | _, "-print0" :: rest, f => readSearch false rest { f with finding := .tell "\x00" }
  | _, "-delete" :: rest, f => readSearch false rest { f with finding := .delete }
  | _, "-exec" :: rest, f =>
    let command := rest.takeWhile fun a => a ≠ ";" && a ≠ "+"
    { f with finding := .run command ((rest.drop command.length).head? = some "+") }
  | negated, _ :: rest, f => readSearch negated rest f
  | _, [], f => f

def Search.accepts (f : Search) (path name : String) (node : Node) (depth : Nat) : Bool :=
  f.conditions.all (·.holds path name node) && f.shallowest ≤ depth && f.deepest.all (depth ≤ ·)

def found (f : Search) (paths : List String) (s : Session) : List String × Session :=
  paths.foldl (fun (all, s) path =>
    match s.disk.node path with
    | .error e => (all, s.fails ("find: '" ++ path ++ "': " ++ reason e))
    | .ok node =>
      let below := node.places.filterMap fun (place, _) =>
        let path := Path.join path (String.intercalate "/" place)
        match s.disk.node path with
        | .ok inner =>
          if f.accepts path (place.getLast?.getD "") inner place.length then some path else none
        | .error _ => none
      let top := if f.accepts path (baseName path) node 0 then [path] else []
      (all ++ top ++ below, s)) ([], s)

def find (exec : List String → Session → Session) (args : List String) (s : Session) : Session :=
  let paths := args.takeWhile fun a => a.toList.head? ≠ some '-' && a ≠ "!"
  let search := readSearch false (args.drop paths.length) {}
  let (all, s) := found search (if paths.isEmpty then ["."] else paths) s
  match search.finding with
  | .tell ending => s.say (String.join (all.map (· ++ ending)))
  | .delete => all.reverse.foldl (fun s path =>
      let fault (e : FileError) := "find: cannot delete '" ++ path ++ "': " ++ reason e
      if s.disk.isDir path then removeDir s fault path
      else attempt s fault (s.disk.removeFile path)) s
  | .run command true =>
    if all.isEmpty then s else (exec (command.filter (· ≠ "\x7b\x7d") ++ all) s).done 0
  | .run command false =>
    all.foldl (fun s path =>
      (exec (command.map fun a => if a = "\x7b\x7d" then path else a) s).done 0) s

def readArguments (apart : Bool) (text : String) : List String :=
  let isEnd (c : Char) := if apart then c = '\x00' else c = ' ' || c = '\n' || c = '\t'
  ((Text.splitAll isEnd text.toList).filter (!·.isEmpty)).map String.ofList

def groupsOf {α : Type} (n : Nat) : Nat → List α → List (List α)
  | 0, _ | _, [] => []
  | fuel + 1, xs => xs.take n :: groupsOf n fuel (xs.drop n)

def replaceMark (mark image : List Char) : Nat → List Char → List Char
  | 0, s => s
  | _, [] => []
  | fuel + 1, c :: s =>
    match Text.afterStart? mark (c :: s) with
    | some rest => image ++ replaceMark mark image fuel rest
    | none => c :: replaceMark mark image fuel s

def xargs (exec : List String → Session → Session) (args : List String) (s : Session) : Session :=
  let (apart, args) := if args.head? = some "-0" then (true, args.tail) else (false, args)
  let (careful, args) := if args.head? = some "-r" then (true, args.tail) else (false, args)
  let (limit, mark, command) := match args with
    | "-n" :: n :: rest => (some (Format.readCount n.toList).1, none, rest)
    | "-I" :: mark :: rest => (none, some mark.toList, rest)
    | rest => (none, none, rest)
  let command := if command.isEmpty then ["echo"] else command
  let text := Text.decodeLossy s.input
  let s := { s with input := [] }
  match mark with
  | some mark =>
    let all := (Text.splitAll (· = '\n') text.toList).filter (!·.isEmpty)
    all.foldl (fun s line =>
      exec (command.map fun a => String.ofList (replaceMark mark line a.length a.toList)) s) s
  | none =>
    let all := readArguments apart text
    let rounds := match limit with
      | some n => groupsOf (max n 1) all.length all
      | none => if all.isEmpty then [] else [all]
    let rounds := if rounds.isEmpty && !careful then [[]] else rounds
    rounds.foldl (fun s round => exec (command ++ round) s) s

end Utility

end ClassBatch.Shell
