import PageBuilder.Workspace.Invocation

/-!
Requests as words of a command line. Options may stand anywhere among the other words; an option
that takes a value is followed by it, or has it after an equals sign.
-/

namespace PageBuilder

/-- An option of a request. -/
structure OptionSpec where
  name : String
  letter : Option Char
  takesValue : Bool
deriving DecidableEq, Repr

/-- What a word of a command line is. -/
inductive Word where
  | plain
  | option (spec : OptionSpec) (value : Option String)
  | unknown
deriving DecidableEq, Repr

/-- The words of a command line, sorted. -/
structure SortedWords where
  plain : List String := []
  options : List (String × String) := []
deriving DecidableEq, Repr

namespace SortedWords

/-- The value of an option that was given. -/
def value? (w : SortedWords) (name : String) : Option String := w.options.lookup name

def has (w : SortedWords) (name : String) : Bool := (w.value? name).isSome

end SortedWords

/-- What a word is, among some options. -/
def Word.ofText (specs : List OptionSpec) (word : String) : Word :=
  let known (spec? : Option OptionSpec) (value : Option String) : Word :=
    match spec? with
    | some spec => .option spec value
    | none => .unknown
  match word.toList with
  | '-' :: '-' :: name =>
    match splitAtFirst? '=' name with
    | some (name, value) =>
      known (specs.find? fun s => s.name == String.ofList name) (some (String.ofList value))
    | none => known (specs.find? fun s => s.name == String.ofList name) none
  | ['-', c] => known (specs.find? fun s => s.letter == some c) none
  | '-' :: _ :: _ => .unknown
  | _ => .plain

/-- Sorts the words of a command line. There is no result for options that are unknown, lack their
value or have one without taking it. -/
def sortWords? (specs : List OptionSpec) : List String → Option SortedWords
  | [] => some {}
  | word :: rest =>
    match Word.ofText specs word with
    | .plain => do
      let sorted ← sortWords? specs rest
      return { sorted with plain := word :: sorted.plain }
    | .unknown => none
    | .option spec (some value) => do
      let sorted ← sortWords? specs rest
      if spec.takesValue then
        return { sorted with options := (spec.name, value) :: sorted.options }
      else none
    | .option spec none =>
      if spec.takesValue then
        match rest with
        | [] => none
        | value :: rest => do
          let sorted ← sortWords? specs rest
          return { sorted with options := (spec.name, value) :: sorted.options }
      else do
        let sorted ← sortWords? specs rest
        return { sorted with options := (spec.name, "") :: sorted.options }

namespace Invocation

def switch (name : String) (letter : Option Char) : OptionSpec := ⟨name, letter, false⟩

def setting (name : String) (letter : Char) : OptionSpec := ⟨name, some letter, true⟩

def ofStoreWords? : List String → Option StoreCommand
  | "list" :: words => do
    let ⟨[], _⟩ ← sortWords? [] words | none
    return .list
  | "search" :: words => do
    let ⟨[query], _⟩ ← sortWords? [] words | none
    return .search query
  | "stats" :: words => do
    let ⟨[], _⟩ ← sortWords? [] words | none
    return .stats
  | "save" :: words => do
    let ⟨[file], _⟩ ← sortWords? [] words | none
    return .save file
  | "load" :: words => do
    let w ← sortWords? [setting "output" 'o'] words
    let [id] := w.plain | none
    return .load id (w.value? "output")
  | "delete" :: words => do
    let ⟨[id], _⟩ ← sortWords? [] words | none
    return .delete id
  | "export" :: words => do
    let w ← sortWords? [setting "dir" 'd', switch "stdout" none] words
    let [id] := w.plain | none
    return .exportTo id ((w.value? "dir").getD "backups") (w.has "stdout")
  | "import" :: words => do
    let ⟨[file], _⟩ ← sortWords? [] words | none
    return .importFrom file
  | _ => none

/-- The request that the words of a command line make. -/
def ofWords? : List String → Option Invocation
  | "init" :: words => do
    let w ← sortWords? [setting "name" 'n', setting "src-dir" 's', switch "force" (some 'f')] words
    let [] := w.plain | none
    let usual : InitArguments := {}
    return .init {
      name := (w.value? "name").getD usual.name
      srcDir := (w.value? "src-dir").getD usual.srcDir
      force := w.has "force" }
  | "compile" :: words => do
    let w ← sortWords? [switch "stdout" none, setting "out-dir" 'o', switch "minify" none] words
    if 1 < w.plain.length then none
    else
      return .compile {
        path := w.plain.head?
        stdout := w.has "stdout"
        outDir := w.value? "out-dir"
        minify := w.has "minify" }
  | "preview" :: words => do
    let ⟨[file], _⟩ ← sortWords? [] words | none
    return .preview file
  | "apply" :: words => do
    let w ← sortWords?
      [setting "output" 'o', switch "dry-run" none, switch "no-debounce" none] words
    let [project, commands] := w.plain | none
    return .apply {
      project := project
      commands := commands
      output := w.value? "output"
      dryRun := w.has "dry-run"
      noDebounce := w.has "no-debounce" }
  | "store" :: words => (ofStoreWords? words).map .store
  | _ => none

/-- How the program is called. -/
def usage : String := joinWith "\n" [
  "Usage: pagesmith COMMAND",
  "",
  "  init [-n NAME] [-s DIR] [-f]",
  "  compile [PATH] [--stdout] [-o DIR] [--minify]",
  "  preview FILE",
  "  apply PROJECT COMMANDS [-o FILE] [--dry-run] [--no-debounce]",
  "  store list | stats | search QUERY | save FILE | load ID [-o FILE] | delete ID",
  "  store export ID [-d DIR] [--stdout] | import FILE"]

end Invocation

end PageBuilder
