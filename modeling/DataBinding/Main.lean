import DataBinding.Command.Run

/-!
# The command line

`compile SOURCE`, `eval SOURCE` and `tokens SOURCE`, with the options `--config FILE`, `--template`,
`--pretty` and `--data TEXT`. Without `--data` the data of `eval` is read from the standard input.
-/

namespace DataBinding.Command

/-- The options of a command. -/
structure Options where
  source : Option String
  configFile : Option String
  isTemplate : Bool
  isPretty : Bool
  data : Option String

/-- The options of arguments; none if an argument is not known. -/
def Options.read? (o : Options) : List String → Option Options
  | [] => some o
  | "--config" :: file :: rest | "-c" :: file :: rest => read? { o with configFile := some file } rest
  | "--data" :: text :: rest | "-d" :: text :: rest => read? { o with data := some text } rest
  | "--template" :: rest | "-t" :: rest => read? { o with isTemplate := true } rest
  | "--pretty" :: rest | "-p" :: rest => read? { o with isPretty := true } rest
  | arg :: rest =>
    if o.source.isSome then none else read? { o with source := some arg } rest

/-- The text of a JSON value. -/
def Options.jsonText (o : Options) (j : Json) : String := if o.isPretty then j.pretty else j.compact

/-- The text of the configuration file. -/
def Options.configText (o : Options) : IO (Except CommandError (Option String)) :=
  match o.configFile with
  | none => return .ok none
  | some file => do
    try
      let text ← IO.FS.readFile file
      return .ok (some text)
    catch _ => return .error .file

/-- The answer of a command. -/
def answerOf (command source : String) (o : Options) : IO (Except CommandError String) := do
  if command == "tokens" then
    return (tokenLines source).map fun lines => "\n".intercalate lines
  let config ← o.configText
  match config.bind loadLinker with
  | .error e => return .error e
  | .ok l =>
    if command == "compile" then
      return (compile l o.isTemplate source).map o.jsonText
    let data ← match o.data with
      | some text => pure text
      | none => (← IO.getStdin).readToEnd
    return (evaluate l o.isTemplate source (some data)).map Json.compact

end DataBinding.Command

open DataBinding Command

/-- Runs a command. -/
def main (args : List String) : IO UInt32 := do
  let usage : String := "usage: compile|eval|tokens SOURCE [--config FILE] [--template] [--pretty] [--data TEXT]"
  match args with
  | command :: rest =>
    let options := Options.read? ⟨none, none, false, false, none⟩ rest
    match options.bind (fun o => o.source.map (fun s => (o, s))) with
    | some (o, source) =>
      if ["compile", "eval", "tokens"].contains command then
        match ← answerOf command source o with
        | .ok text =>
          IO.println text
          return 0
        | .error e =>
          IO.eprintln e.message
          return 1
      else
        IO.eprintln usage
        return 2
    | none =>
      IO.eprintln usage
      return 2
  | [] =>
    IO.eprintln usage
    return 2
