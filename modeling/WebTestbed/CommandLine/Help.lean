import WebTestbed.CommandLine.Basic
import WebTestbed.Journal

/-! The help texts of the program and of its commands. -/
namespace WebTestbed.CommandLine

def Argument.label (a : Argument) : String :=
  match a.form with
  | .flag | .help | .version => "--" ++ a.name
  | .option | .options => "--" ++ a.name ++ " <" ++ a.valueName ++ ">"
  | .words | .rest =>
    if a.required then "<" ++ a.valueName ++ ">..." else "[" ++ a.valueName ++ "]..."

def Argument.indent (a : Argument) : String :=
  if !a.isNamed then "  "
  else match a.letter with
    | some c => String.ofList [' ', ' ', '-', c, ',', ' ']
    | none => "      "

def Argument.valueNote (a : Argument) : List String :=
  (match a.default with
    | some v => ["[default: " ++ v ++ "]"]
    | none => []) ++
  match a.kind with
  | .choice names => ["[possible values: " ++ Text.joinWith ", " names ++ "]"]
  | _ => []

def Argument.description (a : Argument) : String :=
  Text.joinWith " " ((if a.help.isEmpty then [] else [a.help]) ++ a.valueNote)

def padded (width : Nat) (s : String) : String :=
  s ++ String.ofList (List.replicate (width - s.length) ' ')

def table (rows : List (String × String × String)) : List String :=
  let width := rows.foldl (fun n r => max n r.2.1.length) 0
  rows.map fun r => r.1 ++ padded (width + 2) r.2.1 ++ r.2.2

def helpSection (title : String) (rows : List (String × String × String)) : List String :=
  if rows.isEmpty then [] else ["", title ++ ":"] ++ table rows

def argumentRows (l : List Argument) : List (String × String × String) :=
  l.map fun a => (a.indent, a.label, a.description)

def usage (name : String) (c : CommandSpec) (hasCommands : Bool) : String :=
  let options := c.arguments.any fun a => a.isNamed && a.form ≠ .help && a.form ≠ .version
  let place (a : Argument) : List String := match a.form with
    | .words => [a.label]
    | .rest => ["[-- <" ++ a.valueName ++ ">...]"]
    | _ => []
  Text.joinWith " " (["Usage:", name] ++ (if options then ["[OPTIONS]"] else []) ++
    c.arguments.flatMap place ++ if hasCommands then ["<COMMAND>"] else [])

def trimmedEnd (s : String) : String :=
  String.ofList (s.toList.reverse.dropWhile Text.isBlank).reverse

def helpSpec : CommandSpec where
  name := "help"
  about := "Print this message or the help of the given subcommand(s)"
  arguments := [{ name := "command", form := .words, valueName := "COMMAND"
                  help := "Print help for the subcommand(s)" }]

def helpOf (name : String) (c : CommandSpec) (commands : List CommandSpec) : String :=
  let text := [c.about, "", usage name c !commands.isEmpty] ++
    helpSection "Commands" (commands.map fun s => ("  ", s.name, s.about)) ++
    helpSection "Arguments" (argumentRows (c.arguments.filter (!·.isNamed))) ++
    helpSection "Options" (argumentRows (c.arguments.filter (·.isNamed)))
  trimmedEnd (Text.joinWith "\n" text) ++ "\n"

def helpText (command : Option String) : String :=
  let commands := commandSpecs ++ [helpSpec]
  match command.bind fun n => commands.find? (·.name = n) with
  | some c => helpOf (programSpec.name ++ " " ++ c.name) c []
  | none => helpOf programSpec.name programSpec commands

def versionText : String :=
  programSpec.name ++ " " ++ version ++ "\n"

end WebTestbed.CommandLine
