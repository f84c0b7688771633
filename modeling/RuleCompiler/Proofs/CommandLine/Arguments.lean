import RuleCompiler.CommandLine.Arguments
import RuleCompiler.Proofs.Text.Piece

/-!
Which compilations the command line can ask for: those of some files, where no file, configuration
or root is given by the empty text. Each of them can be spelled with the options first and the files
behind `--`.
-/

namespace RuleCompiler.CommandLine

/-- An option that is spelled with its value, in one argument. -/
def OptionName.attached (option : OptionName) (value : String) : String :=
  option.text ++ "=" ++ value

/-- The items of a compilation, the files last. -/
def CompileArguments.items (arguments : CompileArguments) : List (OptionName × String) :=
  arguments.destinations.map (OptionName.destination, ·) ++
    (arguments.config.toList.map (OptionName.config, ·) ++
      arguments.root.toList.map (OptionName.root, ·))

/-- One way to ask for a compilation. -/
def spelled (arguments : CompileArguments) : List String :=
  "compile" :: (arguments.items.map (fun entry => entry.1.attached entry.2) ++
    "--" :: arguments.files)

end RuleCompiler.CommandLine
