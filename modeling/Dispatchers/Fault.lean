import Dispatchers.Disk.Basic

namespace Dispatchers

inductive TemplateFault where
  | badSyntax
  | unknownFilter
  | unknownFunction
  | invalidOperation
  | missingArgument
  | tooManyArguments
  | cannotUnpack
  | undefinedValue
  | templateNotFound
deriving DecidableEq

def TemplateFault.name : TemplateFault → String
  | badSyntax => "SyntaxError"
  | unknownFilter => "UnknownFilter"
  | unknownFunction => "UnknownFunction"
  | invalidOperation => "InvalidOperation"
  | missingArgument => "MissingArgument"
  | tooManyArguments => "TooManyArguments"
  | cannotUnpack => "CannotUnpack"
  | undefinedValue => "UndefinedError"
  | templateNotFound => "TemplateNotFound"

inductive Task where
  | readDirectory
  | readSource
  | readModule
  | makeAbsolute
  | readSettings
  | parseSettings
  | readTemplate
  | parseTemplate
  | renderTemplate
  | makeOutput
  | writeFile
deriving DecidableEq

def Task.failed (subject : String) : Task → String
  | readDirectory => "Failed to read source directory: " ++ subject
  | readSource => "Failed to read source file: " ++ subject
  | readModule => "Failed to read " ++ subject
  | makeAbsolute => "Failed to make " ++ subject ++ " absolute"
  | readSettings => "Failed to read config: " ++ subject
  | parseSettings => "Failed to parse config: " ++ subject
  | readTemplate => "Failed to read template: " ++ subject
  | parseTemplate => "Failed to parse template " ++ subject
  | renderTemplate => "Failed to render template " ++ subject
  | makeOutput => "Failed to create output directory " ++ subject
  | writeFile => "Failed to write " ++ subject

inductive Fault where
  | io (cause : IoFault)
  | template (cause : TemplateFault)
  /-- A settings text that is no TOML or has other tables, keys or types than settings have. -/
  | badToml
  /-- A task failed on a path or template for a cause. -/
  | during (task : Task) (subject : String) (cause : Fault)
  | noSources (dir : String)
  /-- A source is no Go near one of its lines. -/
  | notGo (file : String) (line : Nat)
  | namelessModule (path : String)
  | importCycle (key : String)
  | scan (key : String) (cause : Fault)
  | unknownController (name : String)
  | embeddingCycle (chain : List String) (again : String)
  | unknownPrefixMethod (method : String)
  | badPrefixEntry (cause : Fault)
  | badSettings (cause : Fault)
  | missingSettings (path : String)
  | resolution (input : String) (cause : Fault)
  | noInputImport (input : String)
  | noOutputImport (output : String)
  | outputImportNeeded
  | reservedController (name package : String)
  | reservedAction (controller action package : String)
  | sameFile (controller package file : String)
  | unbindableParameter (parameter action : String)
  | noConversion (type : String)
  | unknownParent (name : String)
  | noListingInput (input : String)
deriving DecidableEq

namespace Fault

/-- The text of a fault, without what the system and the parsers say about it in their own words. -/
def message : Fault → String
  | io cause => "io " ++ cause.name
  | template cause => "template " ++ cause.name
  | badToml => "toml"
  | during task subject cause => task.failed subject ++ ": " ++ cause.message
  | noSources dir => "No Go source files found in " ++ dir
  | notGo file _ => "Syntax error in " ++ file
  | namelessModule path => "No module directive in " ++ path
  | importCycle key =>
    "import cycle: package " ++ key ++ " embeds controllers from a package that imports it"
  | scan key cause => "Failed to scan package " ++ key ++ ": " ++ cause.message
  | unknownController name => "unknown controller " ++ name
  | embeddingCycle chain again =>
    "embedding cycle: " ++ " -> ".intercalate chain ++ " embeds " ++ again ++ " again"
  | unknownPrefixMethod method => "Unknown prefix method `" ++ method ++ "`"
  | badPrefixEntry cause => "Invalid [[prefixes]] entry: " ++ cause.message
  | badSettings cause => "Invalid handlergen configuration: " ++ cause.message
  | missingSettings path => "Config file not found: " ++ path
  | resolution input cause =>
    "Failed to resolve controllers in " ++ input ++ ": " ++ cause.message
  | noInputImport input =>
    "Cannot determine the Go import path of " ++ input ++ "; add a go.mod or a [[roots]] entry"
  | noOutputImport output =>
    "Cannot determine the Go import path of " ++ output ++ "; set [handlers] output_import"
  | outputImportNeeded => "Generated packages need an output import path"
  | reservedController name package =>
    "Controller " ++ name ++ " of " ++ package ++
      " clashes with a generated identifier; rename it"
  | reservedAction controller action package =>
    "Action " ++ controller ++ "." ++ action ++ " of " ++ package ++
      " clashes with a generated dispatcher method; rename it"
  | sameFile controller package file =>
    "Controller " ++ controller ++ " of " ++ package ++ " would overwrite the generated file " ++
      file
  | unbindableParameter parameter action =>
    "parameter " ++ parameter ++ " of " ++ action ++ " is not bindable"
  | noConversion type => "no conversion function for " ++ type
  | unknownParent name => "unknown parent controller " ++ name
  | noListingInput input => "Listing input directory does not exist: " ++ input

end Fault

/-- As a truth value, an outcome tells whether there was no fault. -/
instance : Coe (Except Fault Unit) Bool :=
  ⟨Except.isOk⟩

end Dispatchers
