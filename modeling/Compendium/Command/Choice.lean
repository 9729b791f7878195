/-!
# The options of the command

A `Choice` is an option of the command line.  Its names, the value it takes and its help are
functions of it, for the reader of arguments and for the help alike.
-/

namespace Compendium.Command

/-- An option of the command line. -/
inductive Choice where
  | output
  | stdout
  | listFiles
  | blacklist
  | config
  | noGlobalConfig
  | noBuiltinIgnore
  | verbose
  | quiet
  | log
  | help
  | version
deriving DecidableEq

namespace Choice

/-- All options, in the order of the help. -/
def all : List Choice :=
  [.output, .stdout, .listFiles, .blacklist, .config, .noGlobalConfig, .noBuiltinIgnore,
    .verbose, .quiet, .log, .help, .version]

/-- The name of an option after two dashes. -/
def long : Choice → String
  | .output => "output"
  | .stdout => "stdout"
  | .listFiles => "list-files"
  | .blacklist => "blacklist"
  | .config => "config"
  | .noGlobalConfig => "no-global-config"
  | .noBuiltinIgnore => "no-builtin-ignore"
  | .verbose => "verbose"
  | .quiet => "quiet"
  | .log => "log"
  | .help => "help"
  | .version => "version"

/-- The letter of an option after one dash. -/
def short? : Choice → Option Char
  | .output => some 'o'
  | .listFiles => some 'l'
  | .blacklist => some 'b'
  | .config => some 'c'
  | .verbose => some 'v'
  | .quiet => some 'q'
  | .help => some 'h'
  | .version => some 'V'
  | .stdout | .noGlobalConfig | .noBuiltinIgnore | .log => none

/-- What the value of an option is, where it takes one. -/
def value? : Choice → Option String
  | .output | .config => some "FILE"
  | .blacklist => some "PATTERN"
  | _ => none

/-- Whether an option counts each time it is given. -/
def repeats : Choice → Bool
  | .blacklist | .verbose => true
  | _ => false

/-- The option of a long name. -/
def ofLong? (name : List Char) : Option Choice := all.find? fun c => c.long.toList = name

/-- The option of a letter. -/
def ofShort? (letter : Char) : Option Choice := all.find? fun c => c.short? = some letter

end Choice

end Compendium.Command
