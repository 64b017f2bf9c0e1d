import WebTestbed.Host.Preset

/-! Installing a configuration in the server. -/
namespace WebTestbed

inductive InstallError where
  | unclosedBlocks (count : Nat)
  | file (e : FileError)
  deriving DecidableEq, Repr

def InstallError.message : InstallError → String
  | unclosedBlocks n => "configuration has " ++ toString n ++ " unclosed block(s)"
  | file e => e.message

namespace ServerConfig

/-- What is installed: the server-wide lines, and after them those of the document. -/
def installedText (c : ServerConfig) : String :=
  Text.joinWith "\n" c.env.baseConf ++ "\n" ++ Text.joinWith "\n" c.document.lines ++ "\n"

/-- Puts the configuration into the place of whatever was installed before. A document with open
blocks is refused. -/
def install (c : ServerConfig) (t : FileTree) : Except InstallError FileTree :=
  if c.document.depth = 0 then
    (t.write c.env.testConfFile (Utf8.encode c.installedText)).mapError .file
  else .error (.unclosedBlocks c.document.depth)

def installNotice (c : ServerConfig) : String :=
  "installing " ++ toString c.document.lines.length ++ " lines to " ++ c.env.testConfFile.text

end WebTestbed.ServerConfig
