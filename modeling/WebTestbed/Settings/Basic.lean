import WebTestbed.Text.Blank

/-! The settings of the testbed. -/
namespace WebTestbed

structure Programs where
  installDir : String := "/usr/local/apache2"
  binDir : String := "/usr/local/apache2/bin"
  apxs : String := "apxs"
  apachectl : String := "apachectl"
  curl : String := "curl"
  nghttp : String := ""
  h2load : String := ""
  deriving DecidableEq, Repr

structure TestSettings where
  httpPort : UInt16 := 5002
  httpsPort : UInt16 := 5001
  proxyPort : UInt16 := 5003
  domain : String := "tests.httpd.apache.org"
  testDir : String := "test"
  genDir : String := "test/gen"
  deriving DecidableEq, Repr

structure ServerSettings where
  sharedModules : String := ""
  staticModules : String := ""
  moduleDir : String := ""
  deriving DecidableEq, Repr

structure Settings where
  programs : Programs := {}
  test : TestSettings := {}
  server : ServerSettings := {}
  deriving DecidableEq, Repr

namespace Settings

def sharedModules (s : Settings) : List String :=
  Text.words s.server.sharedModules

def staticModules (s : Settings) : List String :=
  Text.words s.server.staticModules

end WebTestbed.Settings
