import EditorBridge.Host.SystemError

/-!
# Configuration errors

A root cause, and what was being done when it showed, from the inside out.
-/
namespace EditorBridge

inductive ConfigError where
  | invalidValue (key reason : String)
  | notFound (path : String)
  /-- The operating system did not give the file's content. -/
  | unreadable (error : Host.SystemError)
  /-- The file's content is not text. -/
  | notText
  /-- The file's text is no TOML document, or none of the expected form. -/
  | malformed
  | other (message : String)
  /-- A cause, with what was being done. -/
  | during (action : String) (cause : ConfigError)
  deriving DecidableEq, Repr

namespace ConfigError

/-- What is said about a text that is no configuration. -/
def malformedText : String := "the text is not a configuration in TOML"

/-- The texts of the chain, from the outermost action to the root cause. -/
def chain : ConfigError → List String
  | invalidValue key reason => ["Invalid configuration value for " ++ key ++ ": " ++ reason]
  | notFound path => ["Configuration file not found at " ++ path]
  | unreadable error => [error.message]
  | notText => ["stream did not contain valid UTF-8"]
  | malformed => [malformedText]
  | other message => [message]
  | during action cause => action :: cause.chain

def message (error : ConfigError) : String := error.chain.headD ""

/-- The texts below the outermost one. -/
def causes (error : ConfigError) : List String := error.chain.drop 1

end ConfigError

end EditorBridge
