import Concordance.Text.Case

/-!
# Settings

The words and marks that a run goes by.  Each has a default and can be set by a variable of the
environment.
-/

namespace Concordance

/-- What a run goes by. -/
structure Settings where
  /-- The language of code that is a fragment of the grammar. -/
  language : Text := "antlr".toList
  /-- The name that one of two grammars may lack. -/
  startSymbol : Text := "start".toList
  /-- How the names of documents end. -/
  extension : Text := ".md".toList
  /-- The encoding of the input files. -/
  encoding : Text := "utf-8".toList
  /-- The level from which notes are shown. -/
  logLevel : Text := "WARNING".toList
  /-- Where a finding is located that belongs to no file. -/
  toolName : Text := "mdspec".toList
  deriving DecidableEq, Repr

namespace Settings

/-- The settings that an environment makes; the level of notes is written in capitals. -/
def ofEnvironment (value? : String → Option Text) : Settings :=
  let d : Settings := {}
  { language := (value? "MDSPEC_GRAMMAR_LANGUAGE").getD d.language
    startSymbol := (value? "MDSPEC_START_SYMBOL").getD d.startSymbol
    extension := (value? "MDSPEC_DOCUMENT_EXTENSION").getD d.extension
    encoding := (value? "MDSPEC_ENCODING").getD d.encoding
    logLevel := Text.upper ((value? "MDSPEC_LOG_LEVEL").getD d.logLevel)
    toolName := (value? "MDSPEC_TOOL_NAME").getD d.toolName }

end Settings

end Concordance
