import ContainerDesk.Journal.Entry
import ContainerDesk.Language.Phrase
import ContainerDesk.Value.Display

/-!
# Choosing a language

A language is chosen by its code.  Any other value leaves English, with a warning.
-/

namespace ContainerDesk

namespace Language

def ofCode? : Value → Option Language
  | .text code =>
      if code = english.code then
        some .english
      else if code = russian.code then
        some .russian
      else
        none
  | _ => none

/-- The language for a code, and what the journal says about a code without one. -/
def choose (code : Value) : Language × Journal :=
  match ofCode? code with
  | some language => (language, [])
  | none =>
      (.english, [{
        level := .warning
        speaker := .language
        message := Text.of "Unsupported language " ++ code.quoted.getD [] ++
          Text.of ", falling back to en"
      }])

end Language

end ContainerDesk
