import ContainerDesk.Language.Phrase

/-!
# Dialogs

A dialog that shows a text, with one button that copies a text to the clipboard and
one that closes the dialog.  What is copied may differ from what is shown.
-/

namespace ContainerDesk

structure TextDialog where
  title : Text
  body : Text
  /-- What the first button copies. -/
  copied : Text
  buttons : List Text
  isClosed : Bool
deriving DecidableEq

namespace TextDialog

/-- A dialog that was just opened; without a text of its own to copy, it copies what it shows. -/
def opened (language : Language) (title body : Text) (copied : Option Text) : TextDialog :=
  {
    title
    body
    copied := copied.getD body
    buttons := [language.say .copy, language.say .close]
    isClosed := false
  }

/-- The dialog and the clipboard after a button was pressed, by its place. -/
def press (state : TextDialog × Text) (button : Nat) : TextDialog × Text :=
  match button with
  | 0 => (state.1, state.1.copied)
  | 1 => ({ state.1 with isClosed := true }, state.2)
  | _ => state

def run (dialog : TextDialog) (clipboard : Text) (buttons : List Nat) : TextDialog × Text :=
  buttons.foldl press (dialog, clipboard)

end TextDialog

end ContainerDesk
