import WikiMessage.Markup.ParseError
import WikiMessage.Text.Affix

/-!
# Diagnostics

A parse error together with where its message came from, in the form in which tools show it: the
part of the message that is at fault is given in bytes.
-/

namespace WikiMessage.Markup

structure Diagnostic where
  /-- Where the message came from, such as a file and a locale, and its key. -/
  source : String
  key : String
  reason : String
  /-- The whole message. -/
  input : String
  /-- The number of bytes before the part at fault. -/
  offset : Nat
  /-- The number of bytes of the part. -/
  length : Nat
  help : Option String
  deriving DecidableEq, Repr

namespace Diagnostic

def code : String := "lingo::syntax"

/-- Where the part at fault begins, which is in the message or at its end. -/
def spanOffset (e : ParseError) : Nat := min e.byteOffset (Text.byteCount e.message.toList)

/-- The size of the character that stands there, if there is one. -/
def spanLength (e : ParseError) : Nat :=
  match Text.splitBytes? (spanOffset e) e.message.toList with
  | some (_, c :: _) => c.utf8Size
  | _ => 0

/-- The diagnostic of an error in the message of a key. A message that ends too early is helped
with. -/
def ofError (origin key : String) (e : ParseError) : Diagnostic where
  source := origin ++ ": " ++ key
  key := key
  reason := e.reason
  input := e.message
  offset := spanOffset e
  length := spanLength e
  help :=
    if Text.occursIn "end of input".toList e.reason.toList then
      some "a '\x7b\x7b' template or '<' tag is never closed"
    else none

def title (d : Diagnostic) : String := "syntax error in '" ++ d.key ++ "': " ++ d.reason

end Diagnostic
end WikiMessage.Markup
