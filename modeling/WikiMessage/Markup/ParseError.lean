import WikiMessage.Numeral.Digits
import WikiMessage.Text.Bytes

/-!
# Where a message cannot be read

A message that does not follow the grammar is refused with the place of the first character that no
rule could read.
-/

namespace WikiMessage.Markup

structure ParseError where
  message : String
  /-- The number of characters before the place. -/
  offset : Nat
  /-- The character there, unless the message ends. -/
  found : Option Char
  deriving DecidableEq, Repr

namespace ParseError

/-- The error of a message whose part `rest`, up to its end, was not read. The characters before it
are those of the bytes that it leaves of the message. -/
def ofRest (message : String) (rest : List Char) : ParseError where
  message := message
  offset :=
    match Text.splitBytes? (Text.byteCount message.toList - Text.byteCount rest) message.toList with
    | some (before, _) => before.length
    | none => 0
  found := rest.head?

/-- The number of bytes before the place. -/
def byteOffset (e : ParseError) : Nat := Text.byteCount (e.message.toList.take e.offset)

def reason (e : ParseError) : String :=
  match e.found with
  | some c => "unexpected character '" ++ String.singleton c ++ "'"
  | none => "unexpected end of input"

def describe (e : ParseError) : String :=
  "syntax error at offset " ++ Numeral.text e.offset ++ " in message \"" ++ e.message ++ "\": " ++
    e.reason

end ParseError
end WikiMessage.Markup
