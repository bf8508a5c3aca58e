/-!
# Words of a command line

A word that begins with `-` is an option, and the others are operands. An option may take a value,
which is the rest of its word after `=`, or else the next word. After `--` all words are operands.
-/

namespace WikiMessage.Report

/-- Why the words of a command line are not a command. -/
inductive UsageError
  | noCommand
  | unknownCommand (name : String)
  | unknownOption (option : String)
  | noValue (option : String)
  | repeated (option : String)
  | missing (what : String)
  | unexpected (operand : String)
  | conflict (option other : String)
  | requires (option other : String)
  deriving DecidableEq, Repr

def UsageError.message : UsageError → String
  | noCommand => "a command is required: check, coverage, eval or fallbacks"
  | unknownCommand name => "unknown command '" ++ name ++ "'"
  | unknownOption option => "unknown option '" ++ option ++ "'"
  | noValue option => "a value is required for '" ++ option ++ "'"
  | repeated option => "'" ++ option ++ "' cannot be given more than once"
  | missing what => what ++ " is required"
  | unexpected operand => "unexpected argument '" ++ operand ++ "'"
  | conflict option other => "'" ++ option ++ "' cannot be used with '" ++ other ++ "'"
  | requires option other => "'" ++ option ++ "' requires '" ++ other ++ "'"

/-- The options that a command has. -/
structure Signature where
  /-- The options with a value. -/
  valued : List String
  /-- The options without one. -/
  flags : List String

/-- The words of a command line by what they are. -/
structure Arguments where
  values : List (String × String)
  flags : List String
  operands : List String
  deriving DecidableEq, Repr

namespace Arguments

def empty : Arguments := ⟨[], [], []⟩

def addValue (a : Arguments) (option value : String) : Arguments :=
  { a with values := a.values ++ [(option, value)] }

def addFlag (a : Arguments) (flag : String) : Arguments := { a with flags := a.flags ++ [flag] }

def addOperands (a : Arguments) (words : List String) : Arguments :=
  { a with operands := a.operands ++ words }

/-- An option and the value after an equals sign, if there is one. -/
def splitOption (word : String) : String × Option String :=
  let name := word.toList.takeWhile (· ≠ '=')
  match word.toList.dropWhile (· ≠ '=') with
  | [] => (word, none)
  | _ :: value => (String.ofList name, some (String.ofList value))

def isOption (word : String) : Bool := word.toList.head? = some '-' && word ≠ "-"

/-- Reads words after those that are known, where `pending` is an option that lacks its value. -/
def readAfter (s : Signature) (known : Arguments) (pending : Option String) :
    List String → Except UsageError Arguments
  | [] =>
    match pending with
    | none => .ok known
    | some option => .error (.noValue option)
  | word :: words =>
    match pending with
    | some option => readAfter s (known.addValue option word) none words
    | none =>
      if word = "--" then .ok (known.addOperands words)
      else if isOption word then
        match splitOption word with
        | (option, some value) =>
          if s.valued.contains option then readAfter s (known.addValue option value) none words
          else .error (.unknownOption option)
        | (option, none) =>
          if s.flags.contains option then readAfter s (known.addFlag option) none words
          else if s.valued.contains option then readAfter s known (some option) words
          else .error (.unknownOption option)
      else readAfter s (known.addOperands [word]) none words

def read (s : Signature) (words : List String) : Except UsageError Arguments :=
  readAfter s empty none words

def has (a : Arguments) (flag : String) : Bool := a.flags.contains flag

/-- The values of an option under any of its names, in order. -/
def all (a : Arguments) (names : List String) : List String :=
  (a.values.filter fun v => names.contains v.1).map Prod.snd

/-- The value of an option that may be given once. -/
def one? (a : Arguments) (option : String) : Except UsageError (Option String) :=
  match a.all [option] with
  | [] => .ok none
  | [value] => .ok (some value)
  | _ => .error (.repeated option)

def noOperands (a : Arguments) : Except UsageError Unit :=
  match a.operands with
  | [] => .ok ()
  | operand :: _ => .error (.unexpected operand)

end Arguments
end WikiMessage.Report
