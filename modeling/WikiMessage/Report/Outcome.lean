import WikiMessage.Catalog.LoadError
import WikiMessage.Markup.Diagnostic
import WikiMessage.Text.Quoted

/-!
# What a command does

A command prints text and notices and ends with a code, or it cannot be carried out at all.
-/

namespace WikiMessage.Report

/-- What is printed beside a command's own output. -/
inductive Notice
  | line (text : String)
  | diagnostic (d : Markup.Diagnostic)
  deriving DecidableEq, Repr

structure Outcome where
  code : Nat
  output : String
  notices : List Notice
  deriving DecidableEq, Repr

def success : Nat := 0

/-- The code for data that is not as it should be. -/
def badData : Nat := 65

inductive CommandError
  | load (error : Catalog.LoadError)
  | nothingToEvaluate
  | noMessage (key locale : String) (chain : List String)
  | noSource (locale directory : String)

namespace CommandError

def message (wording : Catalog.FaultWording) : CommandError → String
  | load e => e.message wording
  | nothingToEvaluate => "either --template or --key is required"
  | noMessage key locale chain =>
    "no message '" ++ key ++ "' for '" ++ locale ++ "' or its fallbacks " ++ Text.quotedList chain
  | noSource locale directory =>
    "no catalog for source language '" ++ locale ++ "' in " ++ directory

end CommandError

/-- Text in bold red, for what failed. -/
def red (text : String) : String := "\x1b[1m\x1b[31m" ++ text ++ "\x1b[39m\x1b[0m"

/-- Text in bold green, for what is well. -/
def green (text : String) : String := "\x1b[1m\x1b[32m" ++ text ++ "\x1b[39m\x1b[0m"

def line (text : String) : String := text ++ "\n"

end WikiMessage.Report
