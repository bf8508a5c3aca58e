import WikiMessage.Report.Command

/-!
# The command line

What a command looks at is read before it runs, and what it did is printed after.
-/

namespace WikiMessage.Report

open Catalog Markup

/-- The reason for which the file system refused. -/
def fileError : IO.Error → FileError
  | .noFileOrDirectory _ _ _ => .notFound
  | .inappropriateType _ code reason =>
    if code = 20 then .notADirectory
    else if code = 21 then .isADirectory
    else .other reason
  | e => .other (toString e)

def readText (path : String) : IO (Except FileError String) := do
  try
    let bytes ← IO.FS.readBinFile path
    match String.fromUTF8? bytes with
    | some text => return .ok text
    | none => return .error .notText
  catch e => return .error (fileError e)

def listNames (path : String) : IO (Except FileError (List String)) := do
  try
    let directory ← IO.FS.realPath path
    let entries ← directory.readDir
    return .ok (entries.toList.map fun e => e.fileName)
  catch e => return .error (fileError e)

/-- The catalogs that loading a directory reads. -/
def catalogPaths (directory : String) : Except FileError (List String) → List String
  | .ok names => (names.filter Localizer.isCatalog).map (joinPath directory)
  | .error _ => []

/-- All that a command looks at. -/
def findFiles (c : Command) : IO Files := do
  let mut texts := []
  let mut names := []
  for directory in c.directories do
    let listed ← listNames directory
    names := (directory, listed) :: names
    for path in catalogPaths directory listed do
      texts := (path, ← readText path) :: texts
  for path in c.paths do
    texts := (path, ← readText path) :: texts
  return .ofFound texts names

/-- A diagnostic as it is shown: what is wrong, where, and in which message. -/
def draw (d : Diagnostic) : String :=
  line (red Diagnostic.code) ++ line ("  × " ++ d.title) ++
    line ("  [" ++ d.source ++ ", byte " ++ Numeral.text d.offset ++ "] error here") ++
    line ("  " ++ d.input) ++
    match d.help with
    | some help => line ("  help: " ++ help)
    | none => ""

def showNotice : Notice → String
  | .line text => text
  | .diagnostic d => draw d

def runCommand (data : LanguageData) (wording : FaultWording) (c : Command) : IO UInt32 := do
  match c.run data wording (← findFiles c) with
  | .ok o =>
    IO.print o.output
    IO.eprint (String.join (o.notices.map showNotice))
    return o.code.toUInt32
  | .error e =>
    IO.eprintln ("Error: " ++ e.message wording)
    return 70

/-- The program, given the data of languages and the words for texts that are no JSON. -/
def runProgram (data : LanguageData) (wording : FaultWording) (args : List String) : IO UInt32 := do
  match Command.read args with
  | .ok c => runCommand data wording c
  | .error e =>
    IO.eprintln ("error: " ++ e.message)
    return 2

end WikiMessage.Report
