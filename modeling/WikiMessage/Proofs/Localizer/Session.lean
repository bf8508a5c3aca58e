import WikiMessage.Localizer

/-!
# Sessions with a localizer

A session is a list of requests to one localizer, which answers them one after another. Beside the
localizer stands one that parses every template anew and never looks at its cache: for it the cache
is no part of the state. Requests that render nothing are answered the same way by both.
-/

namespace WikiMessage

open Catalog Operation

/-- All that can be asked of a localizer, questions and changes alike. -/
inductive Request
  | setLanguage (language : String)
  | register (name : String) (handler : Handler)
  | load (source : Json) (locale : Option String)
  | loadText (json : String) (locale : Option String)
  | loadFile (files : Files) (path : String) (locale : Option String)
  | loadDirectory (files : Files) (directory : String)
  | message (key : String)
  | format (key : String) (params : List Value)
  | localize (key : String) (params : List Value)
  | render (template : String) (params : List Value)
  | clearCache

inductive Reply
  | done
  | loaded (result : Except LoadError Nat)
  | found (template : Option String)
  | rendered (result : Except RenderError String)
  | shown (text : String)

namespace Localizer

/-- What a localizer replies to a request, and the localizer after it. -/
def answer (l : Localizer) : Request → Localizer × Reply
  | .setLanguage language => (l.setLanguage language, .done)
  | .register name handler => (l.register name handler, .done)
  | .load source locale => (l.load source locale).map id .loaded
  | .loadText json locale => (l.loadText json locale).map id .loaded
  | .loadFile files path locale => (l.loadFile files path locale).map id .loaded
  | .loadDirectory files directory => (l.loadDirectory files directory).map id .loaded
  | .message key => (l, .found (l.message? key))
  | .format key params => (l.format key params).map id .rendered
  | .localize key params => (l.localize key params).map id .shown
  | .render template params => (l.render template params).map id .rendered
  | .clearCache => (l.clearCache, .done)

/-- The localizer after a session, and its replies in order. -/
def run (l : Localizer) : List Request → Localizer × List Reply
  | [] => (l, [])
  | r :: requests =>
    let (l, reply) := l.answer r
    (run l requests).map id (reply :: ·)

theorem run_cons (l : Localizer) (r : Request) (requests : List Request) :
    l.run (r :: requests) =
      (((l.answer r).1.run requests).1, (l.answer r).2 :: ((l.answer r).1.run requests).2) := rfl

/-- What a template gives when it is parsed anew and evaluated with the operations and the language
of the moment. -/
def renderAnew (l : Localizer) (template : String) (params : List Value) :
    Except RenderError String :=
  (l.context params).render l.links template

/-- The rendered text, or the template itself if it cannot be rendered. -/
def shown (template : String) : Except RenderError String → String
  | .ok text => text
  | .error _ => template

def answerAnew (l : Localizer) : Request → Localizer × Reply
  | .format key params => (l, .rendered (l.renderAnew (l.template key) params))
  | .localize key params =>
    (l, .shown (shown (l.template key) (l.renderAnew (l.template key) params)))
  | .render template params => (l, .rendered (l.renderAnew template params))
  | .clearCache => (l, .done)
  | r => l.answer r

def runAnew (l : Localizer) : List Request → Localizer × List Reply
  | [] => (l, [])
  | r :: requests =>
    let (l, reply) := l.answerAnew r
    (runAnew l requests).map id (reply :: ·)

theorem runAnew_cons (l : Localizer) (r : Request) (requests : List Request) :
    l.runAnew (r :: requests) =
      (((l.answerAnew r).1.runAnew requests).1,
        (l.answerAnew r).2 :: ((l.answerAnew r).1.runAnew requests).2) := rfl

end Localizer
end WikiMessage
