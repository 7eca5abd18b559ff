import DocMapper.Hook.Script

/-!
# Planned interceptors

An interceptor together with what it leaves in a report: nothing, a line, or a full entry under its
own name.
-/

namespace DocMapper

/-- An interceptor and how it reports. -/
inductive InterceptorPlan where
  /-- Changes nothing and reports nothing. -/
  | idle
  /-- Marks the documents that are about to be written, and reports a line for every call. -/
  | recording
  /-- Runs a script on the events of a table, and reports every run. -/
  | scripted (name : String) (table : List (Event × Script))

namespace InterceptorPlan

/-- The key of the mark that a recording interceptor leaves in documents. -/
def markKey : String := "intercepted"

def marking : Interceptor := fun event entity doc =>
  if event = .preSave then .finish entity (Document.insert doc markKey (.bool true)) none
  else .finish entity doc none

def following (table : List (Event × Script)) : Interceptor := fun event entity doc =>
  ((table.lookup event).getD []).react entity doc

def interceptor : InterceptorPlan → Interceptor
  | .idle => Interceptor.idle
  | .recording => marking
  | .scripted _ table => following table

/-- The name under which a call is reported in full, if it is. -/
def entryName? (event : Event) : InterceptorPlan → Option String
  | .scripted name table =>
    if (table.lookup event).isSome then some (name ++ ":" ++ event.name) else none
  | _ => none

/-- The line that reports a call for an object of a class, if it is reported so. -/
def line? (event : Event) (className : ClassName) : InterceptorPlan → Option String
  | .recording => some ("interceptor:" ++ event.name ++ ":" ++ className.text)
  | _ => none

end InterceptorPlan

end DocMapper
