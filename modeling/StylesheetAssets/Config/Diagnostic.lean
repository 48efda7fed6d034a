import StylesheetAssets.Terminal.Screen

/-!
What is wrong with a configuration, field by field.
-/
namespace StylesheetAssets

structure Diagnostic where
  field : String
  message : String
  hint : Option String := none
deriving DecidableEq, Repr

open Terminal in
/-- The field in brackets, the message behind an arrow, and the hint on a line of its own. -/
def Diagnostic.render (d : Diagnostic) : String :=
  let hint :=
    match d.hint with
    | some hint => "\n  " ++ yellow "hint:" ++ " " ++ hint
    | none => ""
  dimmed "[" ++ cyan d.field ++ dimmed "]" ++ "\n" ++ red "→" ++ " " ++ d.message ++ hint

open Terminal in
/-- All diagnostics under one heading, and their number if there are several. -/
def renderDiagnostics (ds : List Diagnostic) : String :=
  let count :=
    if 1 < ds.length then
      "\n\n" ++ dimmed "found" ++ " " ++ bold (red (toString ds.length)) ++ " " ++ dimmed "errors"
    else ""
  bold (red "config validation failed:") ++ "\n\n" ++
    "\n\n".intercalate (ds.map Diagnostic.render) ++ count

end StylesheetAssets
