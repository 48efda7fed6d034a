import StylesheetAssets.Import.Statement
import StylesheetAssets.Journal

/-!
Import markers: comments around an `@import` statement that carry its path.

Once the statement has been replaced by the text of the file, the pair of markers bounds that text
and tells where it came from.
-/
namespace StylesheetAssets.Import

/-- The text of a start marker, up to its path. -/
def startFlag : List Char := "start cssurl import path:".toList

def endFlag : List Char := "end cssurl".toList

def comment (text : List Char) : List Char := '/' :: '*' :: text ++ ['*', '/']

def startMarker (path : List Char) : List Char := comment (startFlag ++ path)

def endMarker : List Char := comment endFlag

/-- The path in the text of a comment, if it is a start marker. -/
def startMarkerPath? (text : List Char) : Option (List Char) :=
  (Text.stripStart? startFlag (Text.trim text)).map Text.trim

def isEndMarker (text : List Char) : Bool := Text.trim text = endFlag

def Statement.marked (i : Statement) : List Char := startMarker i.path ++ i.text ++ endMarker

/-- A text with markers around each of its live statements. -/
def mark (code : List Char) : List Char :=
  (cutLive code).1.flatMap (fun p => p.1 ++ p.2.marked) ++ (cutLive code).2

/-- Marks the statements of a file's text, and notes how many there were. -/
def markFile (code : List Char) (file : Path) : StateM Journal (List Char) := do
  let count := (liveStatements code).length
  if 0 < count then
    Journal.detail "import" s!"{file.text}: marked {count} @import"
  return mark code

end StylesheetAssets.Import
