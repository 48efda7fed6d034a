import StylesheetAssets.Journal
import StylesheetAssets.Text

/-!
How a journal looks on a terminal.

Lines are headed by their topic in colour. While a line of counters is on the screen, every other
line is written over it.
-/
namespace StylesheetAssets.Terminal

/-- The text between the sequences that switch a mark on and off. -/
def styled (on off text : String) : String := "\x1b[" ++ on ++ "m" ++ text ++ "\x1b[" ++ off ++ "m"

def bold (text : String) : String := styled "1" "0" text
def dimmed (text : String) : String := styled "2" "0" text
def red (text : String) : String := styled "31" "39" text
def yellow (text : String) : String := styled "33" "39" text
def cyan (text : String) : String := styled "36" "39" text
def brightRed (text : String) : String := styled "91" "39" text
def brightGreen (text : String) : String := styled "92" "39" text
def brightYellow (text : String) : String := styled "93" "39" text
def brightBlue (text : String) : String := styled "94" "39" text
def brightMagenta (text : String) : String := styled "95" "39" text

/-- Goes back to the first column and clears the line. -/
def clearLine : String := "\x1b[1G\x1b[2K"

def clearRest : String := "\x1b[K"

/-- A topic in brackets, in the colour of its kind. -/
def topicHead (topic : String) : String :=
  let head := "[" ++ topic ++ "]"
  bold (match Text.lowerAscii topic with
    | "build" => brightBlue head
    | "copy" => brightGreen head
    | "inline" => brightGreen head
    | "error" => brightRed head
    | "warning" => brightMagenta head
    | _ => brightYellow head)

structure Counter where
  name : String
  total : Nat
  current : Nat := 0
deriving DecidableEq, Repr

def Counter.text (c : Counter) : String :=
  c.name ++ "(" ++ toString c.current ++ "/" ++ toString c.total ++ ")"

def counterLine (counters : List Counter) : String :=
  clearLine ++ topicHead "build" ++ " " ++ " ".intercalate (counters.map Counter.text)

/-- Counts one up on the first counter with a name, if there is one. -/
def countUp (name : String) : List Counter → Option (List Counter)
  | [] => none
  | c :: rest =>
    if c.name = name then some ({ c with current := c.current + 1 } :: rest)
    else (countUp name rest).map (c :: ·)

/-- A terminal: whether details are wanted, the counters on its last line, and what was written. -/
structure Screen where
  verbose : Bool := false
  counters : Option (List Counter) := none
  output : String := ""
  errors : String := ""

namespace Screen

def write (s : Screen) (text : String) : Screen := { s with output := s.output ++ text }

def line (s : Screen) (topic text : String) : Screen :=
  s.write ((if s.counters.isSome then clearLine else clearRest) ++ topicHead topic ++ " " ++ text ++
    "\n")

/-- The screen after one more event. Requests to the disk do not show. -/
def apply (s : Screen) : Event → Screen
  | .said topic text => s.line topic text
  | .detailed topic text => if s.verbose then s.line topic text else s
  | .complained text => { s with errors := s.errors ++ text ++ "\n" }
  | .printed text => s.write text
  | .progressBegan items =>
    let counters := (items.filter (0 < ·.2)).map fun (name, total) => { name, total : Counter }
    { s with counters := some counters }.write (counterLine counters)
  | .progressAdvanced name =>
    match s.counters.bind (countUp name) with
    | some counters => { s with counters := some counters }.write (counterLine counters)
    | none => s
  | .progressFinished =>
    match s.counters with
    | some counters => { s with counters := none }.write (counterLine counters ++ "\n")
    | none => s
  | .progressDropped =>
    if s.counters.isSome then { s with counters := none }.write clearLine else s
  | .examined _ => s
  | .read _ => s
  | .wrote _ => s
  | .createdDirectories _ => s
  | .copied _ _ => s

def applyAll (s : Screen) (journal : Journal) : Screen := journal.foldl apply s

end Screen

end StylesheetAssets.Terminal
