import Logbook.Line.Structured
import Logbook.Line.Logcat
import Logbook.Line.Browser
import Logbook.Line.Plain

/-! The layouts are tried in a fixed order and the first that fits gives the fields. -/

namespace Logbook.Line

def Layout.read? : Layout → Text → Option Fields
  | .tagged => Scan.result? Line.tagged
  | .positional => Scan.result? Line.positional
  | .structured => Scan.result? Line.structured
  | .minimal => Scan.result? Line.minimal
  | .linux => Scan.result? Line.linux
  | .android => Scan.result? Line.android
  | .logcat => Scan.result? Line.logcat
  | .browser => Scan.result? Line.browser
  | .plain => fun line => some (Line.plain line)

def Layout.cascade : List Layout :=
  [.tagged, .positional, .structured, .minimal, .linux, .android, .logcat, .browser]

/-- A byte order mark or control characters in front of the first field are no part of it. -/
def isStray (c : Char) : Bool := c = '\uFEFF' || Text.isControl c

def detectIn (layouts : List Layout) (line : Text) : Fields :=
  (layouts.findSome? (·.read? line)).getD (plain line)

def detect (line : Text) : Fields := detectIn Layout.cascade (line.dropWhile isStray)

end Logbook.Line
