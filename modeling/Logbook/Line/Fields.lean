import Logbook.Level
import Logbook.Text.Numeral

/-! What one line says about itself. Every field but the message is the trimmed text that a layout
cut out of the line, and absent where nothing is left after trimming. -/

namespace Logbook.Line

inductive Layout where
  | tagged
  | positional
  | structured
  | minimal
  | linux
  | android
  | logcat
  | browser
  | plain
deriving DecidableEq, Repr

def Layout.name : Layout → Text
  | .tagged => "tagged".toList
  | .positional => "positional".toList
  | .structured => "structured".toList
  | .minimal => "minimal".toList
  | .linux => "linux".toList
  | .android => "android".toList
  | .logcat => "android-system".toList
  | .browser => "browser".toList
  | .plain => "generic".toList

abbrev Extras := List (Text × Text)

def Extras.get? (xs : Extras) (key : Text) : Option Text := xs.lookup key

structure Parts where
  moduleName : Option Text := none
  thread : Option Text := none
  process : Option Text := none
  sourceFile : Option Text := none
  sourceLine : Option Text := none

structure Fields where
  layout : Layout
  level : Option Level
  moduleName : Option Text
  thread : Option Text
  process : Option Text
  sourceFile : Option Text
  sourceLine : Option Nat
  message : Text
  extras : Extras
deriving DecidableEq, Repr

/-- Line numbers have 32 bits; larger ones are dropped. -/
def lineNumber? (t : Text) : Option Nat := Numeral.read? Numeral.max32 (Text.trim t)

def Fields.ofParts (layout : Layout) (level : Option Level) (message : Text) (p : Parts)
    (extras : Extras) : Fields where
  layout := layout
  level := level
  moduleName := p.moduleName.bind Text.nonblank?
  thread := p.thread.bind Text.nonblank?
  process := p.process.bind Text.nonblank?
  sourceFile := p.sourceFile.bind Text.nonblank?
  sourceLine := p.sourceLine.bind lineNumber?
  message := message
  extras := extras

end Logbook.Line
