import ScreenCapture.Pipeline.Run

set_option autoImplicit false

namespace ScreenCapture

namespace Tally

def outputText : Option Size → String
  | none => "null"
  | some size =>
      "\x7b\n    \"width\": " ++ toString size.width ++ ",\n    \"height\": " ++
        toString size.height ++ "\n  \x7d"

def reportLine (line : String × String) : String := "  \"" ++ line.1 ++ "\": " ++ line.2

def report (tally : Tally) : String :=
  "\x7b\n" ++ ",\n".intercalate ([("produced", toString tally.produced),
    ("dropped", toString tally.dropped), ("consumed", toString tally.consumed),
    ("crop_misses", toString tally.cropMisses), ("reallocations", toString tally.reallocations),
    ("changed_pixels", toString tally.changedPixels),
    ("last_output_size", outputText tally.lastOutput)].map reportLine) ++ "\n\x7d"

end Tally

def readSettings (path : String) : IO (Except SettingsError Settings) := do
  let contents ← (some <$> IO.FS.readBinFile path) <|> pure none
  return Settings.load path contents

def chooseSettings : List String → IO (Except SettingsError Settings)
  | [] => return .ok .standard
  | path :: _ => readSettings path

def runSettings : Except SettingsError Settings → Except String Tally
  | .error error => throw error.message
  | .ok settings => Pipeline.run settings

end ScreenCapture

def main (arguments : List String) : IO UInt32 := do
  let settings ← ScreenCapture.chooseSettings arguments
  match ScreenCapture.runSettings settings with
  | .ok tally =>
      IO.println tally.report
      return 0
  | .error message =>
      IO.eprintln ("Error: " ++ message)
      return 1
