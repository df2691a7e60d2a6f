import CalibratedSweep.Text.Bytes
/-!
Comma-separated records as bytes. A field is quoted when it holds a comma, a quote or an end of
line; inside quotes a quote is written twice. A record ends with a line feed.
-/

namespace CalibratedSweep.Csv

def comma : UInt8 := 44
def quote : UInt8 := 34
def lineFeed : UInt8 := 10
def carriageReturn : UInt8 := 13

def isSpecial (b : UInt8) : Bool :=
  b == comma || b == quote || b == lineFeed || b == carriageReturn

def doubleQuotes : Bytes → Bytes
  | [] => []
  | b :: rest => if b = quote then quote :: quote :: doubleQuotes rest else b :: doubleQuotes rest

def writeField (field : Bytes) : Bytes :=
  if field.any isSpecial then quote :: doubleQuotes field ++ [quote] else field

def writeFields : List Bytes → Bytes
  | [] => []
  | [f] => writeField f
  | f :: rest => writeField f ++ comma :: writeFields rest

def writeRecord (fields : List String) : Bytes :=
  writeFields (fields.map Bytes.ofText) ++ [lineFeed]

end CalibratedSweep.Csv
