import Beacon.Log.Filter
import Beacon.Text.Quoted

/-!
# Log lines

The written form of an event on one line: level, target, message and fields. A string of its own
is quoted. The characters with which a message could steer a terminal are written by number.
-/

namespace Beacon.Log

def messageChar (c : Char) : List Char :=
  if c = '\x07' ∨ c = '\x08' ∨ c = '\x0c' ∨ c = '\x1b' ∨ c = '\x7f' then
    ['\\', 'x'] ++ (if c.toNat < 16 then ['0'] else []) ++ Text.hex c.toNat
  else if 0x80 ≤ c.toNat ∧ c.toNat ≤ 0x9F then
    ['\\', 'u', '\x7b'] ++ Text.hex c.toNat ++ ['\x7d']
  else [c]

def messageText (message : String) : String :=
  String.ofList (message.toList.flatMap messageChar)

def Value.written : Value → String
  | .text value => Text.quote value
  | .printed value => value
  | .number value => Decimal.numeral value

def fieldText (field : String × Value) : String :=
  " " ++ field.1 ++ "=" ++ field.2.written

def Event.line (event : Event) : String :=
  event.level.name ++ " " ++ event.source.target ++ ": " ++ messageText event.message ++
    String.join (event.fields.map fieldText)

def Filter.lines (filter : Filter) (events : List Event) : List String :=
  (events.filter filter.passes).map Event.line

end Beacon.Log
