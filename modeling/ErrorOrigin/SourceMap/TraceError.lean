import ErrorOrigin.SourceMap.Vlq

/-!
# Why a map cannot be traced
-/

namespace ErrorOrigin.SourceMap

/-- What is wrong with a map, and on which line.  Lines are those of the generated text, counted
from zero. -/
inductive TraceError where
  | unsupportedVersion (version : UInt32)
  | invalidCharacter (c : Char) (line : Nat)
  | truncated (line : Nat)
  | overflow (line : Nat)
  | invalidSegment (fields line : Nat)
deriving DecidableEq, Repr

def TraceError.ofFault (line : Nat) : Vlq.Fault → TraceError
  | .invalidCharacter c => .invalidCharacter c line
  | .truncated => .truncated line
  | .overflow => .overflow line

namespace TraceError

/-- A character in quotes, spelled out if it cannot be shown. -/
def quote (c : Char) : String :=
  let shown : String :=
    if c = '\x00' then "\\0"
    else if c = '\t' then "\\t"
    else if c = '\r' then "\\r"
    else if c = '\n' then "\\n"
    else if c = '\'' then "\\'"
    else if c = '\\' then "\\\\"
    else if c.toNat < 0x20 ∨ c.toNat = 0x7F then
      "\\u\x7b" ++ String.ofList (Nat.toDigits 16 c.toNat) ++ "\x7d"
    else c.toString
  "'" ++ shown ++ "'"

def message : TraceError → String
  | .unsupportedVersion version =>
    "unsupported source map version " ++ toString version.toNat ++ ", expected 3"
  | .invalidCharacter c line =>
    "invalid base64 VLQ character " ++ quote c ++ " on generated line " ++ toString line
  | .truncated line => "truncated VLQ value on generated line " ++ toString line
  | .overflow line => "VLQ value overflows on generated line " ++ toString line
  | .invalidSegment fields line =>
    "segment with " ++ toString fields ++ " fields on generated line " ++ toString line

end TraceError

end ErrorOrigin.SourceMap
