import GatewayClient.Json.Reader
/-!
# Quoting for JSON

A text is quoted with as few escapes as the grammar allows: the quote, the backslash and
the control characters below 0x20.
-/

namespace GatewayClient.Json

def hexDigit (n : Nat) : Char := Nat.digitChar (n % 16)

def quoteChar (c : Char) : List Char :=
  if c = '"' then ['\\', '"']
  else if c = '\\' then ['\\', '\\']
  else if c = '\x08' then ['\\', 'b']
  else if c = '\x0c' then ['\\', 'f']
  else if c = '\n' then ['\\', 'n']
  else if c = '\r' then ['\\', 'r']
  else if c = '\t' then ['\\', 't']
  else if c.toNat < 0x20 then ['\\', 'u', '0', '0', hexDigit (c.toNat / 16), hexDigit c.toNat]
  else [c]

/-- A text as a string literal. -/
def quote (text : List Char) : List Char := '"' :: (text.flatMap quoteChar ++ ['"'])

end GatewayClient.Json
