/-!
# Tokens in memory
-/

namespace GatewayClient.Token

/-- A session token that is gone when the program ends. It is kept as it was given. -/
structure Memory where
  token : Option String := none
  deriving DecidableEq, Repr

namespace Memory

def get (memory : Memory) : Option String := memory.token

def set (_ : Memory) (token : String) : Memory := ⟨some token⟩

def remove (_ : Memory) : Memory := ⟨none⟩

end Memory

end GatewayClient.Token
