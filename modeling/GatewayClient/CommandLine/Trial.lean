import GatewayClient.CommandLine.Program
import GatewayClient.Files.Tree
/-!
# Trial runs

The program on files in memory. What it prints is collected.
-/

namespace GatewayClient.CommandLine

/-- Printed lines and files. -/
abbrev Trial : Type → Type := StateT (List Line) (StateM Tree)

def trialHost (environment : List (String × String)) : Host Trial Location where
  files := Tree.system.hoist fun act => StateT.lift act
  environment name := environment.lookup name
  print line := modify (· ++ [line])

/-- How the program ended: with a failure, or perhaps with a session to be held. -/
structure Ending where
  result : Except Failure (Option Plan)
  lines : List Line
  tree : Tree

def trial [Idna] (environment : List (String × String)) (action : Action) (tree : Tree) : Ending :=
  let ((result, lines), tree) := (((trialHost environment).run action).run.run []).run tree
  { result, lines, tree }

end GatewayClient.CommandLine
